/-
The sessions that the channel has had.

Of all the steps of the threads, three matter to the sessions: a socket is opened, a session is
negotiated on it, and its id is published.

* `SessionMove`: what a step does to the sessions, and `step_sessionMove`: every step is one;
* `Recorded`: the id that the channel shows was negotiated, and the counter counts the sessions;
* `recorded_run`, `sessionId_stays`: both in every run.
-/
import PqcBridge.Gateway.WireInvariant

namespace PqcBridge.Gateway.Wire

open Python Protocol Crypto Runs

variable {P : Primitives Octets} {cfg : GatewayConfig Octets} {s s' : State}

/-! ### What a step does to the sessions -/

/-- The attempt of the thread, as long as its session is not negotiated. -/
def ThreadPc.attempt : ThreadPc → Option Conn
  | .sendRequest a _ _ => some a
  | .pubkey a => some a
  | .sendEncaps a _ _ _ => some a
  | .established a _ => some a
  | _ => none

/-- The thread has negotiated a session and not yet counted it. -/
def ThreadPc.uncounted : ThreadPc → Bool
  | .publishKey _ _ => true
  | .publishId _ => true
  | .countSession _ => true
  | _ => false

/-- The sessions stay as they are. -/
structure Quiet (s s' : State) : Prop where
  sessions : s'.sessions = s.sessions
  opened : s.opened ≤ s'.opened
  sessionId : s'.channel.sessionId = s.channel.sessionId
  counter : s'.channel.metrics .mlkemSessionsEstablished
    = s.channel.metrics .mlkemSessionsEstablished
  attempt : ∀ i a, (s'.threads i).attempt = some a →
    (s.threads i).attempt = some a ∨ s.opened ≤ a.sock
  uncounted : ∀ i, (s'.threads i).uncounted = (s.threads i).uncounted

/-- What a step can do to the sessions. -/
inductive SessionMove (s s' : State) : Prop
  | quiet (h : Quiet s s')
  | negotiated (i : ℕ) (a : Conn) (secret key : Octets) (hpc : s.threads i = .established a secret)
      (hsessions : s'.sessions
        = Function.update s.sessions a.sock (some (a.sessionId.text, key)))
      (hopened : s'.opened = s.opened) (hchannel : s'.channel = s.channel)
      (hthreads : s'.threads = Function.update s.threads i (.publishKey a key))
  | published (i : ℕ) (a : Conn) (hpc : s.threads i = .publishId a)
      (hsessions : s'.sessions = s.sessions) (hopened : s'.opened = s.opened)
      (hid : s'.channel.sessionId = some a.sessionId.text)
      (hmetrics : s'.channel.metrics = s.channel.metrics)
      (hthreads : s'.threads = Function.update s.threads i (.countSession a))
  | counted (i : ℕ) (a : Conn) (hpc : s.threads i = .countSession a)
      (hsessions : s'.sessions = s.sessions) (hopened : s'.opened = s.opened)
      (hid : s'.channel.sessionId = s.channel.sessionId)
      (hcounter : s'.channel.metrics .mlkemSessionsEstablished
        = s.channel.metrics .mlkemSessionsEstablished + 1)
      (hthreads : s'.threads = Function.update s.threads i (.publishSock a))

lemma Quiet.refl (s : State) : Quiet s s :=
  ⟨rfl, le_rfl, rfl, rfl, fun _ _ h => Or.inl h, fun _ => rfl⟩

/-- A thread moves on, and its attempt is what it was, or it ends. -/
lemma Quiet.setThread (h : Quiet s s') {i : ℕ} {pc : ThreadPc} (hthreads : s'.threads = s.threads)
    (hattempt : ∀ a, pc.attempt = some a → (s.threads i).attempt = some a ∨ s.opened ≤ a.sock)
    (huncounted : pc.uncounted = (s.threads i).uncounted) : Quiet s (s'.setThread i pc) := by
  refine ⟨h.sessions, h.opened, h.sessionId, h.counter, fun j a hj => ?_, fun j => ?_⟩
  · replace hj : (Function.update s'.threads i pc j).attempt = some a := hj
    by_cases hji : j = i
    · subst hji
      rw [Function.update_self] at hj
      exact hattempt a hj
    · rw [Function.update_of_ne hji, hthreads] at hj
      exact Or.inl hj
  · show (Function.update s'.threads i pc j).uncounted = _
    by_cases hji : j = i
    · subst hji
      rw [Function.update_self]
      exact huncounted
    · rw [Function.update_of_ne hji, hthreads]

/-- The channel changes, but not the id and not the counter. -/
lemma quiet_setChannel (s : State) {opened : ℕ} {ch : CloudChannel Octets}
    (hopened : s.opened ≤ opened) (hid : ch.sessionId = s.channel.sessionId)
    (hcounter : ch.metrics .mlkemSessionsEstablished
      = s.channel.metrics .mlkemSessionsEstablished) :
    Quiet s ({ s with opened := opened }.setChannel ch) :=
  ⟨rfl, hopened, hid, hcounter, fun _ _ h => Or.inl h, fun _ => rfl⟩

lemma quiet_write (s : State) (k : ℕ) (m : JsonDict) (rest : Octets) (n : ℕ) :
    Quiet s (s.write k m rest n) := by
  refine ⟨write_sessions .., (write_opened ..).ge, by rw [write_channel], by rw [write_channel],
    fun i a h => Or.inl ?_, fun i => by rw [write_threads]⟩
  rwa [write_threads] at h

/-- What a thread of `connect_and_establish` does to the sessions. -/
lemma threadStep_sessionMove (s : State) (i : ℕ) (ev : ThreadEvent) :
    SessionMove s ((threadStep P cfg s i (s.threads i) ev).1.setThread i
      (threadStep P cfg s i (s.threads i) ev).2) := by
  have hself : ∀ pc, s.threads i = pc → SessionMove s (s.setThread i pc) := fun pc hpc =>
    (setThread_self s hpc).symm ▸ .quiet (.refl s)
  -- the attempt ends, or there was none
  have hends : ∀ {s'} {pc : ThreadPc}, Quiet s s' → s'.threads = s.threads → pc.attempt = none →
      pc.uncounted = (s.threads i).uncounted → SessionMove s (s'.setThread i pc) :=
    fun hq ht hpc hu => .quiet (hq.setThread ht (fun a ha => by rw [hpc] at ha; cases ha) hu)
  -- the attempt goes on
  have hgoes : ∀ {s'} {pc : ThreadPc}, Quiet s s' → s'.threads = s.threads →
      pc.attempt = (s.threads i).attempt → pc.uncounted = (s.threads i).uncounted →
      SessionMove s (s'.setThread i pc) :=
    fun hq ht hpc hu => .quiet (hq.setThread ht (fun a ha => Or.inl (hpc ▸ ha)) hu)
  have hchannel : ∀ {ch : CloudChannel Octets}, ch.sessionId = s.channel.sessionId →
      ch.metrics .mlkemSessionsEstablished = s.channel.metrics .mlkemSessionsEstablished →
      Quiet s (s.setChannel ch) := fun hid hm => quiet_setChannel s le_rfl hid hm
  cases hpc : s.threads i with
  | stopped => cases ev <;> exact hself _ hpc
  | loop =>
    cases ev with
    | move => exact hends (hchannel rfl rfl) rfl rfl (by rw [hpc]; rfl)
    | _ => exact hself _ hpc
  | publishFailed | disconnecting =>
    cases ev with
    | move => exact hends (hchannel rfl rfl) rfl rfl (by rw [hpc]; rfl)
    | _ => exact hself _ hpc
  | connect =>
    cases ev with
    | connect io sid nonce =>
      simp only [threadStep]
      rcases io.result with e | _
      · exact hends (.refl s) rfl rfl (by rw [hpc]; rfl)
      · have hopen : Quiet s ({ s with opened := s.opened + 1 }.setChannel
            { s.channel with state := .establishing }) :=
          quiet_setChannel s (Nat.le_succ _) rfl rfl
        rcases requestMessage P cfg nonce with e | m
        · exact hends hopen rfl rfl (by rw [hpc]; rfl)
        · -- the new socket has not been used
          refine .quiet (hopen.setThread rfl (fun a ha => Or.inr ?_) (by rw [hpc]; rfl))
          cases ha
          exact le_rfl
    | _ => exact hself _ hpc
  | sendRequest a m rest =>
    cases ev with
    | write n =>
      refine hgoes (quiet_write s a.sock m rest n) (write_threads ..) ?_ ?_
      · simp only [threadStep, threadWrite]
        split_ifs <;> rw [hpc] <;> rfl
      · simp only [threadStep, threadWrite]
        split_ifs <;> rw [hpc] <;> rfl
    | fail msg => exact hends (.refl s) rfl rfl (by rw [hpc]; rfl)
    | _ => exact hself _ hpc
  | sendEncaps a secret m rest =>
    cases ev with
    | write n =>
      refine hgoes (quiet_write s a.sock m rest n) (write_threads ..) ?_ ?_
      · simp only [threadStep, threadWrite]
        split_ifs <;> rw [hpc] <;> rfl
      · simp only [threadStep, threadWrite]
        split_ifs <;> rw [hpc] <;> rfl
    | fail msg => exact hends (.refl s) rfl rfl (by rw [hpc]; rfl)
    | _ => exact hself _ hpc
  | pubkey a =>
    cases ev with
    | reply o coins =>
      simp only [threadStep]
      rcases o.result >>= acceptPubkeyReply P cfg with e | publicKey
      · exact hends (.refl s) rfl rfl (by rw [hpc]; rfl)
      · exact hgoes (.refl s) rfl (by rw [hpc]; rfl) (by rw [hpc]; rfl)
    | _ => exact hself _ hpc
  | established a secret =>
    cases ev with
    | reply o coins =>
      simp only [threadStep]
      rcases o.result >>= fun reply => parseMlkemEstablishedReply reply a.sessionId.text with e | _
      · exact hends (.refl s) rfl rfl (by rw [hpc]; rfl)
      · exact .negotiated i a secret _ hpc rfl rfl rfl rfl
    | _ => exact hself _ hpc
  | publishKey a key =>
    cases ev with
    | move => exact hends (hchannel rfl rfl) rfl rfl (by rw [hpc]; rfl)
    | _ => exact hself _ hpc
  | publishId a =>
    cases ev with
    | move => exact .published i a hpc rfl rfl rfl rfl rfl
    | _ => exact hself _ hpc
  | countSession a =>
    cases ev with
    | move =>
      have hcounter : (s.channel.metrics.inc .mlkemSessionsEstablished) .mlkemSessionsEstablished
          = s.channel.metrics .mlkemSessionsEstablished + 1 := Metrics.inc_self _ _
      exact .counted i a hpc rfl rfl rfl hcounter rfl
    | _ => exact hself _ hpc
  | publishSock a =>
    cases ev with
    | move => exact hends (hchannel rfl rfl) rfl rfl (by rw [hpc]; rfl)
    | _ => exact hself _ hpc
  | publishState =>
    cases ev with
    | move => exact hends (hchannel rfl rfl) rfl rfl (by rw [hpc]; rfl)
    | _ => exact hself _ hpc
  | failing e =>
    cases ev with
    | move =>
      simp only [threadStep]
      split_ifs
      · have herrors : (s.channel.metrics.inc .errors) .mlkemSessionsEstablished
            = s.channel.metrics .mlkemSessionsEstablished := Metrics.inc_of_ne (by decide)
        exact hends (hchannel rfl herrors) rfl rfl (by rw [hpc]; rfl)
      · exact hends (.refl s) rfl rfl (by rw [hpc]; rfl)
    | _ => exact hself _ hpc
  | finishing =>
    cases ev with
    | move =>
      simp only [threadStep]
      split_ifs
      · exact hends (.refl s) rfl rfl (by rw [hpc]; rfl)
      · exact hends (hchannel rfl rfl) rfl rfl (by rw [hpc]; rfl)
    | _ => exact hself _ hpc

/-- A call starts a thread at most. -/
lemma Ok.quiet_callMove (h : Ok P cfg s) (t : ℕ) :
    Quiet s (Wire.callMove P cfg s t (s.calls t)).1 := by
  have hchannel : ∀ {ch : CloudChannel Octets}, ch.sessionId = s.channel.sessionId →
      ch.metrics = s.channel.metrics → Quiet s (s.setChannel ch) :=
    fun hid hm => quiet_setChannel s le_rfl hid (by rw [hm])
  cases hpc : s.calls t with
  | checking b next =>
    simp only [Wire.callMove]
    rcases next.read s.channel with next' | _ | _ <;> exact .refl s
  | built m =>
    simp only [Wire.callMove]
    rcases s.lock with _ | t'
    · exact ⟨rfl, le_rfl, rfl, rfl, fun _ _ h => Or.inl h, fun _ => rfl⟩
    · exact .refl s
  | locked m =>
    simp only [Wire.callMove]
    rcases s.channel.sock with _ | k <;> exact .refl s
  | invalidating next =>
    cases next with
    | sock | key | state => exact hchannel rfl rfl
    | restart =>
      simp only [Wire.callMove]
      split_ifs
      · rcases Bool.eq_false_or_eq_true s.channel.reconnecting with hrec | hrec
        · rw [restart_of_reconnecting hrec]
          exact .refl s
        · rw [restart_of_not_reconnecting hrec]
          have hstopped : s.threads s.started = .stopped :=
            h.flag hrec s.started (Nat.pos_iff_ne_zero.1 h.started)
          refine ⟨rfl, le_rfl, rfl, rfl, fun i a hi => ?_, fun i => ?_⟩
          · replace hi : (Function.update s.threads s.started .loop i).attempt = some a := hi
            by_cases his : i = s.started
            · rw [his, Function.update_self] at hi
              cases hi
            · rw [Function.update_of_ne his] at hi
              exact Or.inl hi
          · show (Function.update s.threads s.started .loop i).uncounted = _
            by_cases his : i = s.started
            · rw [his, Function.update_self, hstopped]
              rfl
            · rw [Function.update_of_ne his]
      · exact .refl s
  | unlocking => exact ⟨rfl, le_rfl, rfl, rfl, fun _ _ h => Or.inl h, fun _ => rfl⟩
  | _ => exact .refl s

lemma Quiet.setCall (h : Quiet s s') (t : ℕ) (pc : CallPc) : Quiet s (s'.setCall t pc) :=
  ⟨h.sessions, h.opened, h.sessionId, h.counter, h.attempt, h.uncounted⟩

/-- The inversion lemma. -/
lemma Ok.step_sessionMove (h : Ok P cfg s) (ev : Event) : SessionMove s (Wire.step P cfg s ev) := by
  cases ev with
  | call t b =>
    simp only [Wire.step]
    split
    · exact .quiet ((Quiet.refl s).setCall _ _)
    · exact .quiet (.refl s)
  | move t => exact .quiet ((h.quiet_callMove t).setCall _ _)
  | build t nonce =>
    simp only [Wire.step]
    split
    · split
      · exact .quiet ((Quiet.refl s).setCall _ _)
      · exact .quiet ((Quiet.refl s).setCall _ _)
    · exact .quiet (.refl s)
  | write t n =>
    simp only [Wire.step]
    split
    · exact .quiet ((quiet_write s _ _ _ n).setCall _ _)
    · exact .quiet (.refl s)
  | fail t =>
    simp only [Wire.step]
    split
    · exact .quiet ((Quiet.refl s).setCall _ _)
    · exact .quiet (.refl s)
  | thread i x => exact threadStep_sessionMove s i x

/-! ### The id and the counter -/

/-- The sockets on which a session was negotiated. -/
def negotiated (s : State) : Finset ℕ :=
  (Finset.range s.opened).filter fun k => (s.sessions k).isSome

/-- The id of the channel was negotiated on a socket, and the counter counts these sockets, but
for one whose thread has not counted it yet. -/
structure Recorded (s : State) : Prop where
  unopened : ∀ k, s.opened ≤ k → s.sessions k = none
  attempt : ∀ i a, (s.threads i).attempt = some a → s.sessions a.sock = none
  id : ∀ sid, s.channel.sessionId = some sid → ∃ k key, s.sessions k = some (sid, key)
  counter : (∃ i, (s.threads i).uncounted = true) ∧ (negotiated s).card
      = s.channel.metrics .mlkemSessionsEstablished + 1 ∨
    (∀ i, (s.threads i).uncounted = false) ∧
      (negotiated s).card = s.channel.metrics .mlkemSessionsEstablished

lemma negotiated_congr (h : ∀ k, s.opened ≤ k → s.sessions k = none)
    (hsessions : s'.sessions = s.sessions) (hopened : s.opened ≤ s'.opened) :
    negotiated s' = negotiated s := by
  ext k
  simp only [negotiated, Finset.mem_filter, Finset.mem_range, hsessions]
  constructor
  · rintro ⟨-, hsome⟩
    refine ⟨?_, hsome⟩
    by_contra hk
    rw [h k (not_lt.1 hk)] at hsome
    cases hsome
  · rintro ⟨hk, hsome⟩
    exact ⟨hk.trans_le hopened, hsome⟩

/-- A session is negotiated on a socket that had none. -/
lemma card_negotiated_update {k : ℕ} (hk : k < s.opened) (hnone : s.sessions k = none)
    {x : PyStr × Octets} (hsessions : s'.sessions = Function.update s.sessions k (some x))
    (hopened : s'.opened = s.opened) : (negotiated s').card = (negotiated s).card + 1 := by
  have hinsert : negotiated s' = insert k (negotiated s) := by
    ext j
    simp only [negotiated, Finset.mem_filter, Finset.mem_range, Finset.mem_insert, hsessions,
      hopened]
    by_cases hj : j = k
    · simp [hj, hk]
    · simp [hj]
  rw [hinsert, Finset.card_insert_of_notMem (by simp [negotiated, hnone])]

/-- A step that leaves the sessions as they are. -/
lemma Recorded.quiet (h : Recorded s) (hq : Quiet s s') : Recorded s' := by
  refine ⟨fun k hk => ?_, fun i a hi => ?_, fun sid hsid => ?_, ?_⟩
  · rw [hq.sessions]
    exact h.unopened k (hq.opened.trans hk)
  · rw [hq.sessions]
    rcases hq.attempt i a hi with hold | hnew
    · exact h.attempt i a hold
    · exact h.unopened _ hnew
  · rw [hq.sessions]
    exact h.id sid (hq.sessionId ▸ hsid)
  · rw [hq.counter, negotiated_congr h.unopened hq.sessions hq.opened]
    simpa only [hq.uncounted] using h.counter

section Alone

variable {i : ℕ} {a : Conn} {key : Octets}

/-- A thread moves on while the others are stopped, and makes no attempt any more. -/
lemma attempt_alone {pc : ThreadPc} (hothers : ∀ j ≠ i, s.threads j = .stopped)
    (hthreads : s'.threads = Function.update s.threads i pc) (hpc : pc.attempt = none) (j : ℕ) :
    (s'.threads j).attempt = none := by
  rw [hthreads, Function.update_apply]
  split_ifs with hji
  · exact hpc
  · rw [hothers j hji]
    rfl

/-- The session of an attempt is negotiated, and its thread has yet to count it. -/
lemma Recorded.negotiate (h : Recorded s) {secret : Octets}
    (hothers : ∀ j ≠ i, s.threads j = .stopped) (hpc : s.threads i = .established a secret)
    (hsock : a.sock < s.opened)
    (hsessions : s'.sessions = Function.update s.sessions a.sock (some (a.sessionId.text, key)))
    (hopened : s'.opened = s.opened) (hchannel : s'.channel = s.channel)
    (hthreads : s'.threads = Function.update s.threads i (.publishKey a key)) : Recorded s' := by
  have hnone := h.attempt i a (by rw [hpc]; rfl)
  -- before, every session had been counted
  have hcounter : (negotiated s).card = s.channel.metrics .mlkemSessionsEstablished := by
    refine h.counter.resolve_left ?_ |>.2
    rintro ⟨⟨j, hj⟩, -⟩
    by_cases hji : j = i
    · rw [hji, hpc] at hj
      cases hj
    · rw [hothers j hji] at hj
      cases hj
  refine ⟨fun k hk => ?_, fun j b hj => ?_, fun sid hsid => ?_, Or.inl ⟨⟨i, ?_⟩, ?_⟩⟩
  · rw [hopened] at hk
    rw [hsessions, Function.update_of_ne (hsock.trans_le hk).ne']
    exact h.unopened k hk
  · rw [attempt_alone hothers hthreads rfl] at hj
    cases hj
  · obtain ⟨k, key', hk⟩ := h.id sid (hchannel ▸ hsid)
    refine ⟨k, key', ?_⟩
    rw [hsessions, Function.update_of_ne]
    · exact hk
    · rintro rfl
      rw [hnone] at hk
      cases hk
  · rw [hthreads, Function.update_self]
    rfl
  · rw [hchannel, card_negotiated_update hsock hnone hsessions hopened, hcounter]

/-- The id of a negotiated session is published. -/
lemma Recorded.publish (h : Recorded s) (hothers : ∀ j ≠ i, s.threads j = .stopped)
    (hpc : s.threads i = .publishId a)
    (hsession : s.sessions a.sock = some (a.sessionId.text, key))
    (hsessions : s'.sessions = s.sessions) (hopened : s'.opened = s.opened)
    (hid : s'.channel.sessionId = some a.sessionId.text)
    (hmetrics : s'.channel.metrics = s.channel.metrics)
    (hthreads : s'.threads = Function.update s.threads i (.countSession a)) : Recorded s' := by
  have huncounted : ∀ j, (s'.threads j).uncounted = (s.threads j).uncounted := by
    intro j
    rw [hthreads, Function.update_apply]
    split_ifs with hji
    · rw [hji, hpc]
      rfl
    · rfl
  refine ⟨fun k hk => ?_, fun j b hj => ?_, fun sid hsid => ?_, ?_⟩
  · rw [hsessions]
    exact h.unopened k (hopened ▸ hk)
  · rw [attempt_alone hothers hthreads rfl] at hj
    cases hj
  · rw [hid] at hsid
    cases hsid
    exact ⟨a.sock, key, hsessions ▸ hsession⟩
  · rw [hmetrics, negotiated_congr h.unopened hsessions hopened.ge]
    simpa only [huncounted] using h.counter

/-- The last session is counted. -/
lemma Recorded.count (h : Recorded s) (hothers : ∀ j ≠ i, s.threads j = .stopped)
    (hpc : s.threads i = .countSession a) (hsessions : s'.sessions = s.sessions)
    (hopened : s'.opened = s.opened) (hid : s'.channel.sessionId = s.channel.sessionId)
    (hcounter : s'.channel.metrics .mlkemSessionsEstablished
      = s.channel.metrics .mlkemSessionsEstablished + 1)
    (hthreads : s'.threads = Function.update s.threads i (.publishSock a)) : Recorded s' := by
  refine ⟨fun k hk => ?_, fun j b hj => ?_, fun sid hsid => ?_, Or.inr ⟨fun j => ?_, ?_⟩⟩
  · rw [hsessions]
    exact h.unopened k (hopened ▸ hk)
  · rw [attempt_alone hothers hthreads rfl] at hj
    cases hj
  · rw [hsessions]
    exact h.id sid (hid ▸ hsid)
  · rw [hthreads, Function.update_apply]
    split_ifs with hji
    · rfl
    · rw [hothers j hji]
      rfl
  · rw [hcounter, negotiated_congr h.unopened hsessions hopened.ge]
    refine h.counter.resolve_right ?_ |>.2
    rintro ⟨hall, -⟩
    have hcounted := hall i
    rw [hpc] at hcounted
    cases hcounted

end Alone

/-- The step lemma. -/
lemma Recorded.move (h : Recorded s) (hok : Ok P cfg s) (hmove : SessionMove s s') :
    Recorded s' := by
  cases hmove with
  | quiet hq => exact h.quiet hq
  | negotiated i a secret key hpc hsessions hopened hchannel hthreads =>
    obtain ⟨hworks, hothers⟩ := hok.others_stopped (i := i) (by rw [hpc]; rfl)
    rw [hpc] at hworks
    exact h.negotiate hothers hpc hworks.1.opened hsessions hopened hchannel hthreads
  | published i a hpc hsessions hopened hid hmetrics hthreads =>
    obtain ⟨hworks, hothers⟩ := hok.others_stopped (i := i) (by rw [hpc]; rfl)
    rw [hpc] at hworks
    obtain ⟨-, -, -, key, hsession, -⟩ := hworks
    exact h.publish hothers hpc hsession hsessions hopened hid hmetrics hthreads
  | counted i a hpc hsessions hopened hid hcounter hthreads =>
    obtain ⟨-, hothers⟩ := hok.others_stopped (i := i) (by rw [hpc]; rfl)
    exact h.count hothers hpc hsessions hopened hid hcounter hthreads

lemma recorded_initial : Recorded initial := by
  have hthreads : ∀ i, (initial.threads i).attempt = none
      ∧ (initial.threads i).uncounted = false := by
    intro i
    by_cases hi : i = 0
    · subst hi
      exact ⟨rfl, rfl⟩
    · have hstopped : initial.threads i = .stopped := by simp [initial, hi]
      rw [hstopped]
      exact ⟨rfl, rfl⟩
  refine ⟨fun _ _ => rfl, fun i a hi => ?_, fun sid hid => ?_,
    Or.inr ⟨fun i => (hthreads i).2, rfl⟩⟩
  · rw [(hthreads i).1] at hi
    cases hi
  · cases hid

variable (P cfg) in
/-- The run lemma. -/
lemma recorded_run (τ : List Event) : Recorded (run (step P cfg) initial τ) :=
  (inv_run (J := fun s => Ok P cfg s ∧ Recorded s) (P := fun _ _ => True)
    (fun _ ev h _ => ⟨h.1.step ev, h.2.move h.1 (h.1.step_sessionMove ev)⟩)
    ⟨ok_initial P cfg, recorded_initial⟩ (along_of_forall fun _ _ _ => trivial)).2

/-- An id that was published is never taken away. -/
lemma Ok.sessionId_stays (h : Ok P cfg s) (hid : s.channel.sessionId ≠ none) (τ : List Event) :
    (run (Wire.step P cfg) s τ).channel.sessionId ≠ none := by
  induction τ generalizing s with
  | nil => exact hid
  | cons ev τ ih =>
    refine ih (h.step ev) ?_
    cases h.step_sessionMove ev with
    | quiet hq =>
      rw [hq.sessionId]
      exact hid
    | negotiated i a secret key hpc hsessions hopened hchannel hthreads =>
      rw [hchannel]
      exact hid
    | published i a hpc hsessions hopened hid' hmetrics hthreads =>
      rw [hid']
      simp
    | counted i a hpc hsessions hopened hid' hcounter hthreads =>
      rw [hid']
      exact hid

end PqcBridge.Gateway.Wire
