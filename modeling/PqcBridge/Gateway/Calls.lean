/-
The calls of `send_reading`, one by one.

The log of `PqcBridge.Gateway.Threads` holds what all threads have done.  Here every step is
put down to the call that makes it, so that a call is seen as its caller and the sockets see
it: the reading it was given, what it has written to which socket, and how it has ended.

* `Undisturbed`: what the other threads must not do to a call;
* `Lane`: the calls of one thread, the last of which may be under way;
* `calls_keep_session`: every call has ended with `CryptoError`, or it has written its own
  reading to the socket that its session was negotiated on.
-/
import PqcBridge.Gateway.Threads

namespace PqcBridge.Gateway.Threads

open Python Protocol Crypto Runs Handshake

variable {B : Type}

/-! ### Calls -/

/-- A call of `send_reading`, as its caller and the sockets see it. -/
structure Call (B : Type) where
  readingBytes : B
  /-- the payloads it has written, with the socket, the session id and the key -/
  wrote : List (ℕ × JsonDict × PyStr × B)
  /-- whether it has ended, and with which exception -/
  ended : Option (Option PyExc)

/-- The gateway, with the calls of every thread, the latest first. -/
structure Tracked (B : Type) where
  state : State B
  calls : ℕ → List (Call B)

/-- What a step has put on top of the log. -/
def recorded (s s' : State B) : List (Record B) := s'.log.take (s'.log.length - s.log.length)

/-- What was written. -/
def writes : List (Record B) → List (ℕ × JsonDict × PyStr × B) :=
  List.filterMap fun
    | .wrote sock payload sessionId sessionKey => some (sock, payload, sessionId, sessionKey)
    | _ => none

/-- What was raised. -/
def raises : List (Record B) → Option PyExc :=
  List.findSome? fun
    | .raised e => some e
    | _ => none

/-- Whether no call is running. -/
def CallPc.isIdle : CallPc B → Bool
  | .idle => true
  | _ => false

/-- The thread of `send_reading` that moves. -/
def Event.caller : Event B → Option ℕ
  | .call t _ => some t
  | .readKey t => some t
  | .build t _ => some t
  | .send t _ => some t
  | .thread _ _ => none

/-- The calls of a thread, with the one that it begins. -/
def begun (s : State B) (calls : List (Call B)) : Event B → List (Call B)
  | .call t readingBytes =>
    if (s.calls t).isIdle && !running (s.threads 0) then ⟨readingBytes, [], none⟩ :: calls
    else calls
  | _ => calls

/-- The last call, if it has not ended, after a step that has recorded `l`. -/
def went (l : List (Record B)) (idle : Bool) : List (Call B) → List (Call B)
  | [] => []
  | c :: calls =>
    match c.ended with
    | none =>
      { c with
        wrote := c.wrote ++ writes l
        ended := if idle then some (raises l) else none } :: calls
    | some _ => c :: calls

variable (P : Primitives B) (cfg : GatewayConfig B)

/-- A step, with the calls. -/
def trackedStep (s : Tracked B) (ev : Event B) : Tracked B where
  state := step P cfg s.state ev
  calls :=
    match ev.caller with
    | none => s.calls
    | some t => Function.update s.calls t
        (went (recorded s.state (step P cfg s.state ev)) ((step P cfg s.state ev).calls t).isIdle
          (begun s.state (s.calls t) ev))

/-- Nobody has called yet. -/
def trackedInitial : Tracked B := ⟨initial, fun _ => []⟩

/-- The call has raised `CryptoError` and written nothing, or it has returned and written one
payload, which is its reading under the key and the id that were negotiated on that very
socket. -/
def Right (log : List (Record B)) (c : Call B) : Prop :=
  (∃ e, c.ended = some (some e) ∧ e.cls = .cryptoError ∧ c.wrote = []) ∨
    ∃ sock payload sid key, c.ended = some none ∧ c.wrote = [(sock, payload, sid, key)] ∧
      .negotiated sock sid key ∈ log ∧
      ∃ nonce, buildProtectedReading P c.readingBytes key sid nonce = .ok payload

/-- Every call keeps to its session: those that have ended are right, the last one of a thread
may be under way and has written nothing, and it ends with its next three steps, whatever the
other threads do between them. -/
structure Kept (s : Tracked B) : Prop where
  calls : ∀ t, ∃ done, (∀ c ∈ done, Right P s.state.log c) ∧
    (s.state.calls t = .idle ∧ s.calls t = done ∨
      s.state.calls t ≠ .idle ∧ ∃ b, s.calls t = ⟨b, [], none⟩ :: done)
  ends : ∀ t nonce io (s₁ s₂ s₃ : State B), s₁.calls t = s.state.calls t →
    s₂.calls t = (step P cfg s₁ (.readKey t)).calls t →
      s₃.calls t = (step P cfg s₂ (.build t nonce)).calls t →
        (step P cfg s₃ (.send t io)).calls t = .idle

/-- No other thread comes between a call and its session: when it reads `session_key` the
socket is there, so that the session it has found at its check still is, or the next one is
complete; and no `sendall` fails while another call has read its key and has not come to the
section under `_send_lock`. -/
structure Undisturbed (s : State B) (ev : Event B) : Prop where
  read : ∀ t b, ev = .readKey t → s.calls t = .checked b → s.channel.sock ≠ none
  fails : ∀ t msg payload sid key, ev = .send t (.osError msg) →
    s.calls t = .built payload sid key →
      ∀ t', t' ≠ t → s.calls t' = .idle ∨ ∃ b, s.calls t' = .checked b

/-! ### The calls of one thread -/

/-- What a call that is under way has read is still there. -/
def Holds (ch : CloudChannel B) (b : B) : CallPc B → Prop
  | .idle => False
  | .checked b' => b' = b
  | .keyed b' key => b' = b ∧ ch.sock ≠ none ∧ ch.sessionKey = key
  | .built payload sid key =>
    ch.sock ≠ none ∧ ch.sessionId = some sid ∧ ch.sessionKey = some key ∧
      ∃ nonce, buildProtectedReading P b key sid nonce = .ok payload

/-- The calls of a thread that stands at `pc`. -/
def Lane (ch : CloudChannel B) (log : List (Record B)) (pc : CallPc B) (calls : List (Call B)) :
    Prop :=
  ∃ done, (∀ c ∈ done, Right P log c) ∧
    (pc = .idle ∧ calls = done ∨ ∃ b, Holds P ch b pc ∧ calls = ⟨b, [], none⟩ :: done)

variable {P cfg} {s : State B} {ch ch' : CloudChannel B} {log log' l : List (Record B)}
  {pc pc' : CallPc B} {calls done : List (Call B)} {c : Call B} {t : ℕ}

lemma recorded_eq {s' : State B} (h : s'.log = l ++ s.log) : recorded s s' = l := by
  simp [recorded, h]

lemma Right.mono (h : Right P log c) (hlog : ∀ x ∈ log, x ∈ log') : Right P log' c := by
  rcases h with h | ⟨sock, payload, sid, key, hended, hwrote, hneg, hbuilt⟩
  · exact Or.inl h
  · exact Or.inr ⟨sock, payload, sid, key, hended, hwrote, hlog _ hneg, hbuilt⟩

lemma Right.ended (h : Right P log c) : ∃ x, c.ended = some x := by
  rcases h with ⟨e, hended, -⟩ | ⟨sock, payload, sid, key, hended, -⟩
  · exact ⟨_, hended⟩
  · exact ⟨_, hended⟩

/-- Another thread moves. -/
lemma Lane.mono (h : Lane P ch log pc calls) (hlog : ∀ x ∈ log, x ∈ log')
    (hholds : ∀ b, Holds P ch b pc → Holds P ch' b pc) : Lane P ch' log' pc calls := by
  obtain ⟨done, hdone, hlane⟩ := h
  refine ⟨done, fun c hc => (hdone c hc).mono hlog, hlane.imp_right ?_⟩
  rintro ⟨b, hb, hcalls⟩
  exact ⟨b, hholds b hb, hcalls⟩

/-- A thread that does nothing records nothing. -/
lemma Lane.went_nil (h : Lane P ch log pc calls) : went [] pc.isIdle calls = calls := by
  obtain ⟨done, hdone, ⟨rfl, rfl⟩ | ⟨b, hb, rfl⟩⟩ := h
  · rcases calls with _ | ⟨c, calls⟩
    · rfl
    · obtain ⟨x, hx⟩ := (hdone c List.mem_cons_self).ended
      simp only [went, hx]
  · cases pc with
    | idle => exact hb.elim
    | _ => rfl

/-- A call that goes on. -/
lemma Lane.goes {b : B} (hdone : ∀ c ∈ done, Right P log c) (hlog : ∀ x ∈ log, x ∈ log')
    (hpc : Holds P ch b pc) (hquiet : writes l = []) :
    Lane P ch log' pc (went l pc.isIdle (⟨b, [], none⟩ :: done)) := by
  have hidle : pc.isIdle = false := by
    cases pc with
    | idle => exact hpc.elim
    | _ => rfl
  refine ⟨done, fun c hc => (hdone c hc).mono hlog, Or.inr ⟨b, hpc, ?_⟩⟩
  simp only [went, hidle, hquiet]
  rfl

/-- A call that ends. -/
lemma Lane.ends {b : B} (hdone : ∀ c ∈ done, Right P log c) (hlog : ∀ x ∈ log, x ∈ log')
    (hright : Right P log' ⟨b, writes l, some (raises l)⟩) :
    Lane P ch log' .idle (went l true (⟨b, [], none⟩ :: done)) := by
  refine ⟨_, fun c hc => ?_, Or.inl ⟨rfl, rfl⟩⟩
  rcases List.mem_cons.1 hc with rfl | hc
  · exact hright
  · exact (hdone c hc).mono hlog

/-! ### The other threads -/

variable (P cfg s) in
/-- The stop of a call is moved by its own thread alone. -/
lemma step_calls_of_ne {ev : Event B} (h : ev.caller ≠ some t) :
    (step P cfg s ev).calls t = s.calls t := by
  have hset : ∀ (s : State B) {t' : ℕ} (pc : CallPc B) (log : List (Record B)), t ≠ t' →
      (s.setCall t' pc log).calls t = s.calls t :=
    fun s t' pc log hne => Function.update_of_ne hne _ _
  cases ev with
  | call t' b =>
    have hne : t ≠ t' := fun heq => h (congrArg some heq.symm)
    simp only [step]
    split
    · split <;> exact hset _ _ _ hne
    · rfl
  | readKey t' =>
    have hne : t ≠ t' := fun heq => h (congrArg some heq.symm)
    simp only [step]
    split
    · exact hset _ _ _ hne
    · rfl
  | build t' nonce =>
    have hne : t ≠ t' := fun heq => h (congrArg some heq.symm)
    simp only [step]
    split
    · split
      · exact hset _ _ _ hne
      · rfl
      · exact hset _ _ _ hne
    · rfl
  | send t' io =>
    have hne : t ≠ t' := fun heq => h (congrArg some heq.symm)
    simp only [step]
    split
    · rw [hset _ _ _ hne, State.afterSend_calls]
    · rfl
  | thread i a => rfl

/-- The fields of the session are the same. -/
structure SameSession (ch ch' : CloudChannel B) : Prop where
  sock : ch'.sock = ch.sock
  sessionId : ch'.sessionId = ch.sessionId
  sessionKey : ch'.sessionKey = ch.sessionKey

lemma Holds.same (h : SameSession ch ch') {b : B} (hb : Holds P ch b pc) : Holds P ch' b pc := by
  obtain ⟨hsock, hid, hkey⟩ := h
  cases pc with
  | idle => exact hb
  | checked => exact hb
  | keyed => simpa only [Holds, hsock, hkey] using hb
  | built => simpa only [Holds, hsock, hid, hkey] using hb

/-- A call that has read its key has a socket. -/
lemma Holds.sock {b : B} (hb : Holds P ch b pc) : (∃ b', pc = .checked b') ∨ ch.sock ≠ none := by
  cases pc with
  | idle => exact hb.elim
  | checked b' => exact Or.inl ⟨b', rfl⟩
  | keyed => exact Or.inr hb.2.1
  | built => exact Or.inr hb.1

/-- While there is a socket, a thread of `connect_and_establish` leaves the session alone. -/
lemma Ok.sameSession (h : Ok P s) (hsock : s.channel.sock ≠ none) (i : ℕ) (a : Attempt B) :
    SameSession s.channel (Threads.step P cfg s (.thread i a)).channel := by
  obtain ⟨k, hk, hothers⟩ := h.alone
  by_cases hstop : s.threads i = .stopped
  · rw [step_of_stopped hstop]
    exact ⟨rfl, rfl, rfl⟩
  obtain rfl : i = k := by
    by_contra hne
    exact hstop (hothers i hne)
  show SameSession s.channel (Threads.threadStep P cfg i s.channel (s.threads i) a).1
  generalize s.threads i = pc at hk hstop
  cases pc with
  | stopped => exact absurd rfl hstop
  | publishState =>
    rw [threadStep_of_ne (by simp)]
    exact ⟨rfl, rfl, rfl⟩
  | finishing => cases i <;> exact ⟨rfl, rfl, rfl⟩
  | publishKey | publishId | publishSock | exchanging => exact absurd hk.1 hsock
  | loop | connect | failing | disconnecting => exact absurd hk hsock

/-! ### The steps of a call -/

/-- The lanes of all threads. -/
def Lanes (P : Primitives B) (s : Tracked B) : Prop :=
  ∀ t, Lane P s.state.channel s.state.log (s.state.calls t) (s.calls t)

/-- A thread steps; the other lanes stay, and so does the session that they have read. -/
lemma Lanes.update {s : Tracked B} (h : Lanes P s) {s' : State B} {t : ℕ}
    {calls : List (Call B)} {l : List (Record B)} (hlog : s'.log = l ++ s.state.log)
    (hothers : ∀ t', t' ≠ t → s'.calls t' = s.state.calls t')
    (hholds : ∀ t', t' ≠ t → ∀ b, Holds P s.state.channel b (s.state.calls t') →
      Holds P s'.channel b (s.state.calls t'))
    (hlane : Lane P s'.channel s'.log (s'.calls t) calls) :
    Lanes P ⟨s', Function.update s.calls t calls⟩ := by
  have hmem : ∀ x ∈ s.state.log, x ∈ s'.log := by
    rw [hlog]
    exact fun x hx => List.mem_append_right _ hx
  intro t'
  show Lane P s'.channel s'.log (s'.calls t') (Function.update s.calls t calls t')
  by_cases ht : t' = t
  · rw [ht, Function.update_self]
    exact hlane
  · rw [Function.update_of_ne ht, hothers t' ht]
    exact (h t').mono hmem (hholds t' ht)

/-- A thread that does nothing. -/
lemma Lanes.idle {s : Tracked B} (h : Lanes P s) {ev : Event B} {t : ℕ}
    (hcaller : ev.caller = some t) (hstep : step P cfg s.state ev = s.state)
    (hbegun : begun s.state (s.calls t) ev = s.calls t) : Lanes P (trackedStep P cfg s ev) := by
  have htracked : trackedStep P cfg s ev = s := by
    simp only [trackedStep, hcaller, hstep, hbegun, recorded_eq (List.nil_append _).symm,
      (h t).went_nil, Function.update_eq_self]
  rw [htracked]
  exact h

/-- A call moves on by `setCall`. -/
lemma Lanes.setCall {s : Tracked B} (h : Lanes P s) {ev : Event B} {t : ℕ}
    (hcaller : ev.caller = some t) {pc : CallPc B} {l : List (Record B)}
    (hstep : step P cfg s.state ev = s.state.setCall t pc l)
    (hlane : Lane P s.state.channel (l ++ s.state.log) pc
      (went l pc.isIdle (begun s.state (s.calls t) ev))) :
    Lanes P (trackedStep P cfg s ev) := by
  have hself : (s.state.setCall t pc l).calls t = pc := Function.update_self _ _ _
  simp only [trackedStep, hcaller, hstep, recorded_eq (State.setCall_log s.state t pc l), hself]
  refine h.update rfl (fun t' ht => Function.update_of_ne ht _ _) (fun t' ht b hb => hb) ?_
  rw [hself]
  exact hlane

/-- A lane of a thread that is not idle. -/
lemma Lane.running (h : Lane P ch log pc calls) (hpc : pc ≠ .idle) :
    ∃ b done, Holds P ch b pc ∧ calls = ⟨b, [], none⟩ :: done ∧ ∀ c ∈ done, Right P log c := by
  obtain ⟨done, hdone, ⟨hidle, -⟩ | ⟨b, hb, hcalls⟩⟩ := h
  · exact absurd hidle hpc
  · exact ⟨b, done, hb, hcalls, hdone⟩

/-- A call begins. -/
lemma Lanes.call {s : Tracked B} (h : Lanes P s) (t : ℕ) (b : B) :
    Lanes P (trackedStep P cfg s (.call t b)) := by
  by_cases hbegins : s.state.calls t = .idle ∧ running (s.state.threads 0) = false
  · obtain ⟨hidle, hmain⟩ := hbegins
    obtain ⟨done, hdone, ⟨-, hcalls⟩ | ⟨b', hb', -⟩⟩ := h t
    swap
    · rw [hidle] at hb'
      exact hb'.elim
    have hbegun : begun s.state (s.calls t) (.call t b) = ⟨b, [], none⟩ :: done := by
      simp [begun, hidle, hmain, CallPc.isIdle, hcalls]
    have hlog : ∀ {l : List (Record B)}, ∀ x ∈ s.state.log, x ∈ l ++ s.state.log :=
      fun x hx => List.mem_append_right _ hx
    rcases hcheck : checkEstablished s.state.channel with e | _
    · have hstep : step P cfg s.state (.call t b) = s.state.setCall t .idle [.raised e] := by
        simp only [step, hidle, hmain, hcheck]
      refine h.setCall rfl hstep ?_
      rw [hbegun]
      refine Lane.ends hdone hlog (Or.inl ⟨e, rfl, ?_, rfl⟩)
      unfold checkEstablished at hcheck
      split_ifs at hcheck
      cases hcheck
      rfl
    · have hstep : step P cfg s.state (.call t b) = s.state.setCall t (.checked b) [] := by
        simp only [step, hidle, hmain, hcheck]
      refine h.setCall rfl hstep ?_
      rw [hbegun]
      exact Lane.goes hdone hlog rfl rfl
  · -- another call of the thread is running, or the first session is still being made
    have hstep : step P cfg s.state (.call t b) = s.state := by
      simp only [step]
      split
      · next hidle hmain => exact absurd ⟨hidle, hmain⟩ hbegins
      · rfl
    refine h.idle rfl hstep ?_
    have hfalse : ((s.state.calls t).isIdle && !running (s.state.threads 0)) = false := by
      by_contra htrue
      rw [Bool.not_eq_false, Bool.and_eq_true, Bool.not_eq_true'] at htrue
      refine hbegins ⟨?_, htrue.2⟩
      have hidle := htrue.1
      generalize s.state.calls t = pc at hidle
      cases pc with
      | idle => rfl
      | _ => cases hidle
    simp [begun, hfalse]

/-- A call reads its key. -/
lemma Lanes.readKey {s : Tracked B} (h : Lanes P s) {t : ℕ}
    (hu : Undisturbed s.state (.readKey t)) : Lanes P (trackedStep P cfg s (.readKey t)) := by
  rcases hpc : s.state.calls t with _ | b | _ | _
  case checked =>
    have hstep : step P cfg s.state (.readKey t)
        = s.state.setCall t (.keyed b s.state.channel.sessionKey) [] := by
      simp only [step, hpc]
    obtain ⟨b', done, hb', hcalls, hdone⟩ := (h t).running (by rw [hpc]; simp)
    rw [hpc] at hb'
    obtain rfl : b = b' := hb'
    refine h.setCall rfl hstep ?_
    show Lane P _ _ _ (went [] _ (s.calls t))
    rw [hcalls]
    exact Lane.goes hdone (fun x hx => hx) ⟨rfl, hu.read t b rfl hpc, rfl⟩ rfl
  all_goals exact h.idle rfl (by simp only [step, hpc]) rfl

/-- A call builds its payload. -/
lemma Lanes.build {s : Tracked B} (hok : Ok P s.state) (h : Lanes P s) (t : ℕ) (nonce : B) :
    Lanes P (trackedStep P cfg s (.build t nonce)) := by
  rcases hpc : s.state.calls t with _ | _ | ⟨b, key⟩ | _
  case keyed =>
    obtain ⟨b', done, hb', hcalls, hdone⟩ := (h t).running (by rw [hpc]; simp)
    rw [hpc] at hb'
    obtain ⟨rfl, hsock, hkey⟩ := hb'
    -- with the socket there, both fields are those of its session
    obtain ⟨k, hk⟩ := Option.ne_none_iff_exists'.1 hsock
    obtain ⟨sid, key', hsid, hkey', -⟩ := hok.session.session k hk
    obtain rfl : key = some key' := hkey.symm.trans hkey'
    obtain ⟨payload, hpayload⟩ := buildPayload_returns hsid (hok.session.valid sid hsid)
      (hok.session.key_len key' hkey') b nonce
    have hbuilt : buildProtectedReading P b key' sid nonce = .ok payload := by
      simpa only [buildPayload, hsid] using hpayload
    have hstep : step P cfg s.state (.build t nonce)
        = s.state.setCall t (.built payload sid key') [.encrypted sid key' b] := by
      simp only [step, hpc]
      rw [hpayload, hsid]
    refine h.setCall rfl hstep ?_
    show Lane P _ _ _ (went _ _ (s.calls t))
    rw [hcalls]
    exact Lane.goes hdone (fun x hx => List.mem_append_right _ hx)
      ⟨hsock, hsid, hkey', nonce, hbuilt⟩ rfl
  all_goals exact h.idle rfl (by simp only [step, hpc]) rfl

/-- The section under `_send_lock`. -/
lemma Lanes.send {s : Tracked B} (hok : Ok P s.state) (h : Lanes P s) {t : ℕ} {io : IoOutcome}
    (hu : Undisturbed s.state (.send t io)) : Lanes P (trackedStep P cfg s (.send t io)) := by
  rcases hpc : s.state.calls t with _ | _ | _ | ⟨payload, sid, key⟩
  case built =>
    obtain ⟨b, done, ⟨hsock, hsid, hkey, hbuilt⟩, hcalls, hdone⟩ :=
      (hpc ▸ h t).running (by simp)
    obtain ⟨k, hk⟩ := Option.ne_none_iff_exists'.1 hsock
    obtain ⟨sid', key', hsid', hkey', hneg⟩ := hok.session.session k hk
    obtain rfl : sid = sid' := Option.some_injective _ (hsid.symm.trans hsid')
    obtain rfl : key = key' := Option.some_injective _ (hkey.symm.trans hkey')
    have hstep : step P cfg s.state (.send t io)
        = (s.state.afterSend (sendPayload cfg s.state.channel io).1.1
          (sendPayload cfg s.state.channel io).1.2).setCall t .idle
            (sendLog cfg s.state.channel io payload sid key) := by
      simp only [step, hpc]
    have hlog : (step P cfg s.state (.send t io)).log
        = sendLog cfg s.state.channel io payload sid key ++ s.state.log := by
      rw [hstep, State.setCall_log, State.afterSend_log]
    have hself : (step P cfg s.state (.send t io)).calls t = .idle := by
      rw [hstep]
      exact Function.update_self _ _ _
    have hchannel : (step P cfg s.state (.send t io)).channel
        = (sendPayload cfg s.state.channel io).1.1 := by
      rw [hstep]
      unfold State.afterSend
      split_ifs <;> rfl
    simp only [trackedStep, Event.caller, recorded_eq hlog, hself, begun, hcalls]
    refine h.update hlog (fun t' ht => ?_) (fun t' ht b' hb' => ?_) ?_
    · rw [hstep]
      show Function.update (s.state.afterSend _ _).calls t .idle t' = _
      rw [Function.update_of_ne ht, State.afterSend_calls]
    · -- a `sendall` that fails finds no other call with a key
      rw [hchannel]
      rcases io with _ | msg
      · have hsame : (sendPayload cfg s.state.channel .ok).1.1 = s.state.channel := by
          simp only [sendPayload, hk]
        rw [hsame]
        exact hb'
      · rcases hu.fails t msg payload sid key rfl hpc t' ht with hidle | ⟨b'', hchecked⟩
        · rw [hidle] at hb'
          exact hb'.elim
        · rw [hchecked] at hb' ⊢
          exact hb'
    · rw [hlog, hself]
      refine Lane.ends hdone (fun x hx => List.mem_append_right _ hx) ?_
      rcases io with _ | msg
      · have hsend : sendLog cfg s.state.channel .ok payload sid key
            = [.wrote k payload sid key, .sent payload] := by
          simp only [sendLog, sendPayload, hk]
        rw [hsend]
        exact Or.inr ⟨k, payload, sid, key, rfl, rfl, List.mem_append_right _ hneg, hbuilt⟩
      · have hsend : sendLog cfg s.state.channel (.osError msg) payload sid key
            = [.raised ⟨.cryptoError, lit "cloud session failed"⟩, .sent payload] := by
          simp only [sendLog, sendPayload, hk, raise]
        rw [hsend]
        exact Or.inl ⟨_, rfl, rfl, rfl⟩
  all_goals exact h.idle rfl (by simp only [step, hpc]) rfl

/-- The step lemma. -/
lemma Lanes.step {s : Tracked B} (hok : Ok P s.state) (h : Lanes P s) {ev : Event B}
    (hu : Undisturbed s.state ev) : Lanes P (trackedStep P cfg s ev) := by
  cases ev with
  | call t b => exact h.call t b
  | readKey t => exact h.readKey hu
  | build t nonce => exact h.build hok t nonce
  | send t io => exact h.send hok hu
  | thread i a =>
    intro t
    have hlog : ∀ x ∈ s.state.log, x ∈ (Threads.step P cfg s.state (.thread i a)).log :=
      fun x hx => List.mem_append_right _ hx
    refine (h t).mono hlog fun b hb => ?_
    rcases hb.sock with ⟨b', hchecked⟩ | hsock
    · rw [hchecked] at hb ⊢
      exact hb
    · exact hb.same (hok.sameSession hsock i a)

variable (P cfg) in
/-- A call ends with its next three steps. -/
lemma call_ends {s₁ s₂ s₃ : State B} {t : ℕ} (nonce : B) (io : IoOutcome)
    (h₂ : s₂.calls t = (step P cfg s₁ (.readKey t)).calls t)
    (h₃ : s₃.calls t = (step P cfg s₂ (.build t nonce)).calls t) :
    (step P cfg s₃ (.send t io)).calls t = .idle := by
  have hself : ∀ (s : State B) (pc : CallPc B) (log : List (Record B)),
      (s.setCall t pc log).calls t = pc := fun _ _ _ => Function.update_self _ _ _
  -- after the first step no call is before its key, and after the second none before its payload
  have hkeyed : ∀ b, s₂.calls t ≠ .checked b := by
    intro b
    rw [h₂]
    simp only [step]
    split
    · rw [hself]
      simp
    · next hne => exact fun h => hne b h
  have hbuilt : (∀ b, s₃.calls t ≠ .checked b) ∧ ∀ b key, s₃.calls t ≠ .keyed b key := by
    rw [h₃]
    simp only [step]
    split
    · next b key hpc =>
      split
      · rw [hself]
        simp
      · next hnone hpayload =>
        obtain ⟨sid, key', hsid, hkey'⟩ := buildPayload_fields hpayload
        exact (hnone sid key' hsid hkey').elim
      · rw [hself]
        simp
    · next hne => exact ⟨hkeyed, hne⟩
  simp only [step]
  split
  · exact hself _ _ _
  · next hne =>
    rcases hpc : s₃.calls t with _ | b | ⟨b, key⟩ | ⟨payload, sid, key⟩
    · rfl
    · exact absurd hpc (hbuilt.1 b)
    · exact absurd hpc (hbuilt.2 b key)
    · exact absurd hpc (hne payload sid key)

variable (P cfg) in
/-- **Payload and socket belong to the same session**: every call of `send_reading` keeps to its
session, in every run in which no other thread comes between a call and its session. -/
theorem calls_keep_session {τ : List (Event B)} (ha : ∀ ev ∈ τ, Admissible ev)
    (hu : Along (step P cfg) Undisturbed initial τ) :
    Kept P cfg (run (trackedStep P cfg) trackedInitial τ) := by
  have hview : Along (trackedStep P cfg) (fun s ev => Undisturbed s.state ev) trackedInitial τ :=
    (along_view (f := Tracked.state) (fun _ _ => rfl) _).2 hu
  have hboth : Ok P (run (trackedStep P cfg) trackedInitial τ).state ∧
      Lanes P (run (trackedStep P cfg) trackedInitial τ) :=
    inv_run (J := fun s : Tracked B => Ok P s.state ∧ Lanes P s)
      (P := fun s ev => Admissible ev ∧ Undisturbed s.state ev)
      (fun _ _ h hev => ⟨h.1.step hev.1, h.2.step h.1 hev.2⟩)
      ⟨ok_initial, fun t => ⟨[], by simp, Or.inl ⟨rfl, rfl⟩⟩⟩
      (along_and.2 ⟨along_of_forall fun _ ev hev => ha ev hev, hview⟩)
  refine ⟨fun t => ?_, fun t nonce io s₁ s₂ s₃ _ h₂ h₃ => call_ends P cfg nonce io h₂ h₃⟩
  obtain ⟨done, hdone, h | ⟨b, hb, hcalls⟩⟩ := hboth.2 t
  · exact ⟨done, hdone, Or.inl h⟩
  · refine ⟨done, hdone, Or.inr ⟨fun hidle => ?_, b, hcalls⟩⟩
    rw [hidle] at hb
    exact hb

/-! ### The demo -/

/-- The calls of the demo on the first session, of which the second one fails, and one on the
second session. -/
def demoCalls : List (Event Bytes) :=
  demoSession 0 demoSessionId 0 ++ (demoBuilt 0 ++ [.send 0 .ok] ++ demoBuilt 1
    ++ [.send 1 demoFailure]) ++ demoReconnect ++ (demoBuilt 2 ++ [.send 2 .ok])

/-- Two calls on the first session: the `sendall` of the second one fails, and the first one
sends on the second session. -/
def demoOvertaken : List (Event Bytes) :=
  demoSession 0 demoSessionId 0 ++ (demoBuilt 0 ++ demoBuilt 1 ++ [.send 1 demoFailure])
    ++ demoReconnect ++ [.send 0 .ok]

/-- A step of the demo. -/
def demoStep : Tracked Bytes → Event Bytes → Tracked Bytes :=
  trackedStep (ideal fun _ => none) demoGateway

/-- The calls of the first three threads in a few words: the sockets written to, and whether an
exception was raised. -/
def summary (s : Tracked Bytes) : List (List (List ℕ × Option Bool)) :=
  (List.range 3).map fun t => (s.calls t).map fun c =>
    (c.wrote.map Prod.fst, c.ended.map Option.isSome)

/-- `Undisturbed`, as a check for three threads. -/
def undisturbed (s : State Bytes) : Event Bytes → Bool
  | .readKey _ => s.channel.sock.isSome
  | .send t (.osError _) => (List.range 3).all fun t' => t' = t || (s.calls t').isIdle
  | _ => true

/-- The call is made by one of the first three threads. -/
def ofThree (ev : Event Bytes) : Bool := ev.caller.all (· < 3)

/-- No other thread calls. -/
def OfThree (s : State Bytes) : Prop := ∀ t, 3 ≤ t → s.calls t = .idle

lemma OfThree.step {s : State Bytes} {P : Primitives Bytes} {cfg : GatewayConfig Bytes}
    (h : OfThree s) {ev : Event Bytes} (hev : ofThree ev = true) :
    OfThree (step P cfg s ev) := by
  intro t ht
  rw [step_calls_of_ne, h t ht]
  intro hcaller
  rw [ofThree, hcaller, Option.all_some, decide_eq_true_eq] at hev
  omega

lemma OfThree.undisturbed {s : State Bytes} (h : OfThree s) {ev : Event Bytes}
    (hev : undisturbed s ev = true) : Undisturbed s ev := by
  refine ⟨fun t b hread _ => ?_, fun t msg payload sid key hsend _ t' ht => ?_⟩
  · subst hread
    exact Option.isSome_iff_ne_none.1 hev
  · subst hsend
    by_cases hlt : t' < 3
    · have hcheck := List.all_eq_true.1 hev t' (List.mem_range.2 hlt)
      rw [Bool.or_eq_true, decide_eq_true_eq] at hcheck
      refine Or.inl ?_
      have hidle := hcheck.resolve_left ht
      generalize s.calls t' = pc at hidle
      cases pc with
      | idle => rfl
      | _ => cases hidle
    · exact Or.inl (h t' (by omega))

/-- The first call writes to the socket of the first session, the second one raises, and the
third one writes to the socket of the second session. -/
theorem calls_keep_session_demo :
    summary (run demoStep trackedInitial demoCalls)
      = [[([0], some false)], [([], some true)], [([1], some false)]] ∧
    Kept (ideal fun _ => none) demoGateway (run demoStep trackedInitial demoCalls) := by
  refine ⟨by decide +kernel, ?_⟩
  unfold demoStep
  refine calls_keep_session _ _ ?_ ?_
  · unfold demoCalls
    rw [List.forall_mem_append, List.forall_mem_append, List.forall_mem_append]
    exact ⟨⟨⟨admissible_demoSession 0 0 (by decide), admissible_of_calls (by simp [demoBuilt])⟩,
      admissible_demoSession 1 1 (by decide)⟩, admissible_of_calls (by simp [demoBuilt])⟩
  · have hcheck : Along (step (ideal fun _ => none) demoGateway)
        (fun s ev => ofThree ev = true ∧ undisturbed s ev = true) initial demoCalls := by
      decide +kernel
    exact hcheck.of_inv (J := OfThree) (fun _ _ => rfl) (fun _ _ h hev => h.step hev.1)
      fun _ _ h hev => h.undisturbed hev.2

/-- The sessions that were negotiated, with the socket. -/
def negotiatedOn : List (Record B) → List (ℕ × PyStr × B) :=
  List.filterMap fun
    | .negotiated sock sessionId sessionKey => some (sock, sessionId, sessionKey)
    | _ => none

/-- What a call has written, if it has returned, is for a session of the socket. -/
lemma Right.written (h : Right P log c) :
    ∀ x ∈ c.wrote, (x.1, x.2.2) ∈ negotiatedOn log := by
  rcases h with ⟨e, -, -, hwrote⟩ | ⟨sock, payload, sid, key, -, hwrote, hneg, -⟩
  · simp [hwrote]
  · intro x hx
    rw [hwrote, List.mem_singleton] at hx
    rw [hx]
    exact List.mem_filterMap.2 ⟨_, hneg, rfl⟩

lemma Kept.written {s : Tracked B} (h : Kept P cfg s) (t : ℕ) :
    ∀ c ∈ s.calls t, ∀ x ∈ c.wrote, (x.1, x.2.2) ∈ negotiatedOn s.state.log := by
  obtain ⟨done, hdone, ⟨-, hcalls⟩ | ⟨-, b, hcalls⟩⟩ := h.calls t
  · intro c hc
    rw [hcalls] at hc
    exact (hdone c hc).written
  · intro c hc
    rw [hcalls] at hc
    rcases List.mem_cons.1 hc with rfl | hc
    · simp
    · exact (hdone c hc).written

/-- The payload of a call is built on the first session.  Before it is sent, the `sendall`
of another call fails and a reconnect thread makes a second session, on whose socket the
payload is then written. -/
theorem calls_keep_session_counterexample :
    (∀ ev ∈ demoOvertaken, Admissible ev) ∧
    ¬ Kept (ideal fun _ => none) demoGateway (run demoStep trackedInitial demoOvertaken) := by
  refine ⟨?_, fun h => absurd (h.written 0) (by decide +kernel)⟩
  unfold demoOvertaken
  rw [List.forall_mem_append, List.forall_mem_append, List.forall_mem_append]
  exact ⟨⟨⟨admissible_demoSession 0 0 (by decide), admissible_of_calls (by simp [demoBuilt])⟩,
    admissible_demoSession 1 1 (by decide)⟩, admissible_of_calls (by simp)⟩

end PqcBridge.Gateway.Threads
