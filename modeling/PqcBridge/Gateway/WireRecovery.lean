/-
Whether a channel that has lost its session gets one again.

`channel_never_wedges` speaks of the states in which nothing runs.  Here the question is asked
in every state of the threads: is there a way for them to go on, with the cloud at the other end,
that ends with a usable channel?

* `Wedged`: no thread is left that makes a session, and no call that starts one;
* `WithCloud`: reads are answered by the handler of the cloud, given what was sent to it;
* `Recovers.loop`: a thread at the top of its loop has a way to a usable channel;
* `Awake`: the invariant of the flag and of a socket that is not yet declared;
* `recovers_iff`: there is a way exactly where the channel is not wedged.
-/
import PqcBridge.Gateway.WireFrames
import PqcBridge.Handshake.Honest

namespace PqcBridge.Gateway.Wire

open Python Protocol Crypto Runs PqcBridge.Handshake

/-! ### Wedged channels -/

/-- The thread can still make a session. -/
def ThreadPc.working : ThreadPc → Bool
  | .failing e => retried e
  | pc => !pc.late

/-- The call can still start a thread. -/
def CallPc.restarts : CallPc → Bool
  | .sending _ _ _ => true
  | .invalidating _ => true
  | _ => false

/-- Nobody makes a session any more. -/
structure Wedged (s : State) : Prop where
  sock : s.channel.sock = none
  threads : ∀ i, (s.threads i).working = false
  calls : ∀ t, (s.calls t).restarts = false

variable {P : Primitives Octets} {cfg : GatewayConfig Octets} {s s' : State}

lemma Wedged.setCall (h : Wedged s) {t : ℕ} {pc : CallPc} (hpc : pc.restarts = false) :
    Wedged (s.setCall t pc) := by
  refine ⟨h.sock, h.threads, fun t' => ?_⟩
  show (Function.update s.calls t pc t').restarts = false
  by_cases ht : t' = t
  · rw [ht, Function.update_self]
    exact hpc
  · rw [Function.update_of_ne ht]
    exact h.calls t'

lemma Wedged.setThread (h : Wedged s) {i : ℕ} {pc : ThreadPc} {ch : CloudChannel Octets}
    (hch : ch.sock = none) (hpc : pc.working = false) :
    Wedged ((s.setChannel ch).setThread i pc) := by
  refine ⟨hch, fun j => ?_, h.calls⟩
  show (Function.update s.threads i pc j).working = false
  by_cases hj : j = i
  · rw [hj, Function.update_self]
    exact hpc
  · rw [Function.update_of_ne hj]
    exact h.threads j

/-- A step of a call of a wedged channel. -/
lemma Wedged.callMove (h : Wedged s) (t : ℕ) :
    Wedged ((Wire.callMove P cfg s t (s.calls t)).1.setCall t
      (Wire.callMove P cfg s t (s.calls t)).2) := by
  have hcall := h.calls t
  have hlock : ∀ lock, Wedged { s with lock := lock } := fun _ => ⟨h.sock, h.threads, h.calls⟩
  cases hpc : s.calls t with
  | sending | invalidating =>
    rw [hpc] at hcall
    cases hcall
  | checking b next =>
    simp only [Wire.callMove]
    rcases next.read s.channel with next' | _ | _ <;> exact h.setCall rfl
  | built m =>
    simp only [Wire.callMove]
    rcases s.lock with _ | t'
    · exact (hlock _).setCall rfl
    · exact h.setCall rfl
  | locked m =>
    simp only [Wire.callMove, h.sock]
    exact h.setCall rfl
  | unlocking => exact (hlock _).setCall rfl
  | _ => exact h.setCall rfl

/-- A step of a thread of a wedged channel: it declares a session that is gone, or it ends. -/
lemma Wedged.threadStep (h : Wedged s) (i : ℕ) (ev : ThreadEvent) :
    Wedged ((Wire.threadStep P cfg s i (s.threads i) ev).1.setThread i
      (Wire.threadStep P cfg s i (s.threads i) ev).2) := by
  have hthread := h.threads i
  have hstay : ∀ {pc : ThreadPc}, pc.working = false → Wedged (s.setThread i pc) := fun hpc =>
    h.setThread h.sock hpc
  cases hpc : s.threads i with
  | stopped => cases ev <;> exact hstay rfl
  | publishState =>
    cases ev with
    | move => exact h.setThread h.sock rfl
    | _ => exact hstay rfl
  | finishing =>
    cases ev with
    | move =>
      simp only [Wire.threadStep]
      split_ifs
      · exact hstay rfl
      · exact h.setThread h.sock rfl
    | _ => exact hstay rfl
  | failing e =>
    rw [hpc] at hthread
    cases ev with
    | move =>
      simp only [Wire.threadStep]
      rw [if_neg (by simpa [ThreadPc.working] using hthread)]
      exact hstay rfl
    | _ => exact hstay hthread
  | _ =>
    rw [hpc] at hthread
    cases hthread

/-- A wedged channel stays wedged. -/
lemma Wedged.step (h : Wedged s) (ev : Event) : Wedged (Wire.step P cfg s ev) := by
  cases ev with
  | call t b =>
    simp only [Wire.step]
    split
    · exact h.setCall rfl
    · exact h
  | move t => exact h.callMove t
  | build t nonce =>
    simp only [Wire.step]
    split
    · split <;> exact h.setCall rfl
    · exact h
  | write t n =>
    have hcall := h.calls t
    simp only [Wire.step]
    split
    · next hpc =>
      rw [hpc] at hcall
      cases hcall
    · exact h
  | fail t =>
    have hcall := h.calls t
    simp only [Wire.step]
    split
    · next hpc =>
      rw [hpc] at hcall
      cases hcall
    · exact h
  | thread i x => exact h.threadStep i x

variable (P cfg) in
lemma Wedged.run (h : Wedged s) (τ : List Event) : Wedged (run (Wire.step P cfg) s τ) := by
  induction τ generalizing s with
  | nil => exact h
  | cons ev τ ih => exact ih (h.step ev)

/-! ### The cloud at the other end -/

/-- What a handler of the cloud sends where it stands; a handler that waits sends nothing. -/
def answer (cloud : Cloud.CloudConfig P) : Cloud.Phase Octets → ReadOutcome
  | .sendPubkey _ => .message (Cloud.pubkeyMessage cloud)
  | .sendEstablished _ sid _ => .message (Cloud.establishedMessage sid)
  | .leaving _ _ => .closed
  | .closed _ => .closed
  | _ => .osError (lit "timed out")

/-- What happens to the handler of connection `c` that reads these messages and has answered
all but the last one. -/
def reading (c : ℕ) (ms : List JsonDict) : List (ℕ × Cloud.ConnEvent) :=
  (c, .accept) :: (ms.map fun m => (c, .recv (.message m))).intersperse (c, .sendOk)

/-- The read ends with what the cloud, in whatever state its other connections have left it,
answers to the messages that were sent to it, or with a connection that fails. -/
def Answered (cloud : Cloud.CloudConfig P) (ms : List JsonDict) (o : ReadOutcome) : Prop :=
  (∀ (addr : ℕ → Cloud.Addr) (s : Cloud.ServerState Octets) (c : ℕ), s.phase c = .new →
    o = answer cloud ((run (Cloud.step cloud addr) s (reading c ms)).phase c)) ∨
  ∃ msg, o = .osError msg

/-- The attempt of a thread that reads. -/
def ThreadPc.reads : ThreadPc → Option Conn
  | .pubkey a => some a
  | .established a _ => some a
  | _ => none

/-- The cloud is at the other end of every socket, and a nonce has the length that the thread
asks for. -/
def WithCloud (cloud : Cloud.CloudConfig P) (s : State) : Event → Prop
  | .thread _ (.connect _ _ nonce) => P.len nonce = nonceLength
  | .thread i (.reply o _) => ∀ a, (s.threads i).reads = some a →
    Answered cloud (s.streams a.sock).finished o
  | _ => True

section Answers

variable {cloud : Cloud.CloudConfig P} (hP : P.Lawful)
  (hreg : cloud.gatewayKeys.keys cfg.gatewayId = some cfg.gatewayKey) (hgid : cfg.gatewayId ≠ [])
  {nonce : Octets} (hnonce : P.len nonce = nonceLength) {request : JsonDict}
  (hrequest : requestMessage P cfg nonce = .ok request)

include hP hreg hgid hnonce hrequest

/-- The cloud answers the request of a registered gateway with its public key. -/
lemma answered_request : Answered cloud [request] (.message (Cloud.pubkeyMessage cloud)) := by
  refine Or.inl fun addr s c hc => ?_
  simp [reading, Cloud.step, hc, Cloud.handlerStep, ReadOutcome.result, answer,
    authenticateRequest_requestMessage cfg cloud hP hreg hgid hnonce hrequest]

/-- The cloud answers the encapsulation that follows with the id of the session. -/
lemma answered_encaps {sid : PyStr} (hsid : sid ≠ []) (coins : Octets) :
    Answered cloud [request, encapsMessage P cfg sid
        (mlkemEncapsulate P cloud.publicKeyRaw coins).2]
      (.message (Cloud.establishedMessage sid)) := by
  refine Or.inl fun addr s c hc => ?_
  have hrun := run_registration hP cfg cloud hreg hgid nonce coins hnonce hrequest hsid addr hc
  have hreading : reading c [request, encapsMessage P cfg sid
      (mlkemEncapsulate P cloud.publicKeyRaw coins).2]
        = registrationEvents c request (encapsMessage P cfg sid
          (mlkemEncapsulate P cloud.publicKeyRaw coins).2) := rfl
  rw [hreading, hrun]
  simp [answer]

end Answers

/-! ### The way of a thread -/

variable (P cfg) in
/-- There is a way to a usable channel, with the cloud at the other end. -/
def Recovers (cloud : Cloud.CloudConfig P) (s : State) : Prop :=
  ∃ τ, Along (Wire.step P cfg) (WithCloud cloud) s τ ∧
    (run (Wire.step P cfg) s τ).channel.isEstablished = true

variable {cloud : Cloud.CloudConfig P}

/-- One step of the way. -/
lemma Recovers.of_step (ev : Event) (hev : WithCloud cloud s ev)
    (h : Recovers P cfg cloud (Wire.step P cfg s ev)) : Recovers P cfg cloud s := by
  obtain ⟨τ, halong, hτ⟩ := h
  exact ⟨ev :: τ, ⟨hev, halong⟩, hτ⟩

variable {i : ℕ}

/-- A step of a thread, where it is known what it does. -/
lemma Recovers.of_thread {pc : ThreadPc} (hi : s.threads i = pc) (ev : ThreadEvent)
    (hev : WithCloud cloud s (.thread i ev))
    (h : Recovers P cfg cloud ((Wire.threadStep P cfg s i pc ev).1.setThread i
      (Wire.threadStep P cfg s i pc ev).2)) : Recovers P cfg cloud s := by
  refine .of_step _ hev ?_
  simp only [Wire.step, hi]
  exact h

lemma setThread_threads (s : State) (i : ℕ) (pc : ThreadPc) :
    (s.setThread i pc).threads i = pc := by
  simp [State.setThread]

/-- A `sendall` that hands over everything finishes its message. -/
lemma write_finished (s : State) (k : ℕ) (m : JsonDict) (rest : Octets) :
    ((s.write k m rest rest.length).streams k).finished = (s.streams k).finished ++ [m] := by
  simp [State.write, State.setStream]

/-- What the cloud answers to the messages of a reading thread. -/
lemma withCloud_reply {a : Conn} (ha : (s.threads i).reads = some a) {o : ReadOutcome}
    {coins : Octets} (ho : Answered cloud (s.streams a.sock).finished o) :
    WithCloud cloud s (.thread i (.reply o coins)) := by
  intro a' ha'
  obtain rfl : a = a' := Option.some_injective _ (ha.symm.trans ha')
  exact ho

lemma Recovers.publishState (hi : s.threads i = .publishState)
    (hsock : s.channel.sock.isSome = true) (hkey : s.channel.sessionKey.isSome = true) :
    Recovers P cfg cloud s := by
  refine .of_thread hi .move trivial ⟨[], trivial, ?_⟩
  simp [Wire.threadStep, State.setThread, State.setChannel, CloudChannel.isEstablished, hsock, hkey]

lemma Recovers.publishSock {a : Conn} (hi : s.threads i = .publishSock a)
    (hkey : s.channel.sessionKey.isSome = true) : Recovers P cfg cloud s :=
  .of_thread hi .move trivial (.publishState (setThread_threads _ _ _) rfl hkey)

lemma Recovers.countSession {a : Conn} (hi : s.threads i = .countSession a)
    (hkey : s.channel.sessionKey.isSome = true) : Recovers P cfg cloud s :=
  .of_thread hi .move trivial (.publishSock (setThread_threads _ _ _) hkey)

lemma Recovers.publishId {a : Conn} (hi : s.threads i = .publishId a)
    (hkey : s.channel.sessionKey.isSome = true) : Recovers P cfg cloud s :=
  .of_thread hi .move trivial (.countSession (setThread_threads _ _ _) hkey)

lemma Recovers.publishKey {a : Conn} {key : Octets} (hi : s.threads i = .publishKey a key) :
    Recovers P cfg cloud s :=
  .of_thread hi .move trivial (.publishId (setThread_threads _ _ _) rfl)

section Cloud

variable (hP : P.Lawful) (hreg : cloud.gatewayKeys.keys cfg.gatewayId = some cfg.gatewayKey)
  (hgid : cfg.gatewayId ≠ []) (hid : cloud.cloudId ≠ [])
  (hpin : cfg.pin = publicKeyFingerprint P cloud.publicKeyRaw) (hne : cfg.pin ≠ [])
  {nonce : Octets} (hnonce : P.len nonce = nonceLength)

section Attempt

variable {request : JsonDict} (hrequest : requestMessage P cfg nonce = .ok request) {a : Conn}

include hP hreg hgid hnonce hrequest

/-- The cloud answers that it has established the session. -/
lemma Recovers.established {secret : Octets} (coins : Octets)
    (hi : s.threads i = .established a secret)
    (hsent : (s.streams a.sock).finished = [request, encapsMessage P cfg a.sessionId.text
      (mlkemEncapsulate P cloud.publicKeyRaw coins).2]) : Recovers P cfg cloud s := by
  have hsid : a.sessionId.text ≠ [] := fun h => by
    have hlength := a.sessionId.hex.1
    rw [h] at hlength
    cases hlength
  have hanswered : WithCloud cloud s
      (.thread i (.reply (.message (Cloud.establishedMessage a.sessionId.text)) [])) := by
    refine withCloud_reply (a := a) (by rw [hi]; rfl) ?_
    rw [hsent]
    exact answered_encaps hP hreg hgid hnonce hrequest hsid coins
  refine .of_thread hi _ hanswered ?_
  simp only [Wire.threadStep, ReadOutcome.result, ok_bind,
    parseMlkemEstablishedReply_establishedMessage hsid]
  exact .publishKey (setThread_threads _ _ _)

lemma Recovers.sendEncaps {secret rest : Octets} (coins : Octets)
    (hi : s.threads i = .sendEncaps a secret (encapsMessage P cfg a.sessionId.text
      (mlkemEncapsulate P cloud.publicKeyRaw coins).2) rest)
    (hsent : (s.streams a.sock).finished = [request]) : Recovers P cfg cloud s := by
  refine .of_thread hi (.write rest.length) trivial ?_
  simp only [Wire.threadStep, Wire.threadWrite, List.drop_length, if_true]
  refine Recovers.established hP hreg hgid hnonce hrequest coins (setThread_threads _ _ _) ?_
  exact (write_finished s a.sock _ rest).trans (by rw [hsent]; rfl)

include hid hpin hne

/-- The cloud sends its public key. -/
lemma Recovers.pubkey (hi : s.threads i = .pubkey a)
    (hsent : (s.streams a.sock).finished = [request]) : Recovers P cfg cloud s := by
  have hanswered : WithCloud cloud s
      (.thread i (.reply (.message (Cloud.pubkeyMessage cloud)) [])) := by
    refine withCloud_reply (a := a) (by rw [hi]; rfl) ?_
    rw [hsent]
    exact answered_request hP hreg hgid hnonce hrequest
  refine .of_thread hi _ hanswered ?_
  simp only [Wire.threadStep, ReadOutcome.result, ok_bind,
    acceptPubkeyReply_pubkeyMessage cfg cloud hP hid hpin hne]
  exact .sendEncaps hP hreg hgid hnonce hrequest _ (setThread_threads _ _ _) hsent

lemma Recovers.sendRequest {rest : Octets} (hi : s.threads i = .sendRequest a request rest)
    (hsent : (s.streams a.sock).finished = []) : Recovers P cfg cloud s := by
  refine .of_thread hi (.write rest.length) trivial ?_
  simp only [Wire.threadStep, Wire.threadWrite, List.drop_length, if_true]
  refine .pubkey hP hreg hgid hid hpin hne hnonce hrequest (setThread_threads _ _ _) ?_
  exact (write_finished s a.sock _ rest).trans (by rw [hsent]; rfl)

end Attempt

include hP hreg hgid hid hpin hne hnonce

/-- A new socket, on which nothing has been sent. -/
lemma Recovers.connect (hi : s.threads i = .connect) (hnew : s.streams s.opened = .empty) :
    Recovers P cfg cloud s := by
  obtain ⟨request, hrequest⟩ := requestMessage_eq_ok (cloud.gatewayKeys.key_len hreg) nonce
  refine .of_thread hi (.connect .ok demoToken nonce) hnonce ?_
  simp only [Wire.threadStep, IoOutcome.result, hrequest]
  refine .sendRequest hP hreg hgid hid hpin hne hnonce hrequest (setThread_threads _ _ _) ?_
  show (s.streams s.opened).finished = []
  rw [hnew]
  rfl

/-- **The way of a thread** from the top of its loop. -/
lemma Recovers.loop (hi : s.threads i = .loop) (hnew : s.streams s.opened = .empty) :
    Recovers P cfg cloud s :=
  .of_thread hi .move trivial
    (.connect hP hreg hgid hid hpin hne hnonce (setThread_threads _ _ _) hnew)

lemma Recovers.disconnecting (hi : s.threads i = .disconnecting)
    (hnew : s.streams s.opened = .empty) : Recovers P cfg cloud s :=
  .of_thread hi .move trivial
    (.loop hP hreg hgid hid hpin hne hnonce (setThread_threads _ _ _) hnew)

lemma Recovers.publishFailed (hi : s.threads i = .publishFailed)
    (hnew : s.streams s.opened = .empty) : Recovers P cfg cloud s :=
  .of_thread hi .move trivial
    (.disconnecting hP hreg hgid hid hpin hne hnonce (setThread_threads _ _ _) hnew)

lemma Recovers.failing {e : PyExc} (hi : s.threads i = .failing e) (he : retried e = true)
    (hnew : s.streams s.opened = .empty) : Recovers P cfg cloud s := by
  refine .of_thread hi .move trivial ?_
  simp only [Wire.threadStep, he, if_true]
  exact .publishFailed hP hreg hgid hid hpin hne hnonce (setThread_threads _ _ _) hnew

end Cloud

/-! ### What is still to come -/

/-- The invariant: a session that has been published and is not declared will be, and the flag
is set by a thread that runs. -/
structure Awake (s : State) : Prop where
  declared : s.channel.sock ≠ none → s.channel.state = .established ∨
    ∃ i, s.threads i = .publishState
  flag : s.channel.reconnecting = true → ∃ i, i ≠ 0 ∧ s.threads i ≠ .stopped

/-- A call moves on. -/
lemma Awake.of_eq (h : Awake s) (hthreads : s'.threads = s.threads)
    (hstate : s'.channel.state = s.channel.state)
    (hsock : s'.channel.sock ≠ none → s.channel.sock ≠ none)
    (hflag : s'.channel.reconnecting = s.channel.reconnecting) : Awake s' := by
  refine ⟨fun hne => ?_, fun hrec => ?_⟩
  · rw [hthreads, hstate]
    exact h.declared (hsock hne)
  · rw [hthreads]
    exact h.flag (hflag ▸ hrec)

lemma Awake.setCall (h : Awake s) (t : ℕ) (pc : CallPc) : Awake (s.setCall t pc) :=
  h.of_eq rfl rfl id rfl

lemma Awake.restart (h : Awake s) (hs : 0 < s.started) (hsock : s.channel.sock = none) :
    Awake s.restart := by
  rcases Bool.eq_false_or_eq_true s.channel.reconnecting with hrec | hrec
  · rw [restart_of_reconnecting hrec]
    exact h
  · rw [restart_of_not_reconnecting hrec]
    refine ⟨fun hne => absurd hsock hne, fun _ => ⟨s.started, by omega, ?_⟩⟩
    show Function.update s.threads s.started .loop s.started ≠ .stopped
    rw [Function.update_self]
    exact fun h => by cases h

lemma Awake.callMove (h : Awake s) (hok : Ok P cfg s) (t : ℕ) :
    Awake ((Wire.callMove P cfg s t (s.calls t)).1.setCall t
      (Wire.callMove P cfg s t (s.calls t)).2) := by
  have hcall := hok.calls t
  cases hpc : s.calls t with
  | checking b next =>
    simp only [Wire.callMove]
    rcases next.read s.channel with next' | _ | _ <;> exact h.setCall t _
  | built m =>
    simp only [Wire.callMove]
    rcases s.lock with _ | t' <;> exact h.of_eq rfl rfl id rfl
  | locked m =>
    simp only [Wire.callMove]
    rcases s.channel.sock with _ | k <;> exact h.setCall t _
  | invalidating next =>
    rw [hpc] at hcall
    cases next with
    | sock => exact h.of_eq rfl rfl (fun hne => absurd rfl hne) rfl
    | key => exact h.of_eq rfl rfl id rfl
    | state =>
      -- the socket has been taken away before
      exact ⟨fun hne => absurd hcall.1 hne, h.flag⟩
    | restart =>
      simp only [Wire.callMove]
      split_ifs
      · exact (h.restart hok.started hcall.1).setCall t _
      · exact h.setCall t _
  | _ => exact h.of_eq rfl rfl id rfl

/-- What a thread does that works on a session which it has not published. -/
lemma threadStep_frame (s : State) (i : ℕ) {pc : ThreadPc} (hlate : pc.late = false)
    (hpub : ∀ a, pc ≠ .publishSock a) (ev : ThreadEvent) :
    (Wire.threadStep P cfg s i pc ev).1.threads = s.threads ∧
      (Wire.threadStep P cfg s i pc ev).1.channel.sock = s.channel.sock ∧
      (Wire.threadStep P cfg s i pc ev).1.channel.reconnecting = s.channel.reconnecting ∧
      (Wire.threadStep P cfg s i pc ev).2 ≠ .stopped := by
  cases pc with
  | stopped | publishState | finishing => cases hlate
  | publishSock a => exact absurd rfl (hpub a)
  | loop | publishFailed | disconnecting | publishKey | publishId | countSession =>
    cases ev <;> exact ⟨rfl, rfl, rfl, fun h => by cases h⟩
  | connect =>
    cases ev with
    | connect io sid nonce =>
      simp only [Wire.threadStep]
      rcases io.result with e | _
      · exact ⟨rfl, rfl, rfl, fun h => by cases h⟩
      · rcases requestMessage P cfg nonce with e | m <;> exact ⟨rfl, rfl, rfl, fun h => by cases h⟩
    | _ => exact ⟨rfl, rfl, rfl, fun h => by cases h⟩
  | sendRequest a m rest | sendEncaps a secret m rest =>
    cases ev with
    | write n =>
      simp only [Wire.threadStep, Wire.threadWrite, write_threads, write_channel]
      refine ⟨trivial, trivial, trivial, ?_⟩
      split_ifs <;> exact fun h => by cases h
    | _ => exact ⟨rfl, rfl, rfl, fun h => by cases h⟩
  | pubkey a =>
    cases ev with
    | reply o coins =>
      simp only [Wire.threadStep]
      rcases o.result >>= acceptPubkeyReply P cfg with e | publicKey <;>
        exact ⟨rfl, rfl, rfl, fun h => by cases h⟩
    | _ => exact ⟨rfl, rfl, rfl, fun h => by cases h⟩
  | established a secret =>
    cases ev with
    | reply o coins =>
      simp only [Wire.threadStep]
      rcases o.result >>= fun reply => parseMlkemEstablishedReply reply a.sessionId.text with
        e | _ <;> exact ⟨rfl, rfl, rfl, fun h => by cases h⟩
    | _ => exact ⟨rfl, rfl, rfl, fun h => by cases h⟩
  | failing e =>
    cases ev with
    | move =>
      simp only [Wire.threadStep]
      split_ifs <;> exact ⟨rfl, rfl, rfl, fun h => by cases h⟩
    | _ => exact ⟨rfl, rfl, rfl, fun h => by cases h⟩

/-- The flag, where a thread goes on that does not clear it. -/
lemma Awake.flag_setThread (h : Awake s) {i : ℕ} {pc : ThreadPc} (hpc : i ≠ 0 → pc ≠ .stopped)
    (hrec : s.channel.reconnecting = true) :
    ∃ j, j ≠ 0 ∧ Function.update s.threads i pc j ≠ .stopped := by
  obtain ⟨j, hj0, hj⟩ := h.flag hrec
  refine ⟨j, hj0, ?_⟩
  by_cases hji : j = i
  · subst hji
    rw [Function.update_self]
    exact hpc hj0
  · rw [Function.update_of_ne hji]
    exact hj

/-- A step of a thread. -/
lemma Awake.threadStep (h : Awake s) (hok : Ok P cfg s) (i : ℕ) (ev : ThreadEvent) :
    Awake ((Wire.threadStep P cfg s i (s.threads i) ev).1.setThread i
      (Wire.threadStep P cfg s i (s.threads i) ev).2) := by
  have hself : ∀ pc, s.threads i = pc → Awake (s.setThread i pc) := fun pc hpc =>
    (setThread_self s hpc).symm ▸ h
  by_cases hwork : (s.threads i).late = false ∧ ∀ a, s.threads i ≠ .publishSock a
  · -- the channel has no socket, before the step and after it
    obtain ⟨hlate, hpub⟩ := hwork
    have hnone := (hok.others_stopped hlate).1.sock_eq_none hlate
    obtain ⟨hthreads, hsock, hflag, hpc⟩ := threadStep_frame (P := P) s i hlate hpub ev
    refine ⟨fun hne => absurd (hsock.trans hnone) hne, fun hrec => ?_⟩
    show ∃ j, j ≠ 0 ∧ Function.update _ i _ j ≠ _
    rw [hthreads]
    exact h.flag_setThread (fun _ => hpc) (hflag.symm.trans hrec)
  cases hpc : s.threads i with
  | stopped => cases ev <;> exact hself _ hpc
  | publishSock a =>
    cases ev with
    | move =>
      exact ⟨fun _ => Or.inr ⟨i, setThread_threads _ _ _⟩, h.flag_setThread fun _ h => by cases h⟩
    | _ => exact hself _ hpc
  | publishState =>
    cases ev with
    | move => exact ⟨fun _ => Or.inl rfl, h.flag_setThread fun _ h => by cases h⟩
    | _ => exact hself _ hpc
  | finishing =>
    -- another thread may still be about to declare the session
    have hdeclared : s.channel.sock ≠ none → s.channel.state = .established ∨
        ∃ j, Function.update s.threads i .stopped j = .publishState := by
      intro hne
      refine (h.declared hne).imp_right ?_
      rintro ⟨j, hj⟩
      have hji : j ≠ i := fun hji => by
        rw [hji, hpc] at hj
        cases hj
      exact ⟨j, by rw [Function.update_of_ne hji, hj]⟩
    cases ev with
    | move =>
      simp only [Wire.threadStep]
      split_ifs with hi
      · exact ⟨hdeclared, h.flag_setThread fun hne => absurd hi hne⟩
      · exact ⟨hdeclared, fun h => by cases h⟩
    | _ => exact hself _ hpc
  | _ => exact absurd ⟨by rw [hpc]; rfl, by rw [hpc]; exact fun a h => by cases h⟩ hwork

lemma Awake.step (h : Awake s) (hok : Ok P cfg s) (ev : Event) :
    Awake (Wire.step P cfg s ev) := by
  cases ev with
  | call t b =>
    simp only [Wire.step]
    split
    · exact h.setCall t _
    · exact h
  | move t => exact h.callMove hok t
  | build t nonce =>
    simp only [Wire.step]
    split
    · split <;> exact h.setCall t _
    · exact h
  | write t n =>
    simp only [Wire.step]
    split
    · next k m rest hpc =>
      have hchannel : (s.write k m rest n).channel = s.channel := write_channel ..
      refine (h.of_eq (write_threads ..) ?_ ?_ ?_).setCall t _ <;> rw [hchannel]
      exact id
    · exact h
  | fail t =>
    simp only [Wire.step]
    split
    · exact h.setCall t _
    · exact h
  | thread i x => exact h.threadStep hok i x

variable (P cfg) in
lemma awake_run (τ : List Event) : Awake (run (Wire.step P cfg) initial τ) :=
  (inv_run (J := fun s => Ok P cfg s ∧ Awake s) (P := fun _ _ => True)
    (fun _ ev h _ => ⟨h.1.step ev, h.2.step h.1 ev⟩)
    ⟨ok_initial P cfg, fun hne => absurd rfl hne, fun h => by cases h⟩
    (along_of_forall fun _ _ _ => trivial)).2

/-! ### The way of a call -/

variable (P cfg) in
/-- A thread that has done its work clears the flag, and no call moves meanwhile. -/
lemma Awake.exists_clear (h : Awake s) (hlate : ∀ i, (s.threads i).late = true) :
    ∃ τ, (∀ ev ∈ τ, ∃ j, ev = .thread j .move) ∧
      (run (Wire.step P cfg) s τ).channel.reconnecting = false ∧
      (run (Wire.step P cfg) s τ).calls = s.calls := by
  rcases Bool.eq_false_or_eq_true s.channel.reconnecting with hrec | hrec
  · obtain ⟨j, hj0, hj⟩ := h.flag hrec
    have hclears : ∀ s' : State, s'.threads j = .finishing →
        (Wire.step P cfg s' (.thread j .move)).channel.reconnecting = false ∧
          (Wire.step P cfg s' (.thread j .move)).calls = s'.calls := by
      intro s' hpc
      simp only [Wire.step, Wire.threadStep, hpc, if_neg hj0]
      exact ⟨rfl, rfl⟩
    have hjlate := hlate j
    cases hpc : s.threads j with
    | stopped => exact absurd hpc hj
    | finishing => exact ⟨[.thread j .move], by simp, hclears s hpc⟩
    | publishState =>
      have hnext : (Wire.step P cfg s (.thread j .move)).threads j = .finishing ∧
          (Wire.step P cfg s (.thread j .move)).calls = s.calls := by
        simp only [Wire.step, Wire.threadStep, hpc]
        exact ⟨setThread_threads _ _ _, rfl⟩
      obtain ⟨hclear, hcalls⟩ := hclears _ hnext.1
      exact ⟨[.thread j .move, .thread j .move], by simp, hclear, hcalls.trans hnext.2⟩
    | _ =>
      rw [hpc] at hjlate
      cases hjlate
  · exact ⟨[], by simp, hrec, rfl⟩

lemma Ok.run (h : Ok P cfg s) (τ : List Event) : Ok P cfg (Runs.run (Wire.step P cfg) s τ) :=
  inv_run (J := Ok P cfg) (P := fun _ _ => True) (fun _ ev h _ => h.step ev) h
    (along_of_forall fun _ _ _ => trivial)

/-- The rest of a way. -/
lemma Recovers.of_run {τ : List Event} (hτ : Along (Wire.step P cfg) (WithCloud cloud) s τ)
    (h : Recovers P cfg cloud (run (Wire.step P cfg) s τ)) : Recovers P cfg cloud s := by
  obtain ⟨τ', halong, hτ'⟩ := h
  exact ⟨τ ++ τ', along_append.2 ⟨hτ, halong⟩, by rw [run_append]; exact hτ'⟩

section Cloud

variable (hP : P.Lawful) (hreg : cloud.gatewayKeys.keys cfg.gatewayId = some cfg.gatewayKey)
  (hgid : cfg.gatewayId ≠ []) (hid : cloud.cloudId ≠ [])
  (hpin : cfg.pin = publicKeyFingerprint P cloud.publicKeyRaw) (hne : cfg.pin ≠ [])
  {nonce : Octets} (hnonce : P.len nonce = nonceLength) (hauto : cfg.autoReconnect = true)

include hP hreg hgid hid hpin hne hnonce

/-- A thread that works on a session.  If it has a socket, then it may lose that and begin again,
so that it does not matter what has been sent and read on it. -/
lemma Recovers.working (hok : Ok P cfg s) {i : ℕ} (hi : (s.threads i).working = true) :
    Recovers P cfg cloud s := by
  have hworks : ∀ {pc}, s.threads i = pc → pc.late = false → Works P cfg s pc := fun hpc hlate =>
    hpc ▸ (hok.others_stopped (hpc ▸ hlate)).1
  have hnew : s.streams s.opened = .empty := (hok.streams s.opened).unopened le_rfl
  have hlost : ∀ {pc : ThreadPc} (ev : ThreadEvent), s.threads i = pc →
      WithCloud cloud s (.thread i ev) →
      Wire.threadStep P cfg s i pc ev = (s, .failing ⟨.osError, []⟩) →
        Recovers P cfg cloud s := by
    intro pc ev hpc hev hstep
    refine .of_thread hpc ev hev ?_
    rw [hstep]
    exact .failing hP hreg hgid hid hpin hne hnonce (setThread_threads _ _ _) rfl hnew
  cases hpc : s.threads i with
  | stopped | publishState | finishing =>
    rw [hpc] at hi
    cases hi
  | loop => exact .loop hP hreg hgid hid hpin hne hnonce hpc hnew
  | connect => exact .connect hP hreg hgid hid hpin hne hnonce hpc hnew
  | sendRequest | sendEncaps => exact hlost (.fail []) hpc trivial rfl
  | pubkey | established =>
    exact hlost (.reply (.osError []) []) hpc (fun a _ => Or.inr ⟨[], rfl⟩) rfl
  | publishKey => exact .publishKey hpc
  | publishId a =>
    obtain ⟨-, -, -, key, -, hkey'⟩ := hworks hpc rfl
    exact .publishId hpc (by rw [hkey']; rfl)
  | countSession a =>
    obtain ⟨-, -, -, key, -, hkey', -⟩ := hworks hpc rfl
    exact .countSession hpc (by rw [hkey']; rfl)
  | publishSock a =>
    obtain ⟨-, -, -, key, -, hkey', -⟩ := hworks hpc rfl
    exact .publishSock hpc (by rw [hkey']; rfl)
  | failing e =>
    rw [hpc] at hi
    exact .failing hP hreg hgid hid hpin hne hnonce hpc hi hnew
  | publishFailed => exact .publishFailed hP hreg hgid hid hpin hne hnonce hpc hnew
  | disconnecting => exact .disconnecting hP hreg hgid hid hpin hne hnonce hpc hnew

include hauto

/-- A call that takes a session down starts a thread. -/
lemma Recovers.invalidating {t : ℕ} {next : Invalidation} (ht : s.calls t = .invalidating next)
    (hrec : s.channel.reconnecting = false) (hnew : s.streams s.opened = .empty) :
    Recovers P cfg cloud s := by
  have hcalls : ∀ (s' : State) (pc : CallPc), (s'.setCall t pc).calls t = pc := by
    simp [State.setCall]
  have hrestart : ∀ {s' : State}, s'.calls t = .invalidating .restart →
      s'.channel.reconnecting = false → s'.streams s'.opened = .empty →
        Recovers P cfg cloud s' := by
    intro s' ht' hrec' hnew'
    refine .of_step (.move t) trivial ?_
    simp only [Wire.step, ht', Wire.callMove, hauto, if_true, restart_of_not_reconnecting hrec']
    exact .loop hP hreg hgid hid hpin hne hnonce (i := s'.started) (by simp [State.setCall]) hnew'
  have hstate : ∀ {s' : State}, s'.calls t = .invalidating .state →
      s'.channel.reconnecting = false → s'.streams s'.opened = .empty →
        Recovers P cfg cloud s' := by
    intro s' ht' hrec' hnew'
    refine .of_step (.move t) trivial ?_
    simp only [Wire.step, ht', Wire.callMove]
    exact hrestart (hcalls _ _) hrec' hnew'
  have hkey' : ∀ {s' : State}, s'.calls t = .invalidating .key →
      s'.channel.reconnecting = false → s'.streams s'.opened = .empty →
        Recovers P cfg cloud s' := by
    intro s' ht' hrec' hnew'
    refine .of_step (.move t) trivial ?_
    simp only [Wire.step, ht', Wire.callMove]
    exact hstate (hcalls _ _) hrec' hnew'
  cases next with
  | sock =>
    refine .of_step (.move t) trivial ?_
    simp only [Wire.step, ht, Wire.callMove]
    exact hkey' (hcalls _ _) hrec hnew
  | key => exact hkey' ht hrec hnew
  | state => exact hstate ht hrec hnew
  | restart => exact hrestart ht hrec hnew

/-- **Recovery**: from every state that the threads can reach, they can go on to a usable channel,
with the cloud at the other end, exactly where it is not wedged: there is a socket, a thread that
still works on a session, or a call that takes one down. -/
theorem recovers_iff (τ : List Event) :
    Recovers P cfg cloud (run (Wire.step P cfg) initial τ) ↔
      ¬ Wedged (run (Wire.step P cfg) initial τ) := by
  have hok := ok_run P cfg τ
  have hawake := awake_run P cfg τ
  generalize run (Wire.step P cfg) initial τ = s at hok hawake
  constructor
  · rintro ⟨τ', -, hτ'⟩ hwedged
    have hsock := (hwedged.run P cfg τ').sock
    simp [CloudChannel.isEstablished, hsock] at hτ'
  · intro hwedged
    rcases hsock : s.channel.sock with _ | k
    · by_cases hthreads : ∃ i, (s.threads i).working = true
      · obtain ⟨i, hi⟩ := hthreads
        exact .working hP hreg hgid hid hpin hne hnonce hok hi
      have hthreads' : ∀ i, (s.threads i).working = false := fun i => by
        simpa using not_exists.1 hthreads i
      -- it is a call that is not finished, and it takes the session down
      have hcalls : ∃ t, (s.calls t).restarts = true := by
        by_contra hcalls
        exact hwedged ⟨hsock, hthreads', fun t => by simpa using not_exists.1 hcalls t⟩
      obtain ⟨t, ht⟩ := hcalls
      have hcall := hok.calls t
      cases hpc : s.calls t with
      | sending k m rest =>
        rw [hpc] at hcall
        rw [hcall.2.1] at hsock
        cases hsock
      | invalidating next =>
        rw [hpc] at hcall
        have hlate : ∀ i, (s.threads i).late = true := by
          cases next with
          | sock =>
            rw [CallOk, hsock] at hcall
            cases hcall
          | _ => exact hcall.2
        obtain ⟨τ', hmoves, hclear, hstays⟩ := hawake.exists_clear P cfg hlate
        have halong : Along (Wire.step P cfg) (WithCloud cloud) s τ' := by
          refine along_of_forall fun s' ev hev => ?_
          obtain ⟨j, rfl⟩ := hmoves ev hev
          exact trivial
        have hpc' : (run (Wire.step P cfg) s τ').calls t = .invalidating next := by
          rw [hstays]
          exact hpc
        have hnew := ((hok.run τ').streams _).unopened le_rfl
        exact .of_run halong (.invalidating hP hreg hgid hid hpin hne hnonce hauto hpc' hclear hnew)
      | _ =>
        rw [hpc] at ht
        cases ht
    · obtain ⟨sid, key, -, -, hsession⟩ := (hok.session k hsock).session
      rcases hawake.declared (by rw [hsock]; exact fun h => by cases h) with hest | ⟨i, hi⟩
      · exact ⟨[], trivial, by simp [CloudChannel.isEstablished, hest, hsock, hsession]⟩
      · exact .publishState hi (by rw [hsock]; rfl) (by rw [hsession]; rfl)

end Cloud

/-- The cloud at which the gateway of the demo is registered. -/
def demoCloudConfig : Cloud.CloudConfig Framing.demoPrimitives where
  cloudId := lit "cloud-01"
  privateKey := []
  gatewayKeys :=
    { keys id := if id = lit "gw-01" then some demoConfig.gatewayKey else none
      key_len {id k} h := by
        split_ifs at h
        cases h
        rfl }

/-- The gateway that has lost its connection twice recovers. -/
theorem recovers_of_broken :
    Recovers Framing.demoPrimitives demoConfig demoCloudConfig demoEnd := by
  have hlawful : Framing.demoPrimitives.Lawful := octets_lawful _
  have hreg : demoCloudConfig.gatewayKeys.keys demoConfig.gatewayId
      = some demoConfig.gatewayKey := rfl
  have hpin : demoConfig.pin
      = publicKeyFingerprint Framing.demoPrimitives demoCloudConfig.publicKeyRaw := rfl
  have hnonce : Framing.demoPrimitives.len (List.replicate nonceLength 3) = nonceLength := rfl
  refine (recovers_iff hlawful hreg (by decide) (show lit "cloud-01" ≠ [] by decide) hpin
    (by decide) hnonce rfl demoEvents).2 fun hwedged => ?_
  have hfailing : ((run (Wire.step Framing.demoPrimitives demoConfig) initial
      demoEvents).threads 0).working = true := by decide +kernel
  rw [hwedged.threads 0] at hfailing
  cases hfailing

end PqcBridge.Gateway.Wire
