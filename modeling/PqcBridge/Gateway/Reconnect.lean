/-
Senders and reconnect threads on one channel.

Any number of threads call `send_reading` while a reconnect thread may be running.  The
atomic steps are the check of `is_established`, the building of the payload, the section
under `_send_lock`, and every single attribute write of the reconnect thread; `step` lets
the threads take them in any order.

* `reconnect_attempt`: left alone, the steps of a reconnect thread are one pass of the
  loop of `connect_and_establish`;
* `channel_never_wedges`: while no `sendall` fails before the last reconnect thread has
  cleared `_reconnecting`, a channel at rest is usable.  A failure in that window takes
  the new session down and starts no thread to replace it.
-/
import PqcBridge.Handshake.Honest

namespace PqcBridge.Gateway

open Python Protocol Crypto Runs Handshake

variable {B : Type}

/-! ### The threads -/

/-- Where a call of `send_reading` stands. -/
inductive SenderPc (B : Type) where
  /-- no call is running -/
  | idle
  /-- the check has passed -/
  | checked (readingBytes : B)
  /-- the payload is built -/
  | built (payload : JsonDict)

/-- Where a reconnect thread stands, by the write it does next. -/
inductive ReconnectPc (B : Type) where
  /-- the thread has not been started or has finished -/
  | stopped
  /-- the top of the loop: `CONNECTING` -/
  | loop
  /-- `create_connection`, and then `ESTABLISHING` -/
  | connect
  /-- the exchange of `_establish_once` -/
  | exchanging (a : Attempt B)
  | publishKey (sessionId : PyStr) (sessionKey : B) (sock : ℕ)
  | publishId (sessionId : PyStr) (sock : ℕ)
  | publishSock (sock : ℕ)
  /-- `ESTABLISHED` -/
  | publishState
  /-- the `except` clause: `FAILED` -/
  | failing (e : PyExc)
  /-- `DISCONNECTED` -/
  | disconnecting
  /-- the `finally` block of `_reconnect_loop` -/
  | finishing

variable (P : Primitives B) (cfg : GatewayConfig B)

/-- One atomic step of a reconnect thread; `a` is what happens in the attempt that it
begins. -/
def reconnectStep (ch : CloudChannel B) (pc : ReconnectPc B) (a : Attempt B) :
    CloudChannel B × ReconnectPc B :=
  match pc with
  | .stopped => (ch, .stopped)
  | .loop => ({ ch with state := .connecting }, .connect)
  | .connect =>
    match a.connect.result with
    | .error e => (ch, .failing e)
    | .ok () => ({ ch with state := .establishing }, .exchanging a)
  | .exchanging a =>
    match exchange P cfg a with
    | .error e => (ch, .failing e)
    | .ok sharedSecret => (ch, .publishKey a.sessionId (deriveSessionKey P sharedSecret) a.sock)
  | .publishKey sessionId sessionKey sock =>
    ({ ch with sessionKey := some sessionKey }, .publishId sessionId sock)
  | .publishId sessionId sock =>
    ({ ch with sessionId := some sessionId, metrics := ch.metrics.inc .mlkemSessionsEstablished },
      .publishSock sock)
  | .publishSock sock => ({ ch with sock := some sock }, .publishState)
  | .publishState => ({ ch with state := .established }, .finishing)
  | .failing e =>
    if retried e then
      ({ ch with metrics := ch.metrics.inc .errors, state := .failed }, .disconnecting)
    else (ch, .finishing)
  | .disconnecting => ({ ch with state := .disconnected }, .loop)
  | .finishing => ({ ch with reconnecting := false }, .stopped)

/-- The channel and its threads; `started` reconnect threads have been started. -/
structure ChannelSystem (B : Type) where
  channel : CloudChannel B
  senders : ℕ → SenderPc B
  reconnects : ℕ → ReconnectPc B
  started : ℕ

/-- Which thread moves, and what the environment does. -/
inductive ChannelEvent (B : Type) where
  /-- sender `t` calls `send_reading`, up to the check -/
  | call (t : ℕ) (readingBytes : B)
  /-- sender `t` builds its payload -/
  | build (t : ℕ) (nonce : B)
  /-- sender `t` runs the section under `_send_lock` -/
  | send (t : ℕ) (io : IoOutcome)
  /-- reconnect thread `i` makes a step -/
  | reconnect (i : ℕ) (a : Attempt B)

namespace ChannelSystem

/-- A sender moves on. -/
def setSender (s : ChannelSystem B) (t : ℕ) (pc : SenderPc B) : ChannelSystem B :=
  { s with senders := Function.update s.senders t pc }

/-- The channel after the section under `_send_lock`, with the reconnect thread that was
started in it. -/
def afterSend (s : ChannelSystem B) (ch : CloudChannel B) (starts : Bool) : ChannelSystem B :=
  if starts then
    { s with
      channel := ch
      reconnects := Function.update s.reconnects s.started .loop
      started := s.started + 1 }
  else { s with channel := ch }

/-- One atomic step of one thread. -/
def step (s : ChannelSystem B) : ChannelEvent B → ChannelSystem B
  | .call t readingBytes =>
    match s.senders t, checkEstablished s.channel with
    | .idle, .ok () => s.setSender t (.checked readingBytes)
    | _, _ => s
  | .build t nonce =>
    match s.senders t with
    | .checked readingBytes =>
      match buildPayload P s.channel readingBytes nonce with
      | .ok payload => s.setSender t (.built payload)
      | .error _ => s.setSender t .idle
    | _ => s
  | .send t io =>
    match s.senders t with
    | .built _ =>
      (s.afterSend (sendPayload cfg s.channel io).1.1 (sendPayload cfg s.channel io).1.2).setSender
        t .idle
    | _ => s
  | .reconnect i a =>
    { s with
      channel := (reconnectStep P cfg s.channel (s.reconnects i) a).1
      reconnects := Function.update s.reconnects i
        (reconnectStep P cfg s.channel (s.reconnects i) a).2 }

/-- A channel on which no thread is running. -/
def start (ch : CloudChannel B) : ChannelSystem B := ⟨ch, fun _ => .idle, fun _ => .stopped, 0⟩

/-- No thread is inside `send_reading`, and no reconnect thread is running. -/
def Quiescent (s : ChannelSystem B) : Prop :=
  (∀ t, s.senders t = .idle) ∧ ∀ i, s.reconnects i = .stopped

end ChannelSystem

/-! ### A reconnect thread on its own -/

variable {P cfg}

/-- A reconnect thread that is left alone, for one attempt. -/
def reconnectRun (P : Primitives B) (cfg : GatewayConfig B) (a : Attempt B) (n : ℕ)
    (x : CloudChannel B × ReconnectPc B) : CloudChannel B × ReconnectPc B :=
  (fun x => reconnectStep P cfg x.1 x.2 a)^[n] x

/-- **The steps of a reconnect thread are one pass of the loop.**  Left alone, it
publishes what `_establish_once` publishes and ends as `ESTABLISHED`, or it comes back to
the top of the loop as the `except` clause leaves it. -/
theorem reconnect_attempt (a : Attempt B) (ch : CloudChannel B) :
    match establishOnce P cfg { ch with state := .connecting } a with
    | (ch', .ok ()) => ∃ n, reconnectRun P cfg a n (ch, .loop)
        = ({ ch' with state := .established }, .finishing)
    | (ch', .error e) => retried e = true →
        ∃ n, reconnectRun P cfg a n (ch, .loop) = (attemptFailed ch', .loop) := by
  rcases hc : a.connect with _ | msg
  · rcases hx : exchange P cfg a with e | secret
    · simp only [establishOnce, hc, IoOutcome.result, hx]
      intro he
      refine ⟨5, ?_⟩
      simp [reconnectRun, reconnectStep, hc, IoOutcome.result, hx, he, attemptFailed]
    · simp only [establishOnce, hc, IoOutcome.result, hx]
      refine ⟨7, ?_⟩
      simp [reconnectRun, reconnectStep, hc, IoOutcome.result, hx, publish]
  · simp only [establishOnce, hc, IoOutcome.result, raise]
    intro he
    refine ⟨4, ?_⟩
    simp [reconnectRun, reconnectStep, hc, IoOutcome.result, raise, he, attemptFailed]

/-! ### The invariant -/

/-- What the channel and a running reconnect thread know of each other: how much of the
new session is already published. -/
def ReconnectPc.Consistent (P : Primitives B) (cfg : GatewayConfig B) (ch : CloudChannel B) :
    ReconnectPc B → Prop
  | .stopped => False
  | .exchanging a => ∀ e, exchange P cfg a = .error e → retried e = true
  | .failing e => retried e = true
  | .publishId _ _ => ch.sessionKey.isSome = true
  | .publishSock _ => ch.sessionKey.isSome = true
  | .publishState => ch.sessionKey.isSome = true ∧ ch.sock.isSome = true
  | .finishing => ch.isEstablished = true
  | _ => True

/-- Every establishment attempt succeeds or raises an exception that
`connect_and_establish` catches. -/
def AttemptsRetried (P : Primitives B) (cfg : GatewayConfig B) (s : ChannelSystem B)
    (ev : ChannelEvent B) : Prop :=
  ∀ i a, ev = .reconnect i a → s.reconnects i = .connect →
    ∀ e, exchange P cfg a = .error e → retried e = true

/-- No `sendall` fails while a reconnect thread has not cleared `_reconnecting`. -/
def FailsOnlyAfterReconnect (s : ChannelSystem B) (ev : ChannelEvent B) : Prop :=
  ∀ t msg payload, ev = .send t (.osError msg) → s.senders t = .built payload →
    s.channel.sock.isSome = true → s.channel.reconnecting = false

/-- Either the channel is usable and no thread works on it, or the flag is set and
exactly one does. -/
def ChannelOk (P : Primitives B) (cfg : GatewayConfig B) (ch : CloudChannel B)
    (reconnects : ℕ → ReconnectPc B) : Prop :=
  ch.reconnecting = false ∧ ch.isEstablished = true ∧ (∀ i, reconnects i = .stopped) ∨
    ch.reconnecting = true ∧ ∃ i, (reconnects i).Consistent P cfg ch ∧
      ∀ j, j ≠ i → reconnects j = .stopped

/-- One step of a running thread keeps the two consistent, or ends the thread with the
flag cleared and the channel usable. -/
lemma reconnectStep_consistent {ch : CloudChannel B} {pc : ReconnectPc B} {a : Attempt B}
    (h : pc.Consistent P cfg ch) (hrec : ch.reconnecting = true)
    (ha : pc = .connect → ∀ e, exchange P cfg a = .error e → retried e = true) :
    ((reconnectStep P cfg ch pc a).1.reconnecting = true ∧
      (reconnectStep P cfg ch pc a).2.Consistent P cfg (reconnectStep P cfg ch pc a).1) ∨
    ((reconnectStep P cfg ch pc a).1.reconnecting = false ∧
      (reconnectStep P cfg ch pc a).1.isEstablished = true ∧
      (reconnectStep P cfg ch pc a).2 = .stopped) := by
  cases pc with
  | stopped => exact h.elim
  | loop => exact Or.inl ⟨hrec, trivial⟩
  | connect =>
    refine Or.inl ?_
    rcases hc : a.connect with _ | msg
    · simp only [reconnectStep, hc, IoOutcome.result]
      exact ⟨hrec, ha rfl⟩
    · simp only [reconnectStep, hc, IoOutcome.result, raise]
      exact ⟨hrec, retried_of_cls (Or.inl rfl)⟩
  | exchanging a' =>
    refine Or.inl ?_
    rcases hx : exchange P cfg a' with e | secret
    · simp only [reconnectStep, hx]
      exact ⟨hrec, h e hx⟩
    · simp only [reconnectStep, hx]
      exact ⟨hrec, trivial⟩
  -- the key, the id, the socket: the channel is established after the last of them
  | publishKey sid key sock => exact Or.inl ⟨hrec, rfl⟩
  | publishId sid sock => exact Or.inl ⟨hrec, h⟩
  | publishSock sock => exact Or.inl ⟨hrec, h, rfl⟩
  | publishState =>
    refine Or.inl ⟨hrec, ?_⟩
    obtain ⟨hkey, hsock⟩ := h
    simp [reconnectStep, ReconnectPc.Consistent, CloudChannel.isEstablished, hkey, hsock]
  | failing e =>
    have he : retried e = true := h
    refine Or.inl ?_
    simp only [reconnectStep, he, if_true]
    exact ⟨hrec, trivial⟩
  | disconnecting => exact Or.inl ⟨hrec, trivial⟩
  | finishing => exact Or.inr ⟨rfl, h, rfl⟩

/-- The steps of a reconnect thread. -/
lemma ChannelOk.reconnect {ch : CloudChannel B} {reconnects : ℕ → ReconnectPc B} {i : ℕ}
    {a : Attempt B} (h : ChannelOk P cfg ch reconnects)
    (ha : reconnects i = .connect → ∀ e, exchange P cfg a = .error e → retried e = true) :
    ChannelOk P cfg (reconnectStep P cfg ch (reconnects i) a).1
      (Function.update reconnects i (reconnectStep P cfg ch (reconnects i) a).2) := by
  by_cases hi : reconnects i = .stopped
  · -- nothing moves
    have hsame : Function.update reconnects i .stopped = reconnects := by
      rw [← hi, Function.update_eq_self]
    simp only [hi, reconnectStep, hsame]
    exact h
  rcases h with ⟨-, -, hall⟩ | ⟨hrec, k, hk, hothers⟩
  · exact absurd (hall i) hi
  obtain rfl : i = k := by
    by_contra hne
    exact hi (hothers i hne)
  have hstopped : ∀ pc, ∀ j, j ≠ i → Function.update reconnects i pc j = .stopped := by
    intro pc j hj
    rw [Function.update_of_ne hj]
    exact hothers j hj
  rcases reconnectStep_consistent hk hrec ha with ⟨hrec', hpc⟩ | ⟨hrec', hest, hpc⟩
  · refine Or.inr ⟨hrec', i, ?_, hstopped _⟩
    rw [Function.update_self]
    exact hpc
  · refine Or.inl ⟨hrec', hest, fun j => ?_⟩
    by_cases hj : j = i
    · rw [hj, Function.update_self]
      exact hpc
    · exact hstopped _ j hj

namespace ChannelSystem

@[simp] lemma setSender_channel (s : ChannelSystem B) (t : ℕ) (pc : SenderPc B) :
    (s.setSender t pc).channel = s.channel := rfl

@[simp] lemma setSender_reconnects (s : ChannelSystem B) (t : ℕ) (pc : SenderPc B) :
    (s.setSender t pc).reconnects = s.reconnects := rfl

/-- The section under `_send_lock`. -/
lemma channelOk_send (hauto : cfg.autoReconnect = true) {s : ChannelSystem B}
    (h : ChannelOk P cfg s.channel s.reconnects) {io : IoOutcome}
    (hfail : ∀ msg, io = .osError msg → s.channel.sock.isSome = true →
      s.channel.reconnecting = false) :
    ChannelOk P cfg
      (s.afterSend (sendPayload cfg s.channel io).1.1 (sendPayload cfg s.channel io).1.2).channel
      (s.afterSend (sendPayload cfg s.channel io).1.1
        (sendPayload cfg s.channel io).1.2).reconnects := by
  rcases hsock : s.channel.sock with _ | k
  · simpa [sendPayload, hsock, afterSend] using h
  rcases io with _ | msg
  · simpa [sendPayload, hsock, afterSend] using h
  -- the failure: no thread is running, and one is started
  have hrec : s.channel.reconnecting = false := hfail msg rfl (by rw [hsock]; rfl)
  rcases h with ⟨-, -, hall⟩ | ⟨hrec', -⟩
  · simp only [sendPayload, hsock, invalidate, hauto, startReconnect, hrec, afterSend, if_true]
    refine Or.inr ⟨rfl, s.started, ?_, fun j hj => ?_⟩
    · show (Function.update s.reconnects s.started .loop s.started).Consistent P cfg _
      rw [Function.update_self]
      trivial
    · show Function.update s.reconnects s.started .loop j = .stopped
      rw [Function.update_of_ne hj]
      exact hall j
  · rw [hrec] at hrec'
    cases hrec'

/-- The step lemma. -/
lemma channelOk_step (hauto : cfg.autoReconnect = true) {s : ChannelSystem B}
    (h : ChannelOk P cfg s.channel s.reconnects) {ev : ChannelEvent B}
    (hretried : AttemptsRetried P cfg s ev) (hfail : FailsOnlyAfterReconnect s ev) :
    ChannelOk P cfg (step P cfg s ev).channel (step P cfg s ev).reconnects := by
  cases ev with
  | call t readingBytes =>
    simp only [step]
    split <;> exact h
  | build t nonce =>
    simp only [step]
    split
    · split <;> exact h
    · exact h
  | send t io =>
    simp only [step]
    split
    · next payload hp =>
      exact channelOk_send hauto h fun msg hmsg hsock => hfail t msg payload (by rw [hmsg]) hp hsock
    · exact h
  | reconnect i a => exact h.reconnect (hretried i a rfl)

end ChannelSystem

open ChannelSystem

/-- **The cloud channel never wedges**, in any state of any run in which no `sendall`
fails while a reconnect thread has not yet cleared `_reconnecting`. -/
theorem channel_never_wedges (hauto : cfg.autoReconnect = true) {ch : CloudChannel B}
    (hest : ch.isEstablished = true) (hrec : ch.reconnecting = false) {τ : List (ChannelEvent B)}
    (hretried : Along (step P cfg) (AttemptsRetried P cfg) (start ch) τ)
    (hfail : Along (step P cfg) FailsOnlyAfterReconnect (start ch) τ)
    (hquiet : (run (step P cfg) (start ch) τ).Quiescent) :
    (run (step P cfg) (start ch) τ).channel.isEstablished = true := by
  have hboth : Along (step P cfg)
      (fun s ev => AttemptsRetried P cfg s ev ∧ FailsOnlyAfterReconnect s ev) (start ch) τ :=
    along_and.2 ⟨hretried, hfail⟩
  have hok : ChannelOk P cfg (run (step P cfg) (start ch) τ).channel
      (run (step P cfg) (start ch) τ).reconnects :=
    inv_run (J := fun s => ChannelOk P cfg s.channel s.reconnects)
      (fun _ _ h hev => channelOk_step hauto h hev.1 hev.2)
      (Or.inl ⟨hrec, hest, fun _ => rfl⟩) hboth
  rcases hok with ⟨-, hest', -⟩ | ⟨-, i, hi, -⟩
  · exact hest'
  · rw [hquiet.2 i] at hi
    exact hi.elim

/-! ### The demo -/

/-- Sender 0 sends one reading, and its `sendall` fails. -/
def failedSend : List (ChannelEvent Bytes) :=
  [.call 0 (.data (.record 0)), .build 0 (Demo.nonce 0),
    .send 0 (.osError (lit "[Errno 32] Broken pipe"))]

/-- Reconnect thread `i` makes all steps of one successful attempt but its last one. -/
def reconnected (i : ℕ) : List (ChannelEvent Bytes) :=
  List.replicate 7 (.reconnect i (demoAttempt (fun _ => none) 1))

lemma attemptsRetried_demo {τ : List (ChannelEvent Bytes)}
    (h : ∀ i a, .reconnect i a ∈ τ → a = demoAttempt (fun _ => none) 1)
    {s : ChannelSystem Bytes} :
    Along (step (ideal fun _ => none) demoGateway)
      (AttemptsRetried (ideal fun _ => none) demoGateway) s τ := by
  refine along_of_forall fun s ev hev i a hreconnect _ e he => ?_
  rw [hreconnect] at hev
  rw [h i a hev, exchange_demoAttempt] at he
  cases he

/-- A failed send, and a reconnect that runs to its end. -/
theorem channel_recovers :
    (run (step (ideal fun _ => none) demoGateway) (start demoChannel)
      (failedSend ++ reconnected 0
        ++ [.reconnect 0 (demoAttempt (fun _ => none) 1)])).channel.isEstablished = true := by
  refine channel_never_wedges rfl rfl rfl (attemptsRetried_demo fun i a h => ?_)
    (along_append.2 ⟨along_append.2 ⟨?_, ?_⟩, ?_⟩) ⟨fun t => ?_, fun i => ?_⟩
  · have hi : i = 0 ∧ a = demoAttempt (fun _ => none) 1 := by
      simpa [failedSend, reconnected] using h
    exact hi.2
  · exact ⟨nofun, nofun, fun _ _ _ _ _ _ => rfl, trivial⟩
  · refine along_of_forall fun s ev hev => ?_
    rw [List.eq_of_mem_replicate hev]
    nofun
  · exact ⟨nofun, trivial⟩
  · rcases t with _ | t <;> rfl
  · rcases i with _ | i <;> rfl

/-- A second failure, after the new session is up but before its thread has cleared the
flag, is the last one: every thread has come to rest, and the channel stays unusable. -/
theorem channel_wedges :
    Along (step (ideal fun _ => none) demoGateway)
      (AttemptsRetried (ideal fun _ => none) demoGateway) (start demoChannel)
      (failedSend ++ reconnected 0 ++ failedSend
        ++ [.reconnect 0 (demoAttempt (fun _ => none) 1)]) ∧
    (run (step (ideal fun _ => none) demoGateway) (start demoChannel)
      (failedSend ++ reconnected 0 ++ failedSend
        ++ [.reconnect 0 (demoAttempt (fun _ => none) 1)])).Quiescent ∧
    (run (step (ideal fun _ => none) demoGateway) (start demoChannel)
      (failedSend ++ reconnected 0 ++ failedSend
        ++ [.reconnect 0 (demoAttempt (fun _ => none) 1)])).channel.isEstablished = false := by
  refine ⟨attemptsRetried_demo fun i a h => ?_, ⟨fun t => ?_, fun i => ?_⟩, rfl⟩
  · have hi : i = 0 ∧ a = demoAttempt (fun _ => none) 1 := by
      simpa [failedSend, reconnected] using h
    exact hi.2
  · rcases t with _ | t <;> rfl
  · rcases i with _ | i <;> rfl

end PqcBridge.Gateway
