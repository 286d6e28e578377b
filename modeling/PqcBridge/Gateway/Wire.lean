/-
The bytes that the threads of the gateway put on their sockets.

`sendall` hands its bytes to the kernel piece by piece, and other threads run in between.
Here a call of `send_reading` and an attempt of `connect_and_establish` are taken apart as
far as the interpreter can: every read and every write of an attribute is a step, and so are
every counter, taking and releasing `_send_lock`, and every piece of a `sendall`.  A stream
records the messages whose `sendall` has returned beside the bytes that are on it.

* `send_section`: the section under `_send_lock`, left alone, is `sendPayload`.
-/
import PqcBridge.Common.Framing
import PqcBridge.Gateway.CloudChannel
import PqcBridge.Lib.Frames
import PqcBridge.Lib.Run

namespace PqcBridge.Gateway.Wire

open Python Protocol Crypto Runs Frames Framing

/-! ### The threads -/

/-- The attribute that `is_established` reads next. -/
inductive Check where
  | state
  | sock
  | key

/-- One read of `is_established`: what is read next, or the answer. -/
def Check.read (ch : CloudChannel Octets) : Check → Check ⊕ Bool
  | .state => if ch.state = .established then .inl .sock else .inr false
  | .sock => if ch.sock.isSome then .inl .key else .inr false
  | .key => .inr ch.sessionKey.isSome

/-- What `_invalidate` does next. -/
inductive Invalidation where
  | sock
  | key
  | state
  /-- `_start_reconnect` -/
  | restart

/-- Where a call of `send_reading` stands. -/
inductive CallPc where
  /-- no call is running -/
  | idle
  /-- in `is_established` -/
  | checking (readingBytes : Octets) (next : Check)
  /-- before `session_key` is read -/
  | checked (readingBytes : Octets)
  /-- before `session_id` is read -/
  | keyed (readingBytes : Octets) (sessionKey : Option Octets)
  /-- before `_send_lock` -/
  | built (payload : JsonDict)
  /-- with the lock, before `_sock` is read -/
  | locked (payload : JsonDict)
  /-- in `sendall`, with `rest` left to write -/
  | sending (sock : ℕ) (payload : JsonDict) (rest : Octets)
  /-- in `_invalidate` -/
  | invalidating (next : Invalidation)
  /-- before the lock is released -/
  | unlocking

/-- What `secrets.token_hex(8)` returns. -/
structure Token where
  text : PyStr
  hex : text.length = 16 ∧ ∀ c ∈ text, ∃ n < 16, c = hexDigit n

/-- An attempt that has connected. -/
structure Conn where
  sock : ℕ
  sessionId : Token

/-- Where a thread of `connect_and_establish` stands. -/
inductive ThreadPc where
  | stopped
  /-- the top of the loop: `CONNECTING` -/
  | loop
  /-- `create_connection`, and then `ESTABLISHING` -/
  | connect
  /-- `sendall` of the request -/
  | sendRequest (a : Conn) (request : JsonDict) (rest : Octets)
  /-- `read_message` of the public key -/
  | pubkey (a : Conn)
  /-- `sendall` of the ciphertext -/
  | sendEncaps (a : Conn) (sharedSecret : Octets) (message : JsonDict) (rest : Octets)
  /-- `read_message` of `mlkem_established` -/
  | established (a : Conn) (sharedSecret : Octets)
  | publishKey (a : Conn) (sessionKey : Octets)
  | publishId (a : Conn)
  /-- `inc("mlkem_sessions_established")` -/
  | countSession (a : Conn)
  | publishSock (a : Conn)
  /-- `ESTABLISHED` -/
  | publishState
  /-- the `except` clause: `inc("errors")` -/
  | failing (e : PyExc)
  /-- `FAILED` -/
  | publishFailed
  /-- `DISCONNECTED` -/
  | disconnecting
  /-- the `finally` block of `_reconnect_loop` -/
  | finishing

/-- The channel with its threads and sockets.  `started` threads have been started and
`opened` sockets have been connected; `sessions` records what was negotiated on a socket. -/
structure State where
  channel : CloudChannel Octets
  lock : Option ℕ
  calls : ℕ → CallPc
  threads : ℕ → ThreadPc
  started : ℕ
  opened : ℕ
  streams : ℕ → Pipe JsonDict UInt8
  sessions : ℕ → Option (PyStr × Octets)

/-- What happens to a thread of `connect_and_establish`. -/
inductive ThreadEvent where
  /-- a step that needs nothing from outside -/
  | move
  /-- `create_connection` ends; the session id and the nonce are drawn -/
  | connect (io : IoOutcome) (sessionId : Token) (nonce : Octets)
  /-- `sendall` hands over `n` bytes -/
  | write (n : ℕ)
  /-- `sendall` raises `OSError` -/
  | fail (msg : PyStr)
  /-- `read_message` ends; the coins of an encapsulation are drawn -/
  | reply (o : ReadOutcome) (coins : Octets)

/-- Which thread moves, and what the environment does. -/
inductive Event where
  /-- thread `t` calls `send_reading` -/
  | call (t : ℕ) (readingBytes : Octets)
  /-- its call makes a step that needs nothing from outside -/
  | move (t : ℕ)
  /-- its call reads `session_id` and builds the payload -/
  | build (t : ℕ) (nonce : Octets)
  /-- its `sendall` hands over `n` bytes -/
  | write (t n : ℕ)
  /-- its `sendall` raises `OSError` -/
  | fail (t : ℕ)
  /-- thread `i` of `connect_and_establish` makes a step -/
  | thread (i : ℕ) (ev : ThreadEvent)

/-! ### The steps -/

variable (P : Primitives Octets) (cfg : GatewayConfig Octets)

namespace State

/-- The stream of a socket changes. -/
def setStream (s : State) (k : ℕ) (stream : Pipe JsonDict UInt8) : State :=
  { s with streams := Function.update s.streams k stream }

/-- A `sendall` of `m` on socket `k` hands over `n` bytes of the `rest`.  With the last one it
returns. -/
def write (s : State) (k : ℕ) (m : JsonDict) (rest : Octets) (n : ℕ) : State :=
  if rest.drop n = [] then s.setStream k (((s.streams k).put (rest.take n)).finish m)
  else s.setStream k ((s.streams k).put (rest.take n))

/-- The channel changes. -/
def setChannel (s : State) (ch : CloudChannel Octets) : State := { s with channel := ch }

/-- `_start_reconnect`. -/
def restart (s : State) : State :=
  if (startReconnect s.channel).2 then
    { s with
      channel := (startReconnect s.channel).1
      threads := Function.update s.threads s.started .loop
      started := s.started + 1 }
  else s

/-- A call moves on. -/
def setCall (s : State) (t : ℕ) (pc : CallPc) : State :=
  { s with calls := Function.update s.calls t pc }

/-- A thread moves on. -/
def setThread (s : State) (i : ℕ) (pc : ThreadPc) : State :=
  { s with threads := Function.update s.threads i pc }

end State

/-- A step of a call that needs nothing from outside.  An exception ends the call. -/
def callMove (s : State) (t : ℕ) : CallPc → State × CallPc
  | .checking readingBytes next =>
    match next.read s.channel with
    | .inl next => (s, .checking readingBytes next)
    | .inr true => (s, .checked readingBytes)
    | .inr false => (s, .idle)
  | .checked readingBytes => (s, .keyed readingBytes s.channel.sessionKey)
  | .built payload =>
    match s.lock with
    | none => ({ s with lock := some t }, .locked payload)
    | some _ => (s, .built payload)
  | .locked payload =>
    match s.channel.sock with
    | none => (s, .unlocking)
    | some sock => (s, .sending sock payload (encodeBytes P payload))
  | .invalidating .sock => (s.setChannel { s.channel with sock := none }, .invalidating .key)
  | .invalidating .key => (s.setChannel { s.channel with sessionKey := none }, .invalidating .state)
  | .invalidating .state =>
    (s.setChannel { s.channel with state := .failed }, .invalidating .restart)
  | .invalidating .restart => (if cfg.autoReconnect then s.restart else s, .unlocking)
  | .unlocking => ({ s with lock := none }, .idle)
  | pc => (s, pc)

/-- The two `sendall`s of an attempt, and what is left of the attempt afterwards. -/
def threadWrite (s : State) (n : ℕ) : ThreadPc → State × ThreadPc
  | .sendRequest a m rest =>
    (s.write a.sock m rest n,
      if rest.drop n = [] then .pubkey a else .sendRequest a m (rest.drop n))
  | .sendEncaps a secret m rest =>
    (s.write a.sock m rest n,
      if rest.drop n = [] then .established a secret else .sendEncaps a secret m (rest.drop n))
  | pc => (s, pc)

/-- A step of thread `i`.  The main thread has no flag to clear at the end. -/
def threadStep (s : State) (i : ℕ) : ThreadPc → ThreadEvent → State × ThreadPc
  | .loop, .move => (s.setChannel { s.channel with state := .connecting }, .connect)
  | .connect, .connect io sessionId nonce =>
    match io.result with
    | .error e => (s, .failing e)
    | .ok () =>
      let s' := { s with opened := s.opened + 1 }.setChannel
        { s.channel with state := .establishing }
      match requestMessage P cfg nonce with
      | .error e => (s', .failing e)
      | .ok m => (s', .sendRequest ⟨s.opened, sessionId⟩ m (encodeBytes P m))
  | .pubkey a, .reply o coins =>
    match o.result >>= acceptPubkeyReply P cfg with
    | .error e => (s, .failing e)
    | .ok publicKey =>
      let m := encapsMessage P cfg a.sessionId.text (mlkemEncapsulate P publicKey coins).2
      (s, .sendEncaps a (mlkemEncapsulate P publicKey coins).1 m (encodeBytes P m))
  | .established a secret, .reply o _ =>
    match o.result >>= fun reply => parseMlkemEstablishedReply reply a.sessionId.text with
    | .error e => (s, .failing e)
    | .ok () =>
      ({ s with sessions :=
          Function.update s.sessions a.sock (some (a.sessionId.text, deriveSessionKey P secret)) },
        .publishKey a (deriveSessionKey P secret))
  | .publishKey a key, .move =>
    (s.setChannel { s.channel with sessionKey := some key }, .publishId a)
  | .publishId a, .move =>
    (s.setChannel { s.channel with sessionId := some a.sessionId.text }, .countSession a)
  | .countSession a, .move =>
    (s.setChannel { s.channel with
        metrics := s.channel.metrics.inc .mlkemSessionsEstablished },
      .publishSock a)
  | .publishSock a, .move => (s.setChannel { s.channel with sock := some a.sock }, .publishState)
  | .publishState, .move => (s.setChannel { s.channel with state := .established }, .finishing)
  | .failing e, .move =>
    if retried e then
      (s.setChannel { s.channel with metrics := s.channel.metrics.inc .errors }, .publishFailed)
    else (s, .finishing)
  | .publishFailed, .move => (s.setChannel { s.channel with state := .failed }, .disconnecting)
  | .disconnecting, .move => (s.setChannel { s.channel with state := .disconnected }, .loop)
  | .finishing, .move =>
    if i = 0 then (s, .stopped)
    else (s.setChannel { s.channel with reconnecting := false }, .stopped)
  | .sendRequest _ _ _, .fail msg => (s, .failing ⟨.osError, msg⟩)
  | .sendEncaps _ _ _ _, .fail msg => (s, .failing ⟨.osError, msg⟩)
  | pc, .write n => threadWrite s n pc
  | pc, _ => (s, pc)

/-- One step of one thread.  No device is served before the main thread has made the first
session. -/
def step (s : State) : Event → State
  | .call t readingBytes =>
    match s.calls t, s.threads 0 with
    | .idle, .stopped => s.setCall t (.checking readingBytes .state)
    | _, _ => s
  | .move t => (callMove P cfg s t (s.calls t)).1.setCall t (callMove P cfg s t (s.calls t)).2
  | .build t nonce =>
    match s.calls t with
    | .keyed readingBytes sessionKey =>
      -- the key is the one that was read before, the id is read now
      match buildPayload P { s.channel with sessionKey := sessionKey } readingBytes nonce with
      | .ok payload => s.setCall t (.built payload)
      | .error _ => s.setCall t .idle
    | _ => s
  | .write t n =>
    match s.calls t with
    | .sending sock payload rest =>
      (s.write sock payload rest n).setCall t
        (if rest.drop n = [] then .unlocking else .sending sock payload (rest.drop n))
    | _ => s
  | .fail t =>
    match s.calls t with
    | .sending _ _ _ => s.setCall t (.invalidating .sock)
    | _ => s
  | .thread i ev =>
    (threadStep P cfg s i (s.threads i) ev).1.setThread i (threadStep P cfg s i (s.threads i) ev).2

/-- A gateway that has just started: the main thread is about to make the first session. -/
def initial : State where
  channel := .new
  lock := none
  calls := fun _ => .idle
  threads := Function.update (fun _ => .stopped) 0 .loop
  started := 1
  opened := 0
  streams := fun _ => .empty
  sessions := fun _ => none

/-! ### The section under the lock -/

/-- The call that the step belongs to. -/
def Event.caller : Event → Option ℕ
  | .call t _ => some t
  | .move t => some t
  | .build t _ => some t
  | .write t _ => some t
  | .fail t => some t
  | .thread _ _ => none

variable {P cfg} {s : State} {t : ℕ} {payload : JsonDict}

/-- **The steps of a call in the section, left alone, are the section**: they do to the channel
what `sendPayload` does, start a thread where it does, and release the lock. -/
theorem send_section (hpc : s.calls t = .built payload) (hlock : s.lock = none) (io : IoOutcome) :
    ∃ τ, (∀ ev ∈ τ, Event.caller ev = some t) ∧
      (run (step P cfg) s τ).channel = (sendPayload cfg s.channel io).1.1 ∧
      (run (step P cfg) s τ).started
        = s.started + (if (sendPayload cfg s.channel io).1.2 then 1 else 0) ∧
      (run (step P cfg) s τ).lock = none ∧ (run (step P cfg) s τ).calls t = .idle := by
  rcases hsock : s.channel.sock with _ | k
  · -- `None` has no `sendall`
    refine ⟨[.move t, .move t, .move t], by simp [Event.caller], ?_⟩
    simp [sendPayload, hsock, step, callMove, hpc, hlock, State.setCall]
  · cases io with
    | ok =>
      refine ⟨[.move t, .move t, .write t (encodeBytes P payload).length, .move t],
        by simp [Event.caller], ?_⟩
      simp [sendPayload, hsock, step, callMove, hpc, hlock, State.setCall, State.write,
        State.setStream]
    | osError msg =>
      refine ⟨[.move t, .move t, .fail t, .move t, .move t, .move t, .move t, .move t],
        by simp [Event.caller], ?_⟩
      rcases hauto : cfg.autoReconnect with _ | _ <;>
        rcases hrec : s.channel.reconnecting with _ | _ <;>
        simp [sendPayload, invalidate, startReconnect, hsock, hauto, hrec, step, callMove, hpc,
          hlock, State.setCall, State.setChannel, State.restart]

end PqcBridge.Gateway.Wire
