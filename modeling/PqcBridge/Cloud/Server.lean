/-
The gateway-facing server of the cloud (`cloud/cloud.py`).

A connection is served by `CloudServer._handle`, which runs `_establish_session` and
then `_receive_readings`.  The handler is modelled as a machine that stops where another
thread can come in between or where the peer decides what happens: at the reads of the
stream, at the two `sendall`s, before `store.add` and the two statements that follow it, and
at the `finally` block.  `Phase` says where a handler stands, `ConnEvent` what happens to it
next, and `handlerStep` runs the code up to the next stop.  `step` lets any number of
handlers work on one server in any order.
-/
import PqcBridge.Cloud.Processing
import PqcBridge.Cloud.Store
import PqcBridge.Common.Metrics
import PqcBridge.Common.Replay

namespace PqcBridge.Cloud

open Python Protocol Crypto

variable {B : Type}

/-! ### The state of the server -/

/-- What the registry holds for a session id.  `addedBy` records the connection whose
handler added the entry; the program does not look at it. -/
structure Session (B : Type) where
  sessionKey : B
  gatewayId : PyStr
  addedBy : ℕ

/-- `SessionRegistry`. -/
abbrev SessionRegistry (B : Type) : Type := PyStr → Option (Session B)

namespace SessionRegistry

/-- `add`. -/
def add (r : SessionRegistry B) (sessionId : PyStr) (s : Session B) : SessionRegistry B :=
  Function.update r sessionId (some s)

/-- `get`. -/
def get (r : SessionRegistry B) (sessionId : PyStr) : Option (Session B) := r sessionId

/-- `remove`. -/
def remove (r : SessionRegistry B) (sessionId : PyStr) : SessionRegistry B :=
  Function.update r sessionId none

end SessionRegistry

/-- What the server is configured with. -/
structure CloudConfig (P : Primitives B) where
  cloudId : PyStr
  privateKey : B
  gatewayKeys : KeyRegistry P

/-- `_public_key_raw`. -/
def CloudConfig.publicKeyRaw {P : Primitives B} (cfg : CloudConfig P) : B :=
  P.publicKey cfg.privateKey

/-- The state that the handlers share, with the text of every log record. -/
structure CloudState (B : Type) where
  registry : SessionRegistry B
  replay : ReplayGuard HashKey
  store : ReadingStore
  metrics : Metrics
  log : List PyStr

/-- The address of a peer. -/
structure Addr where
  host : PyStr
  port : ℕ

/-- `%s:%d` of an address. -/
def Addr.text (a : Addr) : PyStr := a.host ++ lit ":" ++ decimal a.port

namespace CloudState

/-- `_metrics.inc`. -/
def inc (st : CloudState B) (name : Counter) : CloudState B :=
  { st with metrics := st.metrics.inc name }

/-- A call of the logger. -/
def write (st : CloudState B) (text : PyStr) : CloudState B :=
  { st with log := st.log ++ [text] }

/-- `_store.add`. -/
def addReading (st : CloudState B) (reading : JsonDict) : CloudState B :=
  { st with store := st.store.add reading }

@[simp] lemma inc_registry (st : CloudState B) (c : Counter) : (st.inc c).registry = st.registry :=
  rfl
@[simp] lemma inc_replay (st : CloudState B) (c : Counter) : (st.inc c).replay = st.replay := rfl
@[simp] lemma inc_store (st : CloudState B) (c : Counter) : (st.inc c).store = st.store := rfl
@[simp] lemma inc_metrics (st : CloudState B) (c : Counter) :
    (st.inc c).metrics = st.metrics.inc c := rfl
@[simp] lemma inc_log (st : CloudState B) (c : Counter) : (st.inc c).log = st.log := rfl
@[simp] lemma write_registry (st : CloudState B) (t : PyStr) :
    (st.write t).registry = st.registry := rfl
@[simp] lemma write_replay (st : CloudState B) (t : PyStr) : (st.write t).replay = st.replay := rfl
@[simp] lemma write_store (st : CloudState B) (t : PyStr) : (st.write t).store = st.store := rfl
@[simp] lemma write_metrics (st : CloudState B) (t : PyStr) :
    (st.write t).metrics = st.metrics := rfl
@[simp] lemma write_log (st : CloudState B) (t : PyStr) : (st.write t).log = st.log ++ [t] := rfl
@[simp] lemma addReading_registry (st : CloudState B) (r : JsonDict) :
    (st.addReading r).registry = st.registry := rfl
@[simp] lemma addReading_replay (st : CloudState B) (r : JsonDict) :
    (st.addReading r).replay = st.replay := rfl
@[simp] lemma addReading_store (st : CloudState B) (r : JsonDict) :
    (st.addReading r).store = st.store.add r := rfl
@[simp] lemma addReading_metrics (st : CloudState B) (r : JsonDict) :
    (st.addReading r).metrics = st.metrics := rfl
@[simp] lemma addReading_log (st : CloudState B) (r : JsonDict) :
    (st.addReading r).log = st.log := rfl

end CloudState

/-! ### `_receive_readings` -/

variable {P : Primitives B} (cfg : CloudConfig P)

variable (P) in
/-- The `%s` conversion of a field. -/
def fieldText : Option Json → PyStr
  | some (.str s) => s
  | some v => P.valueText v
  | none => []

/-- A message is dropped: one log record, and `messages_rejected`. -/
def drop (st : CloudState B) (text : PyStr) : CloudState B :=
  (st.write text).inc .messagesRejected

variable (P) in
/-- The loop body of `_receive_readings` up to the replay check: the reading to be
stored, or `none` where the message was dropped. -/
def acceptReading (st : CloudState B) (message : JsonDict) (sessionKey : B) (sessionId : PyStr) :
    CloudState B × Py (Option JsonDict) :=
  let st := st.inc .messagesReceived
  match decryptProtectedReading P message sessionKey sessionId with
  | .error e =>
    if e.isA .cloudProcessingError || e.isA .cryptoError then
      (drop st (lit "dropping protected message: " ++ e.msg), .ok none)
    else (st, .error e)
  | .ok reading =>
    match reading.field "sequence" with
    | some (.int sequence) =>
      match reading.item "device_id" >>= Json.hashKey with
      | .error e => (st, .error e)
      | .ok deviceId =>
        if (st.replay.checkAndUpdate deviceId sequence).1 then
          ({ st with replay := (st.replay.checkAndUpdate deviceId sequence).2 }, .ok (some reading))
        else
          (drop st (lit "REPLAY REJECTED for " ++ fieldText P (reading.field "device_id")
            ++ lit ": sequence " ++ decimal sequence
            ++ lit " is not newer than the last accepted one"), .ok none)
    | _ => (drop st (lit "dropping reading without a valid sequence"), .ok none)

variable (P) in
/-- The log record of a reading that was stored. -/
def logStored (st : CloudState B) (reading : JsonDict) : CloudState B :=
  st.write (lit "stored reading from " ++ fieldText P (reading.field "device_id") ++ lit ": seq="
    ++ fieldText P (reading.field "sequence") ++ lit " temp="
    ++ P.tempText ((reading.field "temperature_c").getD .null) ++ lit " C")

/-! ### `_establish_session` -/

/-- The first part of `_establish_session`, up to the first `sendall`: the id of the
authenticated gateway. -/
def authenticateRequest (request : JsonDict) : Py PyStr := do
  let gatewayId ← parseMlkemRequest request
  match cfg.gatewayKeys.keys gatewayId with
  | none => raise .authenticationError (lit "unknown gateway identity '" ++ gatewayId ++ lit "'")
  | some gatewayKey =>
    verifyGatewayRequestAuth P request gatewayKey
    return gatewayId

/-- The message with the public key of the cloud. -/
def pubkeyMessage : JsonDict :=
  [(lit "type", .str msgMlkemPubkey), (lit "cloud_id", .str cfg.cloudId),
    (lit "public_key", .str (P.b64encode cfg.publicKeyRaw))]

/-- The second part of `_establish_session`, up to the registration: the session id
that the peer chose and the session key. -/
def deriveSession (encaps : JsonDict) : Py (PyStr × B) := do
  let (sessionId, ciphertext) ← parseMlkemEncaps P encaps
  let sharedSecret ← mlkemDecapsulate P cfg.privateKey ciphertext
  return (sessionId, deriveSessionKey P sharedSecret)

/-- The message that ends the handshake. -/
def establishedMessage (sessionId : PyStr) : JsonDict :=
  [(lit "type", .str msgMlkemEstablished), (lit "session_id", .str sessionId),
    (lit "status", .str (lit "ok"))]

/-- The registration of a session by connection `c`. -/
def register (st : CloudState B) (c : ℕ) (gatewayId sessionId : PyStr) (sessionKey : B) :
    CloudState B :=
  ({ st.inc .mlkemSessionsEstablished with
      registry := SessionRegistry.add st.registry sessionId ⟨sessionKey, gatewayId, c⟩ }).write
    (lit "ML-KEM-768 session " ++ sessionId ++ lit " established with gateway " ++ gatewayId)

/-! ### `_handle` -/

/-- Where the handler of a connection stands. -/
inductive Phase (B : Type) where
  /-- The connection has not been accepted. -/
  | new
  /-- `read_message` of the request. -/
  | request
  /-- `sendall` of the public key. -/
  | sendPubkey (gatewayId : PyStr)
  /-- `read_message` of the encapsulation. -/
  | encaps (gatewayId : PyStr)
  /-- `sendall` of `mlkem_established`; the session is registered, and `_handle` does
  not know its id yet. -/
  | sendEstablished (gatewayId sessionId : PyStr) (sessionKey : B)
  /-- `read_message` in `_receive_readings`. -/
  | receiving (gatewayId sessionId : PyStr) (sessionKey : B)
  /-- `store.add` of a reading that the replay guard has accepted. -/
  | storing (gatewayId sessionId : PyStr) (sessionKey : B) (reading : JsonDict)
  /-- `inc("messages_processed")` for a reading that is stored. -/
  | counting (gatewayId sessionId : PyStr) (sessionKey : B) (reading : JsonDict)
  /-- The log record of a reading that is stored and counted. -/
  | reporting (gatewayId sessionId : PyStr) (sessionKey : B) (reading : JsonDict)
  /-- The `finally` block of `_handle`, with the session id it knows and the exception
  that no clause caught. -/
  | leaving (sessionId : Option PyStr) (escaped : Option PyExc)
  /-- The handler has finished. -/
  | closed (escaped : Option PyExc)

/-- What happens to a handler at its stop. -/
inductive ConnEvent where
  /-- the connection is accepted -/
  | accept
  /-- `read_message` ends -/
  | recv (outcome : ReadOutcome)
  /-- `sendall` succeeds -/
  | sendOk
  /-- `sendall` raises `OSError` -/
  | sendError (msg : PyStr)
  /-- `store.add` -/
  | store
  /-- `inc("messages_processed")` -/
  | count
  /-- the call of the logger at the end of the loop body -/
  | report
  /-- the `finally` block runs -/
  | finish

/-- Whether one of the `except` clauses of `_handle` catches the exception. -/
def caught (e : PyExc) : Bool :=
  e.isA .connectionClosedError || e.isA .authenticationError || e.isA .protocolError
    || e.isA .cloudProcessingError || e.isA .cryptoError || e.isA .osError

/-- The `except` clauses of `_handle`, for an exception raised while it knows the
session id `sid`. -/
def onException (st : CloudState B) (addr : Addr) (sid : Option PyStr) (e : PyExc) :
    CloudState B × Phase B :=
  if e.isA .connectionClosedError then
    (st.write (lit "gateway " ++ addr.text ++ lit " disconnected"), .leaving sid none)
  else if e.isA .authenticationError then
    ((st.write (lit "rejecting gateway connection " ++ addr.text ++ lit ": " ++ e.msg)).inc
      .messagesRejected, .leaving sid none)
  else if e.isA .protocolError || e.isA .cloudProcessingError || e.isA .cryptoError
      || e.isA .osError then
    ((st.write (lit "closing gateway connection " ++ addr.text ++ lit ": " ++ e.msg)).inc .errors,
      .leaving sid none)
  else
    -- threading prints the traceback, which ends with the text of the exception
    (st.write (lit "Exception in handler thread: " ++ e.msg), .leaving sid (some e))

/-- The `finally` block of `_handle`. -/
def evict (st : CloudState B) : Option PyStr → CloudState B
  | none => st
  | some sessionId =>
    { st with registry := SessionRegistry.remove st.registry sessionId }.write
      (lit "session " ++ sessionId ++ lit " evicted")

/-- The handler of connection `c` runs from its stop to the next one. -/
def handlerStep (c : ℕ) (addr : Addr) (st : CloudState B) :
    Phase B → ConnEvent → CloudState B × Phase B
  | .new, .accept =>
    ((st.write (lit "gateway connection from " ++ addr.text)).inc .gatewayConnections, .request)
  | .request, .recv o =>
    match o.result >>= authenticateRequest cfg with
    | .error e => onException st addr none e
    | .ok gatewayId => (st, .sendPubkey gatewayId)
  | .sendPubkey gatewayId, .sendOk => (st, .encaps gatewayId)
  | .sendPubkey _, .sendError msg => onException st addr none ⟨.osError, msg⟩
  | .encaps gatewayId, .recv o =>
    match o.result >>= deriveSession cfg with
    | .error e => onException st addr none e
    | .ok (sessionId, sessionKey) =>
      (register st c gatewayId sessionId sessionKey,
        .sendEstablished gatewayId sessionId sessionKey)
  | .sendEstablished gatewayId sessionId sessionKey, .sendOk =>
    (st, .receiving gatewayId sessionId sessionKey)
  | .sendEstablished _ _ _, .sendError msg => onException st addr none ⟨.osError, msg⟩
  | .receiving gatewayId sessionId sessionKey, .recv o =>
    match o.result with
    | .error e => onException st addr (some sessionId) e
    | .ok message =>
      match acceptReading P st message sessionKey sessionId with
      | (st, .error e) => onException st addr (some sessionId) e
      | (st, .ok none) => (st, .receiving gatewayId sessionId sessionKey)
      | (st, .ok (some reading)) => (st, .storing gatewayId sessionId sessionKey reading)
  | .storing gatewayId sessionId sessionKey reading, .store =>
    (st.addReading reading, .counting gatewayId sessionId sessionKey reading)
  | .counting gatewayId sessionId sessionKey reading, .count =>
    (st.inc .messagesProcessed, .reporting gatewayId sessionId sessionKey reading)
  | .reporting gatewayId sessionId sessionKey reading, .report =>
    (logStored P st reading, .receiving gatewayId sessionId sessionKey)
  | .leaving sid escaped, .finish => (evict st sid, .closed escaped)
  | phase, _ => (st, phase)

/-! ### The server -/

/-- The shared state and where every handler stands. -/
structure ServerState (B : Type) where
  shared : CloudState B
  phase : ℕ → Phase B

/-- The handler of one connection moves. -/
def step (addr : ℕ → Addr) (s : ServerState B) (ev : ℕ × ConnEvent) : ServerState B where
  shared := (handlerStep cfg ev.1 (addr ev.1) s.shared (s.phase ev.1) ev.2).1
  phase := Function.update s.phase ev.1
    (handlerStep cfg ev.1 (addr ev.1) s.shared (s.phase ev.1) ev.2).2

/-- A server before its first connection; `log` is what was logged before. -/
def initial (maxReadings : ℕ) (log : List PyStr) : ServerState B where
  shared := ⟨fun _ => none, .empty, .empty maxReadings, .zero, log⟩
  phase := fun _ => .new

end PqcBridge.Cloud
