/-
The device-facing server of the gateway (`gateway/gateway.py`).

A connection is served by `DeviceServer._handle`: the hello is read and checked, and then
`_serve_legacy` forwards one reading after the other.  As on the cloud, the handler is a
machine that stops where another thread can come in between or where the peer decides
what happens: at the reads of the stream, at the three statements that an admission writes
shared state with, and at the three parts of `send_reading`.
-/
import PqcBridge.Common.Replay
import PqcBridge.Gateway.CloudChannel

namespace PqcBridge.Gateway

open Python Protocol Crypto

variable {B : Type}

/-! ### The state of the server -/

/-- What the handlers share.  The counters are those of the channel, and
`reconnectsStarted` counts the reconnect threads that the handlers have started. -/
structure GatewayState (B : Type) where
  channel : CloudChannel B
  replay : ReplayGuard PyStr
  seenDevices : List PyStr
  reconnectsStarted : ℕ

/-- `_metrics.inc`. -/
def GatewayState.inc (st : GatewayState B) (name : Counter) : GatewayState B :=
  { st with channel := { st.channel with metrics := st.channel.metrics.inc name } }

@[simp] lemma GatewayState.inc_replay (st : GatewayState B) (c : Counter) :
    (st.inc c).replay = st.replay := rfl

/-- Where the handler of a device connection stands. -/
inductive DevicePhase (B : Type) where
  /-- The connection has not been accepted. -/
  | new
  /-- `read_message` of the hello. -/
  | hello
  /-- `inc("fallback_activations")` for a hello that is admitted. -/
  | admitting (deviceId : PyStr) (deviceKey : B)
  /-- The section under `_seen_lock`. -/
  | marking (deviceId : PyStr) (deviceKey : B)
  /-- `inc("legacy_devices_detected")`, at the end of that section, for a device that was added
  to `_seen_devices`. -/
  | detecting (deviceId : PyStr) (deviceKey : B)
  /-- `read_message` in `_serve_legacy`. -/
  | serving (deviceId : PyStr) (deviceKey : B)
  /-- `send_reading`, before the check. -/
  | forwarding (deviceId : PyStr) (deviceKey readingBytes : B)
  /-- `send_reading`, before the payload is built. -/
  | checked (deviceId : PyStr) (deviceKey readingBytes : B)
  /-- `send_reading`, before the section under `_send_lock`. -/
  | sending (deviceId : PyStr) (deviceKey : B) (payload : JsonDict)
  /-- The handler has finished, with the exception that no clause caught. -/
  | closed (escaped : Option PyExc)

/-- What happens to a handler at its stop. -/
inductive DeviceEvent (B : Type) where
  /-- the connection is accepted -/
  | accept
  /-- `read_message` ends -/
  | recv (outcome : ReadOutcome)
  /-- `inc("fallback_activations")` -/
  | activate
  /-- the test of `_seen_devices` and the insertion -/
  | mark
  /-- `inc("legacy_devices_detected")` -/
  | detect
  /-- the check of `send_reading` -/
  | check
  /-- the building of the payload, with the nonce it draws -/
  | build (nonce : B)
  /-- the section under `_send_lock`, with the outcome of `sendall` -/
  | send (io : IoOutcome)

/-! ### `_admit_or_serve` and `_serve_legacy` -/

variable (P : Primitives B) (cfg : GatewayConfig B) (deviceKeys : KeyRegistry P)

/-- `_admit_or_serve` up to the decision of the policy: the key of the admitted device, or `none`
where the hello was rejected. -/
def admitDevice (st : GatewayState B) (hello : Hello) : GatewayState B × Py (Option B) :=
  match deviceKeys.keys hello.deviceId with
  | none => (st.inc .messagesRejected, .ok none)
  | some deviceKey =>
    match evaluateHello P hello (some deviceKey) with
    | .error e => (st, .error e)
    | .ok .allowFallback => (st, .ok (some deviceKey))
    | .ok _ => (st.inc .messagesRejected, .ok none)

/-- The loop body of `_serve_legacy` up to the call of `send_reading`: the plaintext to
be forwarded, or `none` where the message was dropped. -/
def acceptLegacy (st : GatewayState B) (message : JsonDict) (deviceId : PyStr) (deviceKey : B) :
    GatewayState B × Py (Option B) :=
  let st := st.inc .messagesReceived
  match decryptLegacyMessage P message deviceKey deviceId with
  | .error e =>
    if e.isA .gatewayProcessingError || e.isA .legacyDecryptionError then
      (st.inc .messagesRejected, .ok none)
    else (st, .error e)
  | .ok (readingBytes, sequence) =>
    if (st.replay.checkAndUpdate deviceId sequence).1 then
      ({ st with replay := (st.replay.checkAndUpdate deviceId sequence).2 }.inc .messagesProcessed,
        .ok (some readingBytes))
    else (st.inc .messagesRejected, .ok none)

/-! ### `_handle` -/

/-- The `except` clauses of `_handle`. -/
def onDeviceException (st : GatewayState B) (e : PyExc) : GatewayState B × DevicePhase B :=
  if e.isA .connectionClosedError then (st, .closed none)
  else if e.isA .protocolError || e.isA .gatewayProcessingError || e.isA .cryptoError
      || e.isA .osError then (st.inc .errors, .closed none)
  else (st, .closed (some e))

/-- A handler runs from its stop to the next one. -/
def deviceStep (st : GatewayState B) :
    DevicePhase B → DeviceEvent B → GatewayState B × DevicePhase B
  | .new, .accept => (st.inc .deviceConnections, .hello)
  | .hello, .recv o =>
    match o.result >>= parseHello with
    | .error e => onDeviceException st e
    | .ok hello =>
      match admitDevice P deviceKeys st hello with
      | (st, .error e) => onDeviceException st e
      | (st, .ok none) => (st, .closed none)
      | (st, .ok (some deviceKey)) => (st, .admitting hello.deviceId deviceKey)
  | .admitting deviceId deviceKey, .activate =>
    (st.inc .fallbackActivations, .marking deviceId deviceKey)
  | .marking deviceId deviceKey, .mark =>
    -- the other handlers wait for `_seen_lock` until the device is counted; here they may run in
    -- between, and find the device in the set
    if deviceId ∈ st.seenDevices then (st, .serving deviceId deviceKey)
    else ({ st with seenDevices := deviceId :: st.seenDevices }, .detecting deviceId deviceKey)
  | .detecting deviceId deviceKey, .detect =>
    (st.inc .legacyDevicesDetected, .serving deviceId deviceKey)
  | .serving deviceId deviceKey, .recv o =>
    match o.result with
    | .error e => onDeviceException st e
    | .ok message =>
      match acceptLegacy P st message deviceId deviceKey with
      | (st, .error e) => onDeviceException st e
      | (st, .ok none) => (st, .serving deviceId deviceKey)
      | (st, .ok (some readingBytes)) => (st, .forwarding deviceId deviceKey readingBytes)
  | .forwarding deviceId deviceKey readingBytes, .check =>
    -- `send_reading` in three steps, between which other threads run
    match checkEstablished st.channel with
    | .error e => onDeviceException st e
    | .ok () => (st, .checked deviceId deviceKey readingBytes)
  | .checked deviceId deviceKey readingBytes, .build nonce =>
    match buildPayload P st.channel readingBytes nonce with
    | .error e => onDeviceException st e
    | .ok payload => (st, .sending deviceId deviceKey payload)
  | .sending deviceId deviceKey _, .send io =>
    match sendPayload cfg st.channel io with
    | ((ch, starts), res) =>
      let st := { st with
        channel := ch
        reconnectsStarted := st.reconnectsStarted + if starts then 1 else 0 }
      match res with
      | .error e => onDeviceException st e
      | .ok () => (st.inc .messagesForwarded, .serving deviceId deviceKey)
  | phase, _ => (st, phase)

end PqcBridge.Gateway
