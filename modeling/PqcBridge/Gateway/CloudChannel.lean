/-
The gateway's session with the cloud (`gateway/cloud_channel.py`).

`connect_and_establish` is a retry loop around `_establish_once`.  What the network and
the random generators do during one attempt is an `Attempt`, so that an attempt is a
function of the channel and of an `Attempt`, and the loop is one of the channel and of a
sequence of these.  With `max_attempts=None` the loop need not end, hence its fuel.

`send_reading` is split where another thread can come in between: the check, the building
of the payload, and the section under `_send_lock`.
-/
import PqcBridge.Common.Metrics
import PqcBridge.Gateway.Processing

namespace PqcBridge.Gateway

open Python Protocol Crypto

variable {B : Type}

/-! ### The channel -/

/-- `State`. -/
inductive State where
  | disconnected
  | connecting
  | establishing
  | established
  | failed
deriving DecidableEq, Repr

/-- What the gateway is configured with.  `pin` is `CLOUD_PUBLIC_KEY_SHA256`, which is
empty where none is provisioned. -/
structure GatewayConfig (B : Type) where
  gatewayId : PyStr
  gatewayKey : B
  pin : PyStr
  autoReconnect : Bool

/-- The fields of `CloudChannel` that change.  A socket is known by a number. -/
structure CloudChannel (B : Type) where
  state : State
  sessionId : Option PyStr
  sessionKey : Option B
  sock : Option ℕ
  reconnecting : Bool
  metrics : Metrics

namespace CloudChannel

/-- `CloudChannel()`. -/
def new : CloudChannel B := ⟨.disconnected, none, none, none, false, .zero⟩

/-- `is_established`. -/
def isEstablished (ch : CloudChannel B) : Bool :=
  ch.state = .established && ch.sock.isSome && ch.sessionKey.isSome

end CloudChannel

/-! ### The messages of the handshake -/

variable (P : Primitives B) (cfg : GatewayConfig B)

/-- The request for the public key of the cloud, with the tag of the gateway. -/
def requestMessage (nonce : B) : Py JsonDict := do
  let auth ← buildGatewayAuth P cfg.gatewayId cfg.gatewayKey nonce
  return [(lit "type", .str msgMlkemRequestPubkey), (lit "gateway_id", .str cfg.gatewayId)] ++ auth

/-- What is done with the reply: it is validated, the pin is checked, and the key is
loaded. -/
def acceptPubkeyReply (reply : JsonDict) : Py B := do
  let raw ← parseMlkemPubkeyReply P reply
  verifyCloudPublicKey P raw cfg.pin
  loadPublicKey P raw

/-- The message with the ciphertext. -/
def encapsMessage (sessionId : PyStr) (ciphertext : B) : JsonDict :=
  [(lit "type", .str msgMlkemEncaps), (lit "gateway_id", .str cfg.gatewayId),
    (lit "session_id", .str sessionId), (lit "ciphertext", .str (P.b64encode ciphertext))]

/-! ### One attempt -/

/-- How a call that may raise `OSError` ends. -/
inductive IoOutcome where
  | ok
  | osError (msg : PyStr)

/-- The outcome as a computation. -/
def IoOutcome.result : IoOutcome → Py Unit
  | .ok => .ok ()
  | .osError msg => raise .osError msg

/-- What the random generators, the network and the peer do during one attempt. -/
structure Attempt (B : Type) where
  /-- `secrets.token_hex(8)` -/
  sessionId : PyStr
  /-- the nonce of the tag -/
  nonce : B
  /-- the coins of the encapsulation -/
  coins : B
  /-- the socket that `create_connection` returns -/
  sock : ℕ
  connect : IoOutcome
  sendRequest : IoOutcome
  pubkeyReply : ReadOutcome
  sendEncaps : IoOutcome
  establishedReply : ReadOutcome

/-- The exchange of `_establish_once`, from the tag to the last validator: the shared
secret. -/
def exchange (a : Attempt B) : Py B := do
  let _ ← requestMessage P cfg a.nonce
  a.sendRequest.result
  let reply ← a.pubkeyReply.result
  let publicKey ← acceptPubkeyReply P cfg reply
  let (sharedSecret, _) := mlkemEncapsulate P publicKey a.coins
  a.sendEncaps.result
  let reply ← a.establishedReply.result
  parseMlkemEstablishedReply reply a.sessionId
  return sharedSecret

/-- The writes of `_establish_once` at the end of a successful exchange. -/
def publish (ch : CloudChannel B) (sessionId : PyStr) (sessionKey : B) (sock : ℕ) :
    CloudChannel B :=
  { ch with
    sessionKey := some sessionKey
    sessionId := some sessionId
    metrics := ch.metrics.inc .mlkemSessionsEstablished
    sock := some sock }

/-- `_establish_once`. -/
def establishOnce (ch : CloudChannel B) (a : Attempt B) : CloudChannel B × Py Unit :=
  match a.connect.result with
  | .error e => (ch, .error e)
  | .ok () =>
    let ch := { ch with state := .establishing }
    match exchange P cfg a with
    | .error e => (ch, .error e)
    | .ok sharedSecret =>
      (publish ch a.sessionId (deriveSessionKey P sharedSecret) a.sock, .ok ())

/-! ### The retry loop -/

/-- Whether the `except` clause of `connect_and_establish` catches the exception. -/
def retried (e : PyExc) : Bool := e.isA .osError || e.isA .protocolError || e.isA .cryptoError

/-- Whether `max_attempts` is reached. -/
def exhausted (maxAttempts : Option ℕ) (attempts : ℕ) : Bool :=
  match maxAttempts with
  | some n => n ≤ attempts
  | none => false

/-- What a caught exception leaves: `FAILED`, and then `DISCONNECTED`. -/
def attemptFailed (ch : CloudChannel B) : CloudChannel B :=
  { ch with metrics := ch.metrics.inc .errors, state := .disconnected }

/-- `connect_and_establish`, after `attempts` passes of the loop: the channel, the number
of attempts made and the result.  `peer i` is what happens in attempt `i`. -/
def connectAndEstablish (maxAttempts : Option ℕ) (peer : ℕ → Attempt B) :
    ℕ → ℕ → CloudChannel B → Option (CloudChannel B × ℕ × Py Bool)
  | 0, _, _ => none
  | fuel + 1, attempts, ch =>
    match establishOnce P cfg { ch with state := .connecting } (peer (attempts + 1)) with
    | (ch, .ok ()) => some ({ ch with state := .established }, attempts + 1, .ok true)
    | (ch, .error e) =>
      if !retried e then some (ch, attempts + 1, .error e)
      else if exhausted maxAttempts (attempts + 1) then
        some (attemptFailed ch, attempts + 1, .ok false)
      else connectAndEstablish maxAttempts peer fuel (attempts + 1) (attemptFailed ch)

/-! ### Sending -/

/-- The check at the start of `send_reading`. -/
def checkEstablished (ch : CloudChannel B) : Py Unit :=
  if ch.isEstablished then .ok () else raise .cryptoError (lit "no established cloud session")

/-- The message of `send_reading`, on the session that the channel has when it is built.
`None` has no `encode` and is no key. -/
def buildPayload (ch : CloudChannel B) (readingBytes nonce : B) : Py JsonDict :=
  match ch.sessionId, ch.sessionKey with
  | some sessionId, some sessionKey =>
    buildProtectedReading P readingBytes sessionKey sessionId nonce
  | none, _ => raise .attributeError (lit "'NoneType' object has no attribute 'encode'")
  | _, none => raise .typeError (lit "key must be bytes-like")

/-- `_start_reconnect`: the channel, and whether a reconnect thread is started. -/
def startReconnect (ch : CloudChannel B) : CloudChannel B × Bool :=
  if ch.reconnecting then (ch, false) else ({ ch with reconnecting := true }, true)

/-- `_invalidate`: the channel, and whether a reconnect thread is started. -/
def invalidate (ch : CloudChannel B) : CloudChannel B × Bool :=
  let ch := { ch with sock := none, sessionKey := none, state := .failed }
  if cfg.autoReconnect then startReconnect ch else (ch, false)

/-- The section of `send_reading` under `_send_lock`: the channel, whether a reconnect
thread is started, and how `send_reading` ends. -/
def sendPayload (ch : CloudChannel B) (io : IoOutcome) : (CloudChannel B × Bool) × Py Unit :=
  match ch.sock with
  | none =>
    ((ch, false), raise .attributeError (lit "'NoneType' object has no attribute 'sendall'"))
  | some _ =>
    match io with
    | .ok => ((ch, false), .ok ())
    | .osError _ => (invalidate cfg ch, raise .cryptoError (lit "cloud session failed"))

end PqcBridge.Gateway
