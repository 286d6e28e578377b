/-
The wire protocol: field validation, associated data and claims
(`common/protocol.py`).

The validators take a parsed message and raise `ProtocolError` on every violation; the
functions that build associated data turn the security context of a message into the
bytes that the AEAD authenticates.
-/
import PqcBridge.Common.Primitives
import PqcBridge.Python.Dumps

namespace PqcBridge.Protocol

open Python

/-- `MAX_MESSAGE_BYTES`. -/
def maxMessageBytes : ℕ := 64 * 1024

def msgHello : PyStr := lit "hello"
def msgLegacyReading : PyStr := lit "legacy_reading"
def msgMlkemRequestPubkey : PyStr := lit "mlkem_request_pubkey"
def msgMlkemPubkey : PyStr := lit "mlkem_pubkey"
def msgMlkemEncaps : PyStr := lit "mlkem_encaps"
def msgMlkemEstablished : PyStr := lit "mlkem_established"
def msgProtectedReading : PyStr := lit "protected_reading"

def capChacha20Poly1305 : PyStr := lit "chacha20-poly1305"
def capMlkem768 : PyStr := lit "ml-kem-768"

variable {B : Type} (P : Primitives B)

/-! ### Validation helpers -/

/-- `b64d`.  A value that is not a string is a `TypeError` inside, which the function
turns into the same `ProtocolError`. -/
def b64d : Json → Py B
  | .str text =>
    match P.b64decode text with
    | some data => .ok data
    | none => raise .protocolError (lit "invalid base64 field")
  | _ => raise .protocolError (lit "invalid base64 field")

/-- `require_str`: the field as a non-empty string. -/
def requireStr (message : JsonDict) (field : String) : Py PyStr :=
  match message.field field with
  | some (.str value) =>
    if value = [] then
      raise .protocolError (lit "message missing required string field '" ++ lit field ++ lit "'")
    else .ok value
  | _ =>
    raise .protocolError (lit "message missing required string field '" ++ lit field ++ lit "'")

/-- `require_int`: the field as an integer; booleans are excluded. -/
def requireInt (message : JsonDict) (field : String) : Py ℤ :=
  match message.field field with
  | some (.int value) => .ok value
  | _ =>
    raise .protocolError (lit "message missing required integer field '" ++ lit field ++ lit "'")

/-! ### Framing -/

/-- `encode_message`: the line that carries the message.  Its text is ASCII, so its
length is the number of bytes on the wire. -/
def encodeMessage (message : JsonDict) : PyStr :=
  dumps P.floatText (.obj message) ++ [.char (Char.ofNat 10)]

/-- What a call of `read_message` can do, the `RecursionError` of the parser apart. -/
inductive ReadOutcome where
  /-- a JSON object was read -/
  | message (m : JsonDict)
  /-- `ProtocolError` -/
  | malformed (msg : PyStr)
  /-- `ConnectionClosedError`: end of stream between two messages -/
  | closed
  /-- `OSError`, time-outs included -/
  | osError (msg : PyStr)

/-- The outcome of `read_message` as a computation. -/
def ReadOutcome.result : ReadOutcome → Py JsonDict
  | .message m => .ok m
  | .malformed msg => raise .protocolError msg
  | .closed => raise .connectionClosedError (lit "peer closed the connection")
  | .osError msg => raise .osError msg

/-! ### Associated data and claims -/

/-- `s.encode("utf-8")`. -/
def encodeUtf8 (s : PyStr) : Py B :=
  if validUnicode s then .ok (P.utf8 s)
  else raise .unicodeEncodeError (lit "'utf-8' codec: surrogates not allowed")

/-- `legacy_message_aad`. -/
def legacyMessageAad (deviceId : PyStr) (sequence : ℤ) : Py B :=
  encodeUtf8 P (deviceId ++ lit ":" ++ decimal sequence)

/-- `session_message_aad`. -/
def sessionMessageAad (sessionId : PyStr) : Py B := encodeUtf8 P sessionId

/-- `hello_claims_bytes`.  The text is ASCII, so that encoding it cannot fail. -/
def helloClaimsBytes (deviceId capabilities : Json) : B :=
  P.utf8 (dumps P.floatText (.obj
    [(lit "device_id", deviceId), (lit "capabilities", capabilities)]))

/-- `gateway_auth_claims_bytes`. -/
def gatewayAuthClaimsBytes (gatewayId : Json) : B :=
  P.utf8 (dumps P.floatText (.obj
    [(lit "gateway_id", gatewayId), (lit "scope", .str (lit "gateway-cloud-handshake"))]))

/-! ### Readings -/

/-- The keys a reading must have. -/
def requiredReadingFields : List String := ["device_id", "timestamp", "temperature_c", "sequence"]

/-- `parse_reading_bytes`: an object with the four required keys, whatever their
values. -/
def parseReadingBytes (plaintext : B) : Py JsonDict :=
  match P.loads plaintext with
  | .error .valueError => raise .protocolError (lit "plaintext is not valid JSON")
  | .error .recursionError => raise .recursionError (lit "maximum recursion depth exceeded")
  | .ok (.obj reading) =>
    if requiredReadingFields.all fun f => (JsonDict.field reading f).isSome then .ok reading
    else raise .protocolError (lit "reading is missing required fields")
  | .ok _ => raise .protocolError (lit "reading is missing required fields")

end PqcBridge.Protocol
