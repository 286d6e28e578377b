/-
The pure helpers of the cloud (`cloud/processing.py`).
-/
import PqcBridge.Common.Crypto

namespace PqcBridge.Cloud

open Python Protocol Crypto

variable {B : Type} (P : Primitives B)

/-- `parse_mlkem_request`: the gateway id of a request that carries the auth fields. -/
def parseMlkemRequest (request : JsonDict) : Py PyStr := do
  if !isStr (request.field "type") msgMlkemRequestPubkey then
    raise .protocolError (lit "expected mlkem_request_pubkey as first message")
  else
    let gatewayId ← requireStr request "gateway_id"
    let _ ← requireStr request "auth_nonce"
    let _ ← requireStr request "auth_tag"
    return gatewayId

/-- `verify_gateway_request_auth`. -/
def verifyGatewayRequestAuth (request : JsonDict) (gatewayKey : B) : Py Unit := do
  let gatewayId ← request.item "gateway_id"
  let authNonce ← request.item "auth_nonce"
  let authTag ← request.item "auth_tag"
  verifyGatewayAuth P gatewayKey gatewayId authNonce authTag

/-- `parse_mlkem_encaps`: the session id and the raw ciphertext. -/
def parseMlkemEncaps (encaps : JsonDict) : Py (PyStr × B) := do
  if !isStr (encaps.field "type") msgMlkemEncaps then
    raise .protocolError (lit "expected mlkem_encaps")
  else
    let sessionId ← requireStr encaps "session_id"
    let text ← requireStr encaps "ciphertext"
    let ciphertext ← b64d P (.str text)
    if P.len ciphertext ≠ mlkem768CiphertextBytes then
      raise .protocolError (lit "ML-KEM ciphertext has invalid length")
    else return (sessionId, ciphertext)

/-- `parse_reading_bytes` with its `ProtocolError` as a `ProcessingError`. -/
def parseDecrypted (plaintext : B) : Py JsonDict :=
  match parseReadingBytes P plaintext with
  | .error e => if e.isA .protocolError then raise .cloudProcessingError e.msg else .error e
  | .ok reading => .ok reading

/-- `decrypt_protected_reading`. -/
def decryptProtectedReading (message : JsonDict) (sessionKey : B) (sessionId : PyStr) :
    Py JsonDict := do
  if !isStr (message.field "type") msgProtectedReading then
    raise .cloudProcessingError (lit "unexpected message type on protected path")
  else
    let named ← requireStr message "session_id"
    if named ≠ sessionId then raise .cloudProcessingError (lit "session_id mismatch")
    else
      let aad ← sessionMessageAad P sessionId
      let plaintext ← decryptSessionPayload P sessionKey message aad
      parseDecrypted P plaintext

end PqcBridge.Cloud
