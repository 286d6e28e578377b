/-
The pure helpers of the gateway (`gateway/processing.py`).
-/
import PqcBridge.Common.Crypto

namespace PqcBridge.Gateway

open Python Protocol Crypto

variable {B : Type} (P : Primitives B)

/-! ### Hellos -/

/-- The string of a capability. -/
def capability : Json → Option PyStr
  | .str s => some s
  | _ => none

/-- A validated hello: the whole message, with the two fields that are read off it. -/
structure Hello where
  message : JsonDict
  deviceId : PyStr
  capabilities : List PyStr

/-- `parse_hello`. -/
def parseHello (message : JsonDict) : Py Hello := do
  if !isStr (message.field "type") msgHello then
    raise .protocolError (lit "expected hello as first message")
  else
    let deviceId ← requireStr message "device_id"
    match message.field "capabilities" with
    | some (.arr items) =>
      match items.mapM capability with
      | some capabilities =>
        let _ ← requireStr message "auth_nonce"
        let _ ← requireStr message "auth_tag"
        return ⟨message, deviceId, capabilities⟩
      | none => raise .protocolError (lit "hello capabilities must be a list of strings")
    | _ => raise .protocolError (lit "hello capabilities must be a list of strings")

/-- The results of `determine_path`. -/
inductive Path where
  | legacy
  | modern
  | both
  | unknown
deriving DecidableEq, Repr

/-- `determine_path`. -/
def determinePath (capabilities : List PyStr) : Path :=
  let hasModern := capMlkem768 ∈ capabilities
  let hasLegacy := capChacha20Poly1305 ∈ capabilities
  if hasModern ∧ hasLegacy then .both
  else if hasModern then .modern
  else if hasLegacy then .legacy
  else .unknown

/-- The outcomes of the fallback policy. -/
inductive Decision where
  | allowFallback
  | rejectUnknownDevice
  | rejectUnauthenticated
  | rejectModern
  | rejectAmbiguous
  | rejectNoCapabilities
deriving DecidableEq, Repr

/-- The outcome for a hello with a valid tag. -/
def Path.decision : Path → Decision
  | .legacy => .allowFallback
  | .modern => .rejectModern
  | .both => .rejectAmbiguous
  | .unknown => .rejectNoCapabilities

/-- `evaluate_hello`. -/
def evaluateHello (hello : Hello) (deviceKey : Option B) : Py Decision :=
  match deviceKey with
  | none => .ok .rejectUnknownDevice
  | some key =>
    match verifyHelloAuth P key hello.message with
    | .error e => if e.isA .authenticationError then .ok .rejectUnauthenticated else .error e
    | .ok () => .ok (determinePath hello.capabilities).decision

/-! ### Handshake replies -/

/-- `parse_mlkem_pubkey_reply`: the raw public key. -/
def parseMlkemPubkeyReply (reply : JsonDict) : Py B := do
  if !isStr (reply.field "type") msgMlkemPubkey then
    raise .protocolError (lit "expected mlkem_pubkey")
  else
    let _ ← requireStr reply "cloud_id"
    let text ← requireStr reply "public_key"
    let raw ← b64d P (.str text)
    if P.len raw ≠ mlkem768PublicKeyBytes then
      raise .protocolError (lit "ML-KEM public key has invalid length")
    else return raw

/-- `parse_mlkem_established_reply`. -/
def parseMlkemEstablishedReply (reply : JsonDict) (expectedSessionId : PyStr) : Py Unit := do
  if !isStr (reply.field "type") msgMlkemEstablished then
    raise .protocolError (lit "expected mlkem_established")
  else
    let sessionId ← requireStr reply "session_id"
    if sessionId ≠ expectedSessionId then raise .protocolError (lit "session_id does not match")
    else return ()

/-! ### Pinning -/

/-- `secrets.compare_digest` of two strings, which must be ASCII. -/
def compareDigest (a b : PyStr) : Py Bool :=
  if isAscii a && isAscii b then .ok (a = b)
  else raise .typeError (lit "comparing strings with non-ASCII characters is not supported")

/-- `verify_cloud_public_key`. -/
def verifyCloudPublicKey (rawPublicKey : B) (expectedFingerprint : PyStr) : Py Unit := do
  if expectedFingerprint = [] then
    raise .cryptoError (lit "cloud public key pin is not configured "
      ++ lit "(CLOUD_PUBLIC_KEY_SHA256) - refusing to establish session")
  else
    let same ← compareDigest (publicKeyFingerprint P rawPublicKey) expectedFingerprint
    if same then return ()
    else raise .cryptoError (lit "cloud public key fingerprint mismatch - "
      ++ lit "possible key substitution")

/-! ### Readings -/

/-- `parse_reading_bytes` with its `ProtocolError` as a `ProcessingError`. -/
def checkReading (plaintext : B) : Py Unit :=
  match parseReadingBytes P plaintext with
  | .error e => if e.isA .protocolError then raise .gatewayProcessingError e.msg else .error e
  | .ok _ => .ok ()

/-- `decrypt_legacy_message`: the plaintext and the outer sequence. -/
def decryptLegacyMessage (message : JsonDict) (key : B) (expectedDeviceId : PyStr) :
    Py (B × ℤ) := do
  if !isStr (message.field "type") msgLegacyReading then
    raise .gatewayProcessingError (lit "unexpected message type on legacy path")
  else if !isStr (message.field "device_id") expectedDeviceId then
    raise .gatewayProcessingError (lit "device_id mismatch")
  else
    let sequence ← requireInt message "seq"
    let aad ← legacyMessageAad P expectedDeviceId sequence
    let plaintext ← decryptLegacyPayload P key message aad
    checkReading P plaintext
    return (plaintext, sequence)

/-- `build_protected_reading` with the given random nonce. -/
def buildProtectedReading (readingBytes sessionKey : B) (sessionId : PyStr) (nonce : B) :
    Py JsonDict := do
  let aad ← sessionMessageAad P sessionId
  let envelope ← encryptSessionPayload P sessionKey readingBytes aad nonce
  return [(lit "type", .str msgProtectedReading), (lit "session_id", .str sessionId)] ++ envelope

end PqcBridge.Gateway
