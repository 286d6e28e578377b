/-
The wrappers around the `cryptography` library (`common/crypto.py`).

One AEAD core serves the readings of both hops; the hello tag and the gateway tag are
AEAD outputs over the empty plaintext, with the claims as associated data.  A nonce of
the wrong length is rejected before the library is called.  `ChaCha20Poly1305(key)`
itself raises `ValueError` for a key that is not 32 bytes long.
-/
import PqcBridge.Common.Protocol

namespace PqcBridge.Crypto

open Python Protocol

/-- `NONCE_LENGTH`. -/
def nonceLength : ℕ := 12

/-- `MLKEM768_PUBLIC_KEY_BYTES`. -/
def mlkem768PublicKeyBytes : ℕ := 1184

/-- `MLKEM768_CIPHERTEXT_BYTES`. -/
def mlkem768CiphertextBytes : ℕ := 1088

variable {B : Type} (P : Primitives B)

/-- `ChaCha20Poly1305(key)`. -/
def chacha (key : B) : Py Unit :=
  if P.len key = keyLength then .ok ()
  else raise .valueError (lit "ChaCha20Poly1305 key must be 32 bytes.")

/-! ### AEAD core -/

/-- `_aead_encrypt` with the given random nonce: the two fields of the envelope. -/
def aeadEncrypt (key plaintext aad nonce : B) : Py JsonDict := do
  chacha P key
  return [(lit "nonce", .str (P.b64encode nonce)),
    (lit "ciphertext", .str (P.b64encode (P.encrypt key nonce plaintext aad)))]

/-- A field of an envelope, decoded; a missing one is a malformed envelope. -/
def envelopeField (errorCls : ExcClass) (envelope : JsonDict) (name : String) : Py B :=
  match envelope.field name with
  | some v => b64d P v
  | none => raise errorCls (lit "malformed envelope")

/-- `_aead_decrypt`. -/
def aeadDecrypt (key : B) (envelope : JsonDict) (aad : B) (errorCls : ExcClass) : Py B := do
  let nonce ← envelopeField P errorCls envelope "nonce"
  let ciphertext ← envelopeField P errorCls envelope "ciphertext"
  if P.len nonce ≠ nonceLength then
    raise .protocolError (lit "invalid nonce length (" ++ decimal (P.len nonce) ++ lit ")")
  else
    chacha P key
    match P.decrypt key nonce ciphertext aad with
    | some plaintext => return plaintext
    | none => raise errorCls (lit "authentication failed (wrong key or tampered data)")

/-- `encrypt_legacy_payload`. -/
def encryptLegacyPayload (key plaintext aad nonce : B) : Py JsonDict :=
  aeadEncrypt P key plaintext aad nonce

/-- `decrypt_legacy_payload`. -/
def decryptLegacyPayload (key : B) (envelope : JsonDict) (aad : B) : Py B :=
  aeadDecrypt P key envelope aad .legacyDecryptionError

/-- `encrypt_session_payload`. -/
def encryptSessionPayload (key plaintext aad nonce : B) : Py JsonDict :=
  aeadEncrypt P key plaintext aad nonce

/-- `decrypt_session_payload`. -/
def decryptSessionPayload (key : B) (envelope : JsonDict) (aad : B) : Py B :=
  aeadDecrypt P key envelope aad .cryptoError

/-! ### Tags over claims -/

/-- The empty plaintext of a tag. -/
def emptyBytes : B := P.utf8 []

/-- The AEAD tag over the claims and its nonce, as the two fields of a message.  This
is the common part of `build_hello` and `build_gateway_auth`. -/
def authFields (key claims nonce : B) : Py JsonDict := do
  chacha P key
  return [(lit "auth_nonce", .str (P.b64encode nonce)),
    (lit "auth_tag", .str (P.b64encode (P.encrypt key nonce (emptyBytes P) claims)))]

/-- The nonce and the tag, decoded. -/
def decodeAuth (authNonce authTag : Json) : Py (B × B) := do
  let nonce ← b64d P authNonce
  let tag ← b64d P authTag
  if P.len nonce ≠ nonceLength then raise .protocolError (lit "invalid nonce length")
  else return (nonce, tag)

/-- The check of a tag against the claims: the common part of `verify_hello_auth` and
`verify_gateway_auth`.  `what` names the tag in the messages. -/
def verifyAuth (key : B) (authNonce authTag : Json) (claims : B) (what : String) : Py Unit :=
  match decodeAuth P authNonce authTag with
  | .error _ => raise .authenticationError (lit "malformed " ++ lit what ++ lit " auth fields")
  | .ok (nonce, tag) => do
    chacha P key
    match P.decrypt key nonce tag claims with
    | some _ => return ()
    | none => raise .authenticationError (lit what ++ lit " authentication failed")

/-- `build_hello`. -/
def buildHello (deviceId : PyStr) (capabilities : List Json) (key nonce : B) : Py JsonDict := do
  let auth ← authFields P key (helloClaimsBytes P (.str deviceId) (.arr capabilities)) nonce
  return [(lit "type", .str msgHello), (lit "device_id", .str deviceId),
    (lit "capabilities", .arr capabilities)] ++ auth

/-- `verify_hello_auth`.  A missing field is a `KeyError` inside, which the function
turns into `AuthenticationError`. -/
def verifyHelloAuth (key : B) (hello : JsonDict) : Py Unit :=
  match hello.field "auth_nonce", hello.field "auth_tag", hello.field "device_id",
      hello.field "capabilities" with
  | some nonce, some tag, some deviceId, some capabilities =>
    verifyAuth P key nonce tag (helloClaimsBytes P deviceId capabilities) "hello"
  | _, _, _, _ => raise .authenticationError (lit "malformed hello auth fields")

/-- `build_gateway_auth`. -/
def buildGatewayAuth (gatewayId : PyStr) (key nonce : B) : Py JsonDict :=
  authFields P key (gatewayAuthClaimsBytes P (.str gatewayId)) nonce

/-- `verify_gateway_auth`. -/
def verifyGatewayAuth (key : B) (gatewayId authNonce authTag : Json) : Py Unit :=
  verifyAuth P key authNonce authTag (gatewayAuthClaimsBytes P gatewayId) "gateway"

/-! ### ML-KEM and key derivation -/

/-- `public_key_fingerprint`. -/
def publicKeyFingerprint (rawPublicKey : B) : PyStr := P.sha256hex rawPublicKey

/-- `load_public_key`. -/
def loadPublicKey (data : B) : Py B :=
  if P.validPublicKey data then .ok data
  else raise .protocolError (lit "invalid ML-KEM public key data")

/-- `mlkem_encapsulate` with the given coins: the shared secret and the ciphertext. -/
def mlkemEncapsulate (publicKey coins : B) : B × B := P.encapsulate publicKey coins

/-- `mlkem_decapsulate`.  A wrong ciphertext of the right length does not raise. -/
def mlkemDecapsulate (privateKey ciphertext : B) : Py B :=
  match P.decapsulate privateKey ciphertext with
  | some secret => .ok secret
  | none => raise .mlkemDecapsulationError (lit "decapsulation failed")

/-- `derive_session_key`. -/
def deriveSessionKey (sharedSecret : B) : B := P.hkdf sharedSecret

end PqcBridge.Crypto
