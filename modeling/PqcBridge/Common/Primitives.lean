/-
The library calls the program rests on.

The code hands byte strings to `base64`, to `json.loads` and to the `cryptography`
library and never looks inside them.  It is therefore modelled over an arbitrary type
`B` of byte strings, and `Primitives B` collects the calls.  A byte string is only ever
a value of `B`; the text of a message is a `PyStr`.

`Primitives.Lawful` states what these calls are documented to do on the values that
the honest code hands to them.  Results about arbitrary peers do not need it.
-/
import PqcBridge.Python.Value

namespace PqcBridge

open Python

/-- How `json.loads(data.decode("utf-8"))` can fail. -/
inductive LoadsError where
  | valueError
  | recursionError
deriving DecidableEq, Repr

/-- The library calls, over the byte strings `B`. -/
structure Primitives (B : Type) where
  /-- `len`. -/
  len : B → ℕ
  /-- `s.encode("utf-8")` of a string without lone surrogates. -/
  utf8 : PyStr → B
  /-- `base64.b64encode(data).decode("ascii")`. -/
  b64encode : B → PyStr
  /-- `base64.b64decode(text, validate=True)`; `none` is `ValueError`. -/
  b64decode : PyStr → Option B
  /-- `json.loads(data.decode("utf-8"))`. -/
  loads : B → Except LoadsError Json
  /-- `ChaCha20Poly1305(key).encrypt(nonce, data, aad)`. -/
  encrypt : B → B → B → B → B
  /-- `ChaCha20Poly1305(key).decrypt(nonce, data, aad)`; `none` is `InvalidTag`. -/
  decrypt : B → B → B → B → Option B
  /-- `hashlib.sha256(data).hexdigest()`. -/
  sha256hex : B → PyStr
  sha256hex_ascii : ∀ b, isAscii (sha256hex b) = true
  /-- The raw public key of an ML-KEM private key. -/
  publicKey : B → B
  /-- Whether `MLKEM768PublicKey.from_public_bytes` accepts the bytes. -/
  validPublicKey : B → Bool
  /-- `public_key.encapsulate()` with the given random coins: the shared secret and the
  ciphertext. -/
  encapsulate : B → B → B × B
  /-- `private_key.decapsulate(ciphertext)`; `none` is `ValueError`. -/
  decapsulate : B → B → Option B
  /-- `HKDF(SHA256, length=32, salt=None, info=SESSION_KEY_INFO).derive(secret)`. -/
  hkdf : B → B
  hkdf_len : ∀ s, len (hkdf s) = 32
  /-- The text of a float in `json.dumps`. -/
  floatText : PyFloat → PyStr
  /-- The `%s` conversion of a value that is not a string. -/
  valueText : Json → PyStr
  /-- The `%.2f` conversion of a value; where there is none, what logging prints about
  the failed record instead. -/
  tempText : Json → PyStr

/-- `ChaCha20Poly1305` takes 32-byte keys. -/
def keyLength : ℕ := 32

variable {B : Type}

/-- A registry of credentials by id.  `_load_keys_json` refuses keys that are not 32
bytes long, so a registry holds no others. -/
structure KeyRegistry (P : Primitives B) where
  keys : PyStr → Option B
  key_len : ∀ {id k}, keys id = some k → P.len k = keyLength

/-- The documented behaviour of the calls on well-formed input. -/
structure Primitives.Lawful (P : Primitives B) : Prop where
  b64_roundtrip : ∀ b, P.b64decode (P.b64encode b) = some b
  b64_ne_nil : ∀ b, P.len b ≠ 0 → P.b64encode b ≠ []
  decrypt_encrypt : ∀ k n p a, P.len k = keyLength → P.len n = 12 →
    P.decrypt k n (P.encrypt k n p a) a = some p
  encrypt_len : ∀ k n p a, P.len (P.encrypt k n p a) = P.len p + 16
  publicKey_len : ∀ sk, P.len (P.publicKey sk) = 1184
  publicKey_valid : ∀ sk, P.validPublicKey (P.publicKey sk) = true
  ciphertext_len : ∀ pk r, P.len (P.encapsulate pk r).2 = 1088
  decapsulate_encapsulate : ∀ sk r,
    P.decapsulate sk (P.encapsulate (P.publicKey sk) r).2
      = some (P.encapsulate (P.publicKey sk) r).1

end PqcBridge
