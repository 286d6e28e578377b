/-
Primitives over lists of bytes, with the lengths of the real ones.

UTF-8 and base64 are the real ones.  The others stand in for the library calls: they have
the documented lengths and undo each other, but keep nothing secret.  `json.loads` is left
open.

* `octets_lawful`: they are lawful.
-/
import PqcBridge.Common.Primitives
import PqcBridge.Lib.Base64

namespace PqcBridge

open Python

/-- A byte string. -/
abbrev Octets : Type := List UInt8

namespace Octets

/-- `s.encode("utf-8")`. -/
def utf8Char : PyChar → Octets
  | .char c => String.utf8EncodeChar c
  | .surrogate _ => []

/-- `data.decode("utf-8")`; `none` is `UnicodeDecodeError`. -/
def decodeUtf8 (data : Octets) : Option PyStr :=
  data.toByteArray.utf8Decode?.map fun cs => cs.toList.map PyChar.char

/-- The characters of a text without surrogates. -/
def character : PyChar → Option Char
  | .char c => some c
  | .surrogate _ => none

/-- `base64.b64encode(data).decode("ascii")`. -/
def b64encode (b : Octets) : PyStr := (Base64.encode b).map PyChar.char

/-- `base64.b64decode(text, validate=True)`. -/
def b64decode (s : PyStr) : Option Octets := (s.mapM character).bind Base64.decode

/-- `bytes(n)`. -/
@[irreducible] def zeros (n : ℕ) : Octets := List.replicate n 0

@[simp] lemma length_zeros (n : ℕ) : (zeros n).length = n := by
  unfold zeros
  exact List.length_replicate

/-- Whether there are `n` bytes. -/
def hasLength (n : ℕ) (b : Octets) : Bool := b.length = n

lemma hasLength_zeros (n : ℕ) : hasLength n (zeros n) = true := by
  simp [hasLength]

/-- A tag of 16 bytes. -/
def tag (key : Octets) : Octets := (key ++ zeros 16).take 16

/-- The plaintext and the tag. -/
def encrypt (key _nonce data _aad : Octets) : Octets := data ++ tag key

/-- The plaintext, where the tag is right. -/
def decrypt (key _nonce data _aad : Octets) : Option Octets :=
  if tag key <:+ data then some (data.take (data.length - 16)) else none

/-- A hexadecimal digest. -/
def digest : PyStr := List.replicate 64 (.char '0')

lemma isAscii_digest : isAscii digest = true := by
  simp [digest, isAscii]

lemma length_tag (key : Octets) : (tag key).length = 16 := by
  simp [tag]

lemma decrypt_encrypt (key nonce data aad : Octets) :
    decrypt key nonce (encrypt key nonce data aad) aad = some data := by
  have hlen : (data ++ tag key).length - 16 = data.length := by
    rw [List.length_append, length_tag]
    omega
  rw [decrypt, encrypt, if_pos (List.suffix_append _ _), hlen, List.take_left]

lemma mapM_character (cs : List Char) : (cs.map PyChar.char).mapM character = some cs := by
  induction cs with
  | nil => rfl
  | cons c cs ih => simp [character, ih]

lemma b64decode_b64encode (b : Octets) : b64decode (b64encode b) = some b := by
  rw [b64decode, b64encode, mapM_character, Option.bind_some, Base64.decode_encode]

lemma exists_chars {s : PyStr} (h : validUnicode s = true) :
    ∃ cs : List Char, s = cs.map PyChar.char := by
  induction s with
  | nil => exact ⟨[], rfl⟩
  | cons c s ih =>
    have hs := List.all_eq_true.1 h
    obtain ⟨cs, rfl⟩ := ih (List.all_eq_true.2 fun d hd => hs d (List.mem_cons_of_mem c hd))
    cases c with
    | char c => exact ⟨c :: cs, rfl⟩
    | surrogate u => cases hs _ List.mem_cons_self

/-- Encoded text is decoded. -/
lemma decodeUtf8_flatMap_utf8Char {s : PyStr} (h : validUnicode s = true) :
    decodeUtf8 (s.flatMap utf8Char) = some s := by
  obtain ⟨cs, rfl⟩ := exists_chars h
  have hencode : ((cs.map PyChar.char).flatMap utf8Char).toByteArray = cs.utf8Encode := by
    rw [List.flatMap_map]
    rfl
  rw [decodeUtf8, hencode, List.utf8Decode?_utf8Encode]
  simp

/-- ASCII takes one byte for each character. -/
lemma length_utf8 {s : PyStr} (h : isAscii s = true) :
    (s.flatMap utf8Char).length = s.length := by
  induction s with
  | nil => rfl
  | cons c s ih =>
    rw [isAscii_cons, Bool.and_eq_true] at h
    have hc : (utf8Char c).length = 1 := by
      cases c with
      | surrogate u => cases h.1
      | char x =>
        have hx : x.toNat < 128 := by simpa using h.1
        rw [utf8Char, String.length_utf8EncodeChar, Char.utf8Size_eq_one_iff]
        exact Nat.le_of_lt_succ hx
    rw [List.flatMap_cons, List.length_append, hc, ih h.2, List.length_cons, Nat.add_comm]

end Octets

open Octets

/-- The primitives over lists of bytes. -/
def octets (loads : Octets → Except LoadsError Json) : Primitives Octets where
  len := List.length
  utf8 s := s.flatMap utf8Char
  b64encode := b64encode
  b64decode := b64decode
  loads := loads
  encrypt := encrypt
  decrypt := decrypt
  sha256hex _ := digest
  sha256hex_ascii _ := isAscii_digest
  publicKey _ := zeros 1184
  validPublicKey data := hasLength 1184 data
  encapsulate _ _ := (zeros 32, zeros 1088)
  decapsulate _ ciphertext := if hasLength 1088 ciphertext then some (zeros 32) else none
  hkdf _ := zeros 32
  hkdf_len _ := length_zeros 32
  floatText _ := lit "21.0"
  valueText _ := lit "None"
  tempText _ := lit "21.00"

lemma octets_lawful (loads : Octets → Except LoadsError Json) : (octets loads).Lawful where
  b64_roundtrip := b64decode_b64encode
  b64_ne_nil b hb := by
    intro h
    have hlen : ((Base64.encode b).map PyChar.char).length = 0 := congrArg List.length h
    rw [List.length_map, Base64.length_encode] at hlen
    have hne : b.length ≠ 0 := hb
    omega
  decrypt_encrypt key nonce data aad _ _ := decrypt_encrypt key nonce data aad
  encrypt_len key nonce data aad := by
    show (data ++ tag key).length = data.length + 16
    rw [List.length_append, length_tag]
  publicKey_len _ := length_zeros 1184
  publicKey_valid _ := hasLength_zeros 1184
  ciphertext_len _ _ := length_zeros 1088
  decapsulate_encapsulate _ _ := if_pos (hasLength_zeros 1088)

end PqcBridge
