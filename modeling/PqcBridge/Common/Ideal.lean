/-
The primitives over symbolic terms.

`ideal table` instantiates the library calls with the terms of `PqcBridge.Lib.Symbolic`:
encryption and encapsulation are constructors, decryption and decapsulation look
inside, and the base64 text of a term is a code from which the term can be read back.
Public data are texts and numbered records; `table` says what `json.loads` makes of a
record.  Everything here computes, so that concrete runs can be evaluated.
-/
import PqcBridge.Common.Primitives
import PqcBridge.Lib.Symbolic
import PqcBridge.Python.Dumps

namespace PqcBridge

open Python Symbolic Symbolic.Term

/-- Public byte strings: the encoding of a text, or a numbered record. -/
inductive Datum where
  | text (s : PyStr)
  | record (n : ℕ)
deriving DecidableEq

/-- Whose secret a name is. -/
inductive Owner where
  | cloud
  | gateway
  | device
  | coins
  | attacker
deriving DecidableEq

/-- The names: for every owner, as many as are needed. -/
structure Name where
  owner : Owner
  index : ℕ
deriving DecidableEq

/-- Symbolic byte strings. -/
abbrev Bytes : Type := Term Datum Name

namespace Ideal

/-! ### The text of a term -/

/-- A number, as hexadecimal digits from the lowest one and a full stop. -/
def numCode (n : ℕ) : PyStr := (Nat.digits 16 n).map hexDigit ++ [.char '.']

/-- The value of a hexadecimal digit. -/
def digitValue (c : PyChar) : Option ℕ := (List.range 16).find? fun d => hexDigit d = c

/-- Reads a number off the front of a text. -/
def readNum : PyStr → Option (ℕ × PyStr)
  | [] => none
  | c :: s =>
    if c = .char '.' then some (0, s)
    else
      match digitValue c, readNum s with
      | some d, some (n, rest) => some (d + 16 * n, rest)
      | _, _ => none

lemma digitValue_hexDigit : ∀ d < 16, digitValue (hexDigit d) = some d := by decide

lemma hexDigit_ne_stop : ∀ d < 16, hexDigit d ≠ PyChar.char '.' := by decide

lemma readNum_digits {ds : List ℕ} (h : ∀ d ∈ ds, d < 16) (rest : PyStr) :
    readNum (ds.map hexDigit ++ .char '.' :: rest) = some (Nat.ofDigits 16 ds, rest) := by
  induction ds with
  | nil => simp [readNum]
  | cons d ds ih =>
    have hd : d < 16 := h d (by simp)
    have ih' := ih fun e he => h e (by simp [he])
    simp only [List.map_cons, List.cons_append, readNum, if_neg (hexDigit_ne_stop d hd),
      digitValue_hexDigit d hd, ih']
    simp [Nat.ofDigits_cons]

@[simp] lemma readNum_numCode (n : ℕ) (rest : PyStr) :
    readNum (numCode n ++ rest) = some (n, rest) := by
  have h : ∀ d ∈ Nat.digits 16 n, d < 16 := fun d hd => Nat.digits_lt_base (by norm_num) hd
  simp [numCode, readNum_digits h rest, Nat.ofDigits_digits]

/-- The code point of a character. -/
def codePoint : PyChar → ℕ
  | .char c => c.toNat
  | .surrogate u => 0xD800 + u.val

/-- The character with a code point. -/
def ofCodePoint (n : ℕ) : PyChar :=
  if h : 0xD800 ≤ n ∧ n < 0xE000 then .surrogate ⟨n - 0xD800, by omega⟩ else .char (Char.ofNat n)

lemma ofCodePoint_codePoint (c : PyChar) : ofCodePoint (codePoint c) = c := by
  cases c with
  | char c =>
    have hc : ¬ (0xD800 ≤ c.toNat ∧ c.toNat < 0xE000) := by
      rcases c.valid with h | h
      · intro h'
        have : c.toNat < 0xD800 := h
        omega
      · intro h'
        have : 0xDFFF < c.toNat := h.1
        omega
    simp [ofCodePoint, codePoint, hc]
  | surrogate u =>
    have hu := u.isLt
    have h : 0xD800 ≤ 0xD800 + u.val ∧ 0xD800 + u.val < 0xE000 := by omega
    simp [ofCodePoint, codePoint, h]

/-- A text, as its length and its code points. -/
def textCode (s : PyStr) : PyStr := numCode s.length ++ s.flatMap fun c => numCode (codePoint c)

/-- Reads `n` characters off the front of a text. -/
def readChars : ℕ → PyStr → Option (PyStr × PyStr)
  | 0, s => some ([], s)
  | n + 1, s =>
    match readNum s with
    | some (c, s) =>
      match readChars n s with
      | some (cs, rest) => some (ofCodePoint c :: cs, rest)
      | none => none
    | none => none

@[simp] lemma readChars_flatMap (s rest : PyStr) :
    readChars s.length ((s.flatMap fun c => numCode (codePoint c)) ++ rest) = some (s, rest) := by
  induction s with
  | nil => rfl
  | cons c s ih =>
    simp [readChars, List.append_assoc, ih, ofCodePoint_codePoint]

/-- The letter of an owner. -/
def ownerCode : Owner → PyChar
  | .cloud => .char 'C'
  | .gateway => .char 'G'
  | .device => .char 'D'
  | .coins => .char 'R'
  | .attacker => .char 'A'

/-- The owner with a letter. -/
def readOwner (c : PyChar) : Option Owner :=
  [Owner.cloud, .gateway, .device, .coins, .attacker].find? fun o => ownerCode o = c

@[simp] lemma readOwner_ownerCode (o : Owner) : readOwner (ownerCode o) = some o := by
  cases o <;> decide

/-- The text of a term, in prefix order. -/
def code : Bytes → PyStr
  | data (.text s) => .char 't' :: textCode s
  | data (.record n) => .char 'b' :: numCode n
  | name n => .char 'n' :: ownerCode n.owner :: numCode n.index
  | pub sk => .char 'p' :: code sk
  | ct pk r => .char 'c' :: (code pk ++ code r)
  | ss pk r => .char 's' :: (code pk ++ code r)
  | reject sk c => .char 'r' :: (code sk ++ code c)
  | kdf s => .char 'k' :: code s
  | aead k n p a => .char 'a' :: (code k ++ (code n ++ (code p ++ code a)))

/-- Reads two terms, one after the other. -/
def readTwo (read : PyStr → Option (Bytes × PyStr)) (s : PyStr) :
    Option (Bytes × Bytes × PyStr) :=
  match read s with
  | some (t, s) =>
    match read s with
    | some (u, s) => some (t, u, s)
    | none => none
  | none => none

/-- Reads a term off the front of a text; `fuel` bounds its depth. -/
def readTerm : ℕ → PyStr → Option (Bytes × PyStr)
  | 0, _ => none
  | _ + 1, [] => none
  | fuel + 1, c :: s =>
    if c = .char 't' then
      match readNum s with
      | some (n, s) => (readChars n s).map fun r => (data (.text r.1), r.2)
      | none => none
    else if c = .char 'b' then (readNum s).map fun r => (data (.record r.1), r.2)
    else if c = .char 'n' then
      match s with
      | [] => none
      | o :: s =>
        match readOwner o with
        | some o => (readNum s).map fun r => (name ⟨o, r.1⟩, r.2)
        | none => none
    else if c = .char 'p' then (readTerm fuel s).map fun r => (pub r.1, r.2)
    else if c = .char 'c' then (readTwo (readTerm fuel) s).map fun r => (ct r.1 r.2.1, r.2.2)
    else if c = .char 's' then (readTwo (readTerm fuel) s).map fun r => (ss r.1 r.2.1, r.2.2)
    else if c = .char 'r' then (readTwo (readTerm fuel) s).map fun r => (reject r.1 r.2.1, r.2.2)
    else if c = .char 'k' then (readTerm fuel s).map fun r => (kdf r.1, r.2)
    else if c = .char 'a' then
      match readTwo (readTerm fuel) s with
      | some (k, n, s) => (readTwo (readTerm fuel) s).map fun r => (aead k n r.1 r.2.1, r.2.2)
      | none => none
    else none

lemma readTwo_append {read : PyStr → Option (Bytes × PyStr)} {t u : Bytes} {a b rest : PyStr}
    (ht : ∀ rest, read (a ++ rest) = some (t, rest))
    (hu : ∀ rest, read (b ++ rest) = some (u, rest)) :
    readTwo read (a ++ (b ++ rest)) = some (t, u, rest) := by
  simp [readTwo, ht, hu]

lemma code_ne_nil (t : Bytes) : code t ≠ [] := by
  cases t with
  | data a => cases a <;> simp [code]
  | _ => simp [code]

/-- A term can be read back from the front of any text that starts with its code. -/
lemma readTerm_code (t : Bytes) : ∀ (fuel : ℕ) (_ : (code t).length ≤ fuel) (rest : PyStr),
    readTerm fuel (code t ++ rest) = some (t, rest) := by
  -- the first letter says which constructor it is; the fuel is enough for the parts, whose
  -- codes are shorter
  induction t with
  | data a =>
    rintro (_ | fuel) h rest
    · cases a <;> simp [code] at h
    · cases a <;> simp [code, readTerm, textCode]
  | name n =>
    rintro (_ | fuel) h rest
    · simp [code] at h
    · simp [code, readTerm]
  | pub sk ih =>
    rintro (_ | fuel) h rest
    · simp [code] at h
    · simp [code, readTerm, ih fuel (by simpa [code] using h)]
  | kdf s ih =>
    rintro (_ | fuel) h rest
    · simp [code] at h
    · simp [code, readTerm, ih fuel (by simpa [code] using h)]
  | ct pk r ihp ihr =>
    rintro (_ | fuel) h rest
    · simp [code] at h
    · simp only [code, List.length_cons, List.length_append] at h
      simp [code, readTerm, readTwo_append (ihp fuel (by omega))
        (ihr fuel (by omega))]
  | ss pk r ihp ihr =>
    rintro (_ | fuel) h rest
    · simp [code] at h
    · simp only [code, List.length_cons, List.length_append] at h
      simp [code, readTerm, readTwo_append (ihp fuel (by omega))
        (ihr fuel (by omega))]
  | reject sk c ihs ihc =>
    rintro (_ | fuel) h rest
    · simp [code] at h
    · simp only [code, List.length_cons, List.length_append] at h
      simp [code, readTerm, readTwo_append (ihs fuel (by omega))
        (ihc fuel (by omega))]
  | aead k n p a ihk ihn ihp iha =>
    rintro (_ | fuel) h rest
    · simp [code] at h
    · simp only [code, List.length_cons, List.length_append] at h
      simp [code, readTerm, readTwo_append (ihk fuel (by omega))
        (ihn fuel (by omega)), readTwo_append (ihp fuel (by omega))
        (iha fuel (by omega))]

/-- The term that a text is the code of. -/
def decode (s : PyStr) : Option Bytes :=
  match readTerm s.length s with
  | some (t, []) => some t
  | _ => none

@[simp] lemma decode_code (t : Bytes) : decode (code t) = some t := by
  have h := readTerm_code t _ le_rfl []
  rw [List.append_nil] at h
  simp [decode, h]

lemma code_injective : Function.Injective code := fun t u h => by
  have := congrArg decode h
  simpa using this

/-! ### Every code is ASCII -/

lemma isAscii_hexDigit : ∀ d < 16, (hexDigit d).isAscii = true := by decide

@[simp] lemma isAscii_numCode (n : ℕ) : isAscii (numCode n) = true := by
  have h : ∀ ds : List ℕ, (∀ d ∈ ds, d < 16) → isAscii (ds.map hexDigit) = true := by
    intro ds hds
    induction ds with
    | nil => rfl
    | cons d ds ih =>
      simp [isAscii_hexDigit d (hds d (by simp)), ih fun e he => hds e (by simp [he])]
  rw [numCode, isAscii_append, h _ fun d hd => Nat.digits_lt_base (by norm_num) hd]
  rfl

lemma isAscii_textCode (s : PyStr) : isAscii (textCode s) = true := by
  simp [textCode, isAscii_flatMap fun c => isAscii_numCode (codePoint c)]

lemma isAscii_ownerCode (o : Owner) : (ownerCode o).isAscii = true := by
  cases o <;> rfl

lemma isAscii_code (t : Bytes) : isAscii (code t) = true := by
  induction t with
  | data a => cases a <;> simp [code, isAscii_textCode]
  | name n => simp [code, isAscii_ownerCode]
  | _ => simp_all [code]

/-! ### The primitives -/

/-- The length of a symbolic byte string. -/
def len : Bytes → ℕ
  | data (.text s) => s.length
  | data (.record _) => 64
  | name ⟨.attacker, n⟩ => n
  | name _ => 32
  | pub _ => 1184
  | ct _ _ => 1088
  | ss _ _ => 32
  | reject _ _ => 32
  | kdf _ => 32
  | aead _ _ p _ => len p + 16

/-- Decryption looks for an encryption under the same key, nonce and associated data. -/
def decrypt (key nonce : Bytes) : Bytes → Bytes → Option Bytes
  | aead k n p a, aad => if k = key ∧ n = nonce ∧ a = aad then some p else none
  | _, _ => none

/-- Decapsulation, with implicit rejection. -/
def decapsulate (sk : Bytes) : Bytes → Option Bytes
  | ct pk r => if pk = pub sk then some (ss pk r) else some (reject sk (ct pk r))
  | c => if len c = 1088 then some (reject sk c) else none

/-- What `json.loads` returns for a record. -/
def loads (table : ℕ → Option Json) : Bytes → Except LoadsError Json
  | data (.record n) =>
    match table n with
    | some v => .ok v
    | none => .error .valueError
  | _ => .error .valueError

/-- Whether the bytes are a public key. -/
def isPublicKey : Bytes → Bool
  | pub _ => true
  | _ => false

end Ideal

/-- The primitives over symbolic byte strings; `table` is the content of the records. -/
def ideal (table : ℕ → Option Json) : Primitives Bytes where
  len := Ideal.len
  utf8 s := data (.text s)
  b64encode := Ideal.code
  b64decode := Ideal.decode
  loads := Ideal.loads table
  encrypt k n p a := aead k n p a
  decrypt := Ideal.decrypt
  sha256hex := Ideal.code
  sha256hex_ascii := Ideal.isAscii_code
  publicKey := pub
  validPublicKey := Ideal.isPublicKey
  encapsulate pk r := (ss pk r, ct pk r)
  decapsulate := Ideal.decapsulate
  hkdf := kdf
  hkdf_len _ := rfl
  floatText _ := lit "0.0"
  valueText _ := lit "None"
  tempText _ := lit "0.00"

lemma ideal_lawful (table : ℕ → Option Json) : (ideal table).Lawful where
  b64_roundtrip := Ideal.decode_code
  b64_ne_nil t _ := Ideal.code_ne_nil t
  decrypt_encrypt k n p a _ _ := by simp [ideal, Ideal.decrypt]
  encrypt_len _ _ _ _ := rfl
  publicKey_len _ := rfl
  publicKey_valid _ := rfl
  ciphertext_len _ _ := rfl
  decapsulate_encapsulate sk r := by simp [ideal, Ideal.decapsulate]

/-! ### The credentials of the demo -/

namespace Demo

def cloudKey : Bytes := name ⟨.cloud, 0⟩
def gatewayKey : Bytes := name ⟨.gateway, 0⟩
def deviceKey (n : ℕ) : Bytes := name ⟨.device, n⟩
def coins (n : ℕ) : Bytes := name ⟨.coins, n⟩

/-- The `n`-th random nonce; nonces are public. -/
def nonce (n : ℕ) : Bytes := data (.text (List.replicate 11 (PyChar.char '-') ++ [hexDigit n]))

end Demo

end PqcBridge
