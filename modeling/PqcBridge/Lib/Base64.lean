/-
Base64 with the standard alphabet and padding.

Three bytes are written as four digits of six bits; a last group of one or two bytes is
filled up with `=`.

* `decode_encode`: decoding undoes encoding;
* `length_encode`: `n` bytes are written with `4 * ⌈n / 3⌉` characters;
* `encode_mem`: all of them are letters, digits, `+`, `/` or `=`.
-/
import Mathlib

namespace Base64

/-! ### Digits -/

/-- The character of a digit. -/
def digitChar (n : ℕ) : Char :=
  if n < 26 then Char.ofNat (65 + n)
  else if n < 52 then Char.ofNat (97 + (n - 26))
  else if n < 62 then Char.ofNat (48 + (n - 52))
  else if n = 62 then '+'
  else '/'

/-- The digit of a character. -/
def digitValue (c : Char) : Option ℕ :=
  if 65 ≤ c.toNat ∧ c.toNat ≤ 90 then some (c.toNat - 65)
  else if 97 ≤ c.toNat ∧ c.toNat ≤ 122 then some (c.toNat - 97 + 26)
  else if 48 ≤ c.toNat ∧ c.toNat ≤ 57 then some (c.toNat - 48 + 52)
  else if c = '+' then some 62
  else if c = '/' then some 63
  else none

/-- The characters that an encoding is made of. -/
def IsBase64 (c : Char) : Prop :=
  (65 ≤ c.toNat ∧ c.toNat ≤ 90) ∨ (97 ≤ c.toNat ∧ c.toNat ≤ 122) ∨
    (48 ≤ c.toNat ∧ c.toNat ≤ 57) ∨ c.toNat = 43 ∨ c.toNat = 47 ∨ c.toNat = 61

instance (c : Char) : Decidable (IsBase64 c) := inferInstanceAs (Decidable (_ ∨ _))

lemma digitValue_digitChar : ∀ n < 64, digitValue (digitChar n) = some n := by
  decide

lemma isBase64_digitChar : ∀ n < 64, IsBase64 (digitChar n) := by
  decide

lemma digitChar_ne_pad : ∀ n < 64, digitChar n ≠ '=' := by
  decide

/-! ### Groups -/

/-- The digits of a group of three bytes; missing bytes count as zero. -/
def group (a b c : UInt8) : List Char :=
  [digitChar (a.toNat / 4), digitChar (a.toNat % 4 * 16 + b.toNat / 16),
    digitChar (b.toNat % 16 * 4 + c.toNat / 64), digitChar (c.toNat % 64)]

/-- The encoding of a byte string. -/
def encode : List UInt8 → List Char
  | [] => []
  | [a] => (group a 0 0).take 2 ++ ['=', '=']
  | [a, b] => (group a b 0).take 3 ++ ['=']
  | a :: b :: c :: rest => group a b c ++ encode rest

/-- The three bytes of four digits. -/
def ungroup (w x y z : ℕ) : List UInt8 :=
  [UInt8.ofNat (w * 4 + x / 16), UInt8.ofNat (x % 16 * 16 + y / 4), UInt8.ofNat (y % 4 * 64 + z)]

/-- The byte string that a text encodes.  Padding stands at the end only; the bits that it
leaves over are not looked at. -/
def decode : List Char → Option (List UInt8)
  | [] => some []
  | w :: x :: y :: z :: rest => do
    let w ← digitValue w
    let x ← digitValue x
    if y = '=' ∧ z = '=' ∧ rest = [] then return (ungroup w x 0 0).take 1
    else
      let y ← digitValue y
      if z = '=' ∧ rest = [] then return (ungroup w x y 0).take 2
      else
        let z ← digitValue z
        let bytes ← decode rest
        return ungroup w x y z ++ bytes
  | _ => none

/-- The bytes of a group are those it was made of. -/
lemma ungroup_digits (a b c : UInt8) :
    ungroup (a.toNat / 4) (a.toNat % 4 * 16 + b.toNat / 16) (b.toNat % 16 * 4 + c.toNat / 64)
      (c.toNat % 64) = [a, b, c] := by
  have ha := a.toNat_lt
  have hb := b.toNat_lt
  have hc := c.toNat_lt
  have h₁ : a.toNat / 4 * 4 + (a.toNat % 4 * 16 + b.toNat / 16) / 16 = a.toNat := by omega
  have h₂ : (a.toNat % 4 * 16 + b.toNat / 16) % 16 * 16 + (b.toNat % 16 * 4 + c.toNat / 64) / 4
      = b.toNat := by omega
  have h₃ : (b.toNat % 16 * 4 + c.toNat / 64) % 4 * 64 + c.toNat % 64 = c.toNat := by omega
  simp only [ungroup, h₁, h₂, h₃, UInt8.ofNat_toNat]

/-- The four digits of a group are digits. -/
lemma digits_lt (a b c : UInt8) : a.toNat / 4 < 64 ∧ a.toNat % 4 * 16 + b.toNat / 16 < 64 ∧
    b.toNat % 16 * 4 + c.toNat / 64 < 64 ∧ c.toNat % 64 < 64 := by
  have ha := a.toNat_lt
  have hb := b.toNat_lt
  have hc := c.toNat_lt
  omega

/-! ### Texts -/

/-- Decoding undoes encoding. -/
theorem decode_encode (bytes : List UInt8) : decode (encode bytes) = some bytes := by
  induction bytes using encode.induct with
  | case1 => rfl
  -- one byte is left: two characters and two paddings
  | case2 a =>
    obtain ⟨h₁, h₂, -, -⟩ := digits_lt a 0 0
    have hgroup : (ungroup (a.toNat / 4) (a.toNat % 4 * 16 + (0 : UInt8).toNat / 16) 0 0).take 1
        = [a] := congrArg (List.take 1) (ungroup_digits a 0 0)
    show decode [digitChar (a.toNat / 4), digitChar (a.toNat % 4 * 16 + (0 : UInt8).toNat / 16),
      '=', '='] = some [a]
    rw [decode, digitValue_digitChar _ h₁, digitValue_digitChar _ h₂, ← hgroup]
    rfl
  -- two bytes are left: three characters and one padding
  | case3 a b =>
    obtain ⟨h₁, h₂, h₃, -⟩ := digits_lt a b 0
    have hgroup : (ungroup (a.toNat / 4) (a.toNat % 4 * 16 + b.toNat / 16)
        (b.toNat % 16 * 4 + (0 : UInt8).toNat / 64) 0).take 2 = [a, b] :=
      congrArg (List.take 2) (ungroup_digits a b 0)
    show decode [digitChar (a.toNat / 4), digitChar (a.toNat % 4 * 16 + b.toNat / 16),
      digitChar (b.toNat % 16 * 4 + (0 : UInt8).toNat / 64), '='] = some [a, b]
    rw [decode, digitValue_digitChar _ h₁, digitValue_digitChar _ h₂, digitValue_digitChar _ h₃,
      ← hgroup]
    simp only [digitChar_ne_pad _ h₃, false_and, if_false, Option.bind_eq_bind, Option.bind_some]
    rfl
  | case4 a b c rest ih =>
    obtain ⟨h₁, h₂, h₃, h₄⟩ := digits_lt a b c
    have hgroup := ungroup_digits a b c
    rw [encode, group, List.cons_append, List.cons_append, List.cons_append, List.cons_append,
      List.nil_append, decode, digitValue_digitChar _ h₁, digitValue_digitChar _ h₂,
      digitValue_digitChar _ h₃, digitValue_digitChar _ h₄, ih]
    simp [digitChar_ne_pad _ h₄, hgroup]

@[simp] lemma length_encode (bytes : List UInt8) :
    (encode bytes).length = 4 * ((bytes.length + 2) / 3) := by
  induction bytes using encode.induct with
  | case1 => rfl
  | case2 a => simp [encode, group]
  | case3 a b => simp [encode, group]
  | case4 a b c rest ih =>
    simp only [encode, group, List.length_append, List.length_cons, List.length_nil, ih]
    omega

lemma isBase64_of_mem_group {a b c : UInt8} {x : Char} (h : x ∈ group a b c) : IsBase64 x := by
  obtain ⟨h₁, h₂, h₃, h₄⟩ := digits_lt a b c
  simp only [group, List.mem_cons, List.not_mem_nil, or_false] at h
  rcases h with rfl | rfl | rfl | rfl
  · exact isBase64_digitChar _ h₁
  · exact isBase64_digitChar _ h₂
  · exact isBase64_digitChar _ h₃
  · exact isBase64_digitChar _ h₄

lemma encode_mem {bytes : List UInt8} {x : Char} (h : x ∈ encode bytes) : IsBase64 x := by
  have hpad : IsBase64 '=' := by decide
  induction bytes using encode.induct with
  | case1 => cases h
  | case2 a =>
    rcases List.mem_append.1 h with h | h
    · exact isBase64_of_mem_group (List.mem_of_mem_take h)
    · simp only [List.mem_cons, List.not_mem_nil, or_false, or_self] at h
      rw [h]
      exact hpad
  | case3 a b =>
    rcases List.mem_append.1 h with h | h
    · exact isBase64_of_mem_group (List.mem_of_mem_take h)
    · rw [List.mem_singleton.1 h]
      exact hpad
  | case4 a b c rest ih =>
    rcases List.mem_append.1 h with h | h
    · exact isBase64_of_mem_group h
    · exact ih h

end Base64
