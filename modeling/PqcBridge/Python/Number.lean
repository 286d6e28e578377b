/-
`int()` of a text, as `state.load_sequence` applies it to what `str()` has written.

`int` takes an optional sign and decimal digits, with single underscores between them.
Digits outside ASCII, which `str` never writes, count as no digits here.

* `parseInt_decimal`: a number that was written is read back.
-/
import PqcBridge.Python.Value

namespace Python

/-- Whether `str.strip` removes the character. -/
def isSpace : PyChar → Bool
  | .char c =>
    (9 ≤ c.toNat && c.toNat ≤ 13) || (28 ≤ c.toNat && c.toNat ≤ 32) || c.toNat = 0x85
      || c.toNat = 0xA0 || c.toNat = 0x1680 || (0x2000 ≤ c.toNat && c.toNat ≤ 0x200A)
      || c.toNat = 0x2028 || c.toNat = 0x2029 || c.toNat = 0x202F || c.toNat = 0x205F
      || c.toNat = 0x3000
  | .surrogate _ => false

/-- `str.strip`. -/
def strip (s : PyStr) : PyStr := ((s.dropWhile isSpace).reverse.dropWhile isSpace).reverse

/-- The value of a digit. -/
def digit : PyChar → Option ℕ
  | .char c => if c.isDigit then some (c.toNat - '0'.toNat) else none
  | .surrogate _ => none

/-- The value of the digits that follow a number; `afterDigit` is whether the character
before them is a digit. -/
def readDigits (value : ℕ) (afterDigit : Bool) : PyStr → Option ℕ
  | [] => if afterDigit then some value else none
  | c :: s =>
    match digit c with
    | some d => readDigits (10 * value + d) true s
    | none => if c = .char '_' ∧ afterDigit then readDigits value false s else none

/-- `int(s)`; `none` is `ValueError`. -/
def parseInt (s : PyStr) : Option ℤ :=
  match strip s with
  | .char '-' :: s => (readDigits 0 false s).map fun n => -(n : ℤ)
  | .char '+' :: s => (readDigits 0 false s).map fun n => (n : ℤ)
  | s => (readDigits 0 false s).map fun n => (n : ℤ)

/-! ### What was written is read back -/

lemma readDigits_digits {l : List Char} (h : ∀ c ∈ l, c.isDigit = true) (value : ℕ)
    (afterDigit : Bool) (hne : afterDigit = true ∨ l ≠ []) :
    readDigits value afterDigit (l.map .char) = some (Nat.ofDigitChars 10 l value) := by
  induction l generalizing value afterDigit with
  | nil =>
    rcases hne with rfl | hne
    · rfl
    · exact absurd rfl hne
  | cons c l ih =>
    have hc : digit (.char c) = some (c.toNat - '0'.toNat) := if_pos (h c List.mem_cons_self)
    rw [List.map_cons, readDigits, hc, Nat.ofDigitChars_cons]
    exact ih (fun c' hc' => h c' (List.mem_cons_of_mem c hc')) _ true (Or.inl rfl)

/-- The digits of a number. -/
lemma readDigits_repr (n : ℕ) : readDigits 0 false (n.repr.toList.map .char) = some n := by
  rw [Nat.toList_repr, readDigits_digits (fun c hc => Nat.isDigit_of_mem_toDigits (by decide)
    (by decide) hc) 0 false (Or.inr Nat.toDigits_ne_nil), Nat.ofDigitChars_ten_toDigits]

/-- There is nothing to strip. -/
lemma strip_eq_self {s : PyStr} (h : ∀ c ∈ s, isSpace c = false) : strip s = s := by
  have hdrop : ∀ t : PyStr, (∀ c ∈ t, isSpace c = false) → t.dropWhile isSpace = t := by
    intro t ht
    cases t with
    | nil => rfl
    | cons c t => rw [List.dropWhile_cons_of_neg (by simp [ht c List.mem_cons_self])]
  rw [strip, hdrop s h, hdrop s.reverse fun c hc => h c (List.mem_reverse.1 hc),
    List.reverse_reverse]

lemma isSpace_decimal (n : ℤ) : ∀ c ∈ decimal n, isSpace c = false := by
  intro c hc
  obtain ⟨d, -, rfl⟩ := List.mem_map.1 hc
  by_contra hspace
  rw [Bool.not_eq_false] at hspace
  -- a space is no digit and no sign
  have hdigit : d.isDigit = false := by
    by_contra hd
    rw [Bool.not_eq_false, Char.isDigit, Bool.and_eq_true, decide_eq_true_eq,
      decide_eq_true_eq] at hd
    have h1 : 48 ≤ d.toNat := hd.1
    have h2 : d.toNat ≤ 57 := hd.2
    simp only [isSpace, Bool.or_eq_true, Bool.and_eq_true, decide_eq_true_eq] at hspace
    omega
  have hsign : d ≠ '-' := by
    rintro rfl
    exact absurd hspace (by decide)
  exact notMem_decimal hdigit hsign n hc

/-- A text of digits starts with no sign. -/
lemma parseInt_digits {s : PyStr} (hspace : ∀ c ∈ s, isSpace c = false)
    (hminus : s.head? ≠ some (.char '-')) (hplus : s.head? ≠ some (.char '+')) :
    parseInt s = (readDigits 0 false s).map fun n => (n : ℤ) := by
  rw [parseInt, strip_eq_self hspace]
  split
  · exact absurd rfl hminus
  · exact absurd rfl hplus
  · rfl

/-- A number that was written is read back. -/
theorem parseInt_decimal (n : ℤ) : parseInt (decimal n) = some n := by
  cases n with
  | ofNat k =>
    -- a number that is not negative has no sign
    have hmem : ∀ c : Char, c.isDigit = false → (decimal (k : ℤ)).head? ≠ some (.char c) := by
      intro c hc hhead
      have hin : PyChar.char c ∈ k.repr.toList.map PyChar.char := List.mem_of_mem_head? hhead
      obtain ⟨d, hd, hdc⟩ := List.mem_map.1 hin
      cases hdc
      rw [Nat.toList_repr] at hd
      have htrue := Nat.isDigit_of_mem_toDigits (by decide) (by decide) hd
      rw [hc] at htrue
      cases htrue
    show parseInt (decimal (k : ℤ)) = some (k : ℤ)
    rw [parseInt_digits (isSpace_decimal _) (hmem '-' (by decide)) (hmem '+' (by decide))]
    have hread : readDigits 0 false (decimal (k : ℤ)) = some k := readDigits_repr k
    rw [hread]
    rfl
  | negSucc k =>
    have htext : decimal (Int.negSucc k) = .char '-' :: (k + 1).repr.toList.map .char := by
      simp [decimal, lit, toString, Int.repr]
    rw [parseInt, strip_eq_self (isSpace_decimal _), htext]
    show (readDigits 0 false ((k + 1).repr.toList.map .char)).map (fun n => -(n : ℤ)) = _
    rw [readDigits_repr]
    rfl

end Python
