/-
`json.loads` undoes `json.dumps`.

The text of a value is cut into the tokens that it was put together from, and the scanner
builds the value from them again.  The strings must be valid Unicode, the keys of a
dictionary distinct, the integers no longer than `int` takes, the nesting within the limit;
that the text of a float is read back is part of the assumptions.

* `loads_dumps`: what was written is read back.
-/
import PqcBridge.Common.Loads

namespace PqcBridge.Loads

open Python PqcBridge.Ideal

variable (readFloat : PyStr → PyFloat)

/-! ### Numbers -/

/-- Whether a number can go on with the character. -/
def inNumber (c : PyChar) : Bool :=
  isDigit c || c = .char '.' || c = .char 'e' || c = .char 'E' || c = .char '-' || c = .char '+'

/-- No number goes on with this text. -/
def Ends (rest : PyStr) : Prop := ∀ c ∈ rest.head?, inNumber c = false

variable {readFloat} {s rest : PyStr}

lemma inNumber_eq_false {c : PyChar} (h : inNumber c = false) :
    isDigit c = false ∧ c ≠ .char '.' ∧ c ≠ .char 'e' ∧ c ≠ .char 'E' ∧ c ≠ .char '-' ∧
      c ≠ .char '+' := by
  simpa [inNumber, and_assoc] using h

lemma takeWhile_append (h : Ends rest) :
    (s ++ rest).takeWhile isDigit = s.takeWhile isDigit := by
  induction s with
  | nil =>
    cases rest with
    | nil => rfl
    | cons c rest => simp [inNumber_eq_false (h c rfl)]
  | cons c s ih => simp only [List.cons_append, List.takeWhile_cons, ih]

lemma dropWhile_append (h : Ends rest) :
    (s ++ rest).dropWhile isDigit = s.dropWhile isDigit ++ rest := by
  induction s with
  | nil =>
    cases rest with
    | nil => rfl
    | cons c rest => simp [inNumber_eq_false (h c rfl)]
  | cons c s ih =>
    simp only [List.cons_append, List.dropWhile_cons, ih]
    split_ifs <;> rfl

lemma scanMinus_append (h : Ends rest) :
    scanMinus (s ++ rest) = ((scanMinus s).1, (scanMinus s).2 ++ rest) := by
  cases s with
  | nil =>
    cases rest with
    | nil => rfl
    | cons c rest => simp [scanMinus, inNumber_eq_false (h c rfl)]
  | cons c s =>
    simp only [List.cons_append, scanMinus]
    split_ifs <;> rfl

lemma scanInt_append (h : Ends rest) {int r : PyStr} (hs : scanInt s = some (int, r)) :
    scanInt (s ++ rest) = some (int, r ++ rest) := by
  cases s with
  | nil => cases hs
  | cons c s =>
    simp only [List.cons_append, scanInt, takeWhile_append h, dropWhile_append h] at hs ⊢
    split_ifs at hs ⊢
    · cases hs
      rfl
    · cases hs
      rfl

lemma scanFrac_append (h : Ends rest) :
    scanFrac (s ++ rest) = ((scanFrac s).1, (scanFrac s).2 ++ rest) := by
  cases s with
  | nil =>
    cases rest with
    | nil => rfl
    | cons c rest => simp [scanFrac, inNumber_eq_false (h c rfl)]
  | cons c s =>
    simp only [List.cons_append, scanFrac, takeWhile_append h, dropWhile_append h]
    split_ifs <;> rfl

lemma scanSign_append (h : Ends rest) :
    scanSign (s ++ rest) = ((scanSign s).1, (scanSign s).2 ++ rest) := by
  cases s with
  | nil =>
    cases rest with
    | nil => rfl
    | cons c rest => simp [scanSign, inNumber_eq_false (h c rfl)]
  | cons c s =>
    simp only [List.cons_append, scanSign]
    split_ifs <;> rfl

lemma scanExp_append (h : Ends rest) :
    scanExp (s ++ rest) = ((scanExp s).1, (scanExp s).2 ++ rest) := by
  cases s with
  | nil =>
    cases rest with
    | nil => rfl
    | cons c rest => simp [scanExp, inNumber_eq_false (h c rfl)]
  | cons c s =>
    simp only [List.cons_append, scanExp, scanSign_append h, takeWhile_append h,
      dropWhile_append h]
    split_ifs <;> rfl

/-- A number is read in front of any text that does not go on with it. -/
lemma scanNumber_append (h : Ends rest) {v : Json} {r : PyStr}
    (hs : scanNumber readFloat s = some (v, r)) :
    scanNumber readFloat (s ++ rest) = some (v, r ++ rest) := by
  unfold scanNumber at hs
  split at hs
  · cases hs
  · next int s₁ hint =>
    split at hs
    · cases hs
    · next w hvalue =>
      cases hs
      have hint' : scanInt ((scanMinus s).2 ++ rest) = some (int, s₁ ++ rest) :=
        scanInt_append h hint
      simp only [scanNumber, scanMinus_append h, hint', scanFrac_append h, scanExp_append h, hvalue]

lemma isDigit_char {c : Char} : isDigit (.char c) = c.isDigit := by
  simp only [isDigit, digit]
  split_ifs with h <;> simp [h]

/-- Only zero is written with a zero in front. -/
lemma head_toDigits {n : ℕ} (hn : 0 < n) : (Nat.toDigits 10 n).head? ≠ some '0' := by
  induction n using Nat.strong_induction_on with
  | _ n ih =>
    rcases Nat.lt_or_ge n 10 with hlt | hge
    · rw [Nat.toDigits_of_lt_base hlt]
      interval_cases n <;> decide
    · rw [Nat.toDigits_of_base_le (by norm_num) hge,
        List.head?_append_of_ne_nil _ Nat.toDigits_ne_nil]
      exact ih (n / 10) (by omega) (by omega)

lemma isDigit_toDigits (n : ℕ) : ∀ c ∈ (Nat.toDigits 10 n).map PyChar.char, isDigit c = true := by
  intro c hc
  obtain ⟨d, hd, rfl⟩ := List.mem_map.1 hc
  rw [isDigit_char]
  exact Nat.isDigit_of_mem_toDigits (by decide) (by decide) hd

/-- Digits have no sign in front. -/
lemma scanMinus_digits (h : ∀ c ∈ s, isDigit c = true) : scanMinus s = ([], s) := by
  cases s with
  | nil => rfl
  | cons c s =>
    have hc : c ≠ .char '-' := by
      rintro rfl
      exact absurd (h _ List.mem_cons_self) (by decide)
    exact if_neg hc

/-- The digits of a natural number are read to their end. -/
lemma scanInt_toDigits (n : ℕ) :
    scanInt ((Nat.toDigits 10 n).map .char) = some ((Nat.toDigits 10 n).map .char, []) := by
  have hdigit := isDigit_toDigits n
  rcases Nat.eq_zero_or_pos n with rfl | hn
  · rw [Nat.toDigits_zero]
    rfl
  · have hhead := head_toDigits hn
    cases hdigits : Nat.toDigits 10 n with
    | nil => exact absurd hdigits Nat.toDigits_ne_nil
    | cons c l =>
      rw [hdigits] at hhead hdigit
      have hc : PyChar.char c ≠ .char '0' := by
        intro h
        injection h with h
        exact hhead (congrArg some h)
      have hrest : ∀ d ∈ l.map PyChar.char, isDigit d = true := fun d hd =>
        hdigit d (List.mem_cons_of_mem _ hd)
      rw [List.map_cons, scanInt, if_neg hc, if_pos (hdigit _ List.mem_cons_self),
        List.takeWhile_eq_self_iff.2 hrest, List.dropWhile_eq_nil_iff.2 hrest]

/-- The number of digits that `str` writes. -/
def digits (n : ℤ) : ℕ := (Nat.toDigits 10 n.natAbs).length

/-- An integer that was written is read back. -/
lemma scanNumber_decimal {n : ℤ} (hn : digits n ≤ maxStrDigits) :
    scanNumber readFloat (decimal n) = some (.int n, []) := by
  have hvalue := parseInt_decimal n
  cases n with
  | ofNat k =>
    have htext : decimal (Int.ofNat k) = (Nat.toDigits 10 k).map .char :=
      congrArg (List.map PyChar.char) Nat.toList_repr
    have hlen : ¬ maxStrDigits < (Nat.toDigits 10 k).length := Nat.not_lt.2 hn
    rw [htext] at hvalue ⊢
    simp [scanNumber, scanMinus_digits (isDigit_toDigits k), scanInt_toDigits, scanFrac, scanExp,
      numberValue, hvalue, hlen]
  | negSucc k =>
    have htext : decimal (Int.negSucc k) = .char '-' :: (Nat.toDigits 10 (k + 1)).map .char := by
      rw [← Nat.toList_repr]
      simp [decimal, lit, toString, Int.repr]
    have hlen : ¬ maxStrDigits < (Nat.toDigits 10 (k + 1)).length := Nat.not_lt.2 hn
    rw [htext] at hvalue ⊢
    simp [scanNumber, scanMinus, scanInt_toDigits, scanFrac, scanExp, numberValue, hvalue, hlen]

/-! ### The tokens of a text -/

lemma ne_of_isDigit {c : PyChar} (hc : isDigit c = true) {x : Char} (hx : x.isDigit = false) :
    c ≠ .char x := by
  rintro rfl
  rw [isDigit_char, hx] at hc
  cases hc

/-- A number starts with a digit or with a sign and a digit. -/
lemma exists_digit_of_scanNumber {v : Json} {r : PyStr}
    (h : scanNumber readFloat s = some (v, r)) :
    ∃ d s', isDigit d = true ∧ (s = d :: s' ∨ s = .char '-' :: d :: s') := by
  have hdigit : ∃ d s', isDigit d = true ∧ (scanMinus s).2 = d :: s' := by
    unfold scanNumber at h
    split at h
    · cases h
    · next int s₁ hint =>
      cases hs : (scanMinus s).2 with
      | nil =>
        rw [hs] at hint
        cases hint
      | cons d s' =>
        rw [hs, scanInt] at hint
        split_ifs at hint with h0 hd
        · exact ⟨d, s', by rw [h0]; decide, rfl⟩
        · exact ⟨d, s', hd, rfl⟩
  -- the sign, if there is one, stands before the digit
  obtain ⟨d, s', hd, hs⟩ := hdigit
  refine ⟨d, s', hd, ?_⟩
  cases s with
  | nil => cases hs
  | cons c s =>
    rw [scanMinus] at hs
    split_ifs at hs with hc
    · exact Or.inr (by rw [hc, ← hs])
    · exact Or.inl hs

lemma tokens_cons {c : PyChar} {t : Token} {r : PyStr} (hblank : isBlank c = false)
    (h : scanToken readFloat c s = (t, r)) :
    tokens readFloat (c :: s) = t :: tokens readFloat r := by
  rw [tokens, hblank, h]
  rfl

/-- The number at the front of a text is its first token. -/
lemma tokens_number {v : Json} (h : scanNumber readFloat s = some (v, [])) (hrest : Ends rest) :
    tokens readFloat (s ++ rest) = .atom v :: tokens readFloat rest := by
  have hscan := scanNumber_append hrest h
  rw [List.nil_append] at hscan
  obtain ⟨d, s', hd, rfl | rfl⟩ := exists_digit_of_scanNumber h
  · have hne : ∀ x : Char, x.isDigit = false → d ≠ .char x := fun x hx => ne_of_isDigit hd hx
    rw [List.cons_append] at hscan ⊢
    refine tokens_cons ?_ ?_
    · simp [isBlank, hne ' ' rfl, hne '\t' rfl, hne '\n' rfl, hne '\r' rfl]
    · have hname : scanName (d :: (s' ++ rest)) = none := by
        simp [scanName, names, lit, List.isPrefixOf, (hne 'n' rfl).symm, (hne 't' rfl).symm,
          (hne 'f' rfl).symm, (hne 'N' rfl).symm, (hne 'I' rfl).symm, (hne '-' rfl).symm]
      simp [scanToken, hne '[' rfl, hne ']' rfl, hne (Char.ofNat 123) rfl,
        hne (Char.ofNat 125) rfl, hne ',' rfl, hne ':' rfl, hne (Char.ofNat 34) rfl, hname, hscan]
  · rw [List.cons_append, List.cons_append] at hscan ⊢
    refine tokens_cons rfl ?_
    have hname : scanName (.char '-' :: d :: (s' ++ rest)) = none := by
      simp [scanName, names, lit, List.isPrefixOf, (ne_of_isDigit hd (x := 'I') rfl).symm]
    simp [scanToken, hname, hscan]

/-! ### Strings -/

lemma hexValue_hexDigit : ∀ d < 16, hexValue (hexDigit d) = some d := by decide

lemma scanString_escapeShort {c : Char} {n : ℕ} {us : List ℕ} {r : PyStr} (hc : c ≠ 'u')
    (hn : shortUnit c = some n) (h : scanString s = some (us, r)) :
    scanString (escapeShort c ++ s) = some (n :: us, r) := by
  show scanString (.char (Char.ofNat 92) :: .char c :: s) = _
  unfold scanString
  rw [if_neg (by decide), if_pos (by decide)]
  simp only [if_neg hc, hn, h]

lemma scanString_escapeUnit {n : ℕ} {us : List ℕ} {r : PyStr} (hn : n < 0x10000)
    (h : scanString s = some (us, r)) : scanString (escapeUnit n ++ s) = some (n :: us, r) := by
  have hdigit : ∀ k, hexValue (hexDigit (k % 16)) = some (k % 16) := fun k =>
    hexValue_hexDigit _ (Nat.mod_lt _ (by norm_num))
  have hvalue : unitValue (hexDigit (n / 4096 % 16)) (hexDigit (n / 256 % 16))
      (hexDigit (n / 16 % 16)) (hexDigit (n % 16)) = some n := by
    have hsum : 4096 * (n / 4096 % 16) + 256 * (n / 256 % 16) + 16 * (n / 16 % 16) + n % 16
        = n := by
      omega
    simp [unitValue, hdigit, hsum]
  show scanString (.char (Char.ofNat 92) :: .char 'u' :: hexDigit (n / 4096 % 16) ::
    hexDigit (n / 256 % 16) :: hexDigit (n / 16 % 16) :: hexDigit (n % 16) :: s) = _
  unfold scanString
  rw [if_neg (by decide), if_pos (by decide)]
  simp only [if_true, hvalue, h]

/-- The text of a code unit is read as this unit. -/
lemma scanString_escapeCode {n : ℕ} {us : List ℕ} {r : PyStr} (hn : n < 0x10000)
    (h : scanString s = some (us, r)) : scanString (escapeCode n ++ s) = some (n :: us, r) := by
  -- by the branches of `escapeCode`: seven short escapes, a printable character, `\u`
  unfold escapeCode
  split_ifs with h₁ h₂ h₃ h₄ h₅ h₆ h₇ h₈
  · subst h₁
    exact scanString_escapeShort (by decide) (by decide) h
  · subst h₂
    exact scanString_escapeShort (by decide) (by decide) h
  · subst h₃
    exact scanString_escapeShort (by decide) (by decide) h
  · subst h₄
    exact scanString_escapeShort (by decide) (by decide) h
  · subst h₅
    exact scanString_escapeShort (by decide) (by decide) h
  · subst h₆
    exact scanString_escapeShort (by decide) (by decide) h
  · subst h₇
    exact scanString_escapeShort (by decide) (by decide) h
  · have hchar : (Char.ofNat n).toNat = n := toNat_ofNat_ascii n (by omega)
    have hcontrol : ¬ n < 32 := by omega
    rw [List.singleton_append]
    unfold scanString
    simp only [hchar, h₁, h₂, hcontrol, if_false, h]
  · exact scanString_escapeUnit hn h

lemma scanString_flatMap_escapeCode {l : List ℕ} (hl : ∀ n ∈ l, n < 0x10000) :
    scanString (l.flatMap escapeCode ++ .char (Char.ofNat 34) :: s) = some (l, s) := by
  induction l with
  | nil =>
    rw [List.flatMap_nil, List.nil_append]
    unfold scanString
    exact if_pos rfl
  | cons n l ih =>
    rw [List.flatMap_cons, List.append_assoc]
    exact scanString_escapeCode (hl n List.mem_cons_self)
      (ih fun k hk => hl k (List.mem_cons_of_mem n hk))

/-- The string literal at the front of a text is its first token. -/
lemma tokens_dumpsStr {k : PyStr} (hk : validUnicode k = true) :
    tokens readFloat (dumpsStr k ++ s) = .str k :: tokens readFloat s := by
  have hunits : k.flatMap escapeChar = (k.flatMap units).flatMap escapeCode := by
    rw [List.flatMap_assoc]
    exact List.flatMap_congr fun c _ => escapeChar_eq c
  have hscan : scanString (k.flatMap escapeChar ++ .char (Char.ofNat 34) :: s)
      = some (k.flatMap units, s) := by
    rw [hunits]
    refine scanString_flatMap_escapeCode fun n hn => ?_
    obtain ⟨c, -, hc⟩ := List.mem_flatMap.1 hn
    exact units_lt hc
  have htext : dumpsStr k ++ s
      = .char (Char.ofNat 34) :: (k.flatMap escapeChar ++ .char (Char.ofNat 34) :: s) := by
    simp [dumpsStr]
  rw [htext]
  refine tokens_cons (by decide) ?_
  have hstring : scanToken readFloat (.char (Char.ofNat 34))
      (k.flatMap escapeChar ++ .char (Char.ofNat 34) :: s)
        = (.str (ofUnits (k.flatMap units)), s) := by
    simp [scanToken, hscan]
  rw [hstring, ofUnits_flatMap (loadable_of_validUnicode hk)]

/-! ### Values -/

mutual

/-- The tokens that the text of a value is made of. -/
def jsonTokens : Json → List Token
  | .null => [.atom .null]
  | .bool b => [.atom (.bool b)]
  | .int n => [.atom (.int n)]
  | .float x => [.atom (.float x)]
  | .str s => [.str s]
  | .arr xs => .openArr :: (itemTokens xs ++ [.closeArr])
  | .obj fields => .openObj :: (fieldTokens fields ++ [.closeObj])

/-- The tokens of the items of a list. -/
def itemTokens : List Json → List Token
  | [] => []
  | [x] => jsonTokens x
  | x :: y :: xs => jsonTokens x ++ .comma :: itemTokens (y :: xs)

/-- The tokens of the bindings of a dictionary. -/
def fieldTokens : List (PyStr × Json) → List Token
  | [] => []
  | [(k, v)] => .str k :: .colon :: jsonTokens v
  | (k, v) :: f :: fields =>
    .str k :: .colon :: (jsonTokens v ++ .comma :: fieldTokens (f :: fields))

end

section

variable (floatText : PyFloat → PyStr) (readFloat : PyStr → PyFloat)

mutual

/-- What `json.dumps` can write and `json.loads` can read: the strings are valid Unicode, the
integers not too long, and the texts of the floats are read back. -/
def Readable : Json → Prop
  | .null => True
  | .bool _ => True
  | .int n => digits n ≤ maxStrDigits
  | .float x => scanNumber readFloat (floatText x) = some (.float x, [])
  | .str s => validUnicode s = true
  | .arr xs => ReadableItems xs
  | .obj fields => (fields.map Prod.fst).Nodup ∧ ReadableFields fields

/-- All items are readable. -/
def ReadableItems : List Json → Prop
  | [] => True
  | x :: xs => Readable x ∧ ReadableItems xs

/-- All keys and values are readable. -/
def ReadableFields : List (PyStr × Json) → Prop
  | [] => True
  | (k, v) :: fields => validUnicode k = true ∧ Readable v ∧ ReadableFields fields

end

end

mutual

/-- How deep the lists and dictionaries of a value are nested. -/
def depth : Json → ℕ
  | .arr xs => depthItems xs + 1
  | .obj fields => depthFields fields + 1
  | _ => 0

/-- The depth of the items of a list. -/
def depthItems : List Json → ℕ
  | [] => 0
  | x :: xs => max (depth x) (depthItems xs)

/-- The depth of the values of a dictionary. -/
def depthFields : List (PyStr × Json) → ℕ
  | [] => 0
  | (_, v) :: fields => max (depth v) (depthFields fields)

end

variable {floatText : PyFloat → PyStr}

lemma ends_cons {c : PyChar} (h : inNumber c = false) : Ends (c :: s) := by
  intro d hd
  cases hd
  exact h

lemma tokens_comma : tokens readFloat (lit "," ++ s) = .comma :: tokens readFloat s :=
  tokens_cons (by decide) rfl

lemma tokens_colon : tokens readFloat (lit ":" ++ s) = .colon :: tokens readFloat s :=
  tokens_cons (by decide) rfl

lemma tokens_openArr : tokens readFloat (lit "[" ++ s) = .openArr :: tokens readFloat s :=
  tokens_cons (by decide) rfl

lemma tokens_closeArr : tokens readFloat (lit "]" ++ s) = .closeArr :: tokens readFloat s :=
  tokens_cons (by decide) rfl

lemma tokens_openObj : tokens readFloat (lit "\x7b" ++ s) = .openObj :: tokens readFloat s :=
  tokens_cons (by decide) rfl

lemma tokens_closeObj : tokens readFloat (lit "\x7d" ++ s) = .closeObj :: tokens readFloat s :=
  tokens_cons (by decide) rfl

lemma tokens_name {w : PyStr} {v : Json} (hw : (w, v) ∈ names) :
    tokens readFloat (w ++ s) = .atom v :: tokens readFloat s := by
  simp only [names, List.mem_cons, Prod.mk.injEq, List.not_mem_nil, or_false] at hw
  rcases hw with ⟨rfl, rfl⟩ | ⟨rfl, rfl⟩ | ⟨rfl, rfl⟩ | ⟨rfl, rfl⟩ | ⟨rfl, rfl⟩ | ⟨rfl, rfl⟩
  all_goals exact tokens_cons (by decide) rfl

mutual

/-- The text of a value is cut into its tokens. -/
theorem tokens_dumps : ∀ v : Json, Readable floatText readFloat v → ∀ rest, Ends rest →
    tokens readFloat (dumps floatText v ++ rest) = jsonTokens v ++ tokens readFloat rest
  | .null, _, _, _ => by
    rw [dumps, tokens_name (v := .null) (by simp [names])]
    rfl
  | .bool true, _, _, _ => by
    rw [dumps]
    exact tokens_name (v := .bool true) (by simp [names])
  | .bool false, _, _, _ => by
    rw [dumps]
    exact tokens_name (v := .bool false) (by simp [names])
  | .int n, hv, _, hrest => by
    rw [dumps, tokens_number (scanNumber_decimal hv) hrest]
    rfl
  | .float x, hv, _, hrest => by
    rw [dumps, tokens_number hv hrest]
    rfl
  | .str k, hv, _, _ => by
    rw [dumps, tokens_dumpsStr hv]
    rfl
  | .arr xs, hv, rest, _ => by
    -- the closing bracket ends the last item
    have hitems := tokens_dumpsItems xs hv (lit "]" ++ rest) (ends_cons (by decide))
    rw [dumps, List.append_assoc, List.append_assoc, tokens_openArr, hitems, tokens_closeArr,
      jsonTokens]
    simp
  | .obj fields, hv, rest, _ => by
    have hfields := tokens_dumpsFields fields hv.2 (lit "\x7d" ++ rest) (ends_cons (by decide))
    rw [dumps, List.append_assoc, List.append_assoc, tokens_openObj, hfields, tokens_closeObj,
      jsonTokens]
    simp

theorem tokens_dumpsItems : ∀ xs : List Json, ReadableItems floatText readFloat xs →
    ∀ rest, Ends rest →
      tokens readFloat (dumpsItems floatText xs ++ rest) = itemTokens xs ++ tokens readFloat rest
  | [], _, _, _ => rfl
  | [x], hxs, rest, hrest => tokens_dumps x hxs.1 rest hrest
  | x :: y :: xs, hxs, rest, hrest => by
    have hx := tokens_dumps x hxs.1 (lit "," ++ (dumpsItems floatText (y :: xs) ++ rest))
      (ends_cons (by decide))
    rw [dumpsItems, List.append_assoc, List.append_assoc, hx, tokens_comma,
      tokens_dumpsItems (y :: xs) hxs.2 rest hrest, itemTokens]
    simp

theorem tokens_dumpsFields : ∀ fields : List (PyStr × Json),
    ReadableFields floatText readFloat fields → ∀ rest, Ends rest →
      tokens readFloat (dumpsFields floatText fields ++ rest)
        = fieldTokens fields ++ tokens readFloat rest
  | [], _, _, _ => rfl
  | [(k, v)], hfields, rest, hrest => by
    rw [dumpsFields, List.append_assoc, List.append_assoc, tokens_dumpsStr hfields.1, tokens_colon,
      tokens_dumps v hfields.2.1 rest hrest]
    rfl
  | (k, v) :: f :: fields, hfields, rest, hrest => by
    have hv := tokens_dumps v hfields.2.1 (lit "," ++ (dumpsFields floatText (f :: fields) ++ rest))
      (ends_cons (by decide))
    rw [dumpsFields, List.append_assoc, List.append_assoc, List.append_assoc, List.append_assoc,
      tokens_dumpsStr hfields.1, tokens_colon, hv, tokens_comma,
      tokens_dumpsFields (f :: fields) hfields.2.2 rest hrest, fieldTokens]
    simp

end

/-! ### The scanner on these tokens -/

variable {limit : ℕ}

lemma foldlM_step_cons {p q : Parser} {t : Token} {ts : List Token} (hmove : move p t = some q)
    (hle : q.height ≤ limit) :
    (t :: ts).foldlM (step limit) p = ts.foldlM (step limit) q := by
  rw [List.foldlM_cons, step, Bounded.step_of_le hmove hle]
  rfl

/-- The first item of a list is read as any other value. -/
lemma foldlM_firstItem (x : Json) (stack : List Frame) (ts : List Token) :
    (jsonTokens x ++ ts).foldlM (step limit) (.firstItem stack)
      = (jsonTokens x ++ ts).foldlM (step limit) (.value (.arr [] :: stack)) := by
  cases x <;> rfl

/-- A new key goes to the end. -/
lemma put_of_notMem {k : PyStr} {v : Json} {d : JsonDict} (h : k ∉ d.map Prod.fst) :
    put k v d = d ++ [(k, v)] := by
  induction d with
  | nil => rfl
  | cons f d ih =>
    obtain ⟨k', w⟩ := f
    rw [List.map_cons, List.mem_cons, not_or] at h
    rw [put, if_neg (Ne.symm h.1), ih h.2, List.cons_append]

mutual

/-- The scanner builds a value from its tokens. -/
theorem foldlM_jsonTokens : ∀ v : Json, Readable floatText readFloat v →
    ∀ (stack : List Frame) (ts : List Token), stack.length + depth v ≤ limit →
      (jsonTokens v ++ ts).foldlM (step limit) (.value stack)
        = ts.foldlM (step limit) (.after v stack)
  | .null, _, _, _, hlimit => foldlM_step_cons rfl hlimit
  | .bool _, _, _, _, hlimit => foldlM_step_cons rfl hlimit
  | .int _, _, _, _, hlimit => foldlM_step_cons rfl hlimit
  | .float _, _, _, _, hlimit => foldlM_step_cons rfl hlimit
  | .str _, _, _, _, hlimit => foldlM_step_cons rfl hlimit
  | .arr [], _, stack, ts, hlimit => by
    have hopen : (Parser.firstItem stack).height ≤ limit := hlimit
    have hclose : (Parser.after (.arr []) stack).height ≤ limit :=
      (Nat.le_succ stack.length).trans hlimit
    show (.openArr :: .closeArr :: ts).foldlM (step limit) (.value stack) = _
    rw [foldlM_step_cons rfl hopen, foldlM_step_cons rfl hclose]
  | .arr (x :: xs), hv, stack, ts, hlimit => by
    rw [depth] at hlimit
    -- the list takes one frame more, which is where the limit counts
    have hopen : (Parser.firstItem stack).height ≤ limit := by
      show stack.length + 1 ≤ limit
      omega
    have htokens : jsonTokens (.arr (x :: xs)) ++ ts
        = .openArr :: (itemTokens (x :: xs) ++ .closeArr :: ts) := by
      simp [jsonTokens]
    have hfirst : ∃ more, itemTokens (x :: xs) ++ .closeArr :: ts = jsonTokens x ++ more := by
      cases xs <;> simp [itemTokens]
    obtain ⟨more, hmore⟩ := hfirst
    rw [htokens, foldlM_step_cons rfl hopen, hmore, foldlM_firstItem, ← hmore]
    exact foldlM_itemTokens (x :: xs) (by simp) hv [] stack ts (by omega)
  | .obj [], _, stack, ts, hlimit => by
    have hopen : (Parser.firstKey stack).height ≤ limit := hlimit
    have hclose : (Parser.after (.obj []) stack).height ≤ limit :=
      (Nat.le_succ stack.length).trans hlimit
    show (.openObj :: .closeObj :: ts).foldlM (step limit) (.value stack) = _
    rw [foldlM_step_cons rfl hopen, foldlM_step_cons rfl hclose]
  | .obj (f :: fields), hv, stack, ts, hlimit => by
    rw [depth] at hlimit
    have hopen : (Parser.firstKey stack).height ≤ limit := by
      show stack.length + 1 ≤ limit
      omega
    have htokens : jsonTokens (.obj (f :: fields)) ++ ts
        = .openObj :: (fieldTokens (f :: fields) ++ .closeObj :: ts) := by
      simp [jsonTokens]
    -- the first key of an object is read like any other one
    have hfirst : (fieldTokens (f :: fields) ++ .closeObj :: ts).foldlM (step limit)
        (.firstKey stack) = (fieldTokens (f :: fields) ++ .closeObj :: ts).foldlM (step limit)
          (.key [] stack) := by
      cases fields <;> rfl
    rw [htokens, foldlM_step_cons rfl hopen, hfirst]
    exact foldlM_fieldTokens (f :: fields) (by simp) hv.1 hv.2 [] stack ts (by simp) (by omega)

theorem foldlM_itemTokens : ∀ xs : List Json, xs ≠ [] → ReadableItems floatText readFloat xs →
    ∀ (done : List Json) (stack : List Frame) (ts : List Token),
      stack.length + 1 + depthItems xs ≤ limit →
      (itemTokens xs ++ .closeArr :: ts).foldlM (step limit) (.value (.arr done :: stack))
        = ts.foldlM (step limit) (.after (.arr (done ++ xs)) stack)
  | [], hne, _, _, _, _, _ => absurd rfl hne
  | [x], _, hxs, done, stack, ts, hlimit => by
    have hx : (Frame.arr done :: stack).length + depth x ≤ limit := by
      simpa [depthItems] using hlimit
    have hclose : (Parser.after (.arr (done ++ [x])) stack).height ≤ limit := by
      show stack.length ≤ limit
      omega
    rw [itemTokens, foldlM_jsonTokens x hxs.1 _ _ hx, foldlM_step_cons rfl hclose]
  | x :: y :: xs, _, hxs, done, stack, ts, hlimit => by
    rw [depthItems] at hlimit
    have hx : (Frame.arr done :: stack).length + depth x ≤ limit := by
      rw [List.length_cons]
      omega
    have hcomma : (Parser.value (.arr (done ++ [x]) :: stack)).height ≤ limit := by
      show stack.length + 1 ≤ limit
      omega
    rw [itemTokens, List.append_assoc, List.cons_append, foldlM_jsonTokens x hxs.1 _ _ hx,
      foldlM_step_cons rfl hcomma, foldlM_itemTokens (y :: xs) (by simp) hxs.2 _ _ _ (by omega),
      List.append_assoc, List.singleton_append]

theorem foldlM_fieldTokens : ∀ fields : List (PyStr × Json), fields ≠ [] →
    (fields.map Prod.fst).Nodup → ReadableFields floatText readFloat fields →
    ∀ (done : JsonDict) (stack : List Frame) (ts : List Token),
      (∀ k ∈ fields.map Prod.fst, k ∉ done.map Prod.fst) →
      stack.length + 1 + depthFields fields ≤ limit →
      (fieldTokens fields ++ .closeObj :: ts).foldlM (step limit) (.key done stack)
        = ts.foldlM (step limit) (.after (.obj (done ++ fields)) stack)
  | [], hne, _, _, _, _, _, _, _ => absurd rfl hne
  | [(k, v)], _, _, hfields, done, stack, ts, hnew, hlimit => by
    have hk : k ∉ done.map Prod.fst := hnew k (by simp)
    have hv : (Frame.obj done k :: stack).length + depth v ≤ limit := by
      simpa [depthFields] using hlimit
    have hopen : stack.length + 1 ≤ limit := by omega
    have hclose : (Parser.after (.obj (done ++ [(k, v)])) stack).height ≤ limit := by
      show stack.length ≤ limit
      omega
    -- the key is new, so that the field goes to the end
    have hmove : move (.after v (.obj done k :: stack)) .closeObj
        = some (.after (.obj (done ++ [(k, v)])) stack) := by
      rw [← put_of_notMem hk]
      rfl
    rw [fieldTokens, List.cons_append, List.cons_append,
      foldlM_step_cons (q := .colon done k stack) rfl hopen,
      foldlM_step_cons (q := .value (.obj done k :: stack)) rfl hopen,
      foldlM_jsonTokens v hfields.2.1 _ _ hv, foldlM_step_cons hmove hclose]
  | (k, v) :: f :: fields, _, hnodup, hfields, done, stack, ts, hnew, hlimit => by
    rw [depthFields] at hlimit
    rw [List.map_cons, List.nodup_cons] at hnodup
    have hk : k ∉ done.map Prod.fst := hnew k (by simp)
    have hv : (Frame.obj done k :: stack).length + depth v ≤ limit := by
      rw [List.length_cons]
      omega
    have hopen : stack.length + 1 ≤ limit := by omega
    -- the keys that follow are not among those that have been read
    have hnew' : ∀ k' ∈ (f :: fields).map Prod.fst, k' ∉ (done ++ [(k, v)]).map Prod.fst := by
      intro k' hk' hmem
      rw [List.map_append, List.mem_append] at hmem
      rcases hmem with hmem | hmem
      · exact hnew k' (List.mem_cons_of_mem k hk') hmem
      · rw [List.map_singleton, List.mem_singleton] at hmem
        exact hnodup.1 (hmem ▸ hk')
    have hmove : move (.after v (.obj done k :: stack)) .comma
        = some (.key (done ++ [(k, v)]) stack) := by
      rw [← put_of_notMem hk]
      rfl
    rw [fieldTokens, List.cons_append, List.cons_append, List.append_assoc, List.cons_append,
      foldlM_step_cons (q := .colon done k stack) rfl hopen,
      foldlM_step_cons (q := .value (.obj done k :: stack)) rfl hopen,
      foldlM_jsonTokens v hfields.2.1 _ _ hv, foldlM_step_cons hmove hopen,
      foldlM_fieldTokens (f :: fields) (by simp) hnodup.2 hfields.2.2 _ _ _ hnew' (by omega),
      List.append_assoc, List.singleton_append]

end

/-! ### The round trip -/

/-- **What was written is read back**, with any white space behind it. -/
theorem loads_dumps {v : Json} (hv : Readable floatText readFloat v) (hlimit : depth v ≤ limit)
    {blank : PyStr} (hblank : tokens readFloat blank = []) (hends : Ends blank)
    (hvalid : validUnicode (dumps floatText v ++ blank) = true) :
    loads readFloat limit ((dumps floatText v ++ blank).flatMap Octets.utf8Char) = .ok v := by
  have htokens : tokens readFloat (dumps floatText v ++ blank) = jsonTokens v ++ [] := by
    rw [tokens_dumps v hv blank hends, hblank]
  have hrun := foldlM_jsonTokens v hv [] [] (by simpa using hlimit)
  rw [loads, Octets.decodeUtf8_flatMap_utf8Char hvalid]
  simp only [htokens, parse, hrun]
  rfl

end PqcBridge.Loads
