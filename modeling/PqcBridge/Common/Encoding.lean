/-
What can be read back from the bytes that a tag or an envelope authenticates.

The claims of a hello and the associated data of a reading are texts that the sender and
the receiver build on their own, so that a check means something only if different claims
have different texts.

* `dumpsStr_append_cancel`: a string literal of `json.dumps` can be read off the front of
  a text.  Here the two halves of a surrogate pair must not stand side by side, which they
  never do in a string that `json.loads` returns (`Loadable`);
* `helloClaims_injective`, `legacyAad_injective`: the two encodings are injective;
* `helloClaims_ne_legacyAad`: and no claims are the associated data of a reading.
-/
import PqcBridge.Common.Ideal
import PqcBridge.Common.Protocol
import PqcBridge.Lib.PrefixCode

namespace PqcBridge

open Python Protocol PrefixCode PqcBridge.Ideal

/-! ### UTF-16 code units -/

/-- The first half of a surrogate pair. -/
def IsHigh (n : ℕ) : Prop := 0xD800 ≤ n ∧ n < 0xDC00

/-- The second half of a surrogate pair. -/
def IsLow (n : ℕ) : Prop := 0xDC00 ≤ n ∧ n < 0xE000

instance (n : ℕ) : Decidable (IsHigh n) := inferInstanceAs (Decidable (_ ∧ _))
instance (n : ℕ) : Decidable (IsLow n) := inferInstanceAs (Decidable (_ ∧ _))

/-- A string that `json.loads` can return: a pair of escapes that is a surrogate pair is
one character there. -/
def Loadable (s : PyStr) : Prop :=
  s.IsChain fun c d => ¬ (IsHigh (codePoint c) ∧ IsLow (codePoint d))

/-- The code units of a character. -/
def units (c : PyChar) : List ℕ :=
  if codePoint c < 0x10000 then [codePoint c]
  else [0xD800 + (codePoint c - 0x10000) / 1024, 0xDC00 + (codePoint c - 0x10000) % 1024]

/-- The string that a sequence of code units stands for. -/
def ofUnits : List ℕ → PyStr
  | [] => []
  | [u] => [ofCodePoint u]
  | u :: v :: us =>
    if IsHigh u ∧ IsLow v then
      ofCodePoint (0x10000 + (u - 0xD800) * 1024 + (v - 0xDC00)) :: ofUnits us
    else ofCodePoint u :: ofUnits (v :: us)

lemma codePoint_lt (c : PyChar) : codePoint c < 0x110000 := by
  cases c with
  | char c =>
    rcases c.valid with h | h
    · exact lt_of_lt_of_le h (by norm_num)
    · exact h.2
  | surrogate u =>
    have := u.isLt
    simp only [codePoint]
    omega

lemma units_lt {c : PyChar} {n : ℕ} (h : n ∈ units c) : n < 0x10000 := by
  have hc := codePoint_lt c
  unfold units at h
  split_ifs at h with hsmall
  · rw [List.mem_singleton] at h
    omega
  · rw [List.mem_pair] at h
    omega

/-- The first unit of a character is the second half of a pair only if the character is
that lone half. -/
lemma units_head_of_isLow {c : PyChar} {v : ℕ} {us : List ℕ} (h : units c = v :: us)
    (hv : IsLow v) : IsLow (codePoint c) := by
  have hc := codePoint_lt c
  unfold units at h
  split_ifs at h
  · cases h
    exact hv
  · cases h
    obtain ⟨h₁, -⟩ := hv
    omega

lemma units_ne_nil (c : PyChar) : units c ≠ [] := by
  unfold units
  split_ifs <;> simp

lemma Loadable.tail {c : PyChar} {s : PyStr} (h : Loadable (c :: s)) : Loadable s :=
  List.IsChain.tail h

/-- The units of a string that `json.loads` can return stand for that string alone. -/
lemma ofUnits_flatMap {s : PyStr} (h : Loadable s) : ofUnits (s.flatMap units) = s := by
  induction s with
  | nil => rfl
  | cons c s ih =>
    have ih' := ih h.tail
    rw [List.flatMap_cons]
    by_cases hc : codePoint c < 0x10000
    · have hu : units c = [codePoint c] := if_pos hc
      rw [hu, List.singleton_append]
      cases s with
      | nil => simp [ofUnits, ofCodePoint_codePoint]
      | cons d s =>
        -- the next unit is the first one of `d`, which does not complete a pair
        rcases hd : units d with _ | ⟨v, us⟩
        · exact absurd hd (units_ne_nil d)
        have hpair : ¬ (IsHigh (codePoint c) ∧ IsLow v) := by
          rintro ⟨hhigh, hlow⟩
          exact (List.isChain_cons_cons.1 h).1 ⟨hhigh, units_head_of_isLow hd hlow⟩
        rw [List.flatMap_cons, hd, List.cons_append] at ih' ⊢
        rw [ofUnits, if_neg hpair, ih', ofCodePoint_codePoint]
    · have hu : units c = [0xD800 + (codePoint c - 0x10000) / 1024,
          0xDC00 + (codePoint c - 0x10000) % 1024] := if_neg hc
      have hlt := codePoint_lt c
      have hpair : IsHigh (0xD800 + (codePoint c - 0x10000) / 1024) ∧
          IsLow (0xDC00 + (codePoint c - 0x10000) % 1024) := by
        refine ⟨⟨?_, ?_⟩, ?_, ?_⟩ <;> omega
      have hcode : 0x10000 + (0xD800 + (codePoint c - 0x10000) / 1024 - 0xD800) * 1024
          + (0xDC00 + (codePoint c - 0x10000) % 1024 - 0xDC00) = codePoint c := by
        omega
      rw [hu, List.cons_append, List.cons_append, List.nil_append, ofUnits, if_pos hpair, hcode,
        ofCodePoint_codePoint, ih']

/-- A string that can be encoded as UTF-8 has no surrogates at all. -/
lemma loadable_of_validUnicode {s : PyStr} (h : validUnicode s = true) : Loadable s := by
  have hchar : ∀ c ∈ s, ¬ IsHigh (codePoint c) := by
    intro c hc
    have hscalar : c.isScalar = true := List.all_eq_true.1 h c hc
    cases c with
    | char c =>
      rintro ⟨h₁, h₂⟩
      have h₁ : 0xD800 ≤ c.toNat := h₁
      have h₂ : c.toNat < 0xDC00 := h₂
      rcases c.valid with hv | hv
      · have hv : c.toNat < 0xD800 := hv
        omega
      · have hv : 0xDFFF < c.toNat := hv.1
        omega
    | surrogate u => cases hscalar
  clear h
  induction s with
  | nil => exact List.IsChain.nil
  | cons c s ih =>
    have ih' := ih fun d hd => hchar d (List.mem_cons_of_mem c hd)
    refine List.isChain_cons.2 ⟨fun d _ hpair => ?_, ih'⟩
    exact hchar c List.mem_cons_self hpair.1

/-! ### String literals -/

/-- How `json.dumps` writes one code unit. -/
def escapeCode (n : ℕ) : PyStr :=
  if n = 34 then escapeShort (Char.ofNat n)
  else if n = 92 then escapeShort (Char.ofNat n)
  else if n = 10 then escapeShort 'n'
  else if n = 13 then escapeShort 'r'
  else if n = 9 then escapeShort 't'
  else if n = 8 then escapeShort 'b'
  else if n = 12 then escapeShort 'f'
  else if 32 ≤ n ∧ n ≤ 126 then [.char (Char.ofNat n)]
  else escapeUnit n

/-- The unit that a backslash and one character stand for. -/
def shortValue (c : Char) : ℕ :=
  if c = 'n' then 10
  else if c = 'r' then 13
  else if c = 't' then 9
  else if c = 'b' then 8
  else if c = 'f' then 12
  else c.toNat

/-- Reads one code unit off the front of a text. -/
def readUnit : PyStr → Option ℕ
  | .char b :: .char c :: rest =>
    if b.toNat ≠ 92 then some b.toNat
    else if c ≠ 'u' then some (shortValue c)
    else
      match rest with
      | h₃ :: h₂ :: h₁ :: h₀ :: _ =>
        match digitValue h₃, digitValue h₂, digitValue h₁, digitValue h₀ with
        | some d₃, some d₂, some d₁, some d₀ => some (4096 * d₃ + 256 * d₂ + 16 * d₁ + d₀)
        | _, _, _, _ => none
      | _ => none
  | .char b :: _ => some b.toNat
  | _ => none

lemma toNat_ofNat_ascii : ∀ n < 128, (Char.ofNat n).toNat = n := by decide

lemma readUnit_escapeUnit {n : ℕ} (h : n < 0x10000) (x : PyStr) :
    readUnit (escapeUnit n ++ x) = some n := by
  have hdigit : ∀ k, digitValue (hexDigit (k % 16)) = some (k % 16) := fun k =>
    digitValue_hexDigit _ (Nat.mod_lt _ (by norm_num))
  have hvalue :
      4096 * (n / 4096 % 16) + 256 * (n / 256 % 16) + 16 * (n / 16 % 16) + n % 16 = n := by
    omega
  simp [escapeUnit, readUnit, hdigit, hvalue]

/-- Every code unit can be read off the front of its text. -/
lemma readUnit_escapeCode {n : ℕ} (h : n < 0x10000) (x : PyStr) :
    readUnit (escapeCode n ++ x) = some n := by
  have hraw : ∀ c : Char, c.toNat ≠ 92 → readUnit (.char c :: x) = some c.toNat := by
    intro c hc
    cases x with
    | nil => rfl
    | cons d x =>
      cases d with
      | char d => simp [readUnit, hc]
      | surrogate u => rfl
  -- the seven short escapes, a printable character, and `\u` with four digits
  unfold escapeCode
  split_ifs with h₁ h₂ h₃ h₄ h₅ h₆ h₇ h₈
  · subst h₁
    rfl
  · subst h₂
    rfl
  · subst h₃
    rfl
  · subst h₄
    rfl
  · subst h₅
    rfl
  · subst h₆
    rfl
  · subst h₇
    rfl
  · have hn : (Char.ofNat n).toNat = n := toNat_ofNat_ascii n (by omega)
    rw [List.singleton_append, hraw _ (by rw [hn]; exact h₂), hn]
  · exact readUnit_escapeUnit h x

/-- The code units of JSON strings form a prefix code. -/
lemma isPrefixCode_escapeCode : IsPrefixCode (· < 0x10000) escapeCode :=
  of_reader fun _ x h => readUnit_escapeCode h x

/-- No code unit starts with the quote that closes a literal. -/
lemma escapeCode_ne_quote (n : ℕ) (x y : PyStr) :
    escapeCode n ++ x ≠ [.char (Char.ofNat 34)] ++ y := by
  by_cases hraw : 32 ≤ n ∧ n ≤ 126 ∧ n ≠ 34 ∧ n ≠ 92
  · obtain ⟨h32, h126, h34, h92⟩ := hraw
    have hcode : escapeCode n = [.char (Char.ofNat n)] := by
      simp only [escapeCode, h34, h92, h32, h126, and_self, if_true, if_false]
      rw [if_neg (by omega), if_neg (by omega), if_neg (by omega), if_neg (by omega),
        if_neg (by omega)]
    intro h
    rw [hcode] at h
    have hchar : Char.ofNat n = Char.ofNat 34 := by
      injection h with hhead _
      injection hhead
    have hn := congrArg Char.toNat hchar
    rw [toNat_ofNat_ascii n (by omega)] at hn
    exact h34 hn
  · -- every other text starts with a backslash
    have hcode : ∃ z, escapeCode n = .char (Char.ofNat 92) :: z := by
      by_cases hrange : 32 ≤ n ∧ n ≤ 126
      · have hn : n = 34 ∨ n = 92 := by omega
        rcases hn with rfl | rfl <;> exact ⟨_, rfl⟩
      · unfold escapeCode escapeShort escapeUnit
        rw [if_neg hrange]
        split_ifs <;> exact ⟨_, rfl⟩
    obtain ⟨z, hz⟩ := hcode
    rw [hz]
    intro h
    injection h with hhead _
    exact absurd hhead (by decide)

lemma escapeCode_of_ge {n : ℕ} (h : 0xD800 ≤ n) : escapeCode n = escapeUnit n := by
  unfold escapeCode
  rw [if_neg (by omega), if_neg (by omega), if_neg (by omega), if_neg (by omega),
    if_neg (by omega), if_neg (by omega), if_neg (by omega), if_neg (by omega)]

/-- `json.dumps` escapes a string unit by unit. -/
lemma escapeChar_eq (c : PyChar) : escapeChar c = (units c).flatMap escapeCode := by
  cases c with
  | surrogate u =>
    have hu := u.isLt
    have hunits : units (.surrogate u) = [0xD800 + u.val] :=
      if_pos (show 0xD800 + u.val < 0x10000 by omega)
    rw [hunits, List.flatMap_singleton, escapeCode_of_ge (by omega)]
    rfl
  | char c =>
    by_cases hsmall : c.toNat < 0x10000
    · have hunits : units (.char c) = [c.toNat] := if_pos hsmall
      rw [hunits, List.flatMap_singleton]
      simp only [escapeChar, escapeCode, hsmall, if_true, Char.ofNat_toNat]
    · have hunits : units (.char c) = [0xD800 + (c.toNat - 0x10000) / 1024,
          0xDC00 + (c.toNat - 0x10000) % 1024] := if_neg hsmall
      rw [hunits, List.flatMap_cons, List.flatMap_singleton, escapeCode_of_ge (by omega),
        escapeCode_of_ge (by omega)]
      simp only [escapeChar]
      rw [if_neg (by omega), if_neg (by omega), if_neg (by omega), if_neg (by omega),
        if_neg (by omega), if_neg (by omega), if_neg (by omega), if_neg (by omega),
        if_neg hsmall]

/-- **A string literal can be read off the front of a text.** -/
theorem dumpsStr_append_cancel {s t x y : PyStr} (hs : Loadable s) (ht : Loadable t)
    (h : dumpsStr s ++ x = dumpsStr t ++ y) : s = t ∧ x = y := by
  have hunits : ∀ s : PyStr, s.flatMap escapeChar = (s.flatMap units).flatMap escapeCode := by
    intro s
    rw [List.flatMap_assoc]
    exact congrArg s.flatMap (funext escapeChar_eq)
  have hlt : ∀ s : PyStr, ∀ n ∈ s.flatMap units, n < 0x10000 := by
    intro s n hn
    obtain ⟨c, -, hc⟩ := List.mem_flatMap.1 hn
    exact units_lt hc
  simp only [dumpsStr, List.cons_append, List.cons.injEq, true_and, List.append_assoc, hunits] at h
  obtain ⟨heq, hxy⟩ := isPrefixCode_escapeCode.flatMap_stop
    (fun n x y _ => escapeCode_ne_quote n x y) (hlt s) (hlt t) h
  have hst := congrArg ofUnits heq
  rw [ofUnits_flatMap hs, ofUnits_flatMap ht] at hst
  exact ⟨hst, hxy⟩

/-! ### The claims of a hello -/

section

variable (floatText : PyFloat → PyStr)

/-- A literal can be encoded as UTF-8, whatever the string is. -/
lemma validUnicode_dumpsStr (s : PyStr) : validUnicode (dumpsStr s) = true := by
  have hunit : ∀ n, validUnicode (escapeUnit n) = true := fun n => rfl
  have hchar : ∀ c, validUnicode (escapeChar c) = true := by
    intro c
    cases c with
    | surrogate u => exact hunit _
    | char c =>
      simp only [escapeChar]
      split_ifs <;> rfl
  have hall : validUnicode (s.flatMap escapeChar) = true := by
    induction s with
    | nil => rfl
    | cons c s ih => rw [List.flatMap_cons, validUnicode_append, hchar, ih, Bool.and_self]
  show validUnicode (lit "\"" ++ (s.flatMap escapeChar ++ lit "\"")) = true
  simp only [validUnicode_append, validUnicode_lit, hall, Bool.and_self]

/-- A list of string literals, with what follows it. -/
def literals (l : List PyStr) (x : PyStr) : PyStr := dumpsItems floatText (l.map .str) ++ x

@[simp] lemma literals_nil (x : PyStr) : literals floatText [] x = x := rfl

@[simp] lemma literals_singleton (s x : PyStr) : literals floatText [s] x = dumpsStr s ++ x := rfl

@[simp] lemma literals_cons_cons (s t : PyStr) (l : List PyStr) (x : PyStr) :
    literals floatText (s :: t :: l) x
      = dumpsStr s ++ (.char ',' :: literals floatText (t :: l) x) := by
  simp [literals, dumpsItems, dumps, lit]

/-- A literal starts with a quote. -/
lemma dumpsStr_ne (s x : PyStr) {c : Char} {y : PyStr} (hc : c ≠ Char.ofNat 34) :
    dumpsStr s ++ x ≠ .char c :: y := by
  intro h
  rw [dumpsStr, List.cons_append] at h
  injection h with hhead _
  injection hhead with hhead
  exact hc hhead.symm

/-- A list of string literals that a bracket closes can be read off the front of a
text. -/
lemma literals_cancel {l l' : List PyStr} {x y : PyStr} (hl : ∀ s ∈ l, Loadable s)
    (hl' : ∀ s ∈ l', Loadable s)
    (h : literals floatText l (.char ']' :: x) = literals floatText l' (.char ']' :: y)) :
    l = l' ∧ x = y := by
  induction l generalizing l' with
  | nil =>
    rcases l' with _ | ⟨t, _ | ⟨t', l'⟩⟩
    · cases h
      exact ⟨rfl, rfl⟩
    · exact absurd h.symm (dumpsStr_ne t _ (by decide))
    · rw [literals_cons_cons] at h
      exact absurd h.symm (dumpsStr_ne t _ (by decide))
  | cons s l ih =>
    have hs : Loadable s := hl s List.mem_cons_self
    -- a comma is followed by the next literal, a bracket by nothing
    have hcomma : ∀ {z w : PyStr}, (PyChar.char ',' :: z) ≠ .char ']' :: w := by
      intro z w hzw
      injection hzw with hhead _
      exact absurd hhead (by decide)
    rcases l with _ | ⟨s', l⟩ <;> rcases l' with _ | ⟨t, _ | ⟨t', l'⟩⟩
    · exact absurd h (dumpsStr_ne s _ (by decide))
    · obtain ⟨rfl, hxy⟩ := dumpsStr_append_cancel hs (hl' t List.mem_cons_self) h
      cases hxy
      exact ⟨rfl, rfl⟩
    · rw [literals_singleton, literals_cons_cons] at h
      obtain ⟨-, hxy⟩ := dumpsStr_append_cancel hs (hl' t List.mem_cons_self) h
      exact absurd hxy.symm hcomma
    · rw [literals_cons_cons] at h
      exact absurd h (dumpsStr_ne s _ (by decide))
    · rw [literals_singleton, literals_cons_cons] at h
      obtain ⟨-, hxy⟩ := dumpsStr_append_cancel hs (hl' t List.mem_cons_self) h
      exact absurd hxy hcomma
    · rw [literals_cons_cons, literals_cons_cons] at h
      obtain ⟨rfl, hrest⟩ := dumpsStr_append_cancel hs (hl' t List.mem_cons_self) h
      injection hrest with _ hrest
      obtain ⟨heq, hxy⟩ := ih (fun u hu => hl u (List.mem_cons_of_mem s hu))
        (fun u hu => hl' u (List.mem_cons_of_mem s hu)) hrest
      rw [heq]
      exact ⟨rfl, hxy⟩

/-- The text of the claims of a hello. -/
def helloClaims (deviceId : PyStr) (capabilities : List PyStr) : PyStr :=
  dumps floatText (.obj
    [(lit "device_id", .str deviceId), (lit "capabilities", .arr (capabilities.map .str))])

lemma helloClaims_eq (deviceId : PyStr) (capabilities : List PyStr) :
    helloClaims floatText deviceId capabilities
      = lit "\x7b\"device_id\":" ++ (dumpsStr deviceId ++ (lit ",\"capabilities\":["
        ++ literals floatText capabilities (.char ']' :: lit "\x7d"))) := by
  have hkey : dumpsStr (lit "device_id") = lit "\"device_id\"" := by decide
  have hkey' : dumpsStr (lit "capabilities") = lit "\"capabilities\"" := by decide
  simp only [helloClaims, dumps, dumpsFields, hkey, hkey', literals]
  simp [lit]

/-- **Different claims have different texts.** -/
theorem helloClaims_injective {d d' : PyStr} {caps caps' : List PyStr} (hd : Loadable d)
    (hd' : Loadable d') (hcaps : ∀ s ∈ caps, Loadable s) (hcaps' : ∀ s ∈ caps', Loadable s)
    (h : helloClaims floatText d caps = helloClaims floatText d' caps') :
    d = d' ∧ caps = caps' := by
  rw [helloClaims_eq, helloClaims_eq] at h
  obtain ⟨rfl, hrest⟩ := dumpsStr_append_cancel hd hd' (List.append_cancel_left h)
  obtain ⟨hcaps, -⟩ := literals_cancel floatText hcaps hcaps' (List.append_cancel_left hrest)
  exact ⟨rfl, hcaps⟩

/-- The claims can be encoded as UTF-8. -/
lemma validUnicode_helloClaims (d : PyStr) (caps : List PyStr) :
    validUnicode (helloClaims floatText d caps) = true := by
  have hend : validUnicode (.char ']' :: lit "\x7d") = true := by decide
  have hcaps : validUnicode (literals floatText caps (.char ']' :: lit "\x7d")) = true := by
    induction caps with
    | nil => exact hend
    | cons s caps ih =>
      cases caps with
      | nil => rw [literals_singleton, validUnicode_append, validUnicode_dumpsStr, hend]; rfl
      | cons t caps =>
        rw [literals_cons_cons, validUnicode_append, validUnicode_dumpsStr, Bool.true_and]
        exact ih
  rw [helloClaims_eq]
  simp only [validUnicode_append, validUnicode_lit, validUnicode_dumpsStr, hcaps, Bool.and_self]

lemma helloClaims_getLast? (d : PyStr) (caps : List PyStr) :
    (helloClaims floatText d caps).getLast? = some (.char (Char.ofNat 125)) := by
  have hend : helloClaims floatText d caps = (lit "\x7b" ++ dumpsFields floatText
      [(lit "device_id", .str d), (lit "capabilities", .arr (caps.map .str))])
        ++ [.char (Char.ofNat 125)] := rfl
  rw [hend, List.getLast?_append]
  rfl

end

/-! ### The associated data of a reading -/

/-- The text of the associated data of a reading. -/
def legacyAad (deviceId : PyStr) (sequence : ℤ) : PyStr := deviceId ++ lit ":" ++ decimal sequence

/-- Two texts that are equal are split at the last colon at the same place. -/
lemma eq_of_append_colon {d d' x x' : PyStr} (hx : PyChar.char ':' ∉ x)
    (hx' : PyChar.char ':' ∉ x') (h : d ++ .char ':' :: x = d' ++ .char ':' :: x') :
    d = d' ∧ x = x' := by
  rcases List.append_eq_append_iff.1 h with ⟨c, hc, hrest⟩ | ⟨c, hc, hrest⟩
  · cases c with
    | nil =>
      cases hrest
      exact ⟨by simpa using hc.symm, rfl⟩
    | cons e c =>
      injection hrest with _ hrest
      exact absurd (by rw [hrest]; simp) hx
  · cases c with
    | nil =>
      cases hrest
      exact ⟨by simpa using hc, rfl⟩
    | cons e c =>
      injection hrest with _ hrest
      exact absurd (by rw [hrest]; simp) hx'

/-- **Different readings have different associated data**: the sequence is what follows
the last colon. -/
theorem legacyAad_injective {d d' : PyStr} {n n' : ℤ} (h : legacyAad d n = legacyAad d' n') :
    d = d' ∧ n = n' := by
  have hcolon : ∀ k : ℤ, PyChar.char ':' ∉ decimal k := notMem_decimal (by decide) (by decide)
  have hsplit : ∀ e k, legacyAad e k = e ++ .char ':' :: decimal k := by simp [legacyAad, lit]
  rw [hsplit, hsplit] at h
  obtain ⟨hd, hn⟩ := eq_of_append_colon (hcolon n) (hcolon n') h
  exact ⟨hd, decimal_injective hn⟩

/-- The associated data of a reading ends with a digit. -/
lemma ne_legacyAad {t : PyStr} (ht : t.getLast? = some (.char (Char.ofNat 125))) (d : PyStr)
    (n : ℤ) : t ≠ legacyAad d n := by
  intro h
  rw [h, legacyAad, List.getLast?_append, List.getLast?_eq_some_getLast (decimal_ne_nil n)] at ht
  have hmem := List.getLast_mem (decimal_ne_nil n)
  rw [Option.some_or, Option.some.injEq] at ht
  rw [ht] at hmem
  exact notMem_decimal (by decide) (by decide) n hmem

/-- **No claims of a hello are the associated data of a reading**, which ends with a
digit. -/
theorem helloClaims_ne_legacyAad (floatText : PyFloat → PyStr) (d : PyStr) (caps : List PyStr)
    (d' : PyStr) (n : ℤ) : helloClaims floatText d caps ≠ legacyAad d' n :=
  ne_legacyAad (helloClaims_getLast? floatText d caps) d' n

@[simp] lemma validUnicode_legacyAad (d : PyStr) (n : ℤ) :
    validUnicode (legacyAad d n) = validUnicode d := by
  simp [legacyAad]

/-! ### Bytes -/

section

variable {B : Type} {P : Primitives B}

/-- Encoding as UTF-8 is injective. -/
def Utf8Injective (P : Primitives B) : Prop :=
  ∀ s t, validUnicode s = true → validUnicode t = true → P.utf8 s = P.utf8 t → s = t

lemma utf8Injective_ideal (table : ℕ → Option Json) : Utf8Injective (ideal table) := by
  intro s t _ _ h
  cases h
  rfl

lemma encodeUtf8_eq_ok {s : PyStr} {b : B} (h : encodeUtf8 P s = .ok b) :
    validUnicode s = true ∧ b = P.utf8 s := by
  unfold encodeUtf8 at h
  split_ifs at h with hs
  · cases h
    exact ⟨hs, rfl⟩
  · cases h

lemma legacyMessageAad_eq_ok {d : PyStr} {n : ℤ} {aad : B}
    (h : legacyMessageAad P d n = .ok aad) :
    validUnicode d = true ∧ aad = P.utf8 (legacyAad d n) := by
  obtain ⟨hvalid, haad⟩ := encodeUtf8_eq_ok h
  exact ⟨(validUnicode_legacyAad d n).symm.trans hvalid, haad⟩

end

end PqcBridge
