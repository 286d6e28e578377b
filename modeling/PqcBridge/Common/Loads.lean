/-
`json.loads(data.decode("utf-8"))`.

The scanner of `json` calls itself for every list and every dictionary.  Here the text is cut
into tokens, and the lists and dictionaries that are still open stand on a stack: its height is
the depth of the recursion, which the interpreter limits.  The limit and the value of a float
are parameters.

* `parse_eq_recursionError_iff`: the scanner gives up exactly on the texts that nest deeper
  than the limit.
-/
import PqcBridge.Common.Encoding
import PqcBridge.Common.Octets
import PqcBridge.Lib.Bounded
import PqcBridge.Python.Number

namespace PqcBridge.Loads

open Python PqcBridge.Ideal

/-! ### Tokens -/

/-- What a JSON text is made of.  `invalid` stands for text that starts no token. -/
inductive Token where
  | openArr
  | closeArr
  | openObj
  | closeObj
  | comma
  | colon
  | str (s : PyStr)
  | atom (v : Json)
  | invalid

/-- Whether the scanner passes over the character between two tokens. -/
def isBlank (c : PyChar) : Bool :=
  c = .char ' ' || c = .char '\t' || c = .char '\n' || c = .char '\r'

/-- The value of a hexadecimal digit, of either case. -/
def hexValue : PyChar → Option ℕ
  | .char c =>
    if 48 ≤ c.toNat ∧ c.toNat ≤ 57 then some (c.toNat - 48)
    else if 97 ≤ c.toNat ∧ c.toNat ≤ 102 then some (c.toNat - 87)
    else if 65 ≤ c.toNat ∧ c.toNat ≤ 70 then some (c.toNat - 55)
    else none
  | .surrogate _ => none

/-- The code unit of four hexadecimal digits. -/
def unitValue (a b c d : PyChar) : Option ℕ := do
  let a ← hexValue a
  let b ← hexValue b
  let c ← hexValue c
  let d ← hexValue d
  return 4096 * a + 256 * b + 16 * c + d

/-- The code unit of a backslash and one character. -/
def shortUnit (c : Char) : Option ℕ :=
  if c.toNat = 34 ∨ c.toNat = 92 ∨ c = '/' ∨ c = 'b' ∨ c = 'f' ∨ c = 'n' ∨ c = 'r' ∨ c = 't' then
    some (shortValue c)
  else none

/-- The code units of a string literal behind its opening quote, and the text behind it.
Decoded text has no surrogates. -/
def scanString : PyStr → Option (List ℕ × PyStr)
  | [] => none
  | .surrogate _ :: _ => none
  | .char c :: s =>
    if c.toNat = 34 then some ([], s)
    else if c.toNat = 92 then
      -- an escape: `\u` with four digits, or one of eight letters
      match s with
      | .char e :: s =>
        if e = 'u' then
          match s with
          | h₃ :: h₂ :: h₁ :: h₀ :: s =>
            match unitValue h₃ h₂ h₁ h₀, scanString s with
            | some n, some (us, rest) => some (n :: us, rest)
            | _, _ => none
          | _ => none
        else
          match shortUnit e, scanString s with
          | some n, some (us, rest) => some (n :: us, rest)
          | _, _ => none
      | _ => none
    -- `strict`: control characters are refused
    else if c.toNat < 32 then none
    else
      match scanString s with
      | some (us, rest) => some (c.toNat :: us, rest)
      | none => none

/-! ### Numbers and names -/

/-- Whether the character is a decimal digit. -/
def isDigit (c : PyChar) : Bool := (digit c).isSome

/-- The sign of a number, and the text behind it. -/
def scanMinus : PyStr → PyStr × PyStr
  | [] => ([], [])
  | c :: s => if c = .char '-' then ([c], s) else ([], c :: s)

/-- The digits before the point. -/
def scanInt : PyStr → Option (PyStr × PyStr)
  | [] => none
  | c :: s =>
    if c = .char '0' then some ([c], s)
    else if isDigit c then some (c :: s.takeWhile isDigit, s.dropWhile isDigit)
    else none

/-- A point and the digits behind it. -/
def scanFrac : PyStr → PyStr × PyStr
  | [] => ([], [])
  | c :: s =>
    if c = .char '.' ∧ s.takeWhile isDigit ≠ [] then
      (c :: s.takeWhile isDigit, s.dropWhile isDigit)
    else ([], c :: s)

/-- The sign of an exponent. -/
def scanSign : PyStr → PyStr × PyStr
  | [] => ([], [])
  | c :: s => if c = .char '-' ∨ c = .char '+' then ([c], s) else ([], c :: s)

/-- An exponent. -/
def scanExp : PyStr → PyStr × PyStr
  | [] => ([], [])
  | c :: s =>
    if (c = .char 'e' ∨ c = .char 'E') ∧ (scanSign s).2.takeWhile isDigit ≠ [] then
      (c :: (scanSign s).1 ++ (scanSign s).2.takeWhile isDigit, (scanSign s).2.dropWhile isDigit)
    else ([], c :: s)

/-- `sys.int_info.default_max_str_digits`: `int` refuses longer texts. -/
def maxStrDigits : ℕ := 4300

variable (readFloat : PyStr → PyFloat)

/-- The value of a number, from its digits, its fraction and its exponent. -/
def numberValue (sign int frac exp : PyStr) : Option Json :=
  if frac = [] ∧ exp = [] then
    if maxStrDigits < int.length then none else (parseInt (sign ++ int)).map .int
  else some (.float (readFloat (sign ++ int ++ frac ++ exp)))

/-- A number at the front of the text. -/
def scanNumber (s : PyStr) : Option (Json × PyStr) :=
  match scanInt (scanMinus s).2 with
  | none => none
  | some (int, s₁) =>
    match numberValue readFloat (scanMinus s).1 int (scanFrac s₁).1 (scanExp (scanFrac s₁).2).1 with
    | none => none
    | some v => some (v, (scanExp (scanFrac s₁).2).2)

/-- The names of JSON, and those that `json` adds. -/
def names : List (PyStr × Json) :=
  [(lit "null", .null), (lit "true", .bool true), (lit "false", .bool false),
    (lit "NaN", .float .nan), (lit "Infinity", .float .posInf), (lit "-Infinity", .float .negInf)]

/-- A name at the front of the text. -/
def scanName (s : PyStr) : Option (Json × PyStr) :=
  match names.find? fun w => w.1.isPrefixOf s with
  | some (w, v) => some (v, s.drop w.length)
  | none => none

/-- The token that starts with the character `c`, and the text behind it. -/
def scanToken (c : PyChar) (s : PyStr) : Token × PyStr :=
  if c = .char '[' then (.openArr, s)
  else if c = .char ']' then (.closeArr, s)
  else if c = .char (Char.ofNat 123) then (.openObj, s)
  else if c = .char (Char.ofNat 125) then (.closeObj, s)
  else if c = .char ',' then (.comma, s)
  else if c = .char ':' then (.colon, s)
  else if c = .char (Char.ofNat 34) then
    match scanString s with
    | some (us, rest) => (.str (ofUnits us), rest)
    | none => (.invalid, [])
  else
    match scanName (c :: s) with
    | some (v, rest) => (.atom v, rest)
    | none =>
      match scanNumber readFloat (c :: s) with
      | some (v, rest) => (.atom v, rest)
      | none => (.invalid, [])

/-! ### Every token takes some text -/

lemma length_scanString_le {s : PyStr} {us : List ℕ} {rest : PyStr}
    (h : scanString s = some (us, rest)) : rest.length ≤ s.length := by
  fun_induction scanString s generalizing us rest with
  | case3 c s =>
    cases h
    exact Nat.le_succ _
  | case4 c _ _ h₃ h₂ h₁ h₀ s n us' rest' hscan _ ih =>
    cases h
    have := ih hscan
    simp only [List.length_cons]
    omega
  | case7 c _ _ e s _ n us' rest' hscan _ ih =>
    cases h
    have := ih hscan
    simp only [List.length_cons]
    omega
  | case11 c s _ _ _ us' rest' hscan ih =>
    cases h
    have := ih hscan
    simp only [List.length_cons]
    omega
  | _ => cases h

lemma length_dropWhile_le (p : PyChar → Bool) (s : PyStr) : (s.dropWhile p).length ≤ s.length :=
  (List.dropWhile_sublist p).length_le

lemma length_scanMinus_le (s : PyStr) : (scanMinus s).2.length ≤ s.length := by
  unfold scanMinus
  split
  · exact le_rfl
  · split_ifs
    · exact Nat.le_succ _
    · exact le_rfl

lemma length_scanInt_lt {s int rest : PyStr} (h : scanInt s = some (int, rest)) :
    rest.length < s.length := by
  unfold scanInt at h
  split at h
  · cases h
  · next c s =>
    split_ifs at h
    · cases h
      exact Nat.lt_succ_self _
    · cases h
      exact Nat.lt_succ_of_le (length_dropWhile_le _ s)

lemma length_scanFrac_le (s : PyStr) : (scanFrac s).2.length ≤ s.length := by
  unfold scanFrac
  split
  · exact le_rfl
  · next c s =>
    split_ifs
    · exact Nat.le_succ_of_le (length_dropWhile_le _ s)
    · exact le_rfl

lemma length_scanSign_le (s : PyStr) : (scanSign s).2.length ≤ s.length := by
  unfold scanSign
  split
  · exact le_rfl
  · split_ifs
    · exact Nat.le_succ _
    · exact le_rfl

lemma length_scanExp_le (s : PyStr) : (scanExp s).2.length ≤ s.length := by
  unfold scanExp
  split
  · exact le_rfl
  · next c s =>
    split_ifs
    · exact Nat.le_succ_of_le ((length_dropWhile_le _ _).trans (length_scanSign_le s))
    · exact le_rfl

lemma length_scanNumber_lt {s rest : PyStr} {v : Json}
    (h : scanNumber readFloat s = some (v, rest)) : rest.length < s.length := by
  unfold scanNumber at h
  split at h
  · cases h
  · next int s₁ hint =>
    split at h
    · cases h
    · cases h
      have h₁ := length_scanInt_lt hint
      have h₂ := length_scanMinus_le s
      have h₃ := length_scanFrac_le s₁
      have h₄ := length_scanExp_le (scanFrac s₁).2
      omega

lemma names_ne_nil : ∀ w ∈ names, 0 < w.1.length := by
  simp [names, lit]

lemma length_scanName_lt {c : PyChar} {s rest : PyStr} {v : Json}
    (h : scanName (c :: s) = some (v, rest)) : rest.length < (c :: s).length := by
  unfold scanName at h
  split at h
  · next w _ hfind =>
    cases h
    have hpos : 0 < w.length := names_ne_nil _ (List.mem_of_find?_eq_some hfind)
    rw [List.length_drop, List.length_cons]
    omega
  · cases h

lemma length_scanToken_lt (c : PyChar) (s : PyStr) :
    (scanToken readFloat c s).2.length < (c :: s).length := by
  unfold scanToken
  split_ifs
  iterate 6 exact Nat.lt_succ_self _
  · split
    · next hscan => exact Nat.lt_succ_of_le (length_scanString_le hscan)
    · exact Nat.succ_pos _
  · split
    · next hname => exact length_scanName_lt hname
    · split
      · next hnumber => exact length_scanNumber_lt readFloat hnumber
      · exact Nat.succ_pos _

/-- The tokens of a text. -/
def tokens : PyStr → List Token
  | [] => []
  | c :: s =>
    if isBlank c then tokens s
    else (scanToken readFloat c s).1 :: tokens (scanToken readFloat c s).2
termination_by s => s.length
decreasing_by
  · exact Nat.lt_succ_self _
  · exact length_scanToken_lt readFloat c s

/-! ### The scanner -/

/-- A list or a dictionary that waits for its next value. -/
inductive Frame where
  | arr (done : List Json)
  | obj (done : JsonDict) (key : PyStr)

/-- What the scanner has read, and what it waits for; `stack` holds the lists and
dictionaries around it. -/
inductive Parser where
  /-- a value must follow -/
  | value (stack : List Frame)
  /-- a list has just been opened -/
  | firstItem (stack : List Frame)
  /-- a dictionary has just been opened -/
  | firstKey (stack : List Frame)
  /-- a key must follow -/
  | key (done : JsonDict) (stack : List Frame)
  /-- the colon behind a key must follow -/
  | colon (done : JsonDict) (key : PyStr) (stack : List Frame)
  /-- a value has been read -/
  | after (v : Json) (stack : List Frame)

/-- How many lists and dictionaries are open. -/
def Parser.height : Parser → ℕ
  | .value stack => stack.length
  | .firstItem stack => stack.length + 1
  | .firstKey stack => stack.length + 1
  | .key _ stack => stack.length + 1
  | .colon _ _ stack => stack.length + 1
  | .after _ stack => stack.length

/-- `d[key] = v`. -/
def put (key : PyStr) (v : Json) : JsonDict → JsonDict
  | [] => [(key, v)]
  | (k, w) :: d => if k = key then (k, v) :: d else (k, w) :: put key v d

/-- A value begins. -/
def beginValue (stack : List Frame) : Token → Option Parser
  | .openArr => some (.firstItem stack)
  | .openObj => some (.firstKey stack)
  | .str s => some (.after (.str s) stack)
  | .atom v => some (.after v stack)
  | _ => none

/-- What the scanner does with the next token, where there is no limit. -/
def move : Parser → Token → Option Parser
  | .value stack, t => beginValue stack t
  | .firstItem stack, .closeArr => some (.after (.arr []) stack)
  | .firstItem stack, t => beginValue (.arr [] :: stack) t
  | .firstKey stack, .closeObj => some (.after (.obj []) stack)
  | .firstKey stack, .str k => some (.colon [] k stack)
  | .key done stack, .str k => some (.colon done k stack)
  | .colon done k stack, .colon => some (.value (.obj done k :: stack))
  | .after v (.arr done :: stack), .comma => some (.value (.arr (done ++ [v]) :: stack))
  | .after v (.arr done :: stack), .closeArr => some (.after (.arr (done ++ [v])) stack)
  | .after v (.obj done k :: stack), .comma => some (.key (put k v done) stack)
  | .after v (.obj done k :: stack), .closeObj => some (.after (.obj (put k v done)) stack)
  | _, _ => none

/-- The value, where the text ends behind it. -/
def Parser.result : Parser → Option Json
  | .after v [] => some v
  | _ => none

/-- The scanner calls itself for every list and every dictionary, and this fails where the
recursion is too deep. -/
def step (limit : ℕ) : Parser → Token → Except LoadsError Parser :=
  Bounded.step move Parser.height limit .valueError .recursionError

/-- The value that the tokens stand for. -/
def parse (limit : ℕ) (ts : List Token) : Except LoadsError Json :=
  match ts.foldlM (step limit) (.value []) with
  | .error e => .error e
  | .ok p =>
    match p.result with
    | some v => .ok v
    | none => .error .valueError

/-- `json.loads(data.decode("utf-8"))`. -/
def loads (limit : ℕ) (data : Octets) : Except LoadsError Json :=
  match Octets.decodeUtf8 data with
  | none => .error .valueError
  | some text => parse limit (tokens readFloat text)

/-! ### Nesting -/

/-- The tokens are a JSON text. -/
def WellFormed (ts : List Token) : Prop :=
  ∃ p v, ts.foldlM move (.value []) = some p ∧ p.result = some v

/-- Whether the token opens a list or a dictionary. -/
def Token.opens : Token → Bool
  | .openArr => true
  | .openObj => true
  | _ => false

/-- Whether the token closes one. -/
def Token.closes : Token → Bool
  | .closeArr => true
  | .closeObj => true
  | _ => false

/-- Some beginning of the tokens can be completed to a JSON text and leaves more than `limit`
lists and dictionaries open. -/
def NestsDeeper (limit : ℕ) (ts : List Token) : Prop :=
  ∃ xs ys rest, ts = xs ++ rest ∧ WellFormed (xs ++ ys) ∧
    limit + xs.countP Token.closes < xs.countP Token.opens

lemma height_beginValue {stack : List Frame} {t : Token} {p : Parser}
    (h : beginValue stack t = some p) :
    t.closes = false ∧ p.height = stack.length + (if t.opens then 1 else 0) := by
  cases t <;> cases h <;> exact ⟨rfl, rfl⟩

/-- A move changes the height by what its token opens and closes. -/
lemma height_move {p q : Parser} {t : Token} (h : move p t = some q) :
    q.height + (if t.closes then 1 else 0) = p.height + (if t.opens then 1 else 0) := by
  unfold move at h
  split at h
  · obtain ⟨hcloses, hheight⟩ := height_beginValue h
    rw [hcloses, hheight]
    rfl
  · cases h
    rfl
  · obtain ⟨hcloses, hheight⟩ := height_beginValue h
    rw [hcloses, hheight]
    rfl
  iterate 8
    · cases h
      rfl
  · cases h

lemma height_run {p q : Parser} {ts : List Token} (h : ts.foldlM move p = some q) :
    q.height + ts.countP Token.closes = p.height + ts.countP Token.opens := by
  induction ts generalizing p with
  | nil =>
    cases h
    rfl
  | cons t ts ih =>
    rw [List.foldlM_cons] at h
    rcases hmove : move p t with _ | p₁
    · rw [hmove] at h
      cases h
    · rw [hmove] at h
      have hrest := ih h
      have hstep := height_move hmove
      rw [List.countP_cons, List.countP_cons]
      omega

/-- The tokens take the scanner to the end of a text. -/
def Completes (p : Parser) (ys : List Token) : Prop :=
  ∃ q v, ys.foldlM move p = some q ∧ q.result = some v

lemma Completes.cons {p q : Parser} {t : Token} {ys : List Token} (hmove : move p t = some q)
    (h : Completes q ys) : Completes p (t :: ys) := by
  obtain ⟨q', v, hrun, hresult⟩ := h
  refine ⟨q', v, ?_, hresult⟩
  rw [List.foldlM_cons, hmove]
  exact hrun

/-- What is open can be closed. -/
lemma exists_completes_after (v : Json) (stack : List Frame) :
    ∃ ys, Completes (.after v stack) ys := by
  induction stack generalizing v with
  | nil => exact ⟨[], _, v, rfl, rfl⟩
  | cons f stack ih =>
    cases f with
    | arr done =>
      obtain ⟨ys, h⟩ := ih (.arr (done ++ [v]))
      exact ⟨.closeArr :: ys, h.cons rfl⟩
    | obj done k =>
      obtain ⟨ys, h⟩ := ih (.obj (put k v done))
      exact ⟨.closeObj :: ys, h.cons rfl⟩

/-- The scanner is never stuck for good: what it has read begins some JSON text. -/
lemma exists_completes (p : Parser) : ∃ ys, Completes p ys := by
  cases p with
  | value stack =>
    obtain ⟨ys, h⟩ := exists_completes_after .null stack
    exact ⟨.atom .null :: ys, h.cons rfl⟩
  | firstItem stack =>
    obtain ⟨ys, h⟩ := exists_completes_after (.arr []) stack
    exact ⟨.closeArr :: ys, h.cons rfl⟩
  | firstKey stack =>
    obtain ⟨ys, h⟩ := exists_completes_after (.obj []) stack
    exact ⟨.closeObj :: ys, h.cons rfl⟩
  | key done stack =>
    obtain ⟨ys, h⟩ := exists_completes_after .null (.obj done [] :: stack)
    exact ⟨.str [] :: .colon :: .atom .null :: ys, ((h.cons rfl).cons rfl).cons rfl⟩
  | colon done k stack =>
    obtain ⟨ys, h⟩ := exists_completes_after .null (.obj done k :: stack)
    exact ⟨.colon :: .atom .null :: ys, (h.cons rfl).cons rfl⟩
  | after v stack => exact exists_completes_after v stack

/-- Beginnings of JSON texts are what the scanner can read without a limit. -/
lemma exists_wellFormed_iff {xs : List Token} :
    (∃ ys, WellFormed (xs ++ ys)) ↔ ∃ p, xs.foldlM move (.value []) = some p := by
  constructor
  · rintro ⟨ys, p, v, hrun, -⟩
    rw [List.foldlM_append] at hrun
    rcases hxs : xs.foldlM move (.value []) with _ | q
    · rw [hxs] at hrun
      cases hrun
    · exact ⟨q, rfl⟩
  · rintro ⟨p, hrun⟩
    obtain ⟨ys, q, v, hys, hresult⟩ := exists_completes p
    refine ⟨ys, q, v, ?_, hresult⟩
    rw [List.foldlM_append, hrun]
    exact hys

lemma nestsDeeper_iff {limit : ℕ} {ts : List Token} : NestsDeeper limit ts ↔
    ∃ xs rest p, ts = xs ++ rest ∧ xs.foldlM move (.value []) = some p ∧ limit < p.height := by
  constructor
  · rintro ⟨xs, ys, rest, hts, hwell, hcount⟩
    obtain ⟨p, hrun⟩ := exists_wellFormed_iff.1 ⟨ys, hwell⟩
    have hheight : p.height + xs.countP Token.closes = 0 + xs.countP Token.opens := height_run hrun
    exact ⟨xs, rest, p, hts, hrun, by omega⟩
  · rintro ⟨xs, rest, p, hts, hrun, hlimit⟩
    obtain ⟨ys, hwell⟩ := exists_wellFormed_iff.2 ⟨p, hrun⟩
    have hheight : p.height + xs.countP Token.closes = 0 + xs.countP Token.opens := height_run hrun
    exact ⟨xs, ys, rest, hts, hwell, by omega⟩

/-- **The scanner gives up exactly on the texts that nest deeper than the limit.** -/
theorem parse_eq_recursionError_iff {limit : ℕ} {ts : List Token} :
    parse limit ts = .error .recursionError ↔ NestsDeeper limit ts := by
  have hrun : ts.foldlM (step limit) (.value []) = .error .recursionError
      ↔ NestsDeeper limit ts := by
    rw [nestsDeeper_iff]
    have hne : LoadsError.valueError ≠ .recursionError := by decide
    have hstart : (Parser.value []).height ≤ limit := Nat.zero_le limit
    exact Bounded.foldlM_step_eq_full_iff hne hstart
  rw [← hrun, parse]
  split
  · next e he =>
    rw [he]
    simp
  · next p hp =>
    rw [hp]
    split
    · simp
    · simp

/-- What the scanner returns was well formed. -/
theorem wellFormed_of_parse_eq_ok {limit : ℕ} {ts : List Token} {v : Json}
    (h : parse limit ts = .ok v) : WellFormed ts := by
  unfold parse at h
  split at h
  · cases h
  · next p hp =>
    split at h
    · next w hw => exact ⟨p, w, Bounded.run_of_foldlM_step_eq_ok hp, hw⟩
    · cases h

/-- The text nests deeper than the limit. -/
def TooDeep (limit : ℕ) (data : Octets) : Prop :=
  ∃ text, Octets.decodeUtf8 data = some text ∧ NestsDeeper limit (tokens readFloat text)

variable {readFloat} in
lemma loads_eq_recursionError_iff {limit : ℕ} {data : Octets} :
    loads readFloat limit data = .error .recursionError ↔ TooDeep readFloat limit data := by
  unfold loads TooDeep
  split
  · next hdecode =>
    rw [hdecode]
    simp
  · next text hdecode =>
    rw [hdecode, parse_eq_recursionError_iff]
    simp

end PqcBridge.Loads
