/-
What the parsers raise on the bytes of a peer.

`read_message` and `parse_reading_bytes` turn the `ValueError`s of the JSON parser into
`ProtocolError`, but not its `RecursionError`.

* `only_protocol_errors_iff`: they raise nothing but protocol errors exactly on the bytes that
  do not nest deeper than the recursion limit;
* `exists_readOutcome`: what `read_message` does then is among the outcomes on which the
  handlers are run;
* `recursionError_escapes`: a line of brackets, and the same brackets as a reading.
-/
import PqcBridge.Common.Framing

namespace PqcBridge.PeerInput

open Python Protocol Framing Loads

variable (readFloat : PyStr → PyFloat) (limit : ℕ)

/-- The primitives, with the parser at a recursion limit. -/
def peerPrimitives : Primitives Octets := octets (loads readFloat limit)

lemma loads_peerPrimitives (data : Octets) :
    (peerPrimitives readFloat limit).loads data = loads readFloat limit data := rfl

/-- `read_message` returns a dictionary or raises one of its two exceptions. -/
def ReadsCleanly (stream : Octets) : Prop :=
  (∃ m, (readMessage (peerPrimitives readFloat limit) stream).1 = .ok m) ∨
  ∃ e, (readMessage (peerPrimitives readFloat limit) stream).1 = .error e ∧
    (e.cls = .protocolError ∨ e.cls = .connectionClosedError)

/-- `parse_reading_bytes` returns a dictionary with the four keys or raises `ProtocolError`. -/
def ParsesCleanly (plaintext : Octets) : Prop :=
  (∃ m, parseReadingBytes (peerPrimitives readFloat limit) plaintext = .ok m ∧
    ∀ f ∈ requiredReadingFields, (m.field f).isSome = true) ∨
  ∃ e, parseReadingBytes (peerPrimitives readFloat limit) plaintext = .error e ∧
    e.cls = .protocolError

/-- The bytes are a line that `read_message` hands to the parser. -/
structure IsMessageLine (line : Octets) : Prop where
  size : line.length ≤ maxMessageBytes
  newline : line.getLast? = some newline

variable {readFloat limit}

/-! ### The two functions -/

/-- A line is parsed, or refused with one of the two exceptions. -/
lemma parseLine_cases (P : Primitives Octets) (line : Octets) :
    (∃ m, parseLine P line = .ok m) ∨
    (∃ e, parseLine P line = .error e ∧
      (e.cls = .protocolError ∨ e.cls = .connectionClosedError)) ∨
    (IsMessageLine line ∧ P.loads line = .error .recursionError ∧
      ∃ e, parseLine P line = .error e ∧ e.cls = .recursionError) := by
  unfold parseLine
  split_ifs with hempty hlong hnewline
  · exact Or.inr (Or.inl ⟨_, rfl, Or.inr rfl⟩)
  · exact Or.inr (Or.inl ⟨_, rfl, Or.inl rfl⟩)
  · exact Or.inr (Or.inl ⟨_, rfl, Or.inl rfl⟩)
  · rw [not_not] at hnewline
    split
    · exact Or.inr (Or.inl ⟨_, rfl, Or.inl rfl⟩)
    · next hloads =>
      exact Or.inr (Or.inr ⟨⟨Nat.not_lt.1 hlong, hnewline⟩, hloads, _, rfl, rfl⟩)
    · exact Or.inl ⟨_, rfl⟩
    · exact Or.inr (Or.inl ⟨_, rfl, Or.inl rfl⟩)

lemma parseLine_of_recursionError {P : Primitives Octets} {line : Octets}
    (hline : IsMessageLine line) (h : P.loads line = .error .recursionError) :
    parseLine P line = raise .recursionError (lit "maximum recursion depth exceeded") := by
  have hne : line ≠ [] := by
    rintro rfl
    cases hline.newline
  simp only [parseLine, hne, if_false, Nat.not_lt.2 hline.size, hline.newline, ne_eq,
    not_true_eq_false, h]

/-- A reading has the four keys, or is refused. -/
lemma parseReadingBytes_cases (P : Primitives Octets) (plaintext : Octets) :
    (∃ m, parseReadingBytes P plaintext = .ok m ∧
      ∀ f ∈ requiredReadingFields, (m.field f).isSome = true) ∨
    (∃ e, parseReadingBytes P plaintext = .error e ∧ e.cls = .protocolError) ∨
    (P.loads plaintext = .error .recursionError ∧
      ∃ e, parseReadingBytes P plaintext = .error e ∧ e.cls = .recursionError) := by
  unfold parseReadingBytes
  split
  · exact Or.inr (Or.inl ⟨_, rfl, rfl⟩)
  · next hloads => exact Or.inr (Or.inr ⟨hloads, _, rfl, rfl⟩)
  · split_ifs with hall
    · exact Or.inl ⟨_, rfl, List.all_eq_true.1 hall⟩
    · exact Or.inr (Or.inl ⟨_, rfl, rfl⟩)
  · exact Or.inr (Or.inl ⟨_, rfl, rfl⟩)

/-! ### The condition -/

lemma readsCleanly_iff (stream : Octets) : ReadsCleanly readFloat limit stream ↔
    ¬ (IsMessageLine (readline (maxMessageBytes + 1) stream).1 ∧
      TooDeep readFloat limit (readline (maxMessageBytes + 1) stream).1) := by
  have hcases := parseLine_cases (peerPrimitives readFloat limit)
    (readline (maxMessageBytes + 1) stream).1
  constructor
  · rintro hclean ⟨hline, hdeep⟩
    have hloads : (peerPrimitives readFloat limit).loads (readline (maxMessageBytes + 1) stream).1
        = .error .recursionError := loads_eq_recursionError_iff.2 hdeep
    have hraise := parseLine_of_recursionError hline hloads
    rcases hclean with ⟨m, hm⟩ | ⟨e, he, hcls⟩
    · exact absurd (hraise.symm.trans hm) (raise_ne_ok _ _ m)
    · cases hraise.symm.trans he
      rcases hcls with hcls | hcls <;> cases hcls
  · intro hshallow
    rcases hcases with hok | herror | ⟨hline, hloads, -⟩
    · exact Or.inl hok
    · exact Or.inr herror
    · exact absurd ⟨hline, loads_eq_recursionError_iff.1 hloads⟩ hshallow

lemma parsesCleanly_iff (plaintext : Octets) :
    ParsesCleanly readFloat limit plaintext ↔ ¬ TooDeep readFloat limit plaintext := by
  have hcases := parseReadingBytes_cases (peerPrimitives readFloat limit) plaintext
  constructor
  · intro hclean hdeep
    have hloads : (peerPrimitives readFloat limit).loads plaintext = .error .recursionError :=
      loads_eq_recursionError_iff.2 hdeep
    rcases hclean with ⟨m, hm, -⟩ | ⟨e, he, hcls⟩
    · simp [parseReadingBytes, hloads] at hm
    · simp only [parseReadingBytes, hloads] at he
      cases he
      cases hcls
  · intro hshallow
    rcases hcases with hok | herror | ⟨hloads, -⟩
    · exact Or.inl hok
    · exact Or.inr herror
    · exact absurd (loads_eq_recursionError_iff.1 hloads) hshallow

/-- **The parsers raise only protocol errors**, exactly on the bytes that do not nest deeper
than the recursion limit. -/
theorem only_protocol_errors_iff (readFloat : PyStr → PyFloat) (limit : ℕ) :
    (∀ stream, ReadsCleanly readFloat limit stream ↔
      ¬ (IsMessageLine (readline (maxMessageBytes + 1) stream).1 ∧
        TooDeep readFloat limit (readline (maxMessageBytes + 1) stream).1)) ∧
    ∀ plaintext, ParsesCleanly readFloat limit plaintext ↔ ¬ TooDeep readFloat limit plaintext :=
  ⟨readsCleanly_iff, parsesCleanly_iff⟩

/-- The outcomes that the handlers are run on are those of `read_message`, where it reads
cleanly. -/
theorem exists_readOutcome {stream : Octets} (h : ReadsCleanly readFloat limit stream) :
    ∃ o : ReadOutcome,
      o.result = (readMessage (peerPrimitives readFloat limit) stream).1 := by
  rw [readsCleanly_iff] at h
  generalize hline : (readline (maxMessageBytes + 1) stream).1 = line at h
  have hread : (readMessage (peerPrimitives readFloat limit) stream).1
      = parseLine (peerPrimitives readFloat limit) line := by
    rw [readMessage, hline]
  rw [hread, parseLine]
  split_ifs with hempty hlong hnewline
  · exact ⟨.closed, rfl⟩
  · exact ⟨.malformed _, rfl⟩
  · exact ⟨.malformed _, rfl⟩
  · rw [not_not] at hnewline
    split
    · exact ⟨.malformed _, rfl⟩
    · next hloads =>
      -- the parser gives up on deep nesting only
      rw [loads_peerPrimitives, loads_eq_recursionError_iff] at hloads
      exact absurd ⟨⟨Nat.not_lt.1 hlong, hnewline⟩, hloads⟩ h
    · next m _ => exact ⟨.message m, rfl⟩
    · exact ⟨.malformed _, rfl⟩

/-! ### Brackets -/

/-- `n` opening brackets. -/
def brackets (n : ℕ) : Octets := List.replicate n 91

lemma utf8_brackets (n : ℕ) : (List.replicate n (PyChar.char '[')).flatMap Octets.utf8Char
    = brackets n := by
  induction n with
  | zero => rfl
  | succ n ih =>
    rw [List.replicate_succ, List.flatMap_cons, ih]
    rfl

lemma tokens_brackets (n : ℕ) {rest : PyStr} (hrest : tokens readFloat rest = []) :
    tokens readFloat (List.replicate n (.char '[') ++ rest) = List.replicate n .openArr := by
  induction n with
  | zero => exact hrest
  | succ n ih =>
    rw [List.replicate_succ, List.cons_append, List.replicate_succ, ← ih]
    exact tokens_openArr

/-- Every bracket opens one more list. -/
lemma foldlM_move_brackets (n : ℕ) (stack : List Frame) :
    (List.replicate n Token.openArr).foldlM move (.firstItem stack)
      = some (.firstItem (List.replicate n (.arr []) ++ stack)) := by
  induction n generalizing stack with
  | zero => rfl
  | succ n ih =>
    have hmove : move (.firstItem stack) .openArr = some (.firstItem (.arr [] :: stack)) := rfl
    rw [List.replicate_succ, List.foldlM_cons, hmove]
    refine (ih (.arr [] :: stack)).trans ?_
    rw [List.replicate_succ', List.append_assoc, List.singleton_append]

/-- Brackets beyond the limit, with any white space behind them. -/
lemma tooDeep_brackets (limit : ℕ) {blank : PyStr} (hblank : tokens readFloat blank = [])
    (hvalid : validUnicode blank = true) :
    TooDeep readFloat limit (brackets (limit + 1) ++ blank.flatMap Octets.utf8Char) := by
  have hdecode : Octets.decodeUtf8 (brackets (limit + 1) ++ blank.flatMap Octets.utf8Char)
      = some (List.replicate (limit + 1) (.char '[') ++ blank) := by
    rw [← utf8_brackets, ← List.flatMap_append]
    refine Octets.decodeUtf8_flatMap_utf8Char ?_
    rw [validUnicode_append, hvalid, Bool.and_true]
    exact List.all_eq_true.2 fun c hc => by rw [List.eq_of_mem_replicate hc]; rfl
  refine ⟨_, hdecode, ?_⟩
  rw [tokens_brackets _ hblank, nestsDeeper_iff]
  refine ⟨List.replicate (limit + 1) .openArr, [], .firstItem (List.replicate limit (.arr [])),
    (List.append_nil _).symm, ?_, ?_⟩
  · have hrun := foldlM_move_brackets limit []
    rw [List.append_nil] at hrun
    rw [List.replicate_succ, List.foldlM_cons]
    exact hrun
  · show limit < (List.replicate limit (Frame.arr [])).length + 1
    rw [List.length_replicate]
    exact Nat.lt_succ_self limit

/-- Where the line of brackets fits, the `RecursionError` of the parser leaves both functions. -/
lemma escapes_of_le (hlimit : limit + 2 ≤ maxMessageBytes) :
    (readMessage (peerPrimitives readFloat limit) (brackets (limit + 1) ++ [newline])).1
      = raise .recursionError (lit "maximum recursion depth exceeded") ∧
    ¬ ReadsCleanly readFloat limit (brackets (limit + 1) ++ [newline]) ∧
    parseReadingBytes (peerPrimitives readFloat limit) (brackets (limit + 1))
      = raise .recursionError (lit "maximum recursion depth exceeded") ∧
    ¬ ParsesCleanly readFloat limit (brackets (limit + 1)) := by
  have hlen : (brackets (limit + 1) ++ [newline]).length = limit + 2 := by
    rw [List.length_append, brackets, List.length_replicate]
    rfl
  have hfirst : firstLine (brackets (limit + 1) ++ [newline]) = brackets (limit + 1) ++ [newline] :=
    firstLine_append fun h => absurd (List.eq_of_mem_replicate h) (by decide)
  have hread : (readline (maxMessageBytes + 1) (brackets (limit + 1) ++ [newline])).1
      = brackets (limit + 1) ++ [newline] := by
    rw [readline_eq, hfirst]
    exact List.take_of_length_le (by omega)
  -- the line is within the size that `read_message` allows
  have hline : IsMessageLine (brackets (limit + 1) ++ [newline]) :=
    ⟨hlen.trans_le hlimit, List.getLast?_concat⟩
  have hblank : tokens readFloat [.char '\n'] = [] := by
    rw [tokens, if_pos (by decide), tokens]
  have hnil : tokens readFloat [] = [] := by
    rw [tokens]
  -- the line nests one bracket deeper than the limit, with the newline and without it
  have hdeep : TooDeep readFloat limit (brackets (limit + 1) ++ [newline]) :=
    tooDeep_brackets limit hblank rfl
  have hdeep' : TooDeep readFloat limit (brackets (limit + 1)) := by
    have h := tooDeep_brackets limit hnil rfl
    rw [List.flatMap_nil, List.append_nil] at h
    exact h
  refine ⟨?_, ?_, ?_, ?_⟩
  · show parseLine _ (readline (maxMessageBytes + 1) (brackets (limit + 1) ++ [newline])).1 = _
    rw [hread]
    exact parseLine_of_recursionError hline (loads_eq_recursionError_iff.2 hdeep)
  · rw [readsCleanly_iff, hread, not_not]
    exact ⟨hline, hdeep⟩
  · simp only [parseReadingBytes, loads_peerPrimitives, loads_eq_recursionError_iff.2 hdeep']
  · rw [parsesCleanly_iff, not_not]
    exact hdeep'

/-- With ten thousand levels of recursion: a line of 10002 bytes, and the same brackets as a
reading. -/
theorem recursionError_escapes :
    (readMessage (peerPrimitives (fun _ => .finite 0) 10000) (brackets (10000 + 1) ++ [newline])).1
      = raise .recursionError (lit "maximum recursion depth exceeded") ∧
    ¬ ReadsCleanly (fun _ => .finite 0) 10000 (brackets (10000 + 1) ++ [newline]) ∧
    parseReadingBytes (peerPrimitives (fun _ => .finite 0) 10000) (brackets (10000 + 1))
      = raise .recursionError (lit "maximum recursion depth exceeded") ∧
    ¬ ParsesCleanly (fun _ => .finite 0) 10000 (brackets (10000 + 1)) := by
  have hlimit : 10000 + 2 ≤ maxMessageBytes := by
    rw [maxMessageBytes]
    norm_num
  exact escapes_of_le hlimit

end PqcBridge.PeerInput
