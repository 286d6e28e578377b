/-
Framing: messages as lines.

`encode_message` writes one line for each message, and `read_message` takes lines off the
stream, as far as a limit.

* `printable_dumps`: the text of a message holds no newline;
* `framing_roundtrip`: what was written as lines is read as messages, and the rest of the
  stream stays unread.
-/
import PqcBridge.Common.RoundTrip
import PqcBridge.Python.Raises

namespace PqcBridge.Framing

open Python Protocol

/-- The byte that ends a line. -/
def newline : UInt8 := 10

/-! ### Lines -/

/-- `stream.readline(limit)`: the bytes up to and including the first newline, cut at the
limit, and what is left in the stream. -/
def readline : ℕ → Octets → Octets × Octets
  | 0, stream => ([], stream)
  | _ + 1, [] => ([], [])
  | limit + 1, b :: stream =>
    if b = newline then ([b], stream)
    else (b :: (readline limit stream).1, (readline limit stream).2)

/-- The first line of a stream, its newline included. -/
def firstLine : Octets → Octets
  | [] => []
  | b :: stream => if b = newline then [b] else b :: firstLine stream

variable {stream rest : Octets}

lemma readline_eq (limit : ℕ) (stream : Octets) :
    readline limit stream = ((firstLine stream).take limit,
      stream.drop (min limit (firstLine stream).length)) := by
  induction limit generalizing stream with
  | zero => simp [readline]
  | succ limit ih =>
    cases stream with
    | nil => simp [readline, firstLine]
    | cons b stream =>
      rw [readline, firstLine]
      split_ifs
      · simp
      · simp [ih, Nat.succ_min_succ]

/-- A line at the front of the stream is its first line. -/
lemma firstLine_append {line : Octets} (h : newline ∉ line) :
    firstLine (line ++ newline :: rest) = line ++ [newline] := by
  induction line with
  | nil => exact if_pos rfl
  | cons b line ih =>
    rw [List.mem_cons, not_or] at h
    rw [List.cons_append, firstLine, if_neg (Ne.symm h.1), ih h.2, List.cons_append]

lemma firstLine_isInitial (stream : Octets) : firstLine stream <+: stream := by
  induction stream with
  | nil => exact List.prefix_rfl
  | cons b stream ih =>
    rw [firstLine]
    split_ifs
    · exact ⟨stream, rfl⟩
    · exact List.cons_prefix_cons.2 ⟨rfl, ih⟩

/-- Without a newline there is one line. -/
lemma firstLine_of_notMem (h : newline ∉ stream) : firstLine stream = stream := by
  induction stream with
  | nil => rfl
  | cons b stream ih =>
    rw [List.mem_cons, not_or] at h
    rw [firstLine, if_neg (Ne.symm h.1), ih h.2]

/-! ### Messages -/

variable (P : Primitives Octets)

/-- The bytes that `encode_message` returns. -/
def encodeBytes (message : JsonDict) : Octets := (encodeMessage P message).flatMap Octets.utf8Char

/-- What `read_message` does with a line. -/
def parseLine (line : Octets) : Py JsonDict :=
  if line = [] then raise .connectionClosedError (lit "peer closed the connection")
  else if maxMessageBytes < line.length then
    raise .protocolError (lit "message exceeds maximum allowed size")
  else if line.getLast? ≠ some newline then
    raise .protocolError (lit "connection closed mid-message (missing newline)")
  else
    match P.loads line with
    | .error .valueError => raise .protocolError (lit "message is not valid JSON")
    | .error .recursionError => raise .recursionError (lit "maximum recursion depth exceeded")
    | .ok (.obj message) => .ok message
    | .ok _ => raise .protocolError (lit "message must be a JSON object")

/-- `read_message`, and what it leaves in the stream. -/
def readMessage (stream : Octets) : Py JsonDict × Octets :=
  (parseLine P (readline (maxMessageBytes + 1) stream).1,
    (readline (maxMessageBytes + 1) stream).2)

/-- `n` calls of `read_message`. -/
def readMessages : ℕ → Octets → List (Py JsonDict) × Octets
  | 0, stream => ([], stream)
  | n + 1, stream =>
    ((readMessage P stream).1 :: (readMessages n (readMessage P stream).2).1,
      (readMessages n (readMessage P stream).2).2)

/-! ### The text of a message -/

/-- Whether the character is written as one byte that is no control character. -/
def isPrintable : PyChar → Bool
  | .char x => 32 ≤ x.toNat && x.toNat ≤ 126
  | .surrogate _ => false

/-- The text holds printable characters only. -/
def Printable (s : PyStr) : Prop := ∀ c ∈ s, isPrintable c = true

instance (s : PyStr) : Decidable (Printable s) :=
  inferInstanceAs (Decidable (∀ c ∈ s, isPrintable c = true))

lemma Printable.append {s t : PyStr} (hs : Printable s) (ht : Printable t) :
    Printable (s ++ t) := by
  intro c hc
  rcases List.mem_append.1 hc with h | h
  · exact hs c h
  · exact ht c h

lemma Printable.validUnicode {s : PyStr} (h : Printable s) : validUnicode s = true := by
  refine List.all_eq_true.2 fun c hc => ?_
  cases c with
  | char x => rfl
  | surrogate u => exact absurd (h _ hc) (by simp [isPrintable])

lemma isPrintable_hexDigit : ∀ n < 16, isPrintable (hexDigit n) = true := by decide

lemma printable_escapeUnit (n : ℕ) : Printable (escapeUnit n) := by
  have hdigit : ∀ k, isPrintable (hexDigit (k % 16)) = true := fun k =>
    isPrintable_hexDigit _ (Nat.mod_lt k (by norm_num))
  intro c hc
  simp only [escapeUnit, List.mem_cons, List.not_mem_nil, or_false] at hc
  rcases hc with rfl | rfl | rfl | rfl | rfl | rfl
  · rfl
  · rfl
  iterate 4 exact hdigit _

lemma printable_escapeCode (n : ℕ) : Printable (escapeCode n) := by
  unfold escapeCode
  split_ifs with h₁ h₂ h₃ h₄ h₅ h₆ h₇ h₈
  · subst h₁
    decide
  · subst h₂
    decide
  iterate 5 decide
  · have hn : (Char.ofNat n).toNat = n := toNat_ofNat_ascii n (by omega)
    intro c hc
    rw [List.mem_singleton] at hc
    rw [hc, isPrintable, hn]
    simpa using h₈
  · exact printable_escapeUnit n

lemma printable_dumpsStr (s : PyStr) : Printable (dumpsStr s) := by
  intro c hc
  simp only [dumpsStr, List.mem_cons, List.mem_append, List.mem_flatMap, List.not_mem_nil,
    or_false] at hc
  rcases hc with rfl | ⟨d, -, hd⟩ | rfl
  · rfl
  · rw [escapeChar_eq, List.mem_flatMap] at hd
    obtain ⟨n, -, hn⟩ := hd
    exact printable_escapeCode n c hn
  · rfl

lemma printable_decimal (n : ℤ) : Printable (decimal n) := by
  intro c hc
  obtain ⟨d, -, rfl⟩ := List.mem_map.1 hc
  by_cases hd : d.isDigit = true
  · rw [Char.isDigit, Bool.and_eq_true, decide_eq_true_eq, decide_eq_true_eq] at hd
    have h1 : 48 ≤ d.toNat := hd.1
    have h2 : d.toNat ≤ 57 := hd.2
    simp only [isPrintable, Bool.and_eq_true, decide_eq_true_eq]
    omega
  · by_cases hsign : d = '-'
    · subst hsign
      rfl
    · exact absurd hc (notMem_decimal (by simpa using hd) hsign n)

variable {floatText : PyFloat → PyStr}

mutual

/-- The text of a value is printable. -/
theorem printable_dumps (hfloat : ∀ x, Printable (floatText x)) :
    ∀ v : Json, Printable (dumps floatText v)
  | .null => show Printable (lit "null") by decide
  | .bool true => show Printable (lit "true") by decide
  | .bool false => show Printable (lit "false") by decide
  | .int n => printable_decimal n
  | .float x => hfloat x
  | .str s => printable_dumpsStr s
  | .arr xs => by
    have hopen : Printable (lit "[") := by decide
    have hclose : Printable (lit "]") := by decide
    rw [dumps]
    exact (hopen.append (printable_dumpsItems hfloat xs)).append hclose
  | .obj fields => by
    have hopen : Printable (lit "\x7b") := by decide
    have hclose : Printable (lit "\x7d") := by decide
    rw [dumps]
    exact (hopen.append (printable_dumpsFields hfloat fields)).append hclose

theorem printable_dumpsItems (hfloat : ∀ x, Printable (floatText x)) :
    ∀ xs : List Json, Printable (dumpsItems floatText xs)
  | [] => show Printable [] by decide
  | [x] => printable_dumps hfloat x
  | x :: y :: xs => by
    have hcomma : Printable (lit ",") := by decide
    rw [dumpsItems]
    exact ((printable_dumps hfloat x).append hcomma).append (printable_dumpsItems hfloat (y :: xs))

theorem printable_dumpsFields (hfloat : ∀ x, Printable (floatText x)) :
    ∀ fields : List (PyStr × Json), Printable (dumpsFields floatText fields)
  | [] => show Printable [] by decide
  | [(k, v)] => by
    have hcolon : Printable (lit ":") := by decide
    rw [dumpsFields]
    exact ((printable_dumpsStr k).append hcolon).append (printable_dumps hfloat v)
  | (k, v) :: f :: fields => by
    have hcolon : Printable (lit ":") := by decide
    have hcomma : Printable (lit ",") := by decide
    rw [dumpsFields]
    have hv := ((printable_dumpsStr k).append hcolon).append (printable_dumps hfloat v)
    exact (hv.append hcomma).append
      (printable_dumpsFields hfloat (f :: fields))

end

variable {P} {m : JsonDict}

/-- The bytes of a message: its text, without a newline, and a newline. -/
lemma exists_line (hfloat : ∀ x, Printable (P.floatText x)) (m : JsonDict) :
    ∃ line, newline ∉ line ∧ encodeBytes P m = line ++ [newline] := by
  have hprintable := printable_dumps hfloat (.obj m)
  refine ⟨(dumps P.floatText (.obj m)).flatMap Octets.utf8Char, ?_, ?_⟩
  · intro hmem
    obtain ⟨c, hc, hb⟩ := List.mem_flatMap.1 hmem
    have hc := hprintable c hc
    cases c with
    | surrogate u => cases hc
    | char x =>
      simp only [isPrintable, Bool.and_eq_true, decide_eq_true_eq] at hc
      -- one byte, with the value of the character
      have hbyte : Octets.utf8Char (.char x) = [UInt8.ofNat x.toNat] :=
        if_pos (show x.toNat ≤ 0x7f by omega)
      rw [hbyte, List.mem_singleton] at hb
      have hten := congrArg UInt8.toNat hb
      rw [UInt8.toNat_ofNat'] at hten
      have hvalue : newline.toNat = 10 := rfl
      omega
  · rw [encodeBytes, encodeMessage, List.flatMap_append]
    rfl

/-- A message that the parser reads back, within the limit, is read off the stream. -/
lemma readMessage_encodeBytes (hfloat : ∀ x, Printable (P.floatText x))
    (hloads : P.loads (encodeBytes P m) = .ok (.obj m))
    (hsize : (encodeBytes P m).length ≤ maxMessageBytes) (rest : Octets) :
    readMessage P (encodeBytes P m ++ rest) = (.ok m, rest) := by
  obtain ⟨line, hline, hbytes⟩ := exists_line hfloat m
  have hfirst : firstLine (encodeBytes P m ++ rest) = encodeBytes P m := by
    rw [hbytes, List.append_assoc, List.singleton_append, firstLine_append hline]
  have hread : readline (maxMessageBytes + 1) (encodeBytes P m ++ rest)
      = (encodeBytes P m, rest) := by
    rw [readline_eq, hfirst, List.take_of_length_le (by omega), min_eq_right (by omega),
      List.drop_left]
  have hne : encodeBytes P m ≠ [] := by
    rw [hbytes]
    simp
  have hlast : (encodeBytes P m).getLast? = some newline := by
    rw [hbytes, List.getLast?_concat]
  simp only [readMessage, hread, parseLine, hne, if_false, Nat.not_lt.2 hsize, hlast, ne_eq,
    not_true_eq_false, hloads]

/-- Repeated calls return the messages in their order. -/
lemma readMessages_flatMap (hfloat : ∀ x, Printable (P.floatText x)) {ms : List JsonDict}
    (hloads : ∀ m ∈ ms, P.loads (encodeBytes P m) = .ok (.obj m))
    (hsize : ∀ m ∈ ms, (encodeBytes P m).length ≤ maxMessageBytes) (rest : Octets) :
    readMessages P ms.length (ms.flatMap (encodeBytes P) ++ rest) = (ms.map .ok, rest) := by
  induction ms with
  | nil => rfl
  | cons m ms ih =>
    have hfirst := readMessage_encodeBytes hfloat (hloads m List.mem_cons_self)
      (hsize m List.mem_cons_self) (ms.flatMap (encodeBytes P) ++ rest)
    have hothers := ih (fun m' hm' => hloads m' (List.mem_cons_of_mem m hm'))
      fun m' hm' => hsize m' (List.mem_cons_of_mem m hm')
    rw [List.flatMap_cons, List.append_assoc, List.length_cons, readMessages, hfirst, hothers,
      List.map_cons]

/-! ### What follows the messages -/

lemma readMessage_nil (P : Primitives Octets) :
    readMessage P [] = (raise .connectionClosedError (lit "peer closed the connection"), []) :=
  rfl

/-- A line beyond the limit is cut one byte behind it. -/
lemma readMessage_oversize (P : Primitives Octets) (h : maxMessageBytes < (firstLine rest).length) :
    ∃ taken unread, rest = taken ++ unread ∧ taken.length = maxMessageBytes + 1 ∧
      readMessage P rest
        = (raise .protocolError (lit "message exceeds maximum allowed size"), unread) := by
  have hread : readline (maxMessageBytes + 1) rest
      = ((firstLine rest).take (maxMessageBytes + 1), rest.drop (maxMessageBytes + 1)) := by
    rw [readline_eq, min_eq_left h]
  have hline : ((firstLine rest).take (maxMessageBytes + 1)).length = maxMessageBytes + 1 :=
    List.length_take_of_le h
  have hne : (firstLine rest).take (maxMessageBytes + 1) ≠ [] := by
    intro hnil
    rw [hnil] at hline
    cases hline
  have hlong : maxMessageBytes < ((firstLine rest).take (maxMessageBytes + 1)).length := by
    omega
  refine ⟨rest.take (maxMessageBytes + 1), rest.drop (maxMessageBytes + 1),
    (List.take_append_drop _ _).symm, List.length_take_of_le ?_, ?_⟩
  · exact Nat.succ_le_of_lt (h.trans_le (firstLine_isInitial rest).length_le)
  · simp only [readMessage, hread, parseLine, hne, if_false, hlong, if_true]

/-- A stream that ends within a line. -/
lemma readMessage_truncated (P : Primitives Octets) (hne : rest ≠ [])
    (hlen : rest.length ≤ maxMessageBytes) (hnewline : newline ∉ rest) :
    readMessage P rest
      = (raise .protocolError (lit "connection closed mid-message (missing newline)"), []) := by
  have hread : readline (maxMessageBytes + 1) rest = (rest, []) := by
    rw [readline_eq, firstLine_of_notMem hnewline, List.take_of_length_le (by omega),
      min_eq_right (by omega), List.drop_length]
  have hlast : rest.getLast? ≠ some newline := fun h => hnewline (List.mem_of_getLast? h)
  simp only [readMessage, hread, parseLine, hne, if_false, Nat.not_lt.2 hlen, hlast, ne_eq,
    not_false_eq_true, if_true]

/-- **Framing round trip.**  What was written as messages is read as these messages, in their
order, and the rest stays unread; what follows the messages is read as an end of stream, as a
line beyond the limit or as a stream that ends within a line. -/
theorem framing_roundtrip (hfloat : ∀ x, Printable (P.floatText x)) (ms : List JsonDict)
    (hloads : ∀ m ∈ ms, P.loads (encodeBytes P m) = .ok (.obj m))
    (hsize : ∀ m ∈ ms, (encodeBytes P m).length ≤ maxMessageBytes) (rest : Octets) :
    readMessages P ms.length (ms.flatMap (encodeBytes P) ++ rest) = (ms.map .ok, rest) ∧
    (rest = [] → readMessage P rest
      = (raise .connectionClosedError (lit "peer closed the connection"), [])) ∧
    (maxMessageBytes < (firstLine rest).length →
      ∃ taken unread, rest = taken ++ unread ∧ taken.length = maxMessageBytes + 1 ∧
        readMessage P rest
          = (raise .protocolError (lit "message exceeds maximum allowed size"), unread)) ∧
    (rest ≠ [] → rest.length ≤ maxMessageBytes → newline ∉ rest → readMessage P rest
      = (raise .protocolError (lit "connection closed mid-message (missing newline)"), [])) := by
  refine ⟨readMessages_flatMap hfloat hloads hsize rest, ?_, readMessage_oversize P,
    readMessage_truncated P⟩
  rintro rfl
  exact readMessage_nil P

/-! ### The real parser -/

/-- A newline behind the text is white space. -/
lemma loads_encodeBytes {readFloat : PyStr → PyFloat} {limit : ℕ}
    (hfloat : ∀ x, Printable (P.floatText x)) (hm : Loads.Readable P.floatText readFloat (.obj m))
    (hdepth : Loads.depth (.obj m) ≤ limit) :
    Loads.loads readFloat limit (encodeBytes P m) = .ok (.obj m) := by
  have hblank : Loads.tokens readFloat [.char (Char.ofNat 10)] = [] := by
    rw [Loads.tokens, if_pos (by decide), Loads.tokens]
  have hvalid : validUnicode (dumps P.floatText (.obj m) ++ [.char (Char.ofNat 10)]) = true := by
    rw [validUnicode_append, (printable_dumps hfloat (.obj m)).validUnicode]
    rfl
  exact Loads.loads_dumps hm hdepth hblank (Loads.ends_cons (by decide)) hvalid

/-- The parser, with ten thousand levels of recursion. -/
def demoPrimitives : Primitives Octets := octets (Loads.loads (fun _ => .finite 21) 10000)

def demoReading : JsonDict :=
  [(lit "device_id", .str (lit "dev-01\n")), (lit "temperature_c", .float (.finite 21)),
    (lit "sequence", .int (-7)), (lit "tags", .arr [.null, .obj [], .bool true])]

def demoEstablished : JsonDict :=
  [(lit "type", .str msgMlkemEstablished), (lit "session_id", .str (lit "a1"))]

/-- Two messages and the beginning of a third one. -/
theorem framing_roundtrip_demo :
    readMessages demoPrimitives 2 ([demoReading, demoEstablished].flatMap
        (encodeBytes demoPrimitives) ++ [123])
      = ([.ok demoReading, .ok demoEstablished], [123]) ∧
    readMessage demoPrimitives [123]
      = (raise .protocolError (lit "connection closed mid-message (missing newline)"), []) := by
  have hfloat : ∀ x, Printable (demoPrimitives.floatText x) := fun x =>
    show Printable (lit "21.0") by decide
  have hloads : ∀ m ∈ [demoReading, demoEstablished],
      demoPrimitives.loads (encodeBytes demoPrimitives m) = .ok (.obj m) := by
    intro m hm
    rcases List.mem_pair.1 hm with rfl | rfl
    · have hnum : Loads.scanNumber (fun _ => .finite 21) (lit "21.0")
          = some (.float (.finite 21), []) := rfl
      have hint : Loads.digits (-7) ≤ Loads.maxStrDigits := by decide
      have hkeys : (demoReading.map Prod.fst).Nodup := by decide
      have hdepth : Loads.depth (.obj demoReading) ≤ 10000 := by decide
      refine loads_encodeBytes hfloat ⟨hkeys, ?_⟩ hdepth
      exact ⟨rfl, rfl, rfl, hnum, rfl, hint, rfl, ⟨trivial, ⟨List.nodup_nil, trivial⟩, trivial,
        trivial⟩, trivial⟩
    · have hkeys : (demoEstablished.map Prod.fst).Nodup := by decide
      have hdepth : Loads.depth (.obj demoEstablished) ≤ 10000 := by decide
      exact loads_encodeBytes hfloat ⟨hkeys, rfl, rfl, rfl, rfl, trivial⟩ hdepth
  have hsize : ∀ m ∈ [demoReading, demoEstablished],
      (encodeBytes demoPrimitives m).length ≤ maxMessageBytes := by
    intro m hm
    rcases List.mem_pair.1 hm with rfl | rfl
    · decide +kernel
    · decide +kernel
  have h := framing_roundtrip hfloat [demoReading, demoEstablished] hloads hsize [123]
  exact ⟨h.1, h.2.2.2 (by decide) (by decide) (by decide)⟩

end PqcBridge.Framing
