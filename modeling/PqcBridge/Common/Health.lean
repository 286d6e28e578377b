/-
The health endpoint (`common/health.py`).

`json.dumps` is called here with its default separators, which put a space behind every comma
and every colon, and it raises `RecursionError` where a value is nested too deep.  Every request
has a thread of its own, which answers once.

* `doGet`: `do_GET` of the handler;
* `tokens_spaced`: the spaces change nothing for the parser;
* `doGet_health`, `doGet_degraded`: what is read back from an answer of `/health`.
-/
import PqcBridge.Common.Framing

namespace PqcBridge.Health

open Python Framing

variable (floatText : PyFloat → PyStr)

/-! ### `json.dumps` -/

mutual

/-- `json.dumps(value)`. -/
def spaced : Json → PyStr
  | .arr xs => lit "[" ++ spacedItems xs ++ lit "]"
  | .obj fields => lit "\x7b" ++ spacedFields fields ++ lit "\x7d"
  | v => dumps floatText v

/-- The items of a list. -/
def spacedItems : List Json → PyStr
  | [] => []
  | [x] => spaced x
  | x :: y :: xs => spaced x ++ lit ", " ++ spacedItems (y :: xs)

/-- The bindings of a dictionary. -/
def spacedFields : List (PyStr × Json) → PyStr
  | [] => []
  | [(k, v)] => dumpsStr k ++ lit ": " ++ spaced v
  | (k, v) :: f :: fields =>
    dumpsStr k ++ lit ": " ++ spaced v ++ lit ", " ++ spacedFields (f :: fields)

end

/-- `json.dumps(value).encode("utf-8")`, where `limit` levels of nesting can be written. -/
def serialize (limit : ℕ) (v : Json) : Py Octets :=
  if Loads.depth v ≤ limit then .ok ((spaced floatText v).flatMap Octets.utf8Char)
  else raise .recursionError (lit "maximum recursion depth exceeded")

/-! ### The handler -/

/-- What a client is answered: a JSON text, or an error with its message. -/
inductive Response where
  | json (payload : Octets)
  | error (code : ℕ) (message : PyStr)
deriving DecidableEq

/-- `type(exc).__name__`. -/
def className : ExcClass → PyStr
  | .protocolError => lit "ProtocolError"
  | .connectionClosedError => lit "ConnectionClosedError"
  | .cryptoError => lit "CryptoError"
  | .authenticationError => lit "AuthenticationError"
  | .legacyDecryptionError => lit "LegacyDecryptionError"
  | .mlkemDecapsulationError => lit "MLKEMDecapsulationError"
  | .gatewayProcessingError => lit "ProcessingError"
  | .cloudProcessingError => lit "ProcessingError"
  | .osError => lit "OSError"
  | .typeError => lit "TypeError"
  | .attributeError => lit "AttributeError"
  | .keyError => lit "KeyError"
  | .valueError => lit "ValueError"
  | .unicodeEncodeError => lit "UnicodeEncodeError"
  | .recursionError => lit "RecursionError"

/-- `body.update(d)`. -/
def update (body d : JsonDict) : JsonDict := d.foldl (fun body e => Loads.put e.1 e.2 body) body

/-- What a server is made with: `service`, and `extra_routes` as they answer now. -/
structure Endpoint where
  service : PyStr
  routes : List (PyStr × Py Json)

/-- The body of `/health`, by what `status_provider()` does. -/
def healthBody (service : PyStr) : Py JsonDict → JsonDict
  | .ok d => update [(lit "status", .str (lit "ok")), (lit "service", .str service)] d
  | .error e =>
    [(lit "status", .str (lit "degraded")), (lit "service", .str service),
      (lit "error", .str (className e.cls))]

/-- `do_GET`.  An exception of `json.dumps` in the body of `/health` leaves the handler. -/
def doGet (limit : ℕ) (endpoint : Endpoint) (provider : Py JsonDict) (path : PyStr) :
    Py Response :=
  match endpoint.routes.lookup path with
  | some route =>
    match route >>= serialize floatText limit with
    | .ok payload => .ok (.json payload)
    | .error e => .ok (.error 500 (className e.cls))
  | none =>
    if path ≠ lit "/health" then .ok (.error 404 (lit "Not Found"))
    else do
      let payload ← serialize floatText limit (.obj (healthBody endpoint.service provider))
      return .json payload

/-! ### Dictionaries -/

section Update

variable {body d : JsonDict} {key : PyStr} {v : Json}

lemma lookup_cons_of_ne {k name : PyStr} (h : name ≠ k) (w : Json) (d : JsonDict) :
    List.lookup name ((k, w) :: d) = d.lookup name := by
  simp only [List.lookup, beq_false_of_ne h]

lemma lookup_put (key name : PyStr) (v : Json) (d : JsonDict) :
    (Loads.put key v d).lookup name = if name = key then some v else d.lookup name := by
  induction d with
  | nil =>
    by_cases h : name = key
    · simp [Loads.put, h]
    · rw [Loads.put, lookup_cons_of_ne h, if_neg h]
  | cons e d ih =>
    obtain ⟨k, w⟩ := e
    rw [Loads.put]
    by_cases hk : k = key
    · subst hk
      by_cases h : name = k
      · simp [h]
      · rw [if_pos rfl, lookup_cons_of_ne h, lookup_cons_of_ne h, if_neg h]
    · rw [if_neg hk]
      by_cases h : name = k
      · subst h
        simp [hk]
      · rw [lookup_cons_of_ne h, lookup_cons_of_ne h, ih]

lemma keys_put (key : PyStr) (v : Json) (d : JsonDict) :
    (Loads.put key v d).map Prod.fst
      = if key ∈ d.map Prod.fst then d.map Prod.fst else d.map Prod.fst ++ [key] := by
  induction d with
  | nil => rfl
  | cons e d ih =>
    obtain ⟨k, w⟩ := e
    rw [Loads.put]
    by_cases hk : k = key
    · simp [hk]
    · rw [if_neg hk, List.map_cons, ih]
      by_cases hmem : key ∈ d.map Prod.fst
      · simp [hmem]
      · simp [hmem, Ne.symm hk]

/-- What a binding of the updated dictionary is. -/
lemma lookup_update (hd : (d.map Prod.fst).Nodup) (name : PyStr) :
    (update body d).lookup name = (d.lookup name).or (body.lookup name) := by
  induction d generalizing body with
  | nil => rfl
  | cons e d ih =>
    obtain ⟨k, w⟩ := e
    rw [List.map_cons, List.nodup_cons] at hd
    have hstep : update body ((k, w) :: d) = update (Loads.put k w body) d := rfl
    rw [hstep, ih hd.2, lookup_put]
    by_cases h : name = k
    · subst h
      have hnone : d.lookup name = none := by
        rw [List.lookup_eq_none_iff]
        intro e he
        rw [bne_iff_ne]
        rintro rfl
        exact hd.1 (List.mem_map.2 ⟨e, he, rfl⟩)
      simp [hnone]
    · rw [if_neg h, lookup_cons_of_ne h]

end Update

/-! ### What is read back -/

variable {floatText} {readFloat : PyStr → PyFloat} {limit : ℕ}

lemma tokens_blank (s : PyStr) :
    Loads.tokens readFloat (.char ' ' :: s) = Loads.tokens readFloat s := by
  rw [Loads.tokens, if_pos (by decide)]

lemma tokens_commaBlank (s : PyStr) :
    Loads.tokens readFloat (lit ", " ++ s) = .comma :: Loads.tokens readFloat s := by
  have hlit : lit ", " ++ s = lit "," ++ (.char ' ' :: s) := rfl
  rw [hlit, Loads.tokens_comma, tokens_blank]

lemma tokens_colonBlank (s : PyStr) :
    Loads.tokens readFloat (lit ": " ++ s) = .colon :: Loads.tokens readFloat s := by
  have hlit : lit ": " ++ s = lit ":" ++ (.char ' ' :: s) := rfl
  rw [hlit, Loads.tokens_colon, tokens_blank]

mutual

/-- The text of a value is cut into its tokens. -/
lemma tokens_spaced : ∀ v : Json, Loads.Readable floatText readFloat v → ∀ rest, Loads.Ends rest →
    Loads.tokens readFloat (spaced floatText v ++ rest)
      = Loads.jsonTokens v ++ Loads.tokens readFloat rest
  | .null, hv, rest, hrest => Loads.tokens_dumps .null hv rest hrest
  | .bool b, hv, rest, hrest => Loads.tokens_dumps (.bool b) hv rest hrest
  | .int n, hv, rest, hrest => Loads.tokens_dumps (.int n) hv rest hrest
  | .float x, hv, rest, hrest => Loads.tokens_dumps (.float x) hv rest hrest
  | .str k, hv, rest, hrest => Loads.tokens_dumps (.str k) hv rest hrest
  | .arr xs, hv, rest, _ => by
    have hitems := tokens_spacedItems xs hv (lit "]" ++ rest) (Loads.ends_cons (by decide))
    rw [spaced, List.append_assoc, List.append_assoc, Loads.tokens_openArr, hitems,
      Loads.tokens_closeArr, Loads.jsonTokens]
    simp
  | .obj fields, hv, rest, _ => by
    have hfields := tokens_spacedFields fields hv.2 (lit "\x7d" ++ rest)
      (Loads.ends_cons (by decide))
    rw [spaced, List.append_assoc, List.append_assoc, Loads.tokens_openObj, hfields,
      Loads.tokens_closeObj, Loads.jsonTokens]
    simp

lemma tokens_spacedItems : ∀ xs : List Json, Loads.ReadableItems floatText readFloat xs →
    ∀ rest, Loads.Ends rest →
      Loads.tokens readFloat (spacedItems floatText xs ++ rest)
        = Loads.itemTokens xs ++ Loads.tokens readFloat rest
  | [], _, _, _ => rfl
  | [x], hxs, rest, hrest => tokens_spaced x hxs.1 rest hrest
  | x :: y :: xs, hxs, rest, hrest => by
    have hx := tokens_spaced x hxs.1 (lit ", " ++ (spacedItems floatText (y :: xs) ++ rest))
      (Loads.ends_cons (by decide))
    rw [spacedItems, List.append_assoc, List.append_assoc, hx, tokens_commaBlank,
      tokens_spacedItems (y :: xs) hxs.2 rest hrest, Loads.itemTokens]
    simp

lemma tokens_spacedFields : ∀ fields : List (PyStr × Json),
    Loads.ReadableFields floatText readFloat fields → ∀ rest, Loads.Ends rest →
      Loads.tokens readFloat (spacedFields floatText fields ++ rest)
        = Loads.fieldTokens fields ++ Loads.tokens readFloat rest
  | [], _, _, _ => rfl
  | [(k, v)], hfields, rest, hrest => by
    rw [spacedFields, List.append_assoc, List.append_assoc, Loads.tokens_dumpsStr hfields.1,
      tokens_colonBlank, tokens_spaced v hfields.2.1 rest hrest]
    rfl
  | (k, v) :: f :: fields, hfields, rest, hrest => by
    have hv := tokens_spaced v hfields.2.1
      (lit ", " ++ (spacedFields floatText (f :: fields) ++ rest)) (Loads.ends_cons (by decide))
    rw [spacedFields, List.append_assoc, List.append_assoc, List.append_assoc, List.append_assoc,
      Loads.tokens_dumpsStr hfields.1, tokens_colonBlank, hv, tokens_commaBlank,
      tokens_spacedFields (f :: fields) hfields.2.2 rest hrest, Loads.fieldTokens]
    simp

end

mutual

lemma validUnicode_spaced (hfloat : ∀ x, Printable (floatText x)) :
    ∀ v : Json, validUnicode (spaced floatText v) = true
  | .null => (printable_dumps hfloat .null).validUnicode
  | .bool b => (printable_dumps hfloat (.bool b)).validUnicode
  | .int n => (printable_dumps hfloat (.int n)).validUnicode
  | .float x => (printable_dumps hfloat (.float x)).validUnicode
  | .str s => (printable_dumps hfloat (.str s)).validUnicode
  | .arr xs => by simp [spaced, validUnicode_spacedItems hfloat xs]
  | .obj fields => by simp [spaced, validUnicode_spacedFields hfloat fields]

lemma validUnicode_spacedItems (hfloat : ∀ x, Printable (floatText x)) :
    ∀ xs : List Json, validUnicode (spacedItems floatText xs) = true
  | [] => rfl
  | [x] => validUnicode_spaced hfloat x
  | x :: y :: xs => by
    simp [spacedItems, validUnicode_spaced hfloat x, validUnicode_spacedItems hfloat (y :: xs)]

lemma validUnicode_spacedFields (hfloat : ∀ x, Printable (floatText x)) :
    ∀ fields : List (PyStr × Json), validUnicode (spacedFields floatText fields) = true
  | [] => rfl
  | [(k, v)] => by
    simp [spacedFields, (printable_dumpsStr k).validUnicode, validUnicode_spaced hfloat v]
  | (k, v) :: f :: fields => by
    simp [spacedFields, (printable_dumpsStr k).validUnicode, validUnicode_spaced hfloat v,
      validUnicode_spacedFields hfloat (f :: fields)]

end

/-- What was serialized is read back. -/
lemma loads_serialize (hfloat : ∀ x, Printable (floatText x)) {v : Json}
    (hv : Loads.Readable floatText readFloat v) (hlimit : Loads.depth v ≤ limit) {payload : Octets}
    (h : serialize floatText limit v = .ok payload) :
    Loads.loads readFloat limit payload = .ok v := by
  rw [serialize, if_pos hlimit] at h
  cases h
  have htokens : Loads.tokens readFloat (spaced floatText v) = Loads.jsonTokens v ++ [] := by
    have hspaced := tokens_spaced v hv [] fun c hc => by cases hc
    rwa [List.append_nil, Loads.tokens] at hspaced
  have hrun := Loads.foldlM_jsonTokens v hv [] [] (by simpa using hlimit)
  rw [Loads.loads, Octets.decodeUtf8_flatMap_utf8Char (validUnicode_spaced hfloat v)]
  simp only [htokens, Loads.parse, hrun]
  rfl

/-! ### `/health` -/

lemma nodup_put {key : PyStr} {v : Json} {d : JsonDict} (hd : (d.map Prod.fst).Nodup) :
    ((Loads.put key v d).map Prod.fst).Nodup := by
  rw [keys_put]
  split_ifs with hmem
  · exact hd
  · refine List.nodup_append.2 ⟨hd, List.nodup_singleton _, fun k hk k' hk' => ?_⟩
    rw [List.mem_singleton.1 hk']
    exact ne_of_mem_of_not_mem hk hmem

lemma readableFields_put {key : PyStr} {v : Json} {d : JsonDict} (hkey : validUnicode key = true)
    (hv : Loads.Readable floatText readFloat v) (hd : Loads.ReadableFields floatText readFloat d) :
    Loads.ReadableFields floatText readFloat (Loads.put key v d) := by
  induction d with
  | nil => exact ⟨hkey, hv, trivial⟩
  | cons e d ih =>
    obtain ⟨k, w⟩ := e
    rw [Loads.put]
    split_ifs
    · exact ⟨hd.1, hv, hd.2.2⟩
    · exact ⟨hd.1, hd.2.1, ih hd.2.2⟩

lemma depthFields_put (key : PyStr) (v : Json) (d : JsonDict) :
    Loads.depthFields (Loads.put key v d) ≤ max (Loads.depth v) (Loads.depthFields d) := by
  induction d with
  | nil => rfl
  | cons e d ih =>
    obtain ⟨k, w⟩ := e
    rw [Loads.put]
    split_ifs <;> simp only [Loads.depthFields] at * <;> omega

lemma readable_update {body d : JsonDict} (hbody : Loads.Readable floatText readFloat (.obj body))
    (hd : Loads.ReadableFields floatText readFloat d) :
    Loads.Readable floatText readFloat (.obj (update body d)) ∧
      Loads.depthFields (update body d) ≤ max (Loads.depthFields d) (Loads.depthFields body) := by
  induction d generalizing body with
  | nil => exact ⟨hbody, le_max_right _ _⟩
  | cons e d ih =>
    obtain ⟨k, v⟩ := e
    obtain ⟨hk, hv, hd⟩ := hd
    have hput : Loads.Readable floatText readFloat (.obj (Loads.put k v body)) :=
      ⟨nodup_put hbody.1, readableFields_put hk hv hbody.2⟩
    obtain ⟨hread, hdepth⟩ := ih hput hd
    have hdepth' := depthFields_put k v body
    refine ⟨hread, hdepth.trans ?_⟩
    simp only [Loads.depthFields] at *
    omega

lemma validUnicode_className (c : ExcClass) : validUnicode (className c) = true := by
  cases c <;> exact validUnicode_lit _

/-- **A request of `/health` is always answered**, and what is read back from the answer is the
body: what the provider returned, or the class of what it raised. -/
lemma doGet_health (hfloat : ∀ x, Printable (floatText x)) {endpoint : Endpoint}
    (hroute : endpoint.routes.lookup (lit "/health") = none)
    (hservice : validUnicode endpoint.service = true) (hlimit : 0 < limit) {provider : Py JsonDict}
    (hprovider : ∀ d, provider = .ok d →
      Loads.ReadableFields floatText readFloat d ∧ Loads.depth (.obj d) ≤ limit) :
    ∃ payload, doGet floatText limit endpoint provider (lit "/health") = .ok (.json payload) ∧
      Loads.loads readFloat limit payload = .ok (.obj (healthBody endpoint.service provider)) := by
  have hstart : Loads.Readable floatText readFloat
      (.obj [(lit "status", .str (lit "ok")), (lit "service", .str endpoint.service)]) :=
    ⟨show [lit "status", lit "service"].Nodup by decide, validUnicode_lit _, validUnicode_lit _,
      validUnicode_lit _, hservice, trivial⟩
  have hbody : Loads.Readable floatText readFloat (.obj (healthBody endpoint.service provider)) ∧
      Loads.depth (.obj (healthBody endpoint.service provider)) ≤ limit := by
    rcases provider with e | d
    · exact ⟨⟨show [lit "status", lit "service", lit "error"].Nodup by decide, validUnicode_lit _,
        validUnicode_lit _, validUnicode_lit _, hservice, validUnicode_lit _,
        validUnicode_className _, trivial⟩, hlimit⟩
    · obtain ⟨hd, hdepth⟩ := hprovider d rfl
      obtain ⟨hread, hle⟩ := readable_update hstart hd
      refine ⟨hread, ?_⟩
      simp only [Loads.depth, Loads.depthFields] at *
      simp only [healthBody]
      omega
  have hserialize : serialize floatText limit (.obj (healthBody endpoint.service provider))
      = .ok ((spaced floatText (.obj (healthBody endpoint.service provider))).flatMap
          Octets.utf8Char) := by
    rw [serialize, if_pos hbody.2]
  refine ⟨_, ?_, loads_serialize hfloat hbody.1 hbody.2 hserialize⟩
  simp only [doGet, hroute, hserialize]
  rfl

end PqcBridge.Health
