/-
The key registries (`common/config.py`).

A registry is a JSON document that maps ids to keys in hexadecimal digits.  It is taken from an
environment variable, from a file that another one names, or from the file with the demo keys.

* `hexBytes_eq_ok_iff`: `bytes.fromhex` accepts exactly the texts that spell its result;
* `nodup_of_loads`: the keys of a dictionary that was parsed are distinct;
* `keys_exact`: which registry comes out of a document, and of which document;
* `document_provisions`: keys that are written into the documents of the two sides are the keys
  under which the one authenticates the other.
-/
import PqcBridge.Cloud.Server
import PqcBridge.Common.Health
import PqcBridge.Device.Device

namespace PqcBridge.Config

open Python Protocol Crypto

/-! ### Hexadecimal digits -/

/-- `Py_ISSPACE`. -/
def isAsciiSpace : PyChar → Bool
  | .char c => (9 ≤ c.toNat && c.toNat ≤ 13) || c.toNat = 32
  | .surrogate _ => false

/-- The loop of `bytes.fromhex`, from a position on; it fails at the position of a character
that is not a digit. -/
def hexBytes : ℕ → PyStr → Except ℕ Octets
  | _, [] => .ok []
  | pos, [c] =>
    if isAsciiSpace c then .ok []
    else match Loads.hexValue c with
      | none => .error pos
      | some _ => .error (pos + 1)
  | pos, c :: d :: s =>
    if isAsciiSpace c then hexBytes (pos + 1) (d :: s)
    else match Loads.hexValue c, Loads.hexValue d with
      | none, _ => .error pos
      | some _, none => .error (pos + 1)
      | some top, some bot => (hexBytes (pos + 2) s).map (UInt8.ofNat (16 * top + bot) :: ·)

/-- The bytes, or the position that is refused.  A text that is not ASCII is refused before
anything is read. -/
def hexText (text : PyStr) : Except ℕ Octets :=
  match text.findIdx? fun c => !c.isAscii with
  | some pos => .error pos
  | none => hexBytes 0 text

/-- `bytes.fromhex`. -/
def fromhex (text : PyStr) : Py Octets :=
  match hexText text with
  | .ok data => .ok data
  | .error pos => raise .valueError
      (lit "non-hexadecimal number found in fromhex() arg at position " ++ decimal pos)

/-- `bytes.hex`. -/
def hex (data : Octets) : PyStr :=
  data.flatMap fun x => [hexDigit (x.toNat / 16), hexDigit (x.toNat % 16)]

/-- The text spells the bytes: two digits of either case each, with white space between them. -/
inductive Spells : PyStr → Octets → Prop
  | nil : Spells [] []
  | space {c : PyChar} {s : PyStr} {data : Octets} (hc : isAsciiSpace c = true)
      (h : Spells s data) : Spells (c :: s) data
  | pair {c d : PyChar} {top bot : ℕ} {s : PyStr} {data : Octets}
      (hc : Loads.hexValue c = some top) (hd : Loads.hexValue d = some bot) (h : Spells s data) :
      Spells (c :: d :: s) (UInt8.ofNat (16 * top + bot) :: data)

lemma hexValue_space {c : PyChar} (hc : isAsciiSpace c = true) : Loads.hexValue c = none := by
  cases c with
  | surrogate u => rfl
  | char c =>
    simp only [isAsciiSpace, Bool.or_eq_true, Bool.and_eq_true, decide_eq_true_eq] at hc
    simp only [Loads.hexValue]
    rw [if_neg (by omega), if_neg (by omega), if_neg (by omega)]

lemma isAscii_of_hexValue {c : PyChar} {n : ℕ} (hc : Loads.hexValue c = some n) :
    c.isAscii = true := by
  cases c with
  | surrogate u => cases hc
  | char c =>
    simp only [Loads.hexValue] at hc
    simp only [PyChar.isAscii, decide_eq_true_eq]
    split_ifs at hc <;> omega

lemma isAscii_of_space {c : PyChar} (hc : isAsciiSpace c = true) : c.isAscii = true := by
  cases c with
  | surrogate u => cases hc
  | char c =>
    simp only [isAsciiSpace, Bool.or_eq_true, Bool.and_eq_true, decide_eq_true_eq] at hc
    simp only [PyChar.isAscii, decide_eq_true_eq]
    omega

lemma Spells.isAscii {s : PyStr} {data : Octets} (h : Spells s data) :
    ∀ c ∈ s, c.isAscii = true := by
  induction h with
  | nil => exact fun c hc => absurd hc List.not_mem_nil
  | space hc _ ih =>
    intro x hx
    rcases List.mem_cons.1 hx with rfl | hx
    · exact isAscii_of_space hc
    · exact ih x hx
  | pair hc hd _ ih =>
    intro x hx
    rcases List.mem_cons.1 hx with rfl | hx
    · exact isAscii_of_hexValue hc
    rcases List.mem_cons.1 hx with rfl | hx
    · exact isAscii_of_hexValue hd
    · exact ih x hx

/-- **The loop accepts exactly the texts that spell its result.** -/
lemma hexBytes_eq_ok_iff {pos : ℕ} {s : PyStr} {data : Octets} :
    hexBytes pos s = .ok data ↔ Spells s data := by
  constructor
  · intro h
    fun_induction hexBytes pos s generalizing data with
    | case1 =>
      cases h
      exact .nil
    | case2 pos c hspace =>
      cases h
      exact .space hspace .nil
    | case5 pos c d s hspace ih => exact .space hspace (ih h)
    | case8 pos c d s _ top bot hc hd ih =>
      rcases hrest : hexBytes (pos + 2) s with e | rest
      · rw [hrest] at h
        cases h
      · rw [hrest] at h
        cases h
        exact .pair hd hc (ih hrest)
    | _ => cases h
  · intro h
    induction h generalizing pos with
    | nil => rfl
    | @space c s data hc h ih =>
      cases s with
      | nil =>
        cases h
        rw [hexBytes, if_pos hc]
      | cons d s =>
        rw [hexBytes, if_pos hc]
        exact ih
    | @pair c d top bot s data hc hd h ih =>
      have hspace : ¬ isAsciiSpace c = true := fun hspace => by
        rw [hexValue_space hspace] at hc
        cases hc
      rw [hexBytes, if_neg hspace, hc, hd]
      simp only [ih]
      rfl

lemma fromhex_eq_ok_iff {text : PyStr} {data : Octets} :
    fromhex text = .ok data ↔ Spells text data := by
  have hascii : Spells text data → text.findIdx? (fun c => !c.isAscii) = none := fun h =>
    List.findIdx?_eq_none_iff.2 fun c hc => by rw [h.isAscii c hc]; rfl
  constructor
  · intro h
    rcases hresult : hexText text with e | data'
    · rw [fromhex, hresult] at h
      cases h
    · rw [fromhex, hresult] at h
      cases h
      unfold hexText at hresult
      split at hresult
      · cases hresult
      · exact hexBytes_eq_ok_iff.1 hresult
  · intro h
    rw [fromhex, hexText, hascii h]
    simp only [hexBytes_eq_ok_iff.2 h]

lemma spells_hex (data : Octets) : Spells (hex data) data := by
  induction data with
  | nil => exact .nil
  | cons x data ih =>
    have hlt : x.toNat < 256 := x.toNat_lt
    have hpair := Spells.pair (Loads.hexValue_hexDigit (x.toNat / 16) (by omega))
      (Loads.hexValue_hexDigit (x.toNat % 16) (by omega)) ih
    rw [Nat.div_add_mod, UInt8.ofNat_toNat] at hpair
    exact hpair

lemma Spells.unique {s : PyStr} {data data' : Octets} (h : Spells s data) (h' : Spells s data') :
    data = data' := by
  have heq := fromhex_eq_ok_iff.2 h
  rw [fromhex_eq_ok_iff.2 h'] at heq
  exact (Except.ok.inj heq).symm

/-! ### The documents -/

/-- What `json.loads` depends on: the value of a float, the depth of its recursion, and the
message of what it raises. -/
structure Decoder where
  readFloat : PyStr → PyFloat
  limit : ℕ
  message : PyStr → PyStr

/-- `json.loads`. -/
def Decoder.loads (D : Decoder) (text : PyStr) : Py Json :=
  match Loads.parse D.limit (Loads.tokens D.readFloat text) with
  | .ok v => .ok v
  | .error .valueError => raise .valueError (D.message text)
  | .error .recursionError => raise .recursionError (D.message text)

/-- `type(value).__name__`. -/
def typeName : Json → PyStr
  | .null => lit "NoneType"
  | .bool _ => lit "bool"
  | .int _ => lit "int"
  | .float _ => lit "float"
  | .str _ => lit "str"
  | .arr _ => lit "list"
  | .obj _ => lit "dict"

/-- A registry under construction: the key of an id. -/
abbrev Registry : Type := PyStr → Option Octets

/-- The loop body of `_load_keys_json`. -/
def loadKey (sourceName : PyStr) (registry : Registry) (e : PyStr × Json) : Py Registry :=
  match e.2 with
  | .str keyHex =>
    match fromhex keyHex with
    | .error exc => .error exc
    | .ok key =>
      if key.length ≠ 32 then
        raise .valueError
          (lit "key for '" ++ e.1 ++ lit "' in " ++ sourceName ++ lit " is not 32 bytes")
      else .ok (Function.update registry e.1 (some key))
  | v => raise .typeError (lit "fromhex() argument must be str, not " ++ typeName v)

/-- `_load_keys_json`. -/
def loadKeysJson (D : Decoder) (rawJson sourceName : PyStr) : Py Registry :=
  match D.loads rawJson with
  | .error exc => .error exc
  | .ok (.obj fields) => fields.foldlM (loadKey sourceName) fun _ => none
  | .ok v =>
    raise .attributeError (lit "'" ++ typeName v ++ lit "' object has no attribute 'items'")

/-- What the process is started with; `moduleDir` is where `config.py` lies. -/
structure Environment where
  /-- `os.environ.get`; bytes that are no UTF-8 are left out -/
  var : PyStr → Option PyStr
  var_valid : ∀ {name text}, var name = some text → validUnicode text = true
  /-- `Path(name).read_text(encoding="utf-8")` -/
  readText : PyStr → Py PyStr
  moduleDir : PyStr

variable (D : Decoder) (env : Environment)

/-- `_keys_from_env_or_file`. -/
def keysFromEnvOrFile (inlineEnv fileEnv demoName : PyStr) : Py Registry :=
  match env.var inlineEnv, env.var fileEnv with
  | some inline, _ => loadKeysJson D inline inlineEnv
  | none, some fileValue => env.readText fileValue >>= fun text => loadKeysJson D text fileEnv
  | none, none =>
    env.readText (env.moduleDir ++ lit "/" ++ demoName) >>= fun text => loadKeysJson D text demoName

/-- `device_keys`. -/
def deviceKeys : Py Registry :=
  keysFromEnvOrFile D env (lit "DEVICE_KEYS_JSON") (lit "DEVICE_KEYS_FILE")
    (lit "demo_device_keys.json")

/-- `gateway_keys`. -/
def gatewayKeys : Py Registry :=
  keysFromEnvOrFile D env (lit "GATEWAY_KEYS_JSON") (lit "GATEWAY_KEYS_FILE")
    (lit "demo_gateway_keys.json")

/-- `registry[key_id]`. -/
def lookupKey (registry : Registry) (keyId : PyStr) : Py Octets :=
  match registry keyId with
  | some key => .ok key
  | none => raise .keyError keyId

/-- `device_key`. -/
def deviceKey (deviceId : PyStr) : Py Octets :=
  deviceKeys D env >>= fun registry => lookupKey registry deviceId

/-- `gateway_key`. -/
def gatewayKey (gatewayId : PyStr) : Py Octets :=
  gatewayKeys D env >>= fun registry => lookupKey registry gatewayId

/-- `local_device_key`.  The length of a key from the environment is not checked. -/
def localDeviceKey : Py Octets :=
  match env.var (lit "DEVICE_KEY_HEX") with
  | some raw => fromhex raw
  | none => deviceKey D env (lit "dev-01")

/-- `local_gateway_key`. -/
def localGatewayKey : Py Octets :=
  match env.var (lit "GATEWAY_KEY_HEX") with
  | some raw => fromhex raw
  | none => gatewayKey D env (lit "gw-01")

/-- `cloud_public_key_sha256`. -/
def cloudPublicKeySha256 : PyStr := (env.var (lit "CLOUD_PUBLIC_KEY_SHA256")).getD []

/-! ### The entries of a document -/

/-- The registry that a document describes. -/
structure Describes (fields : JsonDict) (registry : Registry) : Prop where
  /-- every value is the text of a key -/
  keys : ∀ e ∈ fields, ∃ keyHex key, e.2 = .str keyHex ∧ Spells keyHex key ∧ key.length = 32
  entries : ∀ keyId key, registry keyId = some key ↔
    ∃ keyHex, (keyId, .str keyHex) ∈ fields ∧ Spells keyHex key

lemma loadKey_eq_ok {sourceName : PyStr} {registry registry' : Registry} {e : PyStr × Json} :
    loadKey sourceName registry e = .ok registry' ↔ ∃ keyHex key, e.2 = .str keyHex ∧
      Spells keyHex key ∧ key.length = 32 ∧
      registry' = Function.update registry e.1 (some key) := by
  obtain ⟨keyId, v⟩ := e
  constructor
  · intro h
    cases v with
    | str keyHex =>
      simp only [loadKey] at h
      rcases hkey : fromhex keyHex with exc | key
      · rw [hkey] at h
        cases h
      · simp only [hkey] at h
        split_ifs at h with hlen
        · cases h
        · exact ⟨keyHex, key, rfl, fromhex_eq_ok_iff.1 hkey, not_not.1 hlen,
            (Except.ok.inj h).symm⟩
    | _ => cases h
  · rintro ⟨keyHex, key, rfl, hkey, hlen, rfl⟩
    simp only [loadKey, fromhex_eq_ok_iff.2 hkey]
    rw [if_neg (not_not.2 hlen)]

/-- The loop, from a registry on. -/
lemma foldlM_loadKey {sourceName : PyStr} {fields : JsonDict} {registry registry' : Registry}
    (hnodup : (fields.map Prod.fst).Nodup)
    (h : fields.foldlM (loadKey sourceName) registry = .ok registry') :
    (∀ e ∈ fields, ∃ keyHex key, e.2 = .str keyHex ∧ Spells keyHex key ∧
      key.length = 32) ∧
    ∀ keyId key, registry' keyId = some key ↔
      (∃ keyHex, (keyId, .str keyHex) ∈ fields ∧ Spells keyHex key) ∨
        (keyId ∉ fields.map Prod.fst ∧ registry keyId = some key) := by
  induction fields generalizing registry with
  | nil =>
    cases h
    simp
  | cons e fields ih =>
    rw [List.foldlM_cons, bind_eq_ok] at h
    obtain ⟨registry₁, hstep, hrest⟩ := h
    obtain ⟨keyHex, key, hv, hkey, hlen, rfl⟩ := loadKey_eq_ok.1 hstep
    obtain ⟨keyId, v⟩ := e
    replace hv : v = .str keyHex := hv
    subst hv
    rw [List.map_cons, List.nodup_cons] at hnodup
    obtain ⟨hkeys, hentries⟩ := ih hnodup.2 hrest
    refine ⟨fun e he => ?_, fun keyId' key' => ?_⟩
    · rcases List.mem_cons.1 he with rfl | he
      · exact ⟨keyHex, key, rfl, hkey, hlen⟩
      · exact hkeys e he
    · rw [hentries]
      by_cases hid : keyId' = keyId
      · -- no later entry has this id
        subst hid
        have hlater : ∀ keyHex', (keyId', Json.str keyHex') ∉ fields := fun keyHex' hmem =>
          hnodup.1 (List.mem_map.2 ⟨_, hmem, rfl⟩)
        rw [Function.update_self]
        constructor
        · rintro (⟨keyHex', hmem, -⟩ | ⟨-, hsome⟩)
          · exact absurd hmem (hlater keyHex')
          · cases hsome
            exact Or.inl ⟨keyHex, List.mem_cons_self, hkey⟩
        · rintro (⟨keyHex', hmem, hspells⟩ | ⟨hmem, -⟩)
          · rcases List.mem_cons.1 hmem with heq | hmem
            · cases heq
              exact Or.inr ⟨hnodup.1, congrArg some (hkey.unique hspells)⟩
            · exact absurd hmem (hlater keyHex')
          · exact absurd List.mem_cons_self hmem
      · rw [Function.update_of_ne hid]
        simp [hid]

/-- The loop of a registry that starts empty. -/
lemma foldlM_loadKey_eq_ok_iff {sourceName : PyStr} {fields : JsonDict} {registry : Registry}
    (hnodup : (fields.map Prod.fst).Nodup) :
    (fields.foldlM (loadKey sourceName) fun _ => none) = .ok registry ↔
      Describes fields registry := by
  have hsound : ∀ registry', (fields.foldlM (loadKey sourceName) fun _ => none) = .ok registry' →
      Describes fields registry' := by
    intro registry' h
    obtain ⟨hkeys, hentries⟩ := foldlM_loadKey hnodup h
    exact ⟨hkeys, fun keyId key => by simp [hentries]⟩
  -- where all values are the texts of keys, the loop does not fail
  have htotal : ∀ (fields : JsonDict) (registry : Registry), (∀ e ∈ fields, ∃ keyHex key,
      e.2 = .str keyHex ∧ Spells keyHex key ∧ key.length = 32) →
      ∃ registry', fields.foldlM (loadKey sourceName) registry = .ok registry' := by
    intro fields
    induction fields with
    | nil => exact fun registry _ => ⟨registry, rfl⟩
    | cons e fields ih =>
      intro registry hkeys
      obtain ⟨keyHex, key, hv, hkey, hlen⟩ := hkeys e List.mem_cons_self
      obtain ⟨registry', hrest⟩ := ih (Function.update registry e.1 (some key))
        fun e' he' => hkeys e' (List.mem_cons_of_mem _ he')
      refine ⟨registry', ?_⟩
      rw [List.foldlM_cons, bind_eq_ok]
      exact ⟨_, loadKey_eq_ok.2 ⟨keyHex, key, hv, hkey, hlen, rfl⟩, hrest⟩
  refine ⟨hsound registry, fun h => ?_⟩
  obtain ⟨registry', hrun⟩ := htotal fields (fun _ => none) h.keys
  have hsame : registry' = registry := by
    funext keyId
    refine Option.ext fun key => ?_
    rw [(hsound registry' hrun).entries, h.entries]
  rw [hrun, hsame]

/-! ### The keys of a dictionary -/

/-- A dictionary has one entry for each key. -/
def Distinct : Json → Prop
  | .obj d => (d.map Prod.fst).Nodup
  | _ => True

/-- The dictionaries that the scanner is building. -/
def FrameDistinct : Loads.Frame → Prop
  | .arr _ => True
  | .obj done _ => (done.map Prod.fst).Nodup

/-- The invariant of the scanner. -/
def ParserDistinct : Loads.Parser → Prop
  | .value stack => ∀ f ∈ stack, FrameDistinct f
  | .firstItem stack => ∀ f ∈ stack, FrameDistinct f
  | .firstKey stack => ∀ f ∈ stack, FrameDistinct f
  | .key done stack => (done.map Prod.fst).Nodup ∧ ∀ f ∈ stack, FrameDistinct f
  | .colon done _ stack => (done.map Prod.fst).Nodup ∧ ∀ f ∈ stack, FrameDistinct f
  | .after v stack => Distinct v ∧ ∀ f ∈ stack, FrameDistinct f

lemma distinct_atom {readFloat : PyStr → PyFloat} (text : PyStr) {v : Json}
    (hv : .atom v ∈ Loads.tokens readFloat text) : Distinct v := by
  have hname : ∀ {s rest : PyStr} {v : Json}, Loads.scanName s = some (v, rest) → Distinct v := by
    intro s rest v h
    have hnames : ∀ w ∈ Loads.names, Distinct w.2 := by simp [Loads.names, Distinct]
    unfold Loads.scanName at h
    split at h
    · next hfind =>
      cases h
      exact hnames _ (List.mem_of_find?_eq_some hfind)
    · cases h
  have hnumber : ∀ {s rest : PyStr} {v : Json}, Loads.scanNumber readFloat s = some (v, rest) →
      Distinct v := by
    intro s rest v h
    unfold Loads.scanNumber at h
    split at h
    · cases h
    · split at h
      · cases h
      · next w hw =>
        cases h
        unfold Loads.numberValue at hw
        split_ifs at hw
        · obtain ⟨n, -, rfl⟩ := Option.map_eq_some_iff.1 hw
          trivial
        · cases hw
          trivial
  have htoken : ∀ {c : PyChar} {s : PyStr}, (Loads.scanToken readFloat c s).1 = .atom v →
      Distinct v := by
    intro c s h
    unfold Loads.scanToken at h
    split_ifs at h
    · split at h <;> cases h
    · split at h
      · next hscan =>
        cases h
        exact hname hscan
      · split at h
        · next hscan =>
          cases h
          exact hnumber hscan
        · cases h
  fun_induction Loads.tokens readFloat text with
  | case1 => cases hv
  | case2 c s hblank ih => exact ih hv
  | case3 c s hblank ih =>
    rcases List.mem_cons.1 hv with hv | hv
    · exact htoken hv.symm
    · exact ih hv

lemma parserDistinct_move {p q : Loads.Parser} {t : Loads.Token} (h : ParserDistinct p)
    (ht : ∀ v, t = .atom v → Distinct v) (hmove : Loads.move p t = some q) : ParserDistinct q := by
  have hbegin : ∀ {stack : List Loads.Frame} {q : Loads.Parser}, (∀ f ∈ stack, FrameDistinct f) →
      Loads.beginValue stack t = some q → ParserDistinct q := by
    intro stack q hstack hq
    cases t with
    | atom v =>
      cases hq
      exact ⟨ht v rfl, hstack⟩
    | openArr | openObj =>
      cases hq
      exact hstack
    | str s =>
      cases hq
      exact ⟨trivial, hstack⟩
    | _ => cases hq
  have hcons : ∀ {f : Loads.Frame} {stack : List Loads.Frame}, FrameDistinct f →
      (∀ f ∈ stack, FrameDistinct f) → ∀ f' ∈ f :: stack, FrameDistinct f' := by
    intro f stack hf hstack f' hf'
    rcases List.mem_cons.1 hf' with rfl | hf'
    · exact hf
    · exact hstack f' hf'
  have htail : ∀ {f : Loads.Frame} {stack : List Loads.Frame},
      (∀ f' ∈ f :: stack, FrameDistinct f') → FrameDistinct f ∧ ∀ f' ∈ stack, FrameDistinct f' :=
    fun h =>
    ⟨h _ List.mem_cons_self, fun f' hf' => h f' (List.mem_cons_of_mem _ hf')⟩
  unfold Loads.move at hmove
  split at hmove
  · exact hbegin h hmove
  · cases hmove
    exact ⟨trivial, h⟩
  · exact hbegin (hcons (f := .arr []) trivial h) hmove
  · cases hmove
    exact ⟨List.nodup_nil, h⟩
  · cases hmove
    exact ⟨List.nodup_nil, h⟩
  · cases hmove
    exact h
  · cases hmove
    exact hcons h.1 h.2
  · cases hmove
    exact hcons trivial (htail h.2).2
  · cases hmove
    exact ⟨trivial, (htail h.2).2⟩
  · cases hmove
    exact ⟨Health.nodup_put (htail h.2).1, (htail h.2).2⟩
  · cases hmove
    exact ⟨Health.nodup_put (htail h.2).1, (htail h.2).2⟩
  · cases hmove

/-- The keys of a dictionary that was parsed are distinct. -/
lemma nodup_of_loads {D : Decoder} {text : PyStr} {fields : JsonDict}
    (h : D.loads text = .ok (.obj fields)) : (fields.map Prod.fst).Nodup := by
  have hrun : ∀ (ts : List Loads.Token) (p q : Loads.Parser),
      (∀ v, .atom v ∈ ts → Distinct v) → ParserDistinct p → ts.foldlM Loads.move p = some q →
      ParserDistinct q := by
    intro ts
    induction ts with
    | nil =>
      intro p q _ hp hq
      cases hq
      exact hp
    | cons t ts ih =>
      intro p q hts hp hq
      rw [List.foldlM_cons] at hq
      rcases hmove : Loads.move p t with _ | p₁
      · rw [hmove] at hq
        cases hq
      · rw [hmove] at hq
        refine ih p₁ q (fun v hv => hts v (List.mem_cons_of_mem _ hv)) ?_ hq
        exact parserDistinct_move hp (fun v hv => hts v (hv ▸ List.mem_cons_self)) hmove
  unfold Decoder.loads at h
  split at h
  · next v hparse =>
    cases h
    unfold Loads.parse at hparse
    split at hparse
    · cases hparse
    · next p hp =>
      split at hparse
      · next w hw =>
        cases hparse
        have hdistinct := hrun _ _ _ (fun v hv => distinct_atom text hv) (fun f hf => by cases hf)
          (Bounded.run_of_foldlM_step_eq_ok hp)
        unfold Loads.Parser.result at hw
        split at hw
        · cases hw
          exact hdistinct.1
        · cases hw
      · cases hparse
  · cases h
  · cases h

/-! ### The registry -/

section Registry

variable (D : Decoder) (env : Environment)

/-- The document of a registry, under the name by which its errors call it: the first of the
three sources that is there. -/
inductive Document (inlineEnv fileEnv demoName : PyStr) : PyStr → PyStr → Prop
  | inline {text : PyStr} (h : env.var inlineEnv = some text) :
    Document inlineEnv fileEnv demoName text inlineEnv
  | file {path text : PyStr} (hinline : env.var inlineEnv = none)
      (hfile : env.var fileEnv = some path) (h : env.readText path = .ok text) :
    Document inlineEnv fileEnv demoName text fileEnv
  | demo {text : PyStr} (hinline : env.var inlineEnv = none) (hfile : env.var fileEnv = none)
      (h : env.readText (env.moduleDir ++ lit "/" ++ demoName) = .ok text) :
    Document inlineEnv fileEnv demoName text demoName

variable {D env}

lemma keysFromEnvOrFile_eq_ok_iff {inlineEnv fileEnv demoName : PyStr} {registry : Registry} :
    keysFromEnvOrFile D env inlineEnv fileEnv demoName = .ok registry ↔ ∃ text sourceName,
      Document env inlineEnv fileEnv demoName text sourceName ∧
        loadKeysJson D text sourceName = .ok registry := by
  unfold keysFromEnvOrFile
  rcases hinline : env.var inlineEnv with _ | inline
  · rcases hfile : env.var fileEnv with _ | path
    · simp only [bind_eq_ok]
      constructor
      · rintro ⟨text, hread, hload⟩
        exact ⟨text, _, .demo hinline hfile hread, hload⟩
      · rintro ⟨text, sourceName, hdoc, hload⟩
        cases hdoc with
        | inline h => rw [hinline] at h; cases h
        | file _ h => rw [hfile] at h; cases h
        | demo _ _ h => exact ⟨text, h, hload⟩
    · simp only [bind_eq_ok]
      constructor
      · rintro ⟨text, hread, hload⟩
        exact ⟨text, _, .file hinline hfile hread, hload⟩
      · rintro ⟨text, sourceName, hdoc, hload⟩
        cases hdoc with
        | inline h => rw [hinline] at h; cases h
        | file _ h hread =>
          rw [hfile] at h
          cases h
          exact ⟨text, hread, hload⟩
        | demo _ h => rw [hfile] at h; cases h
  · constructor
    · exact fun hload => ⟨inline, _, .inline hinline, hload⟩
    · rintro ⟨text, sourceName, hdoc, hload⟩
      cases hdoc with
      | inline h =>
        rw [hinline] at h
        cases h
        exact hload
      | file h => rw [hinline] at h; cases h
      | demo h => rw [hinline] at h; cases h

/-- What is made of a document, whatever its name. -/
lemma loadKeysJson_eq_ok_iff {text sourceName : PyStr} {registry : Registry} :
    loadKeysJson D text sourceName = .ok registry ↔ ∃ fields,
      D.loads text = .ok (.obj fields) ∧ (fields.map Prod.fst).Nodup ∧
        Describes fields registry := by
  constructor
  · intro hload
    unfold loadKeysJson at hload
    split at hload
    · cases hload
    · next fields hfields =>
      have hnodup := nodup_of_loads hfields
      exact ⟨fields, hfields, hnodup, (foldlM_loadKey_eq_ok_iff hnodup).1 hload⟩
    · cases hload
  · rintro ⟨fields, hfields, hnodup, hdescribes⟩
    simp only [loadKeysJson, hfields]
    exact (foldlM_loadKey_eq_ok_iff hnodup).2 hdescribes

variable (D env) in
/-- **Which registry is used**: the one that the first of the three documents describes, where it
is a dictionary whose values are all texts of keys of 32 bytes.  From every other document comes
an exception, and no registry at all. -/
theorem keys_exact (inlineEnv fileEnv demoName : PyStr) (registry : Registry) :
    keysFromEnvOrFile D env inlineEnv fileEnv demoName = .ok registry ↔
      ∃ text sourceName fields, Document env inlineEnv fileEnv demoName text sourceName ∧
        D.loads text = .ok (.obj fields) ∧ (fields.map Prod.fst).Nodup ∧
        Describes fields registry := by
  rw [keysFromEnvOrFile_eq_ok_iff]
  constructor
  · rintro ⟨text, sourceName, hdoc, hload⟩
    obtain ⟨fields, hfields⟩ := loadKeysJson_eq_ok_iff.1 hload
    exact ⟨text, sourceName, fields, hdoc, hfields⟩
  · rintro ⟨text, sourceName, fields, hdoc, hfields⟩
    exact ⟨text, sourceName, hdoc, loadKeysJson_eq_ok_iff.2 ⟨fields, hfields⟩⟩

end Registry

/-! ### Provisioning -/

/-- The dictionary that maps the ids to the digits of their keys. -/
def keyFields (keys : List (PyStr × Octets)) : JsonDict := keys.map fun e => (e.1, .str (hex e.2))

/-- `json.dumps(...)` of this dictionary. -/
def document (floatText : PyFloat → PyStr) (keys : List (PyStr × Octets)) : PyStr :=
  Health.spaced floatText (.obj (keyFields keys))

lemma validUnicode_hex (data : Octets) : validUnicode (hex data) = true := by
  rw [validUnicode, List.all_eq_true]
  intro c hc
  have hascii := (spells_hex data).isAscii c hc
  cases c with
  | surrogate u => cases hascii
  | char c => rfl

section Document

variable {D : Decoder} {floatText : PyFloat → PyStr} {keys : List (PyStr × Octets)}

lemma keys_keyFields : (keyFields keys).map Prod.fst = keys.map Prod.fst := by
  simp [keyFields]

lemma readableFields_keyFields (hvalid : ∀ e ∈ keys, validUnicode e.1 = true) :
    Loads.ReadableFields floatText D.readFloat (keyFields keys) := by
  induction keys with
  | nil => trivial
  | cons e keys ih =>
    exact ⟨hvalid e List.mem_cons_self, validUnicode_hex e.2,
      ih fun e' he' => hvalid e' (List.mem_cons_of_mem _ he')⟩

lemma depthFields_keyFields : Loads.depthFields (keyFields keys) = 0 := by
  induction keys with
  | nil => rfl
  | cons e keys ih => exact (Nat.zero_max _).trans ih

/-- The document is read back. -/
lemma loads_document (hnodup : (keys.map Prod.fst).Nodup)
    (hvalid : ∀ e ∈ keys, validUnicode e.1 = true) (hlimit : 0 < D.limit) :
    D.loads (document floatText keys) = .ok (.obj (keyFields keys)) := by
  have hread : Loads.Readable floatText D.readFloat (.obj (keyFields keys)) :=
    ⟨keys_keyFields ▸ hnodup, readableFields_keyFields hvalid⟩
  have htokens : Loads.tokens D.readFloat (document floatText keys)
      = Loads.jsonTokens (.obj (keyFields keys)) ++ [] := by
    have hspaced := Health.tokens_spaced _ hread [] fun c hc => by cases hc
    rwa [List.append_nil, Loads.tokens] at hspaced
  have hdepth : ([] : List Loads.Frame).length + Loads.depth (.obj (keyFields keys)) ≤ D.limit := by
    rw [Loads.depth, depthFields_keyFields, List.length_nil]
    omega
  have hrun := Loads.foldlM_jsonTokens _ hread [] [] hdepth
  simp only [Decoder.loads, htokens, Loads.parse, hrun]
  rfl

lemma describes_keyFields (hnodup : (keys.map Prod.fst).Nodup)
    (hlength : ∀ e ∈ keys, e.2.length = 32) :
    Describes (keyFields keys) fun keyId => keys.lookup keyId := by
  have hlookup : ∀ keyId key, keys.lookup keyId = some key ↔ (keyId, key) ∈ keys := by
    intro keyId key
    rw [List.lookup_eq_some_iff]
    constructor
    · rintro ⟨before, after, rfl, -⟩
      simp
    · intro hmem
      obtain ⟨before, after, rfl⟩ := List.append_of_mem hmem
      refine ⟨before, after, rfl, fun e he => ?_⟩
      -- no entry before it has the same id
      rw [List.map_append, List.nodup_append] at hnodup
      have hne := hnodup.2.2 e.1 (List.mem_map_of_mem he) keyId (by simp)
      simpa using hne.symm
  refine ⟨fun e he => ?_, fun keyId key => ?_⟩
  · obtain ⟨e', he', rfl⟩ := List.mem_map.1 he
    exact ⟨_, e'.2, rfl, spells_hex _, hlength e' he'⟩
  · rw [hlookup]
    constructor
    · exact fun hmem => ⟨hex key, List.mem_map.2 ⟨_, hmem, rfl⟩, spells_hex key⟩
    · rintro ⟨keyHex, hmem, hspells⟩
      obtain ⟨e, he, heq⟩ := List.mem_map.1 hmem
      cases heq
      rw [hspells.unique (spells_hex e.2)]
      exact he

end Document

/-- What the holder of a key under an id can do with it: its own process loads it, a gateway with
the registry admits its hello, and a cloud with the registry accepts its request. -/
structure Provisioned (P : Primitives Octets) (D : Decoder) (registry : KeyRegistry P)
    (keyId : PyStr) (key : Octets) : Prop where
  device : ∀ env : Environment, env.var (lit "DEVICE_KEY_HEX") = some (hex key) →
    localDeviceKey D env = .ok key
  gateway : ∀ env : Environment, env.var (lit "GATEWAY_KEY_HEX") = some (hex key) →
    localGatewayKey D env = .ok key
  admitted : ∀ nonce, P.len nonce = nonceLength → ∃ hello parsed,
    Device.helloMessage P keyId key nonce = .ok hello ∧ Gateway.parseHello hello = .ok parsed ∧
      ∀ st, (Gateway.admitDevice P registry st parsed).2 = .ok (some key)
  authenticated : ∀ (gateway : Gateway.GatewayConfig Octets) (cloud : Cloud.CloudConfig P),
    gateway.gatewayId = keyId → gateway.gatewayKey = key → cloud.gatewayKeys = registry →
    ∀ nonce, P.len nonce = nonceLength → ∃ request,
      Gateway.requestMessage P gateway nonce = .ok request ∧
        Cloud.authenticateRequest cloud request = .ok keyId

/-- A key of the registry is one under which its holder is authenticated. -/
lemma provisioned_of_key {P : Primitives Octets} (hP : P.Lawful) (D : Decoder)
    {registry : KeyRegistry P} {keyId : PyStr} {key : Octets} (hne : keyId ≠ [])
    (hkey : registry.keys keyId = some key) : Provisioned P D registry keyId key := by
  have hlength := registry.key_len hkey
  refine ⟨fun env henv => ?_, fun env henv => ?_, fun nonce hnonce => ?_, ?_⟩
  · rw [localDeviceKey, henv]
    exact fromhex_eq_ok_iff.2 (spells_hex key)
  · rw [localGatewayKey, henv]
    exact fromhex_eq_ok_iff.2 (spells_hex key)
  · have hhello := @Device.helloMessage_eq _ P keyId key nonce hlength
    have heval := Device.evaluateHello_buildHello hP hlength hnonce hhello
    refine ⟨_, _, hhello, Device.parseHello_buildHello hP hlength hnonce hne hhello, fun st => ?_⟩
    simp only [Gateway.admitDevice, hkey, heval]
  · rintro gateway cloud rfl rfl rfl nonce hnonce
    obtain ⟨request, hrequest⟩ := Gateway.requestMessage_eq_ok hlength nonce
    exact ⟨request, hrequest, Handshake.authenticateRequest_requestMessage gateway cloud hP hkey hne
      hnonce hrequest⟩

/-- **Provisioning works**: a process that is started with the `json.dumps` of keys of 32 bytes,
in whichever of the three places, has exactly these keys in its registry, and each of them is the
one under which its holder, who is given the digits of it, is authenticated. -/
theorem document_provisions {P : Primitives Octets} (hP : P.Lawful)
    (hlen : ∀ data, P.len data = data.length) {D : Decoder} (hlimit : 0 < D.limit)
    {floatText : PyFloat → PyStr} {keys : List (PyStr × Octets)}
    (hnodup : (keys.map Prod.fst).Nodup) (hvalid : ∀ e ∈ keys, validUnicode e.1 = true)
    (hlength : ∀ e ∈ keys, e.2.length = 32) {env : Environment}
    {inlineEnv fileEnv demoName sourceName : PyStr}
    (hdoc : Document env inlineEnv fileEnv demoName (document floatText keys) sourceName) :
    ∃ registry : KeyRegistry P,
      keysFromEnvOrFile D env inlineEnv fileEnv demoName = .ok registry.keys ∧
      (∀ keyId, registry.keys keyId = keys.lookup keyId) ∧
      ∀ keyId key, keyId ≠ [] → registry.keys keyId = some key →
        Provisioned P D registry keyId key := by
  have hdescribes := describes_keyFields hnodup hlength
  have hregistry : ∀ {keyId key}, keys.lookup keyId = some key → P.len key = keyLength := by
    intro keyId key hkey
    obtain ⟨keyHex, hmem, hspells⟩ := (hdescribes.entries keyId key).1 hkey
    obtain ⟨keyHex', key', heq, hspells', hlength'⟩ := hdescribes.keys _ hmem
    cases heq
    rw [hlen, hspells.unique hspells']
    exact hlength'
  refine ⟨⟨fun keyId => keys.lookup keyId, hregistry⟩, ?_, fun keyId => rfl,
    fun keyId key hne hkey => provisioned_of_key hP D hne hkey⟩
  have hload : D.loads (document floatText keys) = .ok (.obj (keyFields keys)) :=
    loads_document hnodup hvalid hlimit
  exact keysFromEnvOrFile_eq_ok_iff.2 ⟨_, _, hdoc,
    loadKeysJson_eq_ok_iff.2 ⟨_, hload, keys_keyFields ▸ hnodup, hdescribes⟩⟩

/-! ### The demo -/

/-- Two devices, in an environment variable. -/
def demoKeys : List (PyStr × Octets) :=
  [(lit "dev-01", List.replicate 32 0xa1), (lit "dev-02", List.replicate 32 0x0f)]

def demoDecoder : Decoder := ⟨fun _ => .finite 21, 10000, fun _ => []⟩

def demoEnvironment : Environment where
  var name := if name = lit "DEVICE_KEYS_JSON" then
    some (document Framing.demoPrimitives.floatText demoKeys) else none
  var_valid {name text} h := by
    split_ifs at h
    cases h
    decide
  readText _ := raise .osError []
  moduleDir := lit "/app/common"

/-- Both devices are provisioned, and no other one is. -/
theorem two_devices_provisioned : ∃ registry : KeyRegistry Framing.demoPrimitives,
    deviceKeys demoDecoder demoEnvironment = .ok registry.keys ∧
      registry.keys (lit "dev-02") = some (List.replicate 32 0x0f) ∧
      registry.keys (lit "dev-03") = none ∧
      Provisioned Framing.demoPrimitives demoDecoder registry (lit "dev-01")
        (List.replicate 32 0xa1) := by
  have hdoc : Document demoEnvironment (lit "DEVICE_KEYS_JSON") (lit "DEVICE_KEYS_FILE")
      (lit "demo_device_keys.json") (document Framing.demoPrimitives.floatText demoKeys)
      (lit "DEVICE_KEYS_JSON") := .inline rfl
  have hlimit : 0 < demoDecoder.limit := by decide
  obtain ⟨registry, hload, hkeys, hprovisioned⟩ := document_provisions (octets_lawful _)
    (fun _ => rfl) hlimit (by decide) (by decide) (by decide) hdoc
  exact ⟨registry, hload, (hkeys _).trans rfl, (hkeys _).trans rfl,
    hprovisioned _ _ (by decide) ((hkeys _).trans rfl)⟩

end PqcBridge.Config
