/-
Where the hellos and readings come from that the gateway accepts for a device.

One gateway process with any number of device connections, all of them in the hands of an
attacker who replays, splices and edits what it likes.  `produced` records what the device
`d` has itself put under its key: the hellos that it built and the readings that it
encrypted.  The AEAD is ideal: what opens under the key of `d` is one of these
(`Admissible`).

* `forwarded_readings_agree`: every reading that the gateway forwards for `d` is a reading
  that `d` encrypted under that sequence, and no two of them are the same one;
* `admitted_hellos_agree`: a hello in the name of `d` that is admitted makes the claims of
  a hello that `d` has built.
-/
import PqcBridge.Common.Encoding
import PqcBridge.Device.Device
import PqcBridge.Lib.Correspondence

namespace PqcBridge.DeviceOrigin

open Python Protocol Crypto Runs Gateway Correspondence

variable {B : Type}

/-! ### What the device puts under its key -/

/-- A call of `build_hello` or of `encrypt_legacy_payload` under the key of the device. -/
inductive DeviceCall (B : Type) where
  | hello (deviceId : PyStr) (capabilities : List PyStr)
  | reading (deviceId : PyStr) (sequence : ℤ) (plaintext : B)
deriving DecidableEq

variable (P : Primitives B)

/-- The associated data and the plaintext that the call hands to the AEAD. -/
def DeviceCall.sealed : DeviceCall B → B × B
  | .hello deviceId capabilities =>
    (helloClaimsBytes P (.str deviceId) (.arr (capabilities.map .str)), emptyBytes P)
  | .reading deviceId sequence plaintext => (P.utf8 (legacyAad deviceId sequence), plaintext)

/-- The call returns: the associated data of a reading must be encoded. -/
def DeviceCall.Returns : DeviceCall B → Prop
  | .hello _ _ => True
  | .reading deviceId _ _ => validUnicode deviceId = true

/-- The strings of the call are valid Unicode. -/
def DeviceCall.Valid : DeviceCall B → Prop
  | .hello deviceId capabilities =>
    validUnicode deviceId = true ∧ ∀ s ∈ capabilities, validUnicode s = true
  | .reading deviceId _ _ => validUnicode deviceId = true

lemma DeviceCall.Valid.returns {x : DeviceCall B} (h : x.Valid) : x.Returns := by
  cases x with
  | hello => trivial
  | reading => exact h

/-- `build_hello` puts the claims under the key, with no plaintext. -/
lemma buildHello_sealed {key nonce : B} (hkey : P.len key = keyLength) (deviceId : PyStr)
    (capabilities : List PyStr) :
    ∃ m, buildHello P deviceId (capabilities.map .str) key nonce = .ok m ∧
      m.field "auth_tag" = some (.str (P.b64encode (P.encrypt key nonce
        ((DeviceCall.hello deviceId capabilities).sealed P).2
        ((DeviceCall.hello deviceId capabilities).sealed P).1))) := by
  simp only [buildHello, authFields, chacha_eq_ok hkey, ok_bind, pure_eq_ok, DeviceCall.sealed]
  exact ⟨_, rfl, rfl⟩

/-- A reading of the device is put under the key with its id and its sequence. -/
lemma legacyReading_sealed {key nonce : B} (hkey : P.len key = keyLength) {deviceId : PyStr}
    (hid : validUnicode deviceId = true) (sequence : ℤ) (plaintext : B) :
    ∃ m, Device.legacyReading P deviceId key sequence plaintext nonce = .ok m ∧
      m.field "ciphertext" = some (.str (P.b64encode (P.encrypt key nonce
        ((DeviceCall.reading deviceId sequence plaintext).sealed P).2
        ((DeviceCall.reading deviceId sequence plaintext).sealed P).1))) := by
  rw [Device.legacyReading_eq hkey hid]
  exact ⟨_, rfl, rfl⟩

/-! ### The system -/

/-- The gateway with its device handlers, and what has been recorded. -/
structure State (B : Type) where
  gateway : GatewayState B
  devices : ℕ → DevicePhase B
  produced : List (DeviceCall B)
  /-- the calls of `send_reading`, the latest one first -/
  forwarded : List (Accepted B)
  /-- the hellos that were admitted -/
  admitted : List Hello

/-- What can happen. -/
inductive Event (B : Type) where
  /-- the device puts something under its key -/
  | produce (x : DeviceCall B)
  /-- the handler of device connection `c` moves -/
  | device (c : ℕ) (ev : DeviceEvent B)
  /-- the threads of the cloud channel leave it like this -/
  | channel (ch : CloudChannel B)

variable {P} (cfg : GatewayConfig B) (deviceKeys : KeyRegistry P)

/-- The hello that a step of a handler admits. -/
def admittedBy (st : GatewayState B) : DevicePhase B → DeviceEvent B → List Hello
  | .hello, .recv o =>
    match o.result >>= parseHello with
    | .error _ => []
    | .ok hello =>
      match (admitDevice P deviceKeys st hello).2 with
      | .ok (some _) => [hello]
      | _ => []
  | _, _ => []

/-- One step of the system. -/
def step (s : State B) : Event B → State B
  | .produce x => { s with produced := x :: s.produced }
  | .device c ev =>
    { s with
      gateway := (deviceStep P cfg deviceKeys s.gateway (s.devices c) ev).1
      devices := Function.update s.devices c
        (deviceStep P cfg deviceKeys s.gateway (s.devices c) ev).2
      forwarded := (acceptedBy P s.gateway (s.devices c) ev).toList ++ s.forwarded
      admitted := admittedBy deviceKeys s.gateway (s.devices c) ev ++ s.admitted }
  | .channel ch => { s with gateway := { s.gateway with channel := ch } }

/-- A gateway that has just started. -/
def initial (ch : CloudChannel B) : State B where
  gateway := ⟨ch, .empty, [], 0⟩
  devices := fun _ => .new
  produced := []
  forwarded := []
  admitted := []

/-- The key of the device is used by the device alone, and the AEAD is ideal: whatever
opens under the key was put under it by a call of the device. -/
structure Admissible (P : Primitives B) (key : B) (s : State B) (ev : Event B) : Prop where
  opens : ∀ c m f text ciphertext nonce aad plaintext, ev = .device c (.recv (.message m)) →
    m.field f = some (.str text) → P.b64decode text = some ciphertext →
      P.decrypt key nonce ciphertext aad = some plaintext →
        ∃ x ∈ s.produced, x.sealed P = (aad, plaintext)
  returns : ∀ x, ev = .produce x → x.Returns

/-- The strings of the device are valid Unicode, and those of a hello that is delivered
are strings that `json.loads` returns. -/
structure Textual (ev : Event B) : Prop where
  produces : ∀ x, ev = .produce x → x.Valid
  loads : ∀ c m hello, ev = .device c (.recv (.message m)) → parseHello m = .ok hello →
    Loadable hello.deviceId ∧ ∀ x ∈ hello.capabilities, Loadable x

/-! ### What opens -/

section Sealed

variable (hP : Utf8Injective P) {x : DeviceCall B} {d : PyStr}

include hP

/-- What opens with the associated data of a reading is that reading. -/
lemma eq_reading_of_sealed (hx : x.Returns) (hd : validUnicode d = true) {n : ℤ} {b : B}
    (h : x.sealed P = (P.utf8 (legacyAad d n), b)) : x = .reading d n b := by
  cases x with
  | hello deviceId capabilities =>
    -- claims are no associated data of a reading
    have haad := hP _ _ (validUnicode_helloClaims P.floatText deviceId capabilities)
      (by rw [validUnicode_legacyAad, hd]) (congrArg Prod.fst h)
    exact absurd haad (helloClaims_ne_legacyAad _ _ _ _ _)
  | reading deviceId sequence plaintext =>
    have hvalid : validUnicode deviceId = true := hx
    have haad := hP _ _ (by rw [validUnicode_legacyAad, hvalid])
      (by rw [validUnicode_legacyAad, hd]) (congrArg Prod.fst h)
    obtain ⟨rfl, rfl⟩ := legacyAad_injective haad
    rw [show plaintext = b from congrArg Prod.snd h]

/-- What opens with the claims of a hello is a hello with these claims. -/
lemma eq_hello_of_sealed (hx : x.Valid) (hd : Loadable d) {capabilities : List PyStr}
    (hcaps : ∀ s ∈ capabilities, Loadable s) {p : B}
    (h : x.sealed P = (helloClaimsBytes P (.str d) (.arr (capabilities.map .str)), p)) :
    x = .hello d capabilities := by
  have hclaims := validUnicode_helloClaims P.floatText d capabilities
  cases x with
  | hello deviceId capabilities' =>
    have htext := hP _ _ (validUnicode_helloClaims P.floatText deviceId capabilities') hclaims
      (congrArg Prod.fst h)
    obtain ⟨hid, hall⟩ : validUnicode deviceId = true ∧
        ∀ s ∈ capabilities', validUnicode s = true := hx
    obtain ⟨rfl, rfl⟩ := helloClaims_injective P.floatText (loadable_of_validUnicode hid) hd
      (fun s hs => loadable_of_validUnicode (hall s hs)) hcaps htext
    rfl
  | reading deviceId sequence plaintext =>
    have hvalid : validUnicode deviceId = true := hx
    have htext := hP _ _ (by rw [validUnicode_legacyAad, hvalid]) hclaims (congrArg Prod.fst h)
    exact absurd htext.symm (helloClaims_ne_legacyAad _ _ _ _ _)

end Sealed

/-! ### The invariant -/

/-- The invariant about readings, for the device `d`. -/
structure Ok (deviceKeys : KeyRegistry P) (d : PyStr) (s : State B) : Prop where
  returned : ∀ x ∈ s.produced, x.Returns
  registered : ∀ c d' key, (s.devices c).device = some (d', key) → deviceKeys.keys d' = some key
  forwarded : ∀ x ∈ s.forwarded, x.deviceId = d →
    .reading d x.sequence x.readingBytes ∈ s.produced
  guard : ∀ x ∈ s.forwarded, x.sequence ≤ s.gateway.replay.last x.deviceId
  increasing : s.forwarded.Pairwise fun x y => x.deviceId = y.deviceId → y.sequence < x.sequence

/-- The invariant about hellos. -/
structure HelloOk (d : PyStr) (s : State B) : Prop where
  valid : ∀ x ∈ s.produced, x.Valid
  admitted : ∀ h ∈ s.admitted, h.deviceId = d → .hello d h.capabilities ∈ s.produced

variable {cfg deviceKeys} {d : PyStr} {key : B} {s : State B} {c : ℕ} {ev : DeviceEvent B}

/-- A hello that a step admits was parsed, and its tag was checked under the key of the
device that it names. -/
lemma admittedBy_cases {st : GatewayState B} {p : DevicePhase B} {h : Hello}
    (hh : h ∈ admittedBy deviceKeys st p ev) :
    ∃ m key, ev = .recv (.message m) ∧ parseHello m = .ok h ∧
      deviceKeys.keys h.deviceId = some key ∧ verifyHelloAuth P key h.message = .ok () := by
  unfold admittedBy at hh
  split at hh
  · next o =>
    split at hh
    · cases hh
    · next hello hparse =>
      obtain ⟨m, hm, hparse⟩ := bind_eq_ok.1 hparse
      obtain rfl := readOutcome_eq_ok hm
      rcases admitDevice_cases deviceKeys st hello with
        ha | ⟨e, ha⟩ | ⟨key, hkey, heval, ha⟩
      · rw [ha] at hh
        cases hh
      · rw [ha] at hh
        cases hh
      · rw [ha] at hh
        obtain rfl : h = hello := List.mem_singleton.1 hh
        exact ⟨m, key, rfl, hparse, hkey, verifyHelloAuth_of_evaluateHello heval⟩
  · cases hh

/-- A hello in the name of the device that is admitted makes the claims of one that the
device has built. -/
lemma HelloOk.admits (hP : Utf8Injective P) (hkey : deviceKeys.keys d = some key)
    (h : HelloOk d s) (ha : Admissible P key s (.device c ev))
    (ht : Textual (.device c ev : Event B)) {hello : Hello}
    (hh : hello ∈ admittedBy deviceKeys s.gateway (s.devices c) ev) (hd : hello.deviceId = d) :
    .hello d hello.capabilities ∈ s.produced := by
  obtain ⟨m, key', rfl, hparse, hkey', hverify⟩ := admittedBy_cases hh
  rw [hd, hkey, Option.some.injEq] at hkey'
  subst hkey'
  obtain ⟨hmessage, hcaps⟩ := parseHello_capabilities hparse
  rw [hmessage] at hverify
  obtain ⟨text, tag, nonce, plaintext, htag, hdecode, hopen⟩ :=
    verifyHelloAuth_opens (parseHello_eq_ok hparse).2 hcaps hverify
  obtain ⟨x, hx, hsealed⟩ := ha.opens c m _ _ _ _ _ _ rfl htag hdecode hopen
  obtain ⟨hload, hloads⟩ := ht.loads c m hello rfl hparse
  rw [hd] at hload hsealed
  rw [← eq_hello_of_sealed hP (h.valid x hx) hload hloads hsealed]
  exact hx

/-- A reading that is accepted for the device is one that the device has encrypted. -/
lemma Ok.accepts (hP : Utf8Injective P) (hkey : deviceKeys.keys d = some key)
    (h : Ok deviceKeys d s) (ha : Admissible P key s (.device c ev)) {x : Accepted B}
    (hx : acceptedBy P s.gateway (s.devices c) ev = some x) (hd : x.deviceId = d) :
    .reading d x.sequence x.readingBytes ∈ s.produced := by
  obtain ⟨m, key', rfl, hp, hdecrypt, -⟩ := acceptedBy_eq_some hx
  have hkey' := h.registered c x.deviceId key' (by rw [hp]; rfl)
  rw [hd, hkey, Option.some.injEq] at hkey'
  subst hkey'
  obtain ⟨-, -, -, aad, haad, hopen⟩ := decryptLegacyMessage_eq_ok hdecrypt
  obtain ⟨hvalid, rfl⟩ := legacyMessageAad_eq_ok haad
  obtain ⟨text, ciphertext, nonce, htext, hdecode, hopen⟩ := aeadDecrypt_opens hopen
  obtain ⟨y, hy, hsealed⟩ := ha.opens c m _ _ _ _ _ _ rfl htext hdecode hopen
  rw [hd] at hvalid hsealed
  rw [← eq_reading_of_sealed hP (h.returned y hy) hvalid hsealed]
  exact hy

/-- The step lemma, for the handler of a device. -/
lemma Ok.step_device (hP : Utf8Injective P) (hkey : deviceKeys.keys d = some key)
    (h : Ok deviceKeys d s) (ha : Admissible P key s (.device c ev)) :
    Ok deviceKeys d (step cfg deviceKeys s (.device c ev)) := by
  have hm := deviceStep_moves cfg deviceKeys s.gateway (s.devices c) ev
  have hregistered : ∀ c' d' k, ((step cfg deviceKeys s (.device c ev)).devices c').device
      = some (d', k) → deviceKeys.keys d' = some k :=
    (Function.forall_update_iff s.devices fun _ p => ∀ d' k, p.device = some (d', k) →
      deviceKeys.keys d' = some k).2
        ⟨hm.registered deviceKeys (h.registered c), fun c' _ => h.registered c'⟩
  rcases hx : acceptedBy P s.gateway (s.devices c) ev with _ | x
  · obtain ⟨hreplay, -⟩ := deviceStep_of_not_acceptedBy cfg deviceKeys hx
    have hforwarded : (step cfg deviceKeys s (.device c ev)).forwarded = s.forwarded := by
      simp only [step, hx, Option.toList_none, List.nil_append]
    refine ⟨h.returned, hregistered, ?_, fun y hy => ?_, ?_⟩
    · rw [hforwarded]
      exact h.forwarded
    · rw [hforwarded] at hy
      simp only [step, hreplay]
      exact h.guard y hy
    · rw [hforwarded]
      exact h.increasing
  · obtain ⟨-, -, -, -, -, hlt⟩ := acceptedBy_eq_some hx
    obtain ⟨hstate, -⟩ := deviceStep_of_acceptedBy cfg deviceKeys hx
    have hforwarded : (step cfg deviceKeys s (.device c ev)).forwarded = x :: s.forwarded := by
      simp only [step, hx, Option.toList_some, List.singleton_append]
    have hreplay : (step cfg deviceKeys s (.device c ev)).gateway.replay
        = ⟨Function.update s.gateway.replay.lastSequence x.deviceId (some x.sequence)⟩ := by
      simp only [step, hstate]
      rfl
    refine ⟨h.returned, hregistered, fun y hy hd => ?_, fun y hy => ?_, ?_⟩
    · rw [hforwarded] at hy
      rcases List.mem_cons.1 hy with rfl | hy
      · exact h.accepts hP hkey ha hx hd
      · exact h.forwarded y hy hd
    · rw [hforwarded] at hy
      rw [hreplay]
      rcases List.mem_cons.1 hy with rfl | hy
      · rw [ReplayGuard.last_update, if_pos rfl]
      · -- the guard only grows
        exact (h.guard y hy).trans (ReplayGuard.le_last_update hlt y.deviceId)
    · rw [hforwarded]
      refine List.pairwise_cons.2 ⟨fun y hy hd => ?_, h.increasing⟩
      have hold := h.guard y hy
      rw [← hd] at hold
      omega

/-- The step lemma. -/
lemma Ok.step (hP : Utf8Injective P) (hkey : deviceKeys.keys d = some key)
    (h : Ok deviceKeys d s) {ev : Event B} (ha : Admissible P key s ev) :
    Ok deviceKeys d (step cfg deviceKeys s ev) := by
  cases ev with
  | produce x =>
    refine ⟨fun y hy => ?_, h.registered, fun y hy hd => ?_, h.guard, h.increasing⟩
    · rcases List.mem_cons.1 hy with rfl | hy
      · exact ha.returns y rfl
      · exact h.returned y hy
    · exact List.mem_cons_of_mem x (h.forwarded y hy hd)
  | device c ev => exact h.step_device hP hkey ha
  | channel ch => exact ⟨h.returned, h.registered, h.forwarded, h.guard, h.increasing⟩

/-- The step lemma for hellos. -/
lemma HelloOk.step (hP : Utf8Injective P) (hkey : deviceKeys.keys d = some key)
    (h : HelloOk d s) {ev : Event B} (ha : Admissible P key s ev) (ht : Textual ev) :
    HelloOk d (step cfg deviceKeys s ev) := by
  cases ev with
  | produce x =>
    refine ⟨fun y hy => ?_, fun hello hh hd => List.mem_cons_of_mem x (h.admitted hello hh hd)⟩
    rcases List.mem_cons.1 hy with rfl | hy
    · exact ht.produces y rfl
    · exact h.valid y hy
  | device c ev =>
    refine ⟨h.valid, fun hello hh hd => ?_⟩
    rcases List.mem_append.1 hh with hh | hh
    · exact h.admits hP hkey ha ht hh hd
    · exact h.admitted hello hh hd
  | channel ch => exact ⟨h.valid, h.admitted⟩

variable (cfg deviceKeys)

/-- **Downgrade resistance of hellos.**  A hello in the name of the device that is
admitted carries the device id and the capabilities of a hello that the device has
built. -/
theorem admitted_hellos_agree (hP : Utf8Injective P) (hkey : deviceKeys.keys d = some key)
    (ch : CloudChannel B) {τ : List (Event B)}
    (ha : Along (step cfg deviceKeys) (Admissible P key) (initial ch) τ)
    (ht : ∀ ev ∈ τ, Textual ev) :
    ∀ h ∈ (run (step cfg deviceKeys) (initial ch) τ).admitted, h.deviceId = d →
      .hello h.deviceId h.capabilities ∈ (run (step cfg deviceKeys) (initial ch) τ).produced := by
  intro h hh hd
  have hok : HelloOk d (run (step cfg deviceKeys) (initial ch) τ) :=
    inv_run (J := HelloOk d) (fun _ _ h hev => h.step hP hkey hev.1 hev.2) ⟨nofun, nofun⟩
      (along_and.2 ⟨ha, along_of_forall fun _ ev hev => ht ev hev⟩)
  rw [hd]
  exact hok.admitted h hh hd

/-! ### The demo -/

section Demo

open Device

/-- The strings that a message carries. -/
def texts (m : JsonDict) : List PyStr :=
  m.filterMap fun kv => match kv.2 with
    | .str s => some s
    | _ => none

lemma mem_texts {m : JsonDict} {f : String} {text : PyStr} (h : m.field f = some (.str text)) :
    text ∈ texts m := by
  unfold JsonDict.field at h
  induction m with
  | nil => cases h
  | cons kv m ih =>
    obtain ⟨k, v⟩ := kv
    rw [List.lookup_cons] at h
    split at h
    · cases h
      exact List.mem_cons_self
    · exact ((List.sublist_cons_self (k, v) m).filterMap _).mem (ih h)

/-- What the first device of the demo puts under its key. -/
def demoCalls : List (DeviceCall Bytes) :=
  [.reading (lit "dev-01") 1 (.data (.record 1)), .hello (lit "dev-01") [capChacha20Poly1305]]

/-- The hello and the reading of the first device arrive. -/
def demoArrive (c : ℕ) : List (Event Bytes) :=
  [.device c .accept, .device c (.recv (.message (demoHello (lit "dev-01") 1))),
    .device c .activate, .device c .mark, .device c .detect,
    .device c (.recv (.message (demoLegacy (lit "dev-01") 1 1 1)))]

/-- The first device says hello and sends a reading; an attacker replays both on another
connection. -/
def demoReplayed : List (Event Bytes) :=
  [.produce (.hello (lit "dev-01") [capChacha20Poly1305]),
    .produce (.reading (lit "dev-01") 1 (.data (.record 1)))] ++ demoArrive 0 ++ demoArrive 1

/-- A step of the demo. -/
def demoStep : State Bytes → Event Bytes → State Bytes :=
  step demoGateway (demoDeviceKeys demoTable)

/-- The bytes of a text that carries no term, or a nonce, open under no key. -/
lemma admissible_demoMessage {s : State Bytes} {c : ℕ} {m : JsonDict}
    (hm : m = demoHello (lit "dev-01") 1 ∨ m = demoLegacy (lit "dev-01") 1 1 1)
    (hproduced : s.produced = demoCalls) :
    Admissible (ideal demoTable) (Demo.deviceKey 1) s (.device c (.recv (.message m))) := by
  refine ⟨fun c' m' f text ciphertext nonce aad plaintext hev hf hdecode hopen => ?_, nofun⟩
  cases hev
  obtain rfl := Ideal.decrypt_eq_some hopen
  replace hdecode : Ideal.decode text = some (.aead (Demo.deviceKey 1) nonce plaintext aad) :=
    hdecode
  have hname : Ideal.decode msgHello = none ∧ Ideal.decode msgLegacyReading = none ∧
      Ideal.decode (lit "dev-01") = none := by decide
  have hmem := mem_texts hf
  rw [hproduced]
  rcases hm with rfl | rfl
  · replace hmem : text ∈ [msgHello, lit "dev-01", Ideal.code (Demo.nonce 0), _] := hmem
    simp only [List.mem_cons, List.not_mem_nil, or_false] at hmem
    rcases hmem with rfl | rfl | rfl | rfl
    · rw [hname.1] at hdecode
      cases hdecode
    · rw [hname.2.2] at hdecode
      cases hdecode
    · rw [Ideal.decode_code] at hdecode
      cases hdecode
    · rw [Ideal.decode_code] at hdecode
      cases hdecode
      exact ⟨_, List.mem_cons_of_mem _ List.mem_cons_self, rfl⟩
  · replace hmem : text ∈ [msgLegacyReading, lit "dev-01", Ideal.code (Demo.nonce 0), _] := hmem
    simp only [List.mem_cons, List.not_mem_nil, or_false] at hmem
    rcases hmem with rfl | rfl | rfl | rfl
    · rw [hname.2.1] at hdecode
      cases hdecode
    · rw [hname.2.2] at hdecode
      cases hdecode
    · rw [Ideal.decode_code] at hdecode
      cases hdecode
    · rw [Ideal.decode_code] at hdecode
      cases hdecode
      exact ⟨_, List.mem_cons_self, rfl⟩

lemma admissible_demoReplayed :
    Along demoStep (Admissible (ideal demoTable) (Demo.deviceKey 1)) (initial .new)
      demoReplayed := by
  have quiet : ∀ s ev, (∀ c m, ev ≠ .device c (.recv (.message m))) →
      (∀ x, ev = .produce x → x.Returns) →
        Admissible (ideal demoTable) (Demo.deviceKey 1) s ev := fun s ev hev hx =>
    ⟨fun c m _ _ _ _ _ _ h => absurd h (hev c m), hx⟩
  have arrive : ∀ s c, s.produced = demoCalls →
      Along demoStep (Admissible (ideal demoTable) (Demo.deviceKey 1)) s (demoArrive c) :=
    fun s c hs => ⟨quiet _ _ (by simp) (by simp), admissible_demoMessage (Or.inl rfl) hs,
      quiet _ _ (by simp) (by simp), quiet _ _ (by simp) (by simp), quiet _ _ (by simp) (by simp),
      admissible_demoMessage (Or.inr rfl) hs, trivial⟩
  refine along_append.2 ⟨along_append.2 ⟨⟨?_, ?_, trivial⟩, arrive _ 0 rfl⟩, arrive _ 1 rfl⟩
  · exact quiet _ _ (by simp) fun x h => by cases h; trivial
  · exact quiet _ _ (by simp) fun x h => by cases h; rfl

lemma textual_demoReplayed : ∀ ev ∈ demoReplayed, Textual ev := by
  have hid : validUnicode (lit "dev-01") = true := validUnicode_lit _
  have hcap : ∀ x ∈ [capChacha20Poly1305], validUnicode x = true := by decide
  -- what `parse_hello` accepts of the messages of the demo is the hello of the device
  have hload : ∀ c m, .device c (.recv (.message m)) ∈ demoReplayed → ∀ hello,
      parseHello m = .ok hello →
        hello.deviceId = lit "dev-01" ∧ hello.capabilities = [capChacha20Poly1305] := by
    intro c m hmem hello hparse
    have hm : m = demoHello (lit "dev-01") 1 ∨ m = demoLegacy (lit "dev-01") 1 1 1 := by
      simp only [demoReplayed, demoArrive, List.cons_append, List.nil_append, List.mem_cons,
        List.not_mem_nil, or_false, reduceCtorEq, false_or, Event.device.injEq,
        DeviceEvent.recv.injEq, ReadOutcome.message.injEq] at hmem
      tauto
    obtain ⟨htype, hdev⟩ := parseHello_eq_ok hparse
    obtain ⟨-, hcaps⟩ := parseHello_capabilities hparse
    rcases hm with rfl | rfl
    · have hdev : some (Json.str (lit "dev-01")) = some (.str hello.deviceId) := hdev
      have hcaps : some (Json.arr ([capChacha20Poly1305].map .str))
        = some (.arr (hello.capabilities.map .str)) := hcaps
      rw [Option.some.injEq, Json.str.injEq] at hdev
      rw [Option.some.injEq, Json.arr.injEq] at hcaps
      exact ⟨hdev.symm, (List.map_injective_iff.2 (fun a b hab => by cases hab; rfl) hcaps).symm⟩
    · cases htype
  intro ev hev
  refine ⟨fun x hx => ?_, fun c m hello hm hparse => ?_⟩
  · rw [hx] at hev
    have hx : x = .hello (lit "dev-01") [capChacha20Poly1305] ∨
        x = .reading (lit "dev-01") 1 (.data (.record 1)) := by
      simpa [demoReplayed, demoArrive] using hev
    rcases hx with rfl | rfl
    · exact ⟨hid, hcap⟩
    · exact hid
  · rw [hm] at hev
    obtain ⟨hd, hcaps⟩ := hload c m hev hello hparse
    rw [hd, hcaps]
    exact ⟨loadable_of_validUnicode hid, fun x hx => loadable_of_validUnicode (hcap x hx)⟩

/-- Both hellos are admitted, and they are the one that the device has built. -/
theorem admitted_hellos_agree_demo :
    (run demoStep (initial .new) demoReplayed).admitted.length = 2 ∧
      ∀ h ∈ (run demoStep (initial .new) demoReplayed).admitted, h.deviceId = lit "dev-01" →
        .hello h.deviceId h.capabilities ∈ (run demoStep (initial .new) demoReplayed).produced := by
  have ha := admissible_demoReplayed
  refine ⟨by decide +kernel, ?_⟩
  unfold demoStep at ha ⊢
  exact admitted_hellos_agree demoGateway (demoDeviceKeys demoTable)
    (utf8Injective_ideal demoTable) rfl .new ha textual_demoReplayed

end Demo

end PqcBridge.DeviceOrigin
