/-
What one step of a device handler can do.

* `admitDevice_cases`, `acceptLegacy_cases`: what is done with a hello and with a reading;
* `deviceStep_moves`: the inversion of `deviceStep`;
* `deviceStep_frame`, `deviceStep_congr`: while no `sendall` fails, a handler changes what is
  known of its own device alone, and depends on nothing else that the other handlers write.

`DevicePhase.device` is the device that a handler serves, and `DevicePhase.plaintext` the
reading that it has accepted and not yet encrypted for the cloud.
-/
import PqcBridge.Common.Validation
import PqcBridge.Gateway.Server

namespace PqcBridge.Gateway

open Python Protocol Crypto

variable {B : Type} {P : Primitives B} {cfg : GatewayConfig B} {deviceKeys : KeyRegistry P}

/-- The device that the handler serves, with its key. -/
def DevicePhase.device : DevicePhase B → Option (PyStr × B)
  | .admitting d key => some (d, key)
  | .marking d key => some (d, key)
  | .detecting d key => some (d, key)
  | .serving d key => some (d, key)
  | .forwarding d key _ => some (d, key)
  | .checked d key _ => some (d, key)
  | .sending d key _ => some (d, key)
  | _ => none

/-- The plaintext that was accepted and is not yet encrypted for the cloud. -/
def DevicePhase.plaintext : DevicePhase B → Option B
  | .forwarding _ _ b => some b
  | .checked _ _ b => some b
  | _ => none

/-! ### Hellos and readings -/

variable (deviceKeys) in
/-- A hello is rejected, or its check raises, or its device is admitted. -/
lemma admitDevice_cases (st : GatewayState B) (hello : Hello) :
    (admitDevice P deviceKeys st hello = (st.inc .messagesRejected, .ok none)) ∨
    (∃ e, admitDevice P deviceKeys st hello = (st, .error e)) ∨
    (∃ key, deviceKeys.keys hello.deviceId = some key ∧
      evaluateHello P hello (some key) = .ok .allowFallback ∧
      admitDevice P deviceKeys st hello = (st, .ok (some key))) := by
  rcases hk : deviceKeys.keys hello.deviceId with _ | key
  · exact Or.inl (by simp only [admitDevice, hk])
  rcases he : evaluateHello P hello (some key) with e | decision
  · exact Or.inr (Or.inl ⟨e, by simp only [admitDevice, hk, he]⟩)
  by_cases hd : decision = .allowFallback
  · rw [hd] at he
    exact Or.inr (Or.inr ⟨key, rfl, he, by simp only [admitDevice, hk, he]⟩)
  · exact Or.inl (by simp only [admitDevice, hk, he])

/-- A reading with a sequence newer than the last one is accepted. -/
lemma acceptLegacy_of_lt {st : GatewayState B} {m : JsonDict} {d : PyStr} {key b : B}
    {sequence : ℤ} (hd : decryptLegacyMessage P m key d = .ok (b, sequence))
    (hlt : st.replay.last d < sequence) :
    acceptLegacy P st m d key = ({ st.inc .messagesReceived with
      replay := ⟨Function.update st.replay.lastSequence d (some sequence)⟩ }.inc
        .messagesProcessed, .ok (some b)) := by
  simp only [acceptLegacy, hd, GatewayState.inc_replay, ReplayGuard.checkAndUpdate_of_lt hlt]
  rfl

/-- A reading is dropped, or decrypting it raises, or it is accepted. -/
lemma acceptLegacy_cases (st : GatewayState B) (m : JsonDict) (d : PyStr) (key : B) :
    (acceptLegacy P st m d key = ((st.inc .messagesReceived).inc .messagesRejected, .ok none)) ∨
    (∃ e, acceptLegacy P st m d key = (st.inc .messagesReceived, .error e)) ∨
    (∃ b sequence, decryptLegacyMessage P m key d = .ok (b, sequence) ∧
      st.replay.last d < sequence ∧
      acceptLegacy P st m d key = ({ st.inc .messagesReceived with
        replay := ⟨Function.update st.replay.lastSequence d (some sequence)⟩ }.inc
          .messagesProcessed, .ok (some b))) := by
  rcases hd : decryptLegacyMessage P m key d with e | ⟨b, sequence⟩
  · by_cases he : e.isA .gatewayProcessingError || e.isA .legacyDecryptionError
    · exact Or.inl (by simp only [acceptLegacy, hd, he]; rfl)
    · exact Or.inr (Or.inl ⟨e, by simp only [acceptLegacy, hd, he]; rfl⟩)
  rcases st.replay.checkAndUpdate_cases d sequence with ⟨-, hc⟩ | ⟨hlt, hc⟩
  · exact Or.inl (by simp only [acceptLegacy, hd, GatewayState.inc_replay, hc]; rfl)
  · exact Or.inr (Or.inr ⟨b, sequence, rfl, hlt, acceptLegacy_of_lt hd hlt⟩)

/-- What `parse_hello` accepts. -/
lemma parseHello_eq_ok {m : JsonDict} {h : Hello} (hm : parseHello m = .ok h) :
    isStr (m.field "type") msgHello = true ∧ m.field "device_id" = some (.str h.deviceId) := by
  unfold parseHello at hm
  split_ifs at hm with htype
  · cases hm
  refine ⟨by simpa using htype, ?_⟩
  obtain ⟨deviceId, hid, hm⟩ := bind_eq_ok.1 hm
  split at hm
  · split at hm
    · obtain ⟨_, -, hm⟩ := bind_eq_ok.1 hm
      obtain ⟨_, -, hm⟩ := bind_eq_ok.1 hm
      cases hm
      exact (requireStr_eq_ok.1 hid).1
    · cases hm
  · cases hm

lemma eq_map_of_mapM_capability {items : List Json} {capabilities : List PyStr}
    (h : items.mapM capability = some capabilities) : items = capabilities.map .str := by
  induction items generalizing capabilities with
  | nil =>
    cases h
    rfl
  | cons v items ih =>
    rw [List.mapM_cons] at h
    obtain ⟨s, hs, h⟩ := Option.bind_eq_some_iff.1 h
    obtain ⟨rest, hrest, h⟩ := Option.bind_eq_some_iff.1 h
    cases h
    have hv : v = .str s := by
      cases v with
      | str t =>
        cases hs
        rfl
      | _ => cases hs
    rw [hv, ih hrest]
    rfl

/-- A parsed hello keeps the message, with the capabilities that it names. -/
lemma parseHello_capabilities {m : JsonDict} {h : Hello} (hm : parseHello m = .ok h) :
    h.message = m ∧ m.field "capabilities" = some (.arr (h.capabilities.map .str)) := by
  unfold parseHello at hm
  split_ifs at hm
  · cases hm
  obtain ⟨deviceId, -, hm⟩ := bind_eq_ok.1 hm
  split at hm
  · next items hitems =>
    split at hm
    · next capabilities hcaps =>
      obtain ⟨_, -, hm⟩ := bind_eq_ok.1 hm
      obtain ⟨_, -, hm⟩ := bind_eq_ok.1 hm
      cases hm
      refine ⟨rfl, ?_⟩
      rw [hitems, eq_map_of_mapM_capability hcaps]
    · cases hm
  · cases hm

/-- A hello that is admitted has passed the check of its tag. -/
lemma verifyHelloAuth_of_evaluateHello {h : Hello} {key : B}
    (he : evaluateHello P h (some key) = .ok .allowFallback) :
    verifyHelloAuth P key h.message = .ok () := by
  rw [evaluateHello] at he
  split at he
  · split_ifs at he
    cases he
  · next hv => exact hv

/-- What `decrypt_legacy_message` accepts names the device outside, and opens under the
associated data of the outer device id and sequence. -/
lemma decryptLegacyMessage_eq_ok {m : JsonDict} {key b : B} {d : PyStr} {sequence : ℤ}
    (h : decryptLegacyMessage P m key d = .ok (b, sequence)) :
    isStr (m.field "type") msgLegacyReading = true ∧ isStr (m.field "device_id") d = true ∧
      m.field "seq" = some (.int sequence) ∧
      ∃ aad, legacyMessageAad P d sequence = .ok aad ∧
        decryptLegacyPayload P key m aad = .ok b := by
  unfold decryptLegacyMessage at h
  split_ifs at h with htype hdev
  · cases h
  · cases h
  obtain ⟨sequence', hseq, h⟩ := bind_eq_ok.1 h
  obtain ⟨aad, haad, h⟩ := bind_eq_ok.1 h
  obtain ⟨b', hb, h⟩ := bind_eq_ok.1 h
  obtain ⟨_, -, h⟩ := bind_eq_ok.1 h
  cases h
  exact ⟨by simpa using htype, by simpa using hdev, requireInt_eq_ok.1 hseq, aad, haad, hb⟩

/-- What `decrypt_legacy_message` accepts is a reading. -/
lemma decryptLegacyMessage_parses {m : JsonDict} {key b : B} {d : PyStr} {sequence : ℤ}
    (h : decryptLegacyMessage P m key d = .ok (b, sequence)) :
    ∃ r, parseReadingBytes P b = .ok r := by
  unfold decryptLegacyMessage at h
  split_ifs at h
  · cases h
  · cases h
  obtain ⟨_, -, h⟩ := bind_eq_ok.1 h
  obtain ⟨_, -, h⟩ := bind_eq_ok.1 h
  obtain ⟨b', -, h⟩ := bind_eq_ok.1 h
  obtain ⟨_, hcheck, h⟩ := bind_eq_ok.1 h
  cases h
  unfold checkReading at hcheck
  split at hcheck
  · split_ifs at hcheck
    cases hcheck
  · next r hr => exact ⟨r, hr⟩

/-! ### The `except` clauses -/

lemma onDeviceException_snd (st : GatewayState B) (e : PyExc) :
    ∃ escaped, (onDeviceException st e).2 = .closed escaped := by
  unfold onDeviceException
  split_ifs
  · exact ⟨none, rfl⟩
  · exact ⟨none, rfl⟩
  · exact ⟨some e, rfl⟩

@[simp] lemma onDeviceException_replay (st : GatewayState B) (e : PyExc) :
    (onDeviceException st e).1.replay = st.replay := by
  unfold onDeviceException
  split_ifs <;> rfl

/-! ### The steps of a handler -/

variable (cfg deviceKeys)

/-- One step of a device handler: its stop, what happens to it, and its next stop. -/
inductive Moves (st : GatewayState B) : DevicePhase B → DeviceEvent B → DevicePhase B → Prop
  /-- the event does not concern a handler that stands there -/
  | idle (p ev) : Moves st p ev p
  | accept : Moves st .new .accept .hello
  /-- the handler ends -/
  | ends (p ev escaped) : Moves st p ev (.closed escaped)
  | admitted {o hello key} : o.result >>= parseHello = .ok hello →
      deviceKeys.keys hello.deviceId = some key →
      evaluateHello P hello (some key) = .ok .allowFallback →
      Moves st .hello (.recv o) (.admitting hello.deviceId key)
  | activates {d key} : Moves st (.admitting d key) .activate (.marking d key)
  | known {d key} : d ∈ st.seenDevices → Moves st (.marking d key) .mark (.serving d key)
  | marks {d key} : d ∉ st.seenDevices → Moves st (.marking d key) .mark (.detecting d key)
  | detects {d key} : Moves st (.detecting d key) .detect (.serving d key)
  | dropped (o d key) : Moves st (.serving d key) (.recv o) (.serving d key)
  | accepted {o m d key b sequence} : o.result = .ok m →
      decryptLegacyMessage P m key d = .ok (b, sequence) → st.replay.last d < sequence →
      Moves st (.serving d key) (.recv o) (.forwarding d key b)
  | checks {d key b} : checkEstablished st.channel = .ok () →
      Moves st (.forwarding d key b) .check (.checked d key b)
  | builds {d key b nonce payload} : buildPayload P st.channel b nonce = .ok payload →
      Moves st (.checked d key b) (.build nonce) (.sending d key payload)
  | sends {d key payload io} : Moves st (.sending d key payload) (.send io) (.serving d key)

/-- A handler does nothing else. -/
theorem deviceStep_moves (st : GatewayState B) (p : DevicePhase B) (ev : DeviceEvent B) :
    Moves deviceKeys st p ev (deviceStep P cfg deviceKeys st p ev).2 := by
  -- the `except` clauses end the handler
  have ends : ∀ (st' : GatewayState B) (e : PyExc) (p ev),
      Moves deviceKeys st p ev (onDeviceException st' e).2 := by
    intro st' e p ev
    obtain ⟨escaped, h⟩ := onDeviceException_snd st' e
    rw [h]
    exact .ends _ _ _
  unfold deviceStep
  split
  · exact .accept
  · next o =>
    split
    · exact ends _ _ _ _
    · next hello hhello =>
      rcases admitDevice_cases deviceKeys st hello with
        h | ⟨e, h⟩ | ⟨key, hkey, heval, h⟩
      · simp only [h]
        exact .ends _ _ _
      · simp only [h]
        exact ends _ _ _ _
      · simp only [h]
        exact .admitted hhello hkey heval
  · exact .activates
  · split_ifs with h
    · exact .known h
    · exact .marks h
  · exact .detects
  · next d key o =>
    split
    · exact ends _ _ _ _
    · next m hm =>
      rcases acceptLegacy_cases (P := P) st m d key with h | ⟨e, h⟩ | ⟨b, sequence, hd, hlt, h⟩
      · simp only [h]
        exact .dropped _ _ _
      · simp only [h]
        exact ends _ _ _ _
      · simp only [h]
        exact .accepted hm hd hlt
  · split
    · exact ends _ _ _ _
    · next h => exact .checks h
  · split
    · exact ends _ _ _ _
    · next h => exact .builds h
  · dsimp only
    split
    · exact ends _ _ _ _
    · exact .sends
  · exact .idle _ _

/-! ### Locality -/

/-- The channel without its counters. -/
def CloudChannel.bare (ch : CloudChannel B) : CloudChannel B := { ch with metrics := .zero }

/-- What does not look at the counters depends on the rest of the channel. -/
lemma CloudChannel.bare_congr {α : Type} {ch ch' : CloudChannel B} (h : ch.bare = ch'.bare)
    (f : CloudChannel B → α) (hf : ∀ ch, f ch.bare = f ch) : f ch = f ch' := by
  rw [← hf ch, h, hf ch']

/-- What the server knows of a device: the entry of the replay guard, and whether the device is in
`_seen_devices`. -/
def GatewayState.entry (st : GatewayState B) (d : PyStr) : Option ℤ × Bool :=
  (st.replay.lastSequence d, decide (d ∈ st.seenDevices))

lemma onDeviceException_congr (st st' : GatewayState B) (e : PyExc) :
    (onDeviceException st e).2 = (onDeviceException st' e).2 := by
  unfold onDeviceException
  split_ifs <;> rfl

@[simp] lemma onDeviceException_bare (st : GatewayState B) (e : PyExc) :
    (onDeviceException st e).1.channel.bare = st.channel.bare := by
  unfold onDeviceException
  split_ifs <;> rfl

@[simp] lemma onDeviceException_entry (st : GatewayState B) (e : PyExc) :
    (onDeviceException st e).1.entry = st.entry := by
  unfold onDeviceException
  split_ifs <;> rfl

/-- The decision about a hello depends on the hello alone. -/
lemma admitDevice_congr (st st' : GatewayState B) (hello : Hello) :
    (admitDevice P deviceKeys st hello).2 = (admitDevice P deviceKeys st' hello).2 := by
  unfold admitDevice
  split
  · rfl
  · split
    · rfl
    · rfl
    · rfl

lemma admitDevice_frame (st : GatewayState B) (hello : Hello) :
    (admitDevice P deviceKeys st hello).1.channel.bare = st.channel.bare ∧
      (admitDevice P deviceKeys st hello).1.replay = st.replay ∧
      (admitDevice P deviceKeys st hello).1.entry = st.entry := by
  rcases admitDevice_cases (P := P) deviceKeys st hello with h | ⟨e, h⟩ | ⟨_, -, -, h⟩ <;>
    rw [h] <;> exact ⟨rfl, rfl, rfl⟩

lemma acceptLegacy_frame (st : GatewayState B) (m : JsonDict) (d : PyStr) (key : B) :
    (acceptLegacy P st m d key).1.channel.bare = st.channel.bare ∧
      ∀ d', d' ≠ d → (acceptLegacy P st m d key).1.entry d' = st.entry d' := by
  rcases acceptLegacy_cases (P := P) st m d key with h | ⟨e, h⟩ | ⟨b, sequence, -, -, h⟩
  · rw [h]
    exact ⟨rfl, fun _ _ => rfl⟩
  · rw [h]
    exact ⟨rfl, fun _ _ => rfl⟩
  · rw [h]
    exact ⟨rfl, fun d' hd' => Prod.ext (Function.update_of_ne hd' _ _) rfl⟩

/-- What is done with a reading depends on the message and on what is known of the device. -/
lemma acceptLegacy_congr {st st' : GatewayState B} {d : PyStr} (hr : st.entry d = st'.entry d)
    (m : JsonDict) (key : B) :
    (acceptLegacy P st m d key).2 = (acceptLegacy P st' m d key).2 ∧
      (acceptLegacy P st m d key).1.entry d = (acceptLegacy P st' m d key).1.entry d := by
  unfold acceptLegacy
  dsimp only
  split
  · split_ifs
    · exact ⟨rfl, hr⟩
    · exact ⟨rfl, hr⟩
  · next b sequence _ =>
    obtain ⟨hlast, hseen⟩ := Prod.ext_iff.1 hr
    have hfst := ReplayGuard.checkAndUpdate_fst_congr (s := sequence) hlast
    have hsnd := ReplayGuard.checkAndUpdate_snd_congr (s := sequence) hlast
    rcases hc : (st'.replay.checkAndUpdate d sequence).1
    · simp only [GatewayState.inc_replay, hfst, hc]
      exact ⟨rfl, hr⟩
    · simp only [GatewayState.inc_replay, hfst, hc]
      exact ⟨rfl, Prod.ext hsnd hseen⟩

variable {p : DevicePhase B} {ev : DeviceEvent B}

/-- While no `sendall` fails, a handler leaves the session with the cloud alone, and changes
nothing that is known of other devices than its own. -/
lemma deviceStep_frame (st : GatewayState B) (hev : ∀ msg, ev ≠ .send (.osError msg)) :
    (deviceStep P cfg deviceKeys st p ev).1.channel.bare = st.channel.bare ∧
      ∀ d, (∀ key, p.device ≠ some (d, key)) →
        (deviceStep P cfg deviceKeys st p ev).1.entry d = st.entry d := by
  unfold deviceStep
  split
  · exact ⟨rfl, fun _ _ => rfl⟩
  · split
    · exact ⟨onDeviceException_bare _ _, fun _ _ => by rw [onDeviceException_entry]⟩
    · next hello _ =>
      have hframe := admitDevice_frame deviceKeys st hello
      split
      · next st' e h =>
        rw [h] at hframe
        rw [onDeviceException_bare, onDeviceException_entry, hframe.2.2]
        exact ⟨hframe.1, fun _ _ => rfl⟩
      · next st' h =>
        rw [h] at hframe
        exact ⟨hframe.1, fun _ _ => by rw [← hframe.2.2]⟩
      · next st' key h =>
        rw [h] at hframe
        exact ⟨hframe.1, fun _ _ => by rw [← hframe.2.2]⟩
  · exact ⟨rfl, fun _ _ => rfl⟩
  · next d key =>
    -- the handler adds its own device
    split_ifs
    · exact ⟨rfl, fun _ _ => rfl⟩
    · refine ⟨rfl, fun d' hd' => Prod.ext rfl ?_⟩
      have hne : d' ≠ d := by
        rintro rfl
        exact hd' key rfl
      simp [GatewayState.entry, hne]
  · exact ⟨rfl, fun _ _ => rfl⟩
  · next d key o =>
    -- the handler writes the entry of its own device
    have hne : ∀ d', (∀ k, (DevicePhase.serving d key).device ≠ some (d', k)) → d' ≠ d := by
      rintro d' hd' rfl
      exact hd' key rfl
    split
    · exact ⟨onDeviceException_bare _ _, fun _ _ => by rw [onDeviceException_entry]⟩
    · next m _ =>
      have hframe := acceptLegacy_frame (P := P) st m d key
      split
      · next st' e h =>
        rw [h] at hframe
        rw [onDeviceException_bare, onDeviceException_entry]
        exact ⟨hframe.1, fun d' hd' => hframe.2 d' (hne d' hd')⟩
      · next st' h =>
        rw [h] at hframe
        exact ⟨hframe.1, fun d' hd' => hframe.2 d' (hne d' hd')⟩
      · next st' b h =>
        rw [h] at hframe
        exact ⟨hframe.1, fun d' hd' => hframe.2 d' (hne d' hd')⟩
  · split
    · exact ⟨onDeviceException_bare _ _, fun _ _ => by rw [onDeviceException_entry]⟩
    · exact ⟨rfl, fun _ _ => rfl⟩
  · split
    · exact ⟨onDeviceException_bare _ _, fun _ _ => by rw [onDeviceException_entry]⟩
    · exact ⟨rfl, fun _ _ => rfl⟩
  · next d key payload io =>
    -- a failed `sendall` takes the session down
    cases io with
    | osError msg => exact absurd rfl (hev msg)
    | ok =>
      rcases hs : st.channel.sock with _ | sock
      · simp only [sendPayload, hs, raise]
        rw [onDeviceException_bare, onDeviceException_entry]
        exact ⟨rfl, fun _ _ => rfl⟩
      · simp only [sendPayload, hs]
        exact ⟨rfl, fun _ _ => rfl⟩
  · exact ⟨rfl, fun _ _ => rfl⟩

/-- The answer to a hello depends on no state of the gateway. -/
lemma deviceStep_congr_hello (st st' : GatewayState B) (o : ReadOutcome) :
    (deviceStep P cfg deviceKeys st .hello (.recv o)).2
      = (deviceStep P cfg deviceKeys st' .hello (.recv o)).2 := by
  simp only [deviceStep]
  rcases o.result >>= parseHello with e | hello
  · exact onDeviceException_congr _ _ _
  · have h := admitDevice_congr deviceKeys st st' hello
    dsimp only
    generalize admitDevice P deviceKeys st hello = x at h ⊢
    generalize admitDevice P deviceKeys st' hello = y at h ⊢
    obtain ⟨s₁, r₁⟩ := x
    obtain ⟨s₂, r₂⟩ := y
    obtain rfl : r₁ = r₂ := h
    rcases r₁ with e | _ | key
    · exact onDeviceException_congr _ _ _
    · rfl
    · rfl

/-- The answer to a reading depends on what is known of its device. -/
lemma deviceStep_congr_serving {st st' : GatewayState B} {d : PyStr} (key : B)
    (hr : st.entry d = st'.entry d) (o : ReadOutcome) :
    (deviceStep P cfg deviceKeys st (.serving d key) (.recv o)).2
        = (deviceStep P cfg deviceKeys st' (.serving d key) (.recv o)).2 ∧
      (deviceStep P cfg deviceKeys st (.serving d key) (.recv o)).1.entry d
        = (deviceStep P cfg deviceKeys st' (.serving d key) (.recv o)).1.entry d := by
  simp only [deviceStep]
  rcases o.result with e | m
  · exact ⟨onDeviceException_congr _ _ _, by simpa using hr⟩
  · have h := acceptLegacy_congr (P := P) hr m key
    dsimp only
    generalize acceptLegacy P st m d key = x at h ⊢
    generalize acceptLegacy P st' m d key = y at h ⊢
    obtain ⟨s₁, r₁⟩ := x
    obtain ⟨s₂, r₂⟩ := y
    obtain ⟨rfl, h⟩ : r₁ = r₂ ∧ s₁.entry d = s₂.entry d := h
    rcases r₁ with e | _ | b
    · exact ⟨onDeviceException_congr _ _ _, by simpa using h⟩
    · exact ⟨rfl, h⟩
    · exact ⟨rfl, h⟩

/-- While no `sendall` fails, where a handler goes next depends on its own stop, on the
session with the cloud and on what is known of its device. -/
lemma deviceStep_congr {st st' : GatewayState B} (hch : st.channel.bare = st'.channel.bare)
    (hr : ∀ d key, p.device = some (d, key) → st.entry d = st'.entry d)
    (hev : ∀ msg, ev ≠ .send (.osError msg)) :
    (deviceStep P cfg deviceKeys st p ev).2 = (deviceStep P cfg deviceKeys st' p ev).2 ∧
      ∀ d key, p.device = some (d, key) →
        (deviceStep P cfg deviceKeys st p ev).1.entry d
          = (deviceStep P cfg deviceKeys st' p ev).1.entry d := by
  have hexc : ∀ (s₁ s₂ : GatewayState B) (e : PyExc),
      (onDeviceException s₁ e).2 = (onDeviceException s₂ e).2 := onDeviceException_congr
  cases p with
  | new => cases ev <;> exact ⟨rfl, nofun⟩
  | hello =>
    cases ev with
    | recv o => exact ⟨deviceStep_congr_hello cfg deviceKeys st st' o, nofun⟩
    | _ => exact ⟨rfl, nofun⟩
  | admitting d key => cases ev <;> exact ⟨rfl, hr⟩
  | marking d key =>
    cases ev with
    | mark =>
      -- the set holds the device in both states, or in none
      have hmem : d ∈ st.seenDevices ↔ d ∈ st'.seenDevices :=
        decide_eq_decide.1 (Prod.ext_iff.1 (hr d key rfl)).2
      simp only [deviceStep, hmem]
      split_ifs
      · exact ⟨rfl, hr⟩
      · refine ⟨rfl, fun d' k hd' => ?_⟩
        cases hd'
        exact Prod.ext (Prod.ext_iff.1 (hr d key rfl)).1 (by simp [GatewayState.entry])
    | _ => exact ⟨rfl, hr⟩
  | detecting d key => cases ev <;> exact ⟨rfl, hr⟩
  | serving d key =>
    cases ev with
    | recv o =>
      obtain ⟨hphase, hentry⟩ := deviceStep_congr_serving cfg deviceKeys key (hr d key rfl) o
      refine ⟨hphase, fun d' k hd' => ?_⟩
      cases hd'
      exact hentry
    | _ => exact ⟨rfl, hr⟩
  -- the three stops of `send_reading` look at the session alone
  | forwarding d key b =>
    cases ev with
    | check =>
      have h : checkEstablished st.channel = checkEstablished st'.channel :=
        CloudChannel.bare_congr hch checkEstablished fun _ => rfl
      simp only [deviceStep, h]
      rcases checkEstablished st'.channel with e | _
      · exact ⟨hexc _ _ _, fun d' k hd' => by simpa using hr d' k hd'⟩
      · exact ⟨rfl, hr⟩
    | _ => exact ⟨rfl, hr⟩
  | checked d key b =>
    cases ev with
    | build nonce =>
      have h : buildPayload P st.channel b nonce = buildPayload P st'.channel b nonce :=
        CloudChannel.bare_congr hch (buildPayload P · b nonce) fun _ => rfl
      simp only [deviceStep, h]
      rcases buildPayload P st'.channel b nonce with e | payload
      · exact ⟨hexc _ _ _, fun d' k hd' => by simpa using hr d' k hd'⟩
      · exact ⟨rfl, hr⟩
    | _ => exact ⟨rfl, hr⟩
  | sending d key payload =>
    cases ev with
    | send io =>
      cases io with
      | osError msg => exact absurd rfl (hev msg)
      | ok =>
        have h : st.channel.sock = st'.channel.sock :=
          CloudChannel.bare_congr hch CloudChannel.sock fun _ => rfl
        rcases hs : st'.channel.sock with _ | sock
        · simp only [deviceStep, sendPayload, h, hs, raise]
          exact ⟨hexc _ _ _, fun d' k hd' => by simpa using hr d' k hd'⟩
        · simp only [deviceStep, sendPayload, h, hs]
          exact ⟨trivial, hr⟩
    | _ => exact ⟨rfl, hr⟩
  | closed escaped => cases ev <;> exact ⟨rfl, nofun⟩

/-! ### Accepted readings -/

/-- A reading that `_serve_legacy` hands to `send_reading`. -/
structure Accepted (B : Type) where
  deviceId : PyStr
  sequence : ℤ
  readingBytes : B
deriving DecidableEq

variable (P) in
/-- The reading that a step of a handler hands to `send_reading`. -/
def acceptedBy (st : GatewayState B) : DevicePhase B → DeviceEvent B → Option (Accepted B)
  | .serving d key, .recv (.message m) =>
    match decryptLegacyMessage P m key d with
    | .error _ => none
    | .ok (b, sequence) =>
      if (st.replay.checkAndUpdate d sequence).1 then some ⟨d, sequence, b⟩ else none
  | _, _ => none

variable {cfg deviceKeys} in
/-- A reading that is accepted was decrypted, and its sequence is newer than the last
one. -/
lemma acceptedBy_eq_some {st : GatewayState B} {x : Accepted B}
    (h : acceptedBy P st p ev = some x) :
    ∃ m key, ev = .recv (.message m) ∧ p = .serving x.deviceId key ∧
      decryptLegacyMessage P m key x.deviceId = .ok (x.readingBytes, x.sequence) ∧
      st.replay.last x.deviceId < x.sequence := by
  unfold acceptedBy at h
  split at h
  · next d key m =>
    split at h
    · cases h
    · next b sequence hd =>
      split_ifs at h with hc
      cases h
      rcases st.replay.checkAndUpdate_cases d sequence with ⟨-, hno⟩ | ⟨hlt, -⟩
      · rw [hno] at hc
        cases hc
      · exact ⟨m, key, rfl, rfl, hd, hlt⟩
  · cases h

/-- A step that accepts a reading records its sequence and goes on to `send_reading`. -/
lemma deviceStep_of_acceptedBy {st : GatewayState B} {x : Accepted B}
    (h : acceptedBy P st p ev = some x) :
    (deviceStep P cfg deviceKeys st p ev).1 = { st.inc .messagesReceived with
        replay := ⟨Function.update st.replay.lastSequence x.deviceId (some x.sequence)⟩ }.inc
          .messagesProcessed ∧
      ∃ key, p = .serving x.deviceId key ∧
        (deviceStep P cfg deviceKeys st p ev).2 = .forwarding x.deviceId key x.readingBytes := by
  obtain ⟨m, key, rfl, rfl, hd, hlt⟩ := acceptedBy_eq_some h
  have haccept : acceptLegacy P st m x.deviceId key = ({ st.inc .messagesReceived with
      replay := ⟨Function.update st.replay.lastSequence x.deviceId (some x.sequence)⟩ }.inc
        .messagesProcessed, .ok (some x.readingBytes)) := acceptLegacy_of_lt hd hlt
  refine ⟨?_, key, rfl, ?_⟩ <;> simp only [deviceStep, ReadOutcome.result, haccept]

/-- A step that accepts no reading leaves the replay guard alone, and does not enter
`send_reading`. -/
lemma deviceStep_of_not_acceptedBy {st : GatewayState B} (h : acceptedBy P st p ev = none) :
    (deviceStep P cfg deviceKeys st p ev).1.replay = st.replay ∧
      ∀ d key b, (deviceStep P cfg deviceKeys st p ev).2 = .forwarding d key b →
        p = .forwarding d key b := by
  have exc : ∀ (st' : GatewayState B) (e : PyExc), st'.replay = st.replay →
      (onDeviceException st' e).1.replay = st.replay ∧
        ∀ d key b, (onDeviceException st' e).2 = .forwarding d key b → p = .forwarding d key b := by
    intro st' e hst
    refine ⟨by rw [onDeviceException_replay, hst], fun d key b hp => ?_⟩
    obtain ⟨escaped, hclosed⟩ := onDeviceException_snd st' e
    rw [hclosed] at hp
    cases hp
  unfold deviceStep
  split
  · exact ⟨rfl, nofun⟩
  · split
    · exact exc _ _ rfl
    · next hello _ =>
      have hframe := admitDevice_frame deviceKeys st hello
      split
      · next st' e hm =>
        rw [hm] at hframe
        exact exc _ _ hframe.2.1
      · next st' hm =>
        rw [hm] at hframe
        exact ⟨hframe.2.1, nofun⟩
      · next st' key hm =>
        rw [hm] at hframe
        exact ⟨hframe.2.1, nofun⟩
  · exact ⟨rfl, nofun⟩
  · split_ifs <;> exact ⟨rfl, nofun⟩
  · exact ⟨rfl, nofun⟩
  · next d key o =>
    split
    · exact exc _ _ rfl
    · next m hm =>
      obtain rfl := readOutcome_eq_ok hm
      rcases acceptLegacy_cases (P := P) st m d key with hr | ⟨e, hr⟩ | ⟨b, sequence, hd, hlt, hr⟩
      · simp only [hr]
        exact ⟨rfl, nofun⟩
      · simp only [hr]
        exact exc _ _ rfl
      · -- the message would have been accepted
        rw [acceptedBy, hd] at h
        simp only [ReplayGuard.checkAndUpdate_of_lt hlt, if_true] at h
        cases h
  · split
    · exact exc _ _ rfl
    · exact ⟨rfl, nofun⟩
  · split
    · exact exc _ _ rfl
    · exact ⟨rfl, nofun⟩
  · dsimp only
    split
    · exact exc _ _ rfl
    · exact ⟨rfl, nofun⟩
  · exact ⟨rfl, fun d key b hp => hp⟩

variable {cfg} in
/-- A handler serves devices under their registered keys. -/
lemma Moves.registered {st : GatewayState B} {p' : DevicePhase B}
    (hm : Moves deviceKeys st p ev p')
    (h : ∀ d key, p.device = some (d, key) → deviceKeys.keys d = some key) :
    ∀ d key, p'.device = some (d, key) → deviceKeys.keys d = some key := by
  cases hm with
  | accept => exact nofun
  | ends => exact nofun
  | admitted _ hkey _ =>
    intro d key hd
    cases hd
    exact hkey
  | _ => exact h

end PqcBridge.Gateway
