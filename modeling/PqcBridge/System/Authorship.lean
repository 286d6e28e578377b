/-
Who wrote the readings that the cloud stores.

One gateway and one cloud, with any number of device connections and any number of cloud
connections, over networks that deliver anything.  `produced` collects what the devices
encrypt under their keys, `forwarded` what the gateway encrypts for the cloud.  The AEAD
is ideal: a ciphertext opens under a key only if it was made under that key, with the
same associated data (`Admissible`).

* `stored_readings_authored`: while every reading that the gateway accepts names its
  device and its sequence inside as it does outside, whatever the cloud stores was
  written by the device that it names.  Nothing in the code compares the two, so that a
  device can write in the name of another one.
-/
import PqcBridge.Device.Device

namespace PqcBridge.System

open Python Protocol Crypto Runs

variable {B : Type}

/-! ### The system -/

/-- One encryption: the key, the associated data and the plaintext. -/
structure Sealed (B : Type) where
  key : B
  aad : B
  plaintext : B
deriving DecidableEq

/-- The gateway with its device handlers, the cloud, and what has been encrypted. -/
structure State (B : Type) where
  gateway : Gateway.GatewayState B
  devices : ℕ → Gateway.DevicePhase B
  cloud : Cloud.ServerState B
  produced : List (Sealed B)
  forwarded : List (Sealed B)

/-- What can happen. -/
inductive Event (B : Type) where
  /-- the holder of a device key encrypts something under it -/
  | produce (x : Sealed B)
  /-- the handler of device connection `c` moves -/
  | device (c : ℕ) (ev : Gateway.DeviceEvent B)
  /-- the reconnect threads and the network leave the cloud channel like this -/
  | channel (ch : Gateway.CloudChannel B)
  /-- the handler of cloud connection `c` moves -/
  | cloud (c : ℕ) (ev : Cloud.ConnEvent)

variable {P : Primitives B} (gateway : Gateway.GatewayConfig B) (deviceKeys : KeyRegistry P)
  (cloud : Cloud.CloudConfig P) (addr : ℕ → Cloud.Addr)

variable (P) in
/-- What the gateway encrypts in a step of a device handler: `build_protected_reading`
encrypts under the session key, with the session id as associated data. -/
def sealedBy (st : Gateway.GatewayState B) :
    Gateway.DevicePhase B → Gateway.DeviceEvent B → List (Sealed B)
  | .checked _ _ b, .build nonce =>
    match st.channel.sessionKey, st.channel.sessionId,
      Gateway.buildPayload P st.channel b nonce with
    | some key, some sid, .ok _ => [⟨key, P.utf8 sid, b⟩]
    | _, _, _ => []
  | _, _ => []

/-- One step of the system. -/
def step (s : State B) : Event B → State B
  | .produce x => { s with produced := x :: s.produced }
  | .device c ev =>
    { s with
      gateway := (Gateway.deviceStep P gateway deviceKeys s.gateway (s.devices c) ev).1
      devices := Function.update s.devices c
        (Gateway.deviceStep P gateway deviceKeys s.gateway (s.devices c) ev).2
      forwarded := sealedBy P s.gateway (s.devices c) ev ++ s.forwarded }
  | .channel ch => { s with gateway := { s.gateway with channel := ch } }
  | .cloud c ev => { s with cloud := Cloud.step cloud addr s.cloud (c, ev) }

/-- Before the first connection. -/
def initial (ch : Gateway.CloudChannel B) (maxReadings : ℕ) (log : List PyStr) : State B where
  gateway := ⟨ch, .empty, [], 0⟩
  devices := fun _ => .new
  cloud := Cloud.initial maxReadings log
  produced := []
  forwarded := []

/-- The AEAD is ideal, and the keys are where they belong: what opens under a device key
was produced by a device, and what opens under the key of a session was encrypted by the
gateway. -/
structure Admissible (P : Primitives B) (s : State B) (ev : Event B) : Prop where
  device : ∀ c m d key aad b, ev = .device c (.recv (.message m)) →
    s.devices c = .serving d key → decryptLegacyPayload P key m aad = .ok b →
      ⟨key, aad, b⟩ ∈ s.produced
  session : ∀ c m gid sid key aad b, ev = .cloud c (.recv (.message m)) →
    s.cloud.phase c = .receiving gid sid key → decryptSessionPayload P key m aad = .ok b →
      ⟨key, aad, b⟩ ∈ s.forwarded

/-! ### Authorship -/

variable {deviceKeys}

/-- A reading that the cloud would store: its `sequence` is an integer and its
`device_id` can be a dictionary key. -/
def Storable (r : JsonDict) : Prop :=
  (∃ sequence, r.field "sequence" = some (.int sequence)) ∧
    ∃ v, r.field "device_id" = some v ∧ v.hashable = true

/-- The reading was encrypted under the key of the device that it names, with the device
and the sequence that it names as associated data. -/
def Authored (deviceKeys : KeyRegistry P) (produced : List (Sealed B)) (r : JsonDict) : Prop :=
  ∃ d sequence key aad b, r.field "device_id" = some (.str d) ∧
    r.field "sequence" = some (.int sequence) ∧ deviceKeys.keys d = some key ∧
    legacyMessageAad P d sequence = .ok aad ∧ ⟨key, aad, b⟩ ∈ produced ∧
    parseReadingBytes P b = .ok r

/-- The reading that the gateway accepts names, if the cloud would store it, the device
of the connection and the sequence of the message. -/
def InnerMatches (P : Primitives B) (s : State B) (ev : Event B) : Prop :=
  ∀ c m d key b sequence r, ev = .device c (.recv (.message m)) → s.devices c = .serving d key →
    Gateway.decryptLegacyMessage P m key d = .ok (b, sequence) →
    s.gateway.replay.last d < sequence → parseReadingBytes P b = .ok r → Storable r →
      r.field "device_id" = some (.str d) ∧ r.field "sequence" = some (.int sequence)

/-- Every reading that the plaintext could be stored as was written by the device it
names. -/
def GoodPlaintext (deviceKeys : KeyRegistry P) (produced : List (Sealed B)) (b : B) : Prop :=
  ∀ r, parseReadingBytes P b = .ok r → Storable r → Authored deviceKeys produced r

/-- The invariant. -/
structure Ok (deviceKeys : KeyRegistry P) (s : State B) : Prop where
  registered : ∀ c d key, (s.devices c).device = some (d, key) → deviceKeys.keys d = some key
  accepted : ∀ c b, (s.devices c).plaintext = some b → GoodPlaintext deviceKeys s.produced b
  forwarded : ∀ x ∈ s.forwarded, GoodPlaintext deviceKeys s.produced x.plaintext
  storing : ∀ c gid sid key r, s.cloud.phase c = .storing gid sid key r →
    Authored deviceKeys s.produced r
  stored : ∀ r ∈ s.cloud.shared.store.history, Authored deviceKeys s.produced r

lemma Authored.mono {produced produced' : List (Sealed B)} {r : JsonDict}
    (h : Authored deviceKeys produced r) (hsub : ∀ x ∈ produced, x ∈ produced') :
    Authored deviceKeys produced' r := by
  obtain ⟨d, sequence, key, aad, b, hd, hs, hk, ha, hb, hr⟩ := h
  exact ⟨d, sequence, key, aad, b, hd, hs, hk, ha, hsub _ hb, hr⟩

lemma GoodPlaintext.mono {produced produced' : List (Sealed B)} {b : B}
    (h : GoodPlaintext deviceKeys produced b) (hsub : ∀ x ∈ produced, x ∈ produced') :
    GoodPlaintext deviceKeys produced' b :=
  fun r hr hs => (h r hr hs).mono hsub

/-! ### The invariant -/

variable {gateway cloud addr}

/-- What the gateway encrypts was accepted. -/
lemma sealedBy_plaintext {st : Gateway.GatewayState B} {p : Gateway.DevicePhase B}
    {ev : Gateway.DeviceEvent B} {x : Sealed B} (hx : x ∈ sealedBy P st p ev) :
    p.plaintext = some x.plaintext := by
  unfold sealedBy at hx
  split at hx
  · split at hx
    · rw [List.mem_singleton] at hx
      rw [hx]
      rfl
    · cases hx
  · cases hx

/-- A reading that the gateway accepts is good. -/
lemma Ok.goodPlaintext {s : State B} (h : Ok deviceKeys s) {c : ℕ} {m : JsonDict} {d : PyStr}
    {key b : B} {sequence : ℤ} (ha : Admissible P s (.device c (.recv (.message m))))
    (hin : InnerMatches P s (.device c (.recv (.message m)))) (hp : s.devices c = .serving d key)
    (hd : Gateway.decryptLegacyMessage P m key d = .ok (b, sequence))
    (hlt : s.gateway.replay.last d < sequence) : GoodPlaintext deviceKeys s.produced b := by
  intro r hr hs
  obtain ⟨-, -, -, aad, haad, hopen⟩ := Gateway.decryptLegacyMessage_eq_ok hd
  have hproduced := ha.device c m d key aad b rfl hp hopen
  obtain ⟨hdev, hseq⟩ := hin c m d key b sequence r rfl hp hd hlt hr hs
  have hkey := h.registered c d key (by rw [hp]; rfl)
  exact ⟨d, sequence, key, aad, b, hdev, hseq, hkey, haad, hproduced, hr⟩

/-- A reading that the cloud accepts was written by the device it names. -/
lemma Ok.authored {s : State B} (h : Ok deviceKeys s) {c : ℕ} {m : JsonDict} {gid sid : PyStr}
    {key : B} {r : JsonDict} {sequence : ℤ} {deviceId : HashKey}
    (ha : Admissible P s (.cloud c (.recv (.message m))))
    (hp : s.cloud.phase c = .receiving gid sid key)
    (hd : Cloud.decryptProtectedReading P m key sid = .ok r)
    (hseq : r.field "sequence" = some (.int sequence))
    (hk : (r.item "device_id" >>= Json.hashKey) = .ok deviceId) :
    Authored deviceKeys s.produced r := by
  obtain ⟨aad, b, -, hopen, hr⟩ := Cloud.decryptProtectedReading_eq_ok hd
  have hforwarded := ha.session c m gid sid key aad b rfl hp hopen
  refine h.forwarded _ hforwarded r hr ⟨⟨sequence, hseq⟩, ?_⟩
  obtain ⟨v, hv, hhash⟩ := bind_eq_ok.1 hk
  exact ⟨v, item_eq_ok.1 hv, by rw [Json.hashable, hhash]; rfl⟩

/-- The step lemma, for the handler of a device. -/
lemma Ok.step_device {s : State B} (h : Ok deviceKeys s) {c : ℕ} {ev : Gateway.DeviceEvent B}
    (ha : Admissible P s (.device c ev)) (hin : InnerMatches P s (.device c ev)) :
    Ok deviceKeys (step gateway deviceKeys cloud addr s (.device c ev)) := by
  have hm := Gateway.deviceStep_moves gateway deviceKeys s.gateway (s.devices c) ev
  refine ⟨?_, fun c' b hc' => ?_, fun x hx => ?_, h.storing, h.stored⟩
  -- a connection serves a device whose key is registered
  · exact (Function.forall_update_iff s.devices fun _ p => ∀ d key, p.device = some (d, key) →
      deviceKeys.keys d = some key).2
        ⟨hm.registered deviceKeys (h.registered c), fun c' _ => h.registered c'⟩
  -- what a handler carries to `send_reading` was decrypted
  · replace hc' : (Function.update s.devices c _ c').plaintext = some b := hc'
    by_cases hcc : c' = c
    · rw [hcc, Function.update_self] at hc'
      generalize (Gateway.deviceStep P gateway deviceKeys s.gateway (s.devices c) ev).2 = p'
        at hm hc'
      generalize hp : s.devices c = p at hm
      have hold := h.accepted c b
      rw [hp] at hold
      cases hm with
      | idle => exact hold hc'
      | @accepted o m d key b' sequence ho hd hlt =>
        cases hc'
        rw [readOutcome_eq_ok ho] at ha hin
        exact h.goodPlaintext ha hin hp hd hlt
      | checks => exact hold hc'
      | _ => cases hc'
    · rw [Function.update_of_ne hcc] at hc'
      exact h.accepted c' b hc'
  · replace hx : x ∈ sealedBy P s.gateway (s.devices c) ev ++ s.forwarded := hx
    rcases List.mem_append.1 hx with hx | hx
    · exact h.accepted c _ (sealedBy_plaintext hx)
    · exact h.forwarded x hx

/-- The step lemma, for the handler of the cloud. -/
lemma Ok.step_cloud {s : State B} (h : Ok deviceKeys s) {c : ℕ} {ev : Cloud.ConnEvent}
    (ha : Admissible P s (.cloud c ev)) :
    Ok deviceKeys (step gateway deviceKeys cloud addr s (.cloud c ev)) := by
  have hm := Cloud.handlerStep_moves cloud c (addr c) s.cloud.shared (s.cloud.phase c) ev
  refine ⟨h.registered, h.accepted, h.forwarded, fun c' gid sid key r hc' => ?_, fun r hr => ?_⟩
  · replace hc' : Function.update s.cloud.phase c _ c' = .storing gid sid key r := hc'
    by_cases hcc : c' = c
    · rw [hcc, Function.update_self] at hc'
      rcases hm.storing_cases hc' with hp | ⟨hp, m, sequence, deviceId, hev, hd, hseq, hk⟩
      · exact h.storing c gid sid key r hp
      · rw [hev] at ha
        exact h.authored ha hp hd hseq hk
    · rw [Function.update_of_ne hcc] at hc'
      exact h.storing c' gid sid key r hc'
  · replace hr : r ∈ (Cloud.handlerStep cloud c (addr c) s.cloud.shared (s.cloud.phase c)
      ev).1.store.history := hr
    rcases hm.store_cases with hst | ⟨gid, sid, key, r', hp, hst⟩
    · rw [hst] at hr
      exact h.stored r hr
    · rw [hst, Cloud.ReadingStore.add_history, List.mem_append, List.mem_singleton] at hr
      rcases hr with hr | rfl
      · exact h.stored r hr
      · exact h.storing c gid sid key r hp

/-- The step lemma. -/
lemma Ok.step {s : State B} (h : Ok deviceKeys s) {ev : Event B} (ha : Admissible P s ev)
    (hin : InnerMatches P s ev) : Ok deviceKeys (step gateway deviceKeys cloud addr s ev) := by
  cases ev with
  | produce x =>
    have hsub : ∀ y ∈ s.produced, y ∈ x :: s.produced := fun y hy => List.mem_cons_of_mem x hy
    exact ⟨h.registered, fun c b hb => (h.accepted c b hb).mono hsub,
      fun y hy => (h.forwarded y hy).mono hsub,
      fun c gid sid key r hp => (h.storing c gid sid key r hp).mono hsub,
      fun r hr => (h.stored r hr).mono hsub⟩
  | device c ev => exact h.step_device ha hin
  | channel ch => exact ⟨h.registered, h.accepted, h.forwarded, h.storing, h.stored⟩
  | cloud c ev => exact h.step_cloud ha

variable (gateway deviceKeys cloud addr)

/-- **Authorship of stored readings.**  In every state of every run in which the readings
that the gateway accepts name their device and their sequence inside as they do outside,
every reading that the cloud has stored was written by the device it names. -/
theorem stored_readings_authored (ch : Gateway.CloudChannel B) (maxReadings : ℕ)
    (log : List PyStr) {τ : List (Event B)}
    (ha : Along (step gateway deviceKeys cloud addr) (Admissible P)
      (initial ch maxReadings log) τ)
    (hin : Along (step gateway deviceKeys cloud addr) (InnerMatches P)
      (initial ch maxReadings log) τ) :
    ∀ r ∈ (run (step gateway deviceKeys cloud addr) (initial ch maxReadings log)
        τ).cloud.shared.store.history,
      Authored deviceKeys
        (run (step gateway deviceKeys cloud addr) (initial ch maxReadings log) τ).produced r := by
  have hok : Ok deviceKeys
      (run (step gateway deviceKeys cloud addr) (initial ch maxReadings log) τ) := by
    refine inv_run (J := Ok deviceKeys) (fun _ _ h hev => h.step hev.1 hev.2) ?_
      (along_and.2 ⟨ha, hin⟩)
    exact ⟨nofun, nofun, nofun, nofun, nofun⟩
  exact hok.stored

/-! ### The demo -/

section Demo

open Device Handshake

variable {table : ℕ → Option Json} {s : State Bytes}

/-- What opens under a device key or a session key is what a message carries. -/
lemma admissible_of_ciphertext {ev : Event Bytes} {m : JsonDict} {key nonce b aad : Bytes}
    (hc : m.field "ciphertext" = some (.str (Ideal.code (.aead key nonce b aad))))
    (hdevice : ∀ c m', ev = .device c (.recv (.message m')) →
      m' = m ∧ ⟨key, aad, b⟩ ∈ s.produced)
    (hcloud : ∀ c m', ev = .cloud c (.recv (.message m')) →
      m' = m ∧ ⟨key, aad, b⟩ ∈ s.forwarded) :
    Admissible (ideal table) s ev := by
  refine ⟨fun c m' d key' aad' b' hev _ hopen => ?_,
    fun c m' gid sid key' aad' b' hev _ hopen => ?_⟩
  · obtain ⟨rfl, hmem⟩ := hdevice c m' hev
    obtain ⟨rfl, rfl, rfl⟩ := opens_of_ciphertext hc hopen
    exact hmem
  · obtain ⟨rfl, hmem⟩ := hcloud c m' hev
    obtain ⟨rfl, rfl, rfl⟩ := opens_of_ciphertext hc hopen
    exact hmem

/-- A message that carries no envelope opens under no key. -/
lemma admissible_of_no_nonce {ev : Event Bytes}
    (hdevice : ∀ c m, ev = .device c (.recv (.message m)) → m.field "nonce" = none)
    (hcloud : ∀ c m, ev = .cloud c (.recv (.message m)) → m.field "nonce" = none) :
    Admissible (ideal table) s ev := by
  have opens : ∀ {cls key aad b m}, m.field "nonce" = none →
      aeadDecrypt (ideal table) key m aad cls ≠ .ok b := by
    intro cls key aad b m hm h
    obtain ⟨⟨n, hn⟩, -⟩ := aeadDecrypt_ideal h
    simp only [envelopeField, hm] at hn
    cases hn
  exact ⟨fun c m d key aad b hev _ h => absurd h (opens (hdevice c m hev)),
    fun c m gid sid key aad b hev _ h => absurd h (opens (hcloud c m hev))⟩

/-- An event that delivers no message. -/
lemma admissible_of_quiet {ev : Event Bytes} (hdevice : ∀ c m, ev ≠ .device c (.recv (.message m)))
    (hcloud : ∀ c m, ev ≠ .cloud c (.recv (.message m))) : Admissible (ideal table) s ev :=
  ⟨fun c m _ _ _ _ h => absurd h (hdevice c m), fun c m _ _ _ _ _ h => absurd h (hcloud c m)⟩

/-- A step of the demo. -/
def demoStep : State Bytes → Event Bytes → State Bytes :=
  step Gateway.demoGateway (demoDeviceKeys demoTable) (demoCloud demoTable) demoAddr

/-- The handshake with the cloud, and the hello of the first device. -/
def demoHellos : List (Event Bytes) :=
  (handshakeEvents 0 demoRequest (demoEncaps 0 demoSessionId)).map (fun e => .cloud e.1 e.2)
    ++ [.device 0 .accept, .device 0 (.recv (.message (demoHello (lit "dev-01") 1))),
      .device 0 .activate, .device 0 .mark, .device 0 .detect]

/-- The first device encrypts the record `r`, and the gateway forwards it. -/
def demoForwards (r : ℕ) : List (Event Bytes) :=
  [.produce ⟨Demo.deviceKey 1, demoAad (lit "dev-01") 1, .data (.record r)⟩,
    .device 0 (.recv (.message (demoLegacy (lit "dev-01") 1 1 r))),
    .device 0 .check, .device 0 (.build (Demo.nonce 1)), .device 0 (.send .ok)]

/-- The cloud receives the record `r`. -/
def demoStores (r : ℕ) : List (Event Bytes) :=
  [.cloud 0 (.recv (.message (demoReading 0 r demoSessionId))), .cloud 0 .store]

lemma admissible_demo {r : ℕ}
    (hforwarded : ⟨demoKey 0, .data (.text demoSessionId), .data (.record r)⟩ ∈
      (run demoStep (initial demoChannel 100 []) (demoHellos ++ demoForwards r)).forwarded) :
    Along demoStep (Admissible (ideal demoTable)) (initial demoChannel 100 [])
      (demoHellos ++ demoForwards r ++ demoStores r) := by
  refine along_append.2 ⟨along_append.2 ⟨along_of_forall fun s ev hev => ?_, ?_⟩, ?_⟩
  · simp only [demoHellos, handshakeEvents, registrationEvents, List.cons_append, List.nil_append,
      List.map_cons, List.map_nil, List.mem_cons, List.not_mem_nil, or_false] at hev
    rcases hev with rfl | rfl | rfl | rfl | rfl | rfl | rfl | rfl | rfl | rfl
    · exact admissible_of_quiet (by simp) (by simp)
    · exact admissible_of_no_nonce (by simp) fun c m h => by cases h; rfl
    · exact admissible_of_quiet (by simp) (by simp)
    · exact admissible_of_no_nonce (by simp) fun c m h => by cases h; rfl
    · exact admissible_of_quiet (by simp) (by simp)
    · exact admissible_of_quiet (by simp) (by simp)
    · exact admissible_of_no_nonce (fun c m h => by cases h; rfl) (by simp)
    · exact admissible_of_quiet (by simp) (by simp)
    · exact admissible_of_quiet (by simp) (by simp)
    · exact admissible_of_quiet (by simp) (by simp)
  · refine ⟨admissible_of_quiet (by simp) (by simp), ?_, admissible_of_quiet (by simp) (by simp),
      admissible_of_quiet (by simp) (by simp), admissible_of_quiet (by simp) (by simp), trivial⟩
    refine admissible_of_ciphertext (m := demoLegacy (lit "dev-01") 1 1 r) rfl
      (fun c m h => ?_) (by simp)
    cases h
    exact ⟨rfl, List.mem_cons_self⟩
  · refine ⟨?_, admissible_of_quiet (by simp) (by simp), trivial⟩
    refine admissible_of_ciphertext (m := demoReading 0 r demoSessionId) rfl (by simp)
      fun c m h => ?_
    cases h
    exact ⟨rfl, hforwarded⟩

lemma innerMatches_demo {s : State Bytes} {c : ℕ} :
    InnerMatches (ideal demoTable) s
      (.device c (.recv (.message (demoLegacy (lit "dev-01") 1 1 1)))) := by
  intro c' m d key b sequence r hev _ hd _ hr _
  cases hev
  obtain ⟨-, hdev, hseq, aad, -, hopen⟩ := Gateway.decryptLegacyMessage_eq_ok hd
  obtain ⟨-, -, rfl⟩ := opens_of_ciphertext (m := demoLegacy (lit "dev-01") 1 1 1) rfl hopen
  cases hr
  cases hseq
  have hd : lit "dev-01" = d := of_decide_eq_true hdev
  rw [← hd]
  exact ⟨rfl, rfl⟩

/-- The readings of the first device name it. -/
lemma along_innerMatches_demo : Along demoStep (InnerMatches (ideal demoTable))
    (initial demoChannel 100 []) (demoHellos ++ demoForwards 1 ++ demoStores 1) := by
  refine along_of_forall fun s ev hev c m d key b sequence r hdev => ?_
  rw [hdev] at hev
  have hm : m = demoHello (lit "dev-01") 1 ∨ m = demoLegacy (lit "dev-01") 1 1 1 := by
    simp only [demoHellos, demoForwards, demoStores, handshakeEvents, registrationEvents,
      List.cons_append, List.nil_append, List.map_cons, List.map_nil, List.mem_cons,
      List.not_mem_nil, or_false, reduceCtorEq, false_or, Event.device.injEq,
      Gateway.DeviceEvent.recv.injEq, ReadOutcome.message.injEq] at hev
    tauto
  rcases hm with rfl | rfl
  · intro _ hd
    cases hd
  · exact innerMatches_demo c _ d key b sequence r rfl

/-- A reading that names its device is stored as its own. -/
theorem stored_readings_authored_demo :
    (run demoStep (initial demoChannel 100 [])
        (demoHellos ++ demoForwards 1 ++ demoStores 1)).cloud.shared.store.history ≠ [] ∧
      ∀ r ∈ (run demoStep (initial demoChannel 100 [])
          (demoHellos ++ demoForwards 1 ++ demoStores 1)).cloud.shared.store.history,
        Authored (demoDeviceKeys demoTable) (run demoStep (initial demoChannel 100 [])
          (demoHellos ++ demoForwards 1 ++ demoStores 1)).produced r := by
  have ha : Along demoStep (Admissible (ideal demoTable)) (initial demoChannel 100 [])
      (demoHellos ++ demoForwards 1 ++ demoStores 1) := admissible_demo (by decide +kernel)
  refine ⟨by decide +kernel, ?_⟩
  unfold demoStep at ha ⊢
  exact stored_readings_authored Gateway.demoGateway (demoDeviceKeys demoTable)
    (demoCloud demoTable) demoAddr demoChannel 100 [] ha along_innerMatches_demo

/-- The first device writes a reading in the name of the second one under its own key,
and the cloud stores it. -/
theorem forged_reading_stored :
    Along demoStep (Admissible (ideal demoTable)) (initial demoChannel 100 [])
        (demoHellos ++ demoForwards 2 ++ demoStores 2) ∧
      ∃ r ∈ (run demoStep (initial demoChannel 100 [])
          (demoHellos ++ demoForwards 2 ++ demoStores 2)).cloud.shared.store.history,
        ¬ Authored (demoDeviceKeys demoTable) (run demoStep (initial demoChannel 100 [])
          (demoHellos ++ demoForwards 2 ++ demoStores 2)).produced r := by
  refine ⟨admissible_demo (by decide +kernel), ?_⟩
  have hstored : (run demoStep (initial demoChannel 100 [])
      (demoHellos ++ demoForwards 2 ++ demoStores 2)).cloud.shared.store.history.any
        (fun r => isStr (r.field "device_id") (lit "dev-02")) = true := by decide +kernel
  have hproduced : (run demoStep (initial demoChannel 100 [])
      (demoHellos ++ demoForwards 2 ++ demoStores 2)).produced.all
        (fun x => x.key ≠ Demo.deviceKey 2) = true := by decide +kernel
  obtain ⟨r, hr, hname⟩ := List.any_eq_true.1 hstored
  refine ⟨r, hr, ?_⟩
  rintro ⟨d, sequence, key, aad, b, hd, -, hkey, -, hmem, -⟩
  rw [hd] at hname
  have hd2 : d = lit "dev-02" := of_decide_eq_true hname
  rw [hd2] at hkey
  cases hkey
  have := List.all_eq_true.1 hproduced _ hmem
  exact of_decide_eq_true this rfl

end Demo

end PqcBridge.System
