/-
One device on its way to the cloud.

* `runStep_makes`: what a step of `run` sends and generates;
* `Flow`: the readings of a device that have not reached the cloud, from the device over
  its lines and its handler to the wire;
* `Flow.device`, `Flow.admits`, `Flow.takes`, `Flow.forwards`, `Flow.arrives`: how they
  move on.
-/
import PqcBridge.Common.Encoding
import PqcBridge.System.Delivery.System

namespace PqcBridge.Delivery

open Python Protocol Crypto Runs Handshake Device
open Gateway (DevicePhase DeviceEvent GatewayState deviceStep)
open Isolation (Session Opens delivered sentBy)

variable {B : Type} {P : Primitives B}

/-! ### Readings and lines of a device -/

/-- A reading of the device with the sequence `n`. -/
def IsReading (P : Primitives B) (deviceId : PyStr) (n : ℤ) (r : JsonDict) : Prop :=
  ∃ timestamp temperature, r = generateReading deviceId n timestamp temperature ∧ LoadsBack P r

/-- Readings of the device with the sequences that follow `n`. -/
def Numbered (P : Primitives B) (deviceId : PyStr) : ℤ → List JsonDict → Prop
  | _, [] => True
  | n, r :: rs => IsReading P deviceId (n + 1) r ∧ Numbered P deviceId (n + 1) rs

/-- The line carries the reading. -/
def Carries (P : Primitives B) (deviceId : PyStr) (key : B) (m r : JsonDict) : Prop :=
  Fits P m ∧ ∃ n, IsReading P deviceId n r ∧
    Gateway.decryptLegacyMessage P m key deviceId = .ok (readingToBytes P r, n)

/-- The line is the hello of the device. -/
def IsHello (P : Primitives B) (deviceId : PyStr) (key : B) (m : JsonDict) : Prop :=
  Fits P m ∧ ∃ nonce, P.len nonce = nonceLength ∧ helloMessage P deviceId key nonce = .ok m

variable {deviceId : PyStr} {key : B} {n k : ℤ} {r m : JsonDict} {rs ts : List JsonDict}

lemma IsReading.sequence (h : IsReading P deviceId n r) :
    r.field "sequence" = some (.int n) := by
  obtain ⟨timestamp, temperature, rfl, -⟩ := h
  rfl

lemma IsReading.device (h : IsReading P deviceId n r) :
    r.field "device_id" = some (.str deviceId) := by
  obtain ⟨timestamp, temperature, rfl, -⟩ := h
  rfl

lemma IsReading.unique (h : IsReading P deviceId n r) (h' : IsReading P deviceId k r) : n = k := by
  have heq := h.sequence.symm.trans h'.sequence
  simpa using heq

/-- The bytes of a reading are parsed to the reading. -/
lemma IsReading.parses (h : IsReading P deviceId n r) :
    parseReadingBytes P (readingToBytes P r) = .ok r := by
  obtain ⟨timestamp, temperature, rfl, hload⟩ := h
  exact parseReadingBytes_readingToBytes hload

lemma numbered_append : Numbered P deviceId n (rs ++ ts)
    ↔ Numbered P deviceId n rs ∧ Numbered P deviceId (n + rs.length) ts := by
  induction rs generalizing n with
  | nil => simp [Numbered]
  | cons r rs ih =>
    have hlen : n + 1 + rs.length = n + (r :: rs).length := by
      rw [List.length_cons]
      push_cast
      omega
    rw [List.cons_append, Numbered, Numbered, ih, hlen, and_assoc]

lemma numbered_singleton : Numbered P deviceId n [r] ↔ IsReading P deviceId (n + 1) r := by
  simp [Numbered]

/-- What the device has built is a line that carries its reading. -/
lemma carries_legacyReading (hP : P.Lawful) (hkey : P.len key = keyLength) {nonce : B}
    (hnonce : P.len nonce = nonceLength) (hr : IsReading P deviceId n r)
    (hm : legacyReading P deviceId key n (readingToBytes P r) nonce = .ok m) (hfits : Fits P m) :
    Carries P deviceId key m r := by
  have hid : validUnicode deviceId = true := by
    obtain ⟨aad, haad, -⟩ := bind_eq_ok.1 hm
    exact (legacyMessageAad_eq_ok haad).1
  exact ⟨hfits, n, hr, decryptLegacyMessage_legacyReading hP hkey hnonce hid hr.parses hm⟩

/-! ### The steps of a device -/

/-- The sequence of the last reading. -/
def counter : RunPc B → ℤ
  | .stopped => 0
  | .loaded n => n
  | .connected n => n
  | .looping n => n
  | .built n _ _ => n
  | .sent n => n

/-- Whether the process has sent its hello. -/
def running : RunPc B → Bool
  | .looping _ => true
  | .built _ _ _ => true
  | .sent _ => true
  | _ => false

/-- What a step of `run` does: where it stood, where it stands, the lines that it sends and
the readings that it generates. -/
inductive Makes (P : Primitives B) (deviceId : PyStr) (key : B) :
    RunPc B → RunPc B → List JsonDict → List JsonDict → Prop
  | idle (pc : RunPc B) : Makes P deviceId key pc pc [] []
  | connects (n : ℤ) : Makes P deviceId key (.loaded n) (.connected n) [] []
  | greets {n : ℤ} {m : JsonDict} : IsHello P deviceId key m →
      Makes P deviceId key (.connected n) (.looping n) [m] []
  | builds {n : ℤ} {r m : JsonDict} : IsReading P deviceId (n + 1) r → Carries P deviceId key m r →
      Makes P deviceId key (.looping n) (.built (n + 1) r m) [] [r]
  | sends (n : ℤ) (r m : JsonDict) : Makes P deviceId key (.built n r m) (.sent n) [m] []
  | saves (n : ℤ) : Makes P deviceId key (.sent n) (.looping n) [] []

/-- Where nothing fails, `run` does nothing else. -/
lemma runStep_makes (hP : P.Lawful) (hkey : P.len key = keyLength) {p : Process B}
    {ev : RunEvent B} (hev : Proceeds P deviceId key p.pc ev) :
    Makes P deviceId key p.pc (runStep P deviceId key p ev).pc
      (sentByDevice P deviceId key p.pc ev) (generatedBy deviceId p.pc ev) := by
  obtain ⟨file, pc⟩ := p
  -- an event that comes at another stop is an idle one
  cases hev with
  | connect =>
    cases pc with
    | loaded n => exact .connects n
    | _ => exact .idle _
  | @hello nonce hnonce hfits =>
    cases pc with
    | connected n =>
      have hm := @helloMessage_eq _ P deviceId key nonce hkey
      generalize [_, _, _, _, _] = m at hm
      have hpc : (runStep P deviceId key ⟨file, .connected n⟩ (.hello nonce .ok)).pc
          = .looping n := by
        simp only [runStep, hm]
      have hsent : sentByDevice P deviceId key (.connected n) (.hello nonce .ok) = [m] := by
        simp [sentByDevice, helloSent, readingSent, hm, SendOutcome.arrives]
      rw [hpc, hsent]
      exact .greets ⟨hfits m hm, nonce, hnonce, hm⟩
    | _ => exact .idle _
  | @build timestamp temperature nonce hnonce hbuild =>
    cases pc with
    | looping n =>
      obtain ⟨hload, m, hm, hfits⟩ := hbuild n rfl
      have hr : IsReading P deviceId (n + 1)
          (generateReading deviceId (n + 1) timestamp temperature) :=
        ⟨timestamp, temperature, rfl, hload⟩
      have hpc : (runStep P deviceId key ⟨file, .looping n⟩
          (.build timestamp temperature nonce)).pc = .built (n + 1)
            (generateReading deviceId (n + 1) timestamp temperature) m := by
        simp only [runStep, hm]
      rw [hpc]
      exact .builds hr (carries_legacyReading hP hkey hnonce hr hm hfits)
    | _ => exact .idle _
  | send =>
    cases pc with
    | built n r m => exact .sends n r m
    | _ => exact .idle _
  | save =>
    cases pc with
    | sent n => exact .saves n
    | _ => exact .idle _

/-! ### One device and its handler -/

/-- What concerns one device: its process, what it has sent, its handler, the entries of the
two replay guards, and where its readings are. -/
structure View (B : Type) where
  pc : RunPc B
  lines : List JsonDict
  handler : DevicePhase B
  gatewayLast : ℤ
  cloudLast : ℤ
  /-- the readings on the way to the cloud -/
  transit : List JsonDict
  /-- the reading that the handler holds -/
  hand : Option JsonDict
  /-- the readings that the handler has not read -/
  lane : List JsonDict

/-- Device and handler on the lines between them; `up` are the readings in the lines. -/
inductive Stage (P : Primitives B) (deviceId : PyStr) (key : B) :
    RunPc B → List JsonDict → DevicePhase B → List JsonDict → Prop
  | loaded {n : ℤ} {p : DevicePhase B} : p = .new ∨ p = .hello →
      Stage P deviceId key (.loaded n) [] p []
  | connected {n : ℤ} {p : DevicePhase B} : p = .new ∨ p = .hello →
      Stage P deviceId key (.connected n) [] p []
  | greeted {pc : RunPc B} {hello : JsonDict} {lines up : List JsonDict} {p : DevicePhase B} :
      running pc = true → p = .new ∨ p = .hello →
      IsHello P deviceId key hello → List.Forall₂ (Carries P deviceId key) lines up →
      Stage P deviceId key pc (hello :: lines) p up
  | served {pc : RunPc B} {lines up : List JsonDict} {p : DevicePhase B} :
      running pc = true → p.device = some (deviceId, key) →
      List.Forall₂ (Carries P deviceId key) lines up → Stage P deviceId key pc lines p up

/-- The reading that a handler holds. -/
inductive Holds (P : Primitives B) (σ : Session P) : DevicePhase B → Option JsonDict → Prop
  | new : Holds P σ .new none
  | hello : Holds P σ .hello none
  | admitting (d : PyStr) (key : B) : Holds P σ (.admitting d key) none
  | marking (d : PyStr) (key : B) : Holds P σ (.marking d key) none
  | detecting (d : PyStr) (key : B) : Holds P σ (.detecting d key) none
  | serving (d : PyStr) (key : B) : Holds P σ (.serving d key) none
  | forwarding {d : PyStr} {key : B} {r : JsonDict} :
      parseReadingBytes P (readingToBytes P r) = .ok r →
      Holds P σ (.forwarding d key (readingToBytes P r)) (some r)
  | checked {d : PyStr} {key : B} {r : JsonDict} :
      parseReadingBytes P (readingToBytes P r) = .ok r →
      Holds P σ (.checked d key (readingToBytes P r)) (some r)
  | sending {d : PyStr} {key : B} {payload r : JsonDict} :
      Opens P σ.sessionId σ.sessionKey payload r →
      Holds P σ (.sending d key payload) (some r)

/-- The readings of a device that have not reached the cloud are numbered from `n` on, and
neither guard has seen those that it has still to check. -/
structure Flow (P : Primitives B) (σ : Session P) (deviceId : PyStr) (key : B) (v : View B)
    (n : ℤ) (up : List JsonDict) : Prop where
  lane : v.lane = up ++ unsent v.pc
  numbered : Numbered P deviceId n (v.transit ++ (v.hand.toList ++ v.lane))
  counter : counter v.pc = n + v.transit.length + v.hand.toList.length + v.lane.length
  cloudLast : v.cloudLast ≤ n
  gatewayLast : v.gatewayLast ≤ n + v.transit.length + v.hand.toList.length
  built : ∀ k r m, v.pc = .built k r m → Carries P deviceId key m r
  stage : Stage P deviceId key v.pc v.lines v.handler up
  hand : Holds P σ v.handler v.hand

section Flow

variable {σ : Session P} {v : View B} {up : List JsonDict}

/-- The device builds the next reading. -/
lemma Flow.builds_reading (h : Flow P σ deviceId key v n up) {k : ℤ} {r m : JsonDict}
    (hpc : v.pc = .looping k) (hr : IsReading P deviceId (k + 1) r)
    (hcarries : Carries P deviceId key m r) :
    Flow P σ deviceId key
      { v with pc := .built (k + 1) r m, lines := v.lines ++ [], lane := v.lane ++ [r] } n up := by
  obtain ⟨pc₀, lines, handler, gatewayLast, cloudLast, transit, hand, lane⟩ := v
  obtain rfl : pc₀ = .looping k := hpc
  have hlane := h.lane
  have hstage := h.stage
  dsimp only at hlane hstage ⊢
  rw [List.append_nil]
  -- the counter is the number of the readings made so far
  have hcount : k = n + transit.length + hand.toList.length + lane.length := h.counter
  have hk : k = n + (transit ++ (hand.toList ++ lane)).length := by
    rw [hcount, List.length_append, List.length_append]
    push_cast
    omega
  refine ⟨?_, ?_, ?_, h.cloudLast, h.gatewayLast, ?_, ?_, h.hand⟩
  · rw [hlane]
    simp [unsent]
  · have hsplit : transit ++ (hand.toList ++ (lane ++ [r]))
        = transit ++ (hand.toList ++ lane) ++ [r] := by
      simp
    rw [hsplit, numbered_append]
    exact ⟨h.numbered, numbered_singleton.2 (hk ▸ hr)⟩
  · show k + 1 = n + transit.length + hand.toList.length + (lane ++ [r]).length
    rw [hcount, List.length_append, List.length_singleton]
    push_cast
    omega
  · intro k' r' m' heq
    cases heq
    exact hcarries
  · cases hstage with
    | greeted _ hp hhello hlines => exact .greeted rfl hp hhello hlines
    | served _ hd hlines => exact .served rfl hd hlines

/-- What the device does. -/
lemma Flow.device (h : Flow P σ deviceId key v n up) {pc : RunPc B} {sent new : List JsonDict}
    (hm : Makes P deviceId key v.pc pc sent new) :
    ∃ up, Flow P σ deviceId key
      { v with pc := pc, lines := v.lines ++ sent, lane := v.lane ++ new } n up := by
  obtain ⟨pc₀, lines, handler, gatewayLast, cloudLast, transit, hand, lane⟩ := v
  have hlane := h.lane
  have hstage := h.stage
  have hcounter := h.counter
  dsimp only at hm hlane hstage hcounter ⊢
  cases hm with
  | idle =>
    rw [List.append_nil, List.append_nil]
    exact ⟨up, h⟩
  | connects k =>
    rw [List.append_nil, List.append_nil]
    refine ⟨up, ⟨hlane, h.numbered, hcounter, h.cloudLast, h.gatewayLast, by simp, ?_, h.hand⟩⟩
    cases hstage with
    | loaded hp => exact .connected hp
    | greeted hrun => cases hrun
    | served hrun => cases hrun
  -- the hello is the first line
  | @greets k m hhello =>
    rw [List.append_nil]
    refine ⟨up, ⟨hlane, h.numbered, hcounter, h.cloudLast, h.gatewayLast, by simp, ?_, h.hand⟩⟩
    cases hstage with
    | connected hp => exact .greeted rfl hp hhello .nil
    | greeted hrun => cases hrun
    | served hrun => cases hrun
  | @builds k r m hr hcarries => exact ⟨up, h.builds_reading rfl hr hcarries⟩
  | sends k r m =>
    rw [List.append_nil]
    have hcarries : List.Forall₂ (Carries P deviceId key) [m] [r] :=
      .cons (h.built k r m rfl) .nil
    refine ⟨up ++ [r], ⟨?_, h.numbered, hcounter, h.cloudLast, h.gatewayLast, by simp, ?_, h.hand⟩⟩
    · rw [hlane]
      simp [unsent]
    · cases hstage with
      | greeted _ hp hhello hlines =>
        exact .greeted rfl hp hhello (List.rel_append hlines hcarries)
      | served _ hd hlines => exact .served rfl hd (List.rel_append hlines hcarries)
  | saves k =>
    rw [List.append_nil, List.append_nil]
    refine ⟨up, ⟨hlane, h.numbered, hcounter, h.cloudLast, h.gatewayLast, by simp, ?_, h.hand⟩⟩
    cases hstage with
    | greeted _ hp hhello hlines => exact .greeted rfl hp hhello hlines
    | served _ hd hlines => exact .served rfl hd hlines

/-- The handler has moved on the lines, and holds what it held. -/
lemma Flow.moved (h : Flow P σ deviceId key v n up) {lines : List JsonDict} {p : DevicePhase B}
    (hstage : Stage P deviceId key v.pc lines p up) (hhand : Holds P σ p v.hand) :
    Flow P σ deviceId key { v with lines := lines, handler := p } n up :=
  ⟨h.lane, h.numbered, h.counter, h.cloudLast, h.gatewayLast, h.built, hstage, hhand⟩

/-- A handler that serves a device and goes on serving it, on the same lines. -/
lemma Stage.serves {pc : RunPc B} {lines : List JsonDict} {p p' : DevicePhase B}
    (h : Stage P deviceId key pc lines p up) (hserves : p.device.isSome = true)
    (hp : p'.device = p.device) : Stage P deviceId key pc lines p' up := by
  have hopen : ¬ (p = .new ∨ p = .hello) := by
    rintro (rfl | rfl) <;> cases hserves
  cases h with
  | loaded hp => exact absurd hp hopen
  | connected hp => exact absurd hp hopen
  | greeted _ hp => exact absurd hp hopen
  | served hrun hd hlines => exact .served hrun (hp.trans hd) hlines

/-- The connection is accepted. -/
lemma Flow.accepts (h : Flow P σ deviceId key v n up) (hp : v.handler = .new) :
    Flow P σ deviceId key { v with handler := .hello } n up := by
  obtain ⟨pc, lines, handler, gatewayLast, cloudLast, transit, hand, lane⟩ := v
  obtain rfl : handler = .new := hp
  have hhand := h.hand
  have hstage := h.stage
  dsimp only at hhand hstage
  refine h.moved ?_ ?_
  · cases hstage with
    | loaded => exact .loaded (Or.inr rfl)
    | connected => exact .connected (Or.inr rfl)
    | greeted hrun _ hhello hlines => exact .greeted hrun (Or.inr rfl) hhello hlines
    | served _ hd => cases hd
  · cases hhand
    exact .hello

/-- The first line is the hello. -/
lemma Flow.admits (h : Flow P σ deviceId key v n up) (hp : v.handler = .hello)
    {rest : List JsonDict} (hlines : v.lines = m :: rest) : IsHello P deviceId key m ∧
      Flow P σ deviceId key { v with lines := rest, handler := .admitting deviceId key } n up := by
  obtain ⟨pc, lines, handler, gatewayLast, cloudLast, transit, hand, lane⟩ := v
  obtain rfl : handler = .hello := hp
  obtain rfl : lines = m :: rest := hlines
  have hhand := h.hand
  have hstage := h.stage
  dsimp only at hhand hstage
  cases hstage with
  | greeted hrun _ hhello hls =>
    refine ⟨hhello, h.moved (.served hrun rfl hls) ?_⟩
    cases hhand
    exact .admitting deviceId key
  | served _ hd => cases hd

/-- Between the hello and the first reading the handler holds nothing. -/
lemma Flow.admitting (h : Flow P σ deviceId key v n up) {d : PyStr} {key' : B}
    (hp : v.handler = .admitting d key') :
    Flow P σ deviceId key { v with handler := .marking d key' } n up := by
  have hhand := h.hand
  have hstage := h.stage
  rw [hp] at hhand hstage
  refine h.moved (hstage.serves rfl rfl) ?_
  generalize v.hand = hand at hhand ⊢
  cases hhand
  exact .marking d key'

lemma Flow.marking (h : Flow P σ deviceId key v n up) {d : PyStr} {key' : B}
    (hp : v.handler = .marking d key') :
    Flow P σ deviceId key { v with handler := .serving d key' } n up ∧
      Flow P σ deviceId key { v with handler := .detecting d key' } n up := by
  have hhand := h.hand
  have hstage := h.stage
  rw [hp] at hhand hstage
  refine ⟨h.moved (hstage.serves rfl rfl) ?_, h.moved (hstage.serves rfl rfl) ?_⟩
  all_goals generalize v.hand = hand at hhand ⊢
  · cases hhand
    exact .serving d key'
  · cases hhand
    exact .detecting d key'

lemma Flow.detecting (h : Flow P σ deviceId key v n up) {d : PyStr} {key' : B}
    (hp : v.handler = .detecting d key') :
    Flow P σ deviceId key { v with handler := .serving d key' } n up := by
  have hhand := h.hand
  have hstage := h.stage
  rw [hp] at hhand hstage
  refine h.moved (hstage.serves rfl rfl) ?_
  generalize v.hand = hand at hhand ⊢
  cases hhand
  exact .serving d key'

/-- The next line carries the next reading of the lane, which the gateway has not seen. -/
lemma Flow.takes (h : Flow P σ deviceId key v n up) {d : PyStr} {key' : B}
    (hp : v.handler = .serving d key') {rest : List JsonDict} (hlines : v.lines = m :: rest) :
    d = deviceId ∧ key' = key ∧ v.hand = none ∧ ∃ r k lane up, v.lane = r :: lane ∧ Fits P m ∧
      Gateway.decryptLegacyMessage P m key deviceId = .ok (readingToBytes P r, k) ∧
      v.gatewayLast < k ∧ Flow P σ deviceId key
        { v with
          lines := rest
          handler := .forwarding deviceId key (readingToBytes P r)
          gatewayLast := k
          hand := some r
          lane := lane } n up := by
  obtain ⟨pc, lines, handler, gatewayLast, cloudLast, transit, hand, lane⟩ := v
  obtain rfl : handler = .serving d key' := hp
  obtain rfl : lines = m :: rest := hlines
  obtain rfl : hand = none := by
    have hhand := h.hand
    cases hhand
    rfl
  have hstage := h.stage
  cases hstage with
  | greeted _ hp => simp at hp
  | served hrun hd hls =>
    cases hd
    cases hls with
    | @cons _ r _ up hm hls =>
      obtain ⟨hfits, k, hr, hdecrypt⟩ := hm
      have hlane : lane = r :: (up ++ unsent pc) := h.lane
      subst hlane
      have hnumbered : Numbered P deviceId n (transit ++ r :: (up ++ unsent pc)) := h.numbered
      have hnext : IsReading P deviceId (n + transit.length + 1) r :=
        (numbered_append.1 hnumbered).2.1
      -- the readings are numbered through, so that this one is the next
      have hk : k = n + transit.length + 1 := hr.unique hnext
      have hlast : gatewayLast ≤ n + transit.length + (0 : ℕ) := h.gatewayLast
      refine ⟨rfl, rfl, rfl, r, k, _, up, rfl, hfits, hdecrypt, ?_, ⟨rfl, h.numbered, ?_,
        h.cloudLast, ?_, h.built, .served hrun rfl hls, .forwarding hr.parses⟩⟩
      · show gatewayLast < k
        push_cast at hlast
        omega
      · have hcounter := h.counter
        simp only [Option.toList, List.length_cons, List.length_nil] at hcounter ⊢
        push_cast at hcounter ⊢
        omega
      · show k ≤ n + transit.length + (1 : ℕ)
        push_cast
        omega

/-- The check of `send_reading`. -/
lemma Flow.checks (h : Flow P σ deviceId key v n up) {d : PyStr} {key' b : B}
    (hp : v.handler = .forwarding d key' b) :
    Flow P σ deviceId key { v with handler := .checked d key' b } n up := by
  have hhand := h.hand
  have hstage := h.stage
  rw [hp] at hhand hstage
  refine h.moved (hstage.serves rfl rfl) ?_
  generalize v.hand = hand at hhand ⊢
  cases hhand with
  | forwarding hr => exact .checked hr

/-- The payload is built. -/
lemma Flow.builds (h : Flow P σ deviceId key v n up) {d : PyStr} {key' b : B}
    (hp : v.handler = .checked d key' b) {payload : JsonDict}
    (hopens : ∀ r, parseReadingBytes P b = .ok r →
      Opens P σ.sessionId σ.sessionKey payload r) :
    Flow P σ deviceId key { v with handler := .sending d key' payload } n up := by
  have hhand := h.hand
  have hstage := h.stage
  rw [hp] at hhand hstage
  refine h.moved (hstage.serves rfl rfl) ?_
  generalize v.hand = hand at hhand ⊢
  cases hhand with
  | checked hr => exact .sending (hopens _ hr)

/-- The payload is sent. -/
lemma Flow.forwards (h : Flow P σ deviceId key v n up) {d : PyStr} {key' : B}
    {payload : JsonDict} (hp : v.handler = .sending d key' payload) :
    ∃ r, v.hand = some r ∧ Opens P σ.sessionId σ.sessionKey payload r ∧
      Flow P σ deviceId key
        { v with handler := .serving d key', hand := none, transit := v.transit ++ [r] } n up := by
  obtain ⟨pc, lines, handler, gatewayLast, cloudLast, transit, hand, lane⟩ := v
  obtain rfl : handler = .sending d key' payload := hp
  have hhand := h.hand
  dsimp only at hhand
  cases hhand with
  | @sending _ _ _ r hopens =>
    have hnumbered : Numbered P deviceId n (transit ++ ([r] ++ lane)) := h.numbered
    have hcounter : Delivery.counter pc = n + transit.length + (1 : ℕ) + lane.length := h.counter
    have hlast : gatewayLast ≤ n + transit.length + (1 : ℕ) := h.gatewayLast
    refine ⟨r, rfl, hopens, ⟨h.lane, ?_, ?_, h.cloudLast, ?_, h.built,
      h.stage.serves rfl rfl, .serving d key'⟩⟩
    · show Numbered P deviceId n (transit ++ [r] ++ ([] ++ lane))
      rw [List.append_assoc]
      exact hnumbered
    · simp only [Option.toList, List.length_append, List.length_cons, List.length_nil]
      push_cast at hcounter ⊢
      omega
    · simp only [Option.toList, List.length_append, List.length_cons, List.length_nil]
      push_cast at hlast ⊢
      omega

/-- The next reading arrives at the cloud, which has not seen it. -/
lemma Flow.arrives (h : Flow P σ deviceId key v n up) {rest : List JsonDict}
    (ht : v.transit = r :: rest) : IsReading P deviceId (n + 1) r ∧ v.cloudLast < n + 1 ∧
      Flow P σ deviceId key { v with transit := rest, cloudLast := n + 1 } (n + 1) up := by
  obtain ⟨pc, lines, handler, gatewayLast, cloudLast, transit, hand, lane⟩ := v
  obtain rfl : transit = r :: rest := ht
  have hnumbered : Numbered P deviceId n (r :: (rest ++ (hand.toList ++ lane))) := h.numbered
  have hcloud : cloudLast ≤ n := h.cloudLast
  have hcounter := h.counter
  have hlast := h.gatewayLast
  dsimp only at hcounter hlast
  rw [List.length_cons] at hcounter hlast
  refine ⟨hnumbered.1, ?_, ⟨h.lane, hnumbered.2, ?_, le_rfl, ?_, h.built, h.stage, h.hand⟩⟩
  · show cloudLast < n + 1
    omega
  · dsimp only
    push_cast at hcounter ⊢
    omega
  · dsimp only
    push_cast at hlast ⊢
    omega

end Flow

end PqcBridge.Delivery
