/-
Honest end-to-end delivery.

* `Refines.delivered`: a pipeline that has been emptied has delivered everything;
* `readings_delivered`: in every run in which nothing fails, once everything that was sent
  has been read, the readings that were added to the store are, device by device, those
  that the devices have generated.
-/
import PqcBridge.System.Delivery.Refinement

namespace PqcBridge.Delivery

open Python Protocol Crypto Runs Handshake Device
open Gateway (DevicePhase DeviceEvent GatewayState deviceStep)
open Isolation (Session Opens delivered sentBy)

variable {ι B : Type}

variable {P : Primitives B} [DecidableEq ι] (cfg : Gateway.GatewayConfig B)
  (deviceKeys : KeyRegistry P) (cloud : Cloud.CloudConfig P) (addr : ℕ → Cloud.Addr)
  (ids : ι → PyStr) (keys : ι → B) (link : ℕ)

variable {deviceId : PyStr} {key : B} {n : ℤ} {r : JsonDict}

/-! ### Delivery -/

section Delivered

variable {cfg deviceKeys cloud addr ids keys link} {σ : Session P} {s₀ s : State ι B}
  {a : Pipeline.State ι JsonDict} {collected : List (ι × JsonDict)} {i : ι}

/-- A reading names the device whose reading it is. -/
lemma isOf_reading (hids : Function.Injective ids) {j : ι}
    (hr : IsReading P (ids j) n r) : isOf (ids i) r = decide (j = i) := by
  have hid : isOf (ids i) r = decide (ids j = ids i) := by
    simp [isOf, hr.device, isStr]
  rw [hid]
  exact decide_eq_decide.2 hids.eq_iff

/-- The readings that name a device are those of its lane. -/
lemma filter_isOf (hids : Function.Injective ids)
    (hreadings : ∀ x ∈ collected, ∃ n, IsReading P (ids x.1) n x.2) :
    (collected.map Prod.snd).filter (isOf (ids i)) = Pipeline.ofSource i collected := by
  rw [Pipeline.ofSource, List.filter_map]
  refine congrArg (List.map Prod.snd) (List.filter_congr fun x hx => ?_)
  obtain ⟨n, hr⟩ := hreadings x hx
  exact isOf_reading hids hr

/-- With no line left, what the handler has not read was not sent. -/
lemma Flow.lane_of_no_lines {v : View B} {up : List JsonDict} (h : Flow P σ deviceId key v n up)
    (hlines : v.lines = []) : v.lane = unsent v.pc := by
  have hstage := h.stage
  rw [h.lane]
  rw [hlines] at hstage
  generalize v.pc = pc, v.handler = p at hstage ⊢
  cases hstage with
  | loaded => rfl
  | connected => rfl
  | served _ _ hls =>
    cases hls
    rfl

/-- A handler that has nothing to send holds nothing. -/
lemma Holds.eq_none {p : DevicePhase B} {hand : Option JsonDict} (h : Holds P σ p hand)
    (hp : Gateway.Accounting.pending p = 0) : hand = none := by
  cases h with
  | new | hello | admitting | marking | detecting | serving => rfl
  | forwarding | checked | sending => cases hp

/-- A handler with no reading under way has none to add. -/
lemma storing_eq_nil {p : Cloud.Phase B} (h : Cloud.underway p = 0) : storing p = [] := by
  cases p with
  | storing => cases h
  | _ => rfl

/-- Once everything has been read, everything is delivered. -/
lemma Refines.delivered (h : Refines ids keys link σ s₀ s a) (ha : Pipeline.Conserved a)
    (hids : Function.Injective ids) (hs : Consumed link s) :
    Delivered ids s₀ s (a.collected.map Prod.snd) := by
  -- nothing is left on the way: in the hands of the handlers, on the wire, at the cloud
  have hhand : ∀ i, a.hand i = none := by
    intro i
    obtain ⟨n, up, hflow⟩ := h.flows i
    exact hflow.hand.eq_none (hs.handlers i)
  have hshared : a.shared = [] := by
    have hwire := h.wire
    rw [hs.wire] at hwire
    exact List.forall₂_nil_left_iff.1 hwire
  have htaken : a.taken = a.collected.length := by
    rw [ha.taken_eq hhand, hshared, List.length_nil, Nat.add_zero]
  have hlength : (a.collected.map Prod.snd).length = a.collected.length := List.length_map _
  have hhistory : s.cloud.shared.store.history
      = s₀.cloud.shared.store.history ++ a.collected.map Prod.snd := by
    have hstore := h.cloud.history
    rw [storing_eq_nil hs.cloud, List.append_nil] at hstore
    exact hstore
  have hmetrics : ∀ c, watched c = true → s.gateway.channel.metrics c
      = s₀.gateway.channel.metrics c + expected a.collected.length a.collected.length c := by
    intro c hc
    rw [h.gateway.metrics c hc, htaken, hshared, List.length_nil, Nat.add_zero]
  refine ⟨hhistory, fun i => ?_, fun r hr => ?_, ?_, ?_, ?_, ?_, ?_, hmetrics _ rfl, hmetrics _ rfl,
    h.cloud.rejected, h.cloud.errors⟩
  · obtain ⟨n, up, hflow⟩ := h.flows i
    have hlane : a.lane i = unsent (s.processes i).pc := hflow.lane_of_no_lines (hs.lines i)
    rw [filter_isOf hids h.cloud.readings, ← hlane, ha.collected_append hshared (hhand i),
      h.generated i]
  · obtain ⟨⟨i, r⟩, hx, rfl⟩ := List.mem_map.1 hr
    obtain ⟨n, hr⟩ := h.cloud.readings _ hx
    exact ⟨i, (isOf_reading hids hr).trans (decide_eq_true rfl)⟩
  · rw [s.cloud.shared.store.held, h.cloud.capacity, hhistory]
  · rw [hlength]
    exact hmetrics _ rfl
  · rw [hlength]
    exact hmetrics _ rfl
  · rw [hlength]
    exact hmetrics _ rfl
  · have hprocessed := h.cloud.processed
    rw [hs.cloud, Nat.add_zero] at hprocessed
    rw [hlength]
    exact hprocessed

end Delivered

/-- **Honest end-to-end delivery.**  In every run in which nothing fails, once everything
that was sent has been read, the readings that were added to the store are, device by device
and in order, the readings that the devices have generated. -/
theorem readings_delivered (hP : P.Lawful) (hpro : Provisioned cfg cloud)
    (hreg : Registered deviceKeys ids keys) {s₀ : State ι B}
    (h0 : Ready cfg cloud addr ids link s₀) {τ : List (Event ι B)}
    (hτ : Along (step cfg deviceKeys cloud addr ids keys link) (Smooth P ids keys) s₀ τ)
    (hs : Consumed link (run (step cfg deviceKeys cloud addr ids keys link) s₀ τ)) :
    ∃ added, Delivered ids s₀ (run (step cfg deviceKeys cloud addr ids keys link) s₀ τ) added := by
  obtain ⟨σ, υ, h⟩ := refines_run h0 hP hpro hreg hτ
  exact ⟨_, h.delivered (Pipeline.conserved_run υ) hreg.injective hs⟩

/-! ### The demo -/

section Demo

/-- The cloud of the demo, where `json.loads` undoes `json.dumps` on the readings. -/
def sensorCloud : Cloud.CloudConfig sensorPrimitives :=
  ⟨lit "cloud-01", Demo.cloudKey, ⟨(demoGatewayKeys fun _ => none).keys,
    (demoGatewayKeys fun _ => none).key_len⟩⟩

/-- Devices that have been started without a state file, on the session of the demo. -/
def demoStart : State ι Bytes where
  processes := fun _ => ⟨none, .loaded 0⟩
  lines := fun _ => []
  handlers := fun _ => .new
  gateway := ⟨demoChannel, .empty, [], 0⟩
  wire := []
  cloud := run (Cloud.step sensorCloud demoAddr) (Cloud.initial 100 [])
    (handshakeEvents 0 demoRequest (demoEncaps 0 demoSessionId))
  generated := fun _ => []

/-- A step of the demo. -/
def demoStep (deviceKeys : KeyRegistry sensorPrimitives) (ids : ι → PyStr) (keys : ι → Bytes) :
    State ι Bytes → Event ι Bytes → State ι Bytes :=
  step Gateway.demoGateway deviceKeys sensorCloud demoAddr ids keys 0

lemma provisioned_demo : Provisioned Gateway.demoGateway sensorCloud :=
  ⟨rfl, by decide, show lit "cloud-01" ≠ [] by decide, rfl, by decide⟩

omit [DecidableEq ι] in
lemma ready_demoStart (ids : ι → PyStr) :
    Ready Gateway.demoGateway sensorCloud demoAddr ids 0 (demoStart : State ι Bytes) := by
  refine ⟨?_, fun _ => rfl, fun _ => rfl, fun _ => rfl, rfl, fun _ => rfl, fun _ => le_rfl,
    fun i => ?_⟩
  · have hconnect : Gateway.connectAndEstablish sensorPrimitives Gateway.demoGateway none
        (fun _ => honestAttempt sensorCloud demoSessionId (Demo.nonce 0) (Demo.coins 0) 0) 1 0
          Gateway.CloudChannel.new = some (demoChannel, 1, .ok true) := by
      rfl
    exact .intro (by decide) (by decide) rfl rfl hconnect rfl rfl
  · have hrun : (demoStart : State ι Bytes).cloud = _ :=
      run_handshake sensorPrimitives_lawful Gateway.demoGateway sensorCloud rfl (by decide)
        (Demo.nonce 0) (Demo.coins 0) rfl rfl (by decide) demoAddr rfl
    rw [hrun]
    exact le_rfl

/-- The message was built, and it is within the size limit. -/
def fitsOk : Py JsonDict → Bool
  | .ok m => (encodeMessage sensorPrimitives m).length ≤ maxMessageBytes
  | .error _ => false

/-- The reading is one of those that `json.loads` gives back. -/
def known (deviceId : PyStr) (n : ℤ) (timestamp : PyStr) (temperature : PyFloat) : Bool :=
  timestamp = sensorTime && temperature = .finite 21 &&
    sensorReadings.any fun x => x.1 = deviceId && (x.2 : ℤ) = n

/-- `Proceeds`, as a check. -/
def proceeds (deviceId : PyStr) (key : Bytes) : RunPc Bytes → RunEvent Bytes → Bool
  | _, .connect .ok => true
  | _, .hello nonce .ok =>
    sensorPrimitives.len nonce = nonceLength &&
      fitsOk (helloMessage sensorPrimitives deviceId key nonce)
  | pc, .build timestamp temperature nonce =>
    sensorPrimitives.len nonce = nonceLength &&
      match pc with
      | .looping n =>
        known deviceId (n + 1) timestamp temperature &&
          fitsOk (legacyReading sensorPrimitives deviceId key (n + 1)
            (readingToBytes sensorPrimitives
              (generateReading deviceId (n + 1) timestamp temperature)) nonce)
      | _ => true
  | _, .send .ok => true
  | _, .save .ok => true
  | _, _ => false

/-- `Forwards`, as a check. -/
def forwards (ch : Gateway.CloudChannel Bytes) : DevicePhase Bytes → DeviceEvent Bytes → Bool
  | _, .accept => true
  | _, .activate => true
  | _, .mark => true
  | _, .detect => true
  | _, .check => true
  | p, .build nonce =>
    sensorPrimitives.len nonce = nonceLength &&
      match p with
      | .checked _ _ b => fitsOk (Gateway.buildPayload sensorPrimitives ch b nonce)
      | _ => true
  | _, .send .ok => true
  | _, _ => false

/-- `Smooth`, as a check. -/
def smooth (ids : ι → PyStr) (keys : ι → Bytes) (s : State ι Bytes) : Event ι Bytes → Bool
  | .device i ev => proceeds (ids i) (keys i) (s.processes i).pc ev
  | .handler i ev => forwards s.gateway.channel (s.handlers i) ev
  | _ => true

lemma fits_of_fitsOk {x : Py JsonDict} (h : fitsOk x = true) :
    ∃ m, x = .ok m ∧ Fits sensorPrimitives m := by
  cases x with
  | error e => cases h
  | ok m => exact ⟨m, rfl, by simpa [fitsOk, Fits] using h⟩

lemma loadsBack_of_known {deviceId timestamp : PyStr} {n : ℤ} {temperature : PyFloat}
    (h : known deviceId n timestamp temperature = true) :
    LoadsBack sensorPrimitives (generateReading deviceId n timestamp temperature) := by
  simp only [known, Bool.and_eq_true, decide_eq_true_eq, List.any_eq_true] at h
  obtain ⟨⟨rfl, rfl⟩, x, hx, rfl, rfl⟩ := h
  exact loadsBack_sensorReading hx

lemma proceeds_of_check {deviceId : PyStr} {key : Bytes} {pc : RunPc Bytes} {ev : RunEvent Bytes}
    (h : proceeds deviceId key pc ev = true) : Proceeds sensorPrimitives deviceId key pc ev := by
  unfold proceeds at h
  split at h
  · exact .connect _
  · next pc nonce =>
    rw [Bool.and_eq_true, decide_eq_true_eq] at h
    obtain ⟨m, hm, hfits⟩ := fits_of_fitsOk h.2
    refine .hello h.1 fun m' hm' => ?_
    rw [hm] at hm'
    cases hm'
    exact hfits
  · next pc timestamp temperature nonce =>
    rw [Bool.and_eq_true, decide_eq_true_eq] at h
    refine .build h.1 fun n hn => ?_
    rw [hn, Bool.and_eq_true] at h
    exact ⟨loadsBack_of_known h.2.1, fits_of_fitsOk h.2.2⟩
  · exact .send _
  · exact .save _
  · cases h

lemma forwards_of_check {ch : Gateway.CloudChannel Bytes} {p : DevicePhase Bytes}
    {ev : DeviceEvent Bytes} (h : forwards ch p ev = true) : Forwards sensorPrimitives ch p ev := by
  unfold forwards at h
  split at h
  · exact .accept _
  · exact .activate _
  · exact .mark _
  · exact .detect _
  · exact .check _
  · next nonce =>
    rw [Bool.and_eq_true, decide_eq_true_eq] at h
    refine .build h.1 fun d key b payload hp hb => ?_
    rw [hp] at h
    obtain ⟨m, hm, hfits⟩ := fits_of_fitsOk h.2
    rw [hb] at hm
    cases hm
    exact hfits
  · exact .send _
  · cases h

omit [DecidableEq ι] in
lemma smooth_of_check {ids : ι → PyStr} {keys : ι → Bytes} {s : State ι Bytes}
    {ev : Event ι Bytes} (h : smooth ids keys s ev = true) :
    Smooth sensorPrimitives ids keys s ev := by
  refine ⟨fun i e hev => ?_, fun i e hev => ?_⟩
  · rw [hev] at h
    exact proceeds_of_check h
  · rw [hev] at h
    exact forwards_of_check h

/-- The two devices of the demo. -/
def demoIds (i : Fin 2) : PyStr := if i = 0 then lit "dev-01" else lit "dev-02"

/-- Their keys. -/
def demoKeys (i : Fin 2) : Bytes := Demo.deviceKey (i + 1)

/-- The devices that the gateway knows. -/
def sensorKeys : KeyRegistry sensorPrimitives :=
  ⟨(demoDeviceKeys fun _ => none).keys, (demoDeviceKeys fun _ => none).key_len⟩

/-- A device connects and says hello. -/
def demoOpens (i : ι) : List (Event ι Bytes) :=
  [.device i (.connect .ok), .device i (.hello (Demo.nonce 0) .ok), .handler i .accept, .read i,
    .handler i .activate, .handler i .mark, .handler i .detect]

/-- A device sends a reading. -/
def demoSends (i : ι) : List (Event ι Bytes) :=
  [.device i (.build sensorTime (.finite 21) (Demo.nonce 1)), .device i (.send .ok),
    .device i (.save .ok)]

/-- Its handler forwards the reading. -/
def demoForwards (i : ι) : List (Event ι Bytes) :=
  [.read i, .handler i .check, .handler i (.build (Demo.nonce 2)), .handler i (.send .ok)]

/-- Two devices, and the reading of the second one overtakes that of the first one. -/
def demoRun : List (Event (Fin 2) Bytes) :=
  demoOpens 0 ++ demoSends 0 ++ demoOpens 1 ++ demoSends 1 ++ demoForwards 1 ++ demoForwards 0
    ++ [.receive, .store, .count, .report, .receive, .store, .count]

/-- `Consumed`, as a check. -/
def consumed [Fintype ι] (s : State ι Bytes) : Bool :=
  decide (∀ i, (s.lines i).isEmpty = true ∧ Gateway.Accounting.pending (s.handlers i) = 0) &&
    s.wire.isEmpty && decide (Cloud.underway (s.cloud.phase 0) = 0)

omit [DecidableEq ι] in
lemma consumed_of_check [Fintype ι] {s : State ι Bytes} (h : consumed s = true) :
    Consumed 0 s := by
  simp only [consumed, Bool.and_eq_true, decide_eq_true_eq, List.isEmpty_iff] at h
  exact ⟨fun i => (h.1.1 i).1, fun i => (h.1.1 i).2, h.1.2, h.2⟩

lemma registered_demo : Registered sensorKeys demoIds demoKeys :=
  ⟨by decide, by decide, by decide⟩

/-- The readings of the two devices are delivered. -/
theorem readings_delivered_demo :
    (run (demoStep sensorKeys demoIds demoKeys) demoStart
      demoRun).gateway.channel.metrics .messagesForwarded = 2 ∧
    ∃ added, Delivered demoIds demoStart
      (run (demoStep sensorKeys demoIds demoKeys) demoStart demoRun) added := by
  have hsmooth : Along (demoStep sensorKeys demoIds demoKeys)
      (fun s ev => smooth demoIds demoKeys s ev = true) demoStart demoRun := by
    decide +kernel
  have hend : (run (demoStep sensorKeys demoIds demoKeys) demoStart
        demoRun).gateway.channel.metrics .messagesForwarded = 2 ∧
      consumed (run (demoStep sensorKeys demoIds demoKeys) demoStart demoRun) = true := by
    decide +kernel
  unfold demoStep at hsmooth hend ⊢
  exact ⟨hend.1, readings_delivered Gateway.demoGateway sensorKeys sensorCloud demoAddr demoIds
    demoKeys 0 sensorPrimitives_lawful provisioned_demo registered_demo (ready_demoStart demoIds)
    (hsmooth.mono fun _ _ h => smooth_of_check h) (consumed_of_check hend.2)⟩

/-! ### An empty device id -/

/-- A device that is registered under the empty id. -/
def emptyIdKeys : KeyRegistry sensorPrimitives where
  keys id := if id = [] then some (Demo.deviceKey 1) else none
  key_len {id k} h := by
    split_ifs at h
    cases h
    rfl

/-- The device with the empty id connects and says hello, and `parse_hello` refuses it:
`require_str` asks for a non-empty string. -/
theorem empty_id_refused :
    emptyIdKeys.keys [] = some (Demo.deviceKey 1) ∧
    Ready Gateway.demoGateway sensorCloud demoAddr (fun _ : Unit => []) 0 demoStart ∧
    Along (demoStep emptyIdKeys (fun _ : Unit => []) fun _ => Demo.deviceKey 1)
      (Smooth sensorPrimitives (fun _ => []) fun _ => Demo.deviceKey 1) demoStart (demoOpens ()) ∧
    Consumed 0 (run (demoStep emptyIdKeys (fun _ : Unit => []) fun _ => Demo.deviceKey 1) demoStart
      (demoOpens ())) ∧
    ¬ ∃ added, Delivered (fun _ : Unit => []) demoStart
      (run (demoStep emptyIdKeys (fun _ : Unit => []) fun _ => Demo.deviceKey 1) demoStart
        (demoOpens ())) added := by
  have hsmooth : Along (demoStep emptyIdKeys (fun _ : Unit => []) fun _ => Demo.deviceKey 1)
      (fun s ev => smooth (fun _ : Unit => []) (fun _ => Demo.deviceKey 1) s ev = true) demoStart
      (demoOpens ()) := by
    decide +kernel
  refine ⟨rfl, ready_demoStart _, hsmooth.mono fun _ _ h => smooth_of_check h,
    consumed_of_check (by decide +kernel), ?_⟩
  rintro ⟨added, h⟩
  exact absurd h.gatewayErrors (by decide +kernel)

end Demo

end PqcBridge.Delivery
