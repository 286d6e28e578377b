/-
The system of devices, gateway and cloud as a pipeline.

* `GatewaySide`, `CloudSide`: the shared state of either end, with its counters;
* `Refines`: the system is at the same point as a pipeline with one lane for each device;
* `Refines.step`, `refines_run`: where nothing fails, the system follows the pipeline.
-/
import PqcBridge.Lib.Pipeline
import PqcBridge.System.Delivery.Flow

namespace PqcBridge.Delivery

open Python Protocol Crypto Runs Handshake Device
open Gateway (DevicePhase DeviceEvent GatewayState deviceStep)
open Isolation (Session Opens delivered sentBy)

variable {ι B : Type}

variable {P : Primitives B} [DecidableEq ι] (cfg : Gateway.GatewayConfig B)
  (deviceKeys : KeyRegistry P) (cloud : Cloud.CloudConfig P) (addr : ℕ → Cloud.Addr)
  (ids : ι → PyStr) (keys : ι → B) (link : ℕ)

variable {deviceId : PyStr} {key : B} {n k : ℤ} {r m : JsonDict}

/-! ### The gateway -/

/-- The counters that the readings move. -/
def watched : Counter → Bool
  | .messagesReceived => true
  | .messagesProcessed => true
  | .messagesForwarded => true
  | .messagesRejected => true
  | .errors => true
  | _ => false

/-- What has been counted when `taken` readings were accepted and `merged` of them sent. -/
def expected (taken merged : ℕ) : Counter → ℕ
  | .messagesReceived => taken
  | .messagesProcessed => taken
  | .messagesForwarded => merged
  | _ => 0

/-- The gateway `g` on the session, after it was `g₀`. -/
structure GatewaySide (σ : Session P) (g₀ g : GatewayState B) (taken merged : ℕ) : Prop where
  channel : g.channel.bare = σ.channel
  metrics : ∀ c, watched c = true →
    g.channel.metrics c = g₀.channel.metrics c + expected taken merged c

/-- A step of a handler that moves none of these counters, and neither session nor guard. -/
structure Quiet (g g' : GatewayState B) : Prop where
  channel : g'.channel.bare = g.channel.bare
  replay : g'.replay = g.replay
  metrics : ∀ c, watched c = true → g'.channel.metrics c = g.channel.metrics c

section Gateway

variable {σ : Session P} {g₀ g g' : GatewayState B} {taken merged : ℕ}

lemma Quiet.refl (g : GatewayState B) : Quiet g g := ⟨rfl, rfl, fun _ _ => rfl⟩

/-- A counter that is not watched. -/
lemma Quiet.inc (h : Quiet g g') (name : Counter) (hname : watched name = false) :
    Quiet g (g'.inc name) := by
  refine ⟨h.channel, h.replay, fun c hc => ?_⟩
  have hne : c ≠ name := by
    rintro rfl
    rw [hname] at hc
    cases hc
  exact (Metrics.inc_of_ne hne).trans (h.metrics c hc)

lemma GatewaySide.quiet (h : GatewaySide σ g₀ g taken merged) (hq : Quiet g g') :
    GatewaySide σ g₀ g' taken merged :=
  ⟨hq.channel.trans h.channel, fun c hc => (hq.metrics c hc).trans (h.metrics c hc)⟩

/-- The gateway admits a device with its hello. -/
lemma deviceStep_admits (hP : P.Lawful) (hkey : deviceKeys.keys deviceId = some key)
    (hid : deviceId ≠ []) (hm : IsHello P deviceId key m) (g : GatewayState B) :
    ∃ g', deviceStep P cfg deviceKeys g .hello (.recv (delivered P m))
      = (g', .admitting deviceId key) ∧ Quiet g g' := by
  obtain ⟨hfits, nonce, hnonce, hm⟩ := hm
  have hlen := deviceKeys.key_len hkey
  have hread : delivered P m = .message m := if_pos hfits
  have hparse : (ReadOutcome.message m).result >>= Gateway.parseHello
      = .ok ⟨m, deviceId, [capChacha20Poly1305]⟩ :=
    parseHello_buildHello hP hlen hnonce hid hm
  have hallow := evaluateHello_buildHello hP hlen hnonce hm
  rw [hread]
  exact ⟨g, by simp only [deviceStep, hparse, Gateway.admitDevice, hkey, hallow], .refl g⟩

/-- The gateway after it has accepted the reading with the sequence `k`. -/
def afterTake (g : GatewayState B) (deviceId : PyStr) (k : ℤ) : GatewayState B :=
  { g.inc .messagesReceived with
    replay := ⟨Function.update g.replay.lastSequence deviceId (some k)⟩ }.inc .messagesProcessed

/-- The gateway accepts a reading that is newer than the last one. -/
lemma deviceStep_takes {b : B} (hfits : Fits P m)
    (hdecrypt : Gateway.decryptLegacyMessage P m key deviceId = .ok (b, k))
    (hlt : g.replay.last deviceId < k) :
    deviceStep P cfg deviceKeys g (.serving deviceId key) (.recv (delivered P m))
      = (afterTake g deviceId k, .forwarding deviceId key b) := by
  have hread : delivered P m = .message m := if_pos hfits
  rw [hread]
  simp only [deviceStep, ReadOutcome.result, Gateway.acceptLegacy_of_lt hdecrypt hlt, afterTake]

lemma GatewaySide.takes (h : GatewaySide σ g₀ g taken merged) (deviceId : PyStr) (k : ℤ) :
    GatewaySide σ g₀ (afterTake g deviceId k) (taken + 1) merged := by
  refine ⟨h.channel, fun c hc => ?_⟩
  have hold := h.metrics c hc
  show ((g.channel.metrics.inc .messagesReceived).inc .messagesProcessed) c = _
  rw [Metrics.inc_apply, Metrics.inc_apply, hold]
  cases c <;> rfl

lemma deviceStep_checks (h : GatewaySide σ g₀ g taken merged) (d : PyStr) (key b : B) :
    deviceStep P cfg deviceKeys g (.forwarding d key b) .check = (g, .checked d key b) := by
  have hup : g.channel.isEstablished = true :=
    congrArg Gateway.CloudChannel.isEstablished h.channel
  simp only [deviceStep, Gateway.checkEstablished, hup, if_true]

/-- The payload that the gateway builds opens at the cloud. -/
lemma deviceStep_builds (hP : P.Lawful) (h : GatewaySide σ g₀ g taken merged) {d : PyStr}
    {key b nonce : B} (hnonce : P.len nonce = nonceLength)
    (hfits : ∀ payload, Gateway.buildPayload P g.channel b nonce = .ok payload → Fits P payload) :
    ∃ payload, deviceStep P cfg deviceKeys g (.checked d key b) (.build nonce)
        = (g, .sending d key payload) ∧
      ∀ r, parseReadingBytes P b = .ok r → Opens P σ.sessionId σ.sessionKey payload r := by
  have hbuild : Gateway.buildPayload P g.channel b nonce
      = Gateway.buildProtectedReading P b σ.sessionKey σ.sessionId nonce :=
    congrArg (Gateway.buildPayload P · b nonce) h.channel
  obtain ⟨payload, hpayload⟩ : ∃ payload,
      Gateway.buildProtectedReading P b σ.sessionKey σ.sessionId nonce = .ok payload := by
    simp [Gateway.buildProtectedReading, sessionMessageAad, encodeUtf8, σ.valid,
      encryptSessionPayload, aeadEncrypt, chacha_eq_ok σ.key_len]
  rw [hpayload] at hbuild
  refine ⟨payload, by simp only [deviceStep, hbuild], fun r hr => ⟨?_, hfits payload hbuild⟩⟩
  rw [decryptProtectedReading_buildProtectedReading hP nonce σ.key_len hnonce σ.nonempty σ.valid
    hpayload, Cloud.parseDecrypted, hr]

variable (P) in
/-- The gateway sends a payload. -/
lemma deviceStep_sends (h : GatewaySide σ g₀ g taken merged) (d : PyStr) (key : B)
    (payload : JsonDict) :
    deviceStep P cfg deviceKeys g (.sending d key payload) (.send .ok)
        = (g.inc .messagesForwarded, .serving d key) ∧
      sentBy g (.sending d key payload) (.send .ok) = [payload] := by
  have hsock : g.channel.sock = some σ.sock :=
    congrArg Gateway.CloudChannel.sock h.channel
  constructor
  · simp only [deviceStep, Gateway.sendPayload, hsock]
    rfl
  · simp only [sentBy, hsock]
    rfl

lemma GatewaySide.sends (h : GatewaySide σ g₀ g taken merged) :
    GatewaySide σ g₀ (g.inc .messagesForwarded) taken (merged + 1) := by
  refine ⟨h.channel, fun c hc => ?_⟩
  have hold := h.metrics c hc
  show (g.channel.metrics.inc .messagesForwarded) c = _
  rw [Metrics.inc_apply, hold]
  cases c <;> rfl

end Gateway

/-! ### The cloud -/

/-- The handler of the gateway at the cloud is between two messages, or at a reading that it has
accepted. -/
inductive Serving (σ : Session P) : Cloud.Phase B → Prop
  | receiving : Serving σ (.receiving σ.gatewayId σ.sessionId σ.sessionKey)
  | storing (r : JsonDict) : Serving σ (.storing σ.gatewayId σ.sessionId σ.sessionKey r)
  | counting (r : JsonDict) : Serving σ (.counting σ.gatewayId σ.sessionId σ.sessionKey r)
  | reporting (r : JsonDict) : Serving σ (.reporting σ.gatewayId σ.sessionId σ.sessionKey r)

/-- The cloud `c` on the session, after it was `c₀`; it has accepted the readings
`collected`, and the last one of them may not be in the store yet. -/
structure CloudSide (ids : ι → PyStr) (link : ℕ) (σ : Session P) (c₀ c : Cloud.ServerState B)
    (collected : List (ι × JsonDict)) : Prop where
  phase : Serving σ (c.phase link)
  history : c.shared.store.history ++ storing (c.phase link)
    = c₀.shared.store.history ++ collected.map Prod.snd
  capacity : c.shared.store.maxReadings = c₀.shared.store.maxReadings
  processed : c.shared.metrics .messagesProcessed + Cloud.underway (c.phase link)
    = c₀.shared.metrics .messagesProcessed + collected.length
  rejected : c.shared.metrics .messagesRejected = c₀.shared.metrics .messagesRejected
  errors : c.shared.metrics .errors = c₀.shared.metrics .errors
  readings : ∀ x ∈ collected, ∃ n, IsReading P (ids x.1) n x.2

section Cloud

variable {ids link} {σ : Session P} {c₀ c : Cloud.ServerState B}
  {collected : List (ι × JsonDict)} {i : ι}

/-- The cloud after it has accepted the reading `r` with the sequence `k`. -/
def afterReceive (link : ℕ) (σ : Session P) (c : Cloud.ServerState B) (deviceId : PyStr) (k : ℤ)
    (r : JsonDict) : Cloud.ServerState B where
  shared := { c.shared.inc .messagesReceived with
    replay := ⟨Function.update c.shared.replay.lastSequence (.str deviceId) (some k)⟩ }
  phase := Function.update c.phase link (.storing σ.gatewayId σ.sessionId σ.sessionKey r)

/-- The cloud accepts a reading that is newer than the last one. -/
lemma cloudStep_receives (hp : c.phase link = .receiving σ.gatewayId σ.sessionId σ.sessionKey)
    (hopens : Opens P σ.sessionId σ.sessionKey m r) (hr : IsReading P deviceId k r)
    (hlt : c.shared.replay.last (.str deviceId) < k) :
    Cloud.step cloud addr c (link, .recv (delivered P m)) = afterReceive link σ c deviceId k r := by
  have hread : delivered P m = .message m := if_pos hopens.2
  have hid : (r.item "device_id" >>= Json.hashKey) = .ok (.str deviceId) := by
    rw [item_eq_ok.2 hr.device]
    rfl
  have haccept := Cloud.acceptReading_of_lt hopens.1 hr.sequence hid hlt
  rw [hread]
  simp only [Cloud.step, hp, Cloud.handlerStep, ReadOutcome.result, haccept, afterReceive]

omit [DecidableEq ι] in
lemma CloudSide.receives (h : CloudSide ids link σ c₀ c collected)
    (hp : c.phase link = .receiving σ.gatewayId σ.sessionId σ.sessionKey)
    (hr : IsReading P (ids i) k r) :
    CloudSide ids link σ c₀ (afterReceive link σ c (ids i) k r) (collected ++ [(i, r)]) := by
  have hphase : (afterReceive link σ c (ids i) k r).phase link
      = .storing σ.gatewayId σ.sessionId σ.sessionKey r := Function.update_self _ _ _
  have hhistory := h.history
  have hprocessed := h.processed
  rw [hp] at hhistory hprocessed
  refine ⟨hphase ▸ .storing r, ?_, h.capacity, ?_, h.rejected, h.errors, fun x hx => ?_⟩
  · rw [hphase, List.map_append, ← List.append_assoc, ← hhistory]
    simp [storing, afterReceive]
  · rw [hphase, List.length_append]
    simp only [Cloud.underway, Nat.add_zero] at hprocessed
    simp only [Cloud.underway, List.length_singleton, ← Nat.add_assoc, ← hprocessed]
    rfl
  · rcases List.mem_append.1 hx with hx | hx
    · exact h.readings x hx
    · obtain rfl := List.mem_singleton.1 hx
      exact ⟨k, hr⟩

omit [DecidableEq ι] in
/-- The cloud adds the reading that it has accepted, counts it, or writes its line. -/
lemma CloudSide.works (h : CloudSide ids link σ c₀ c collected) {ev : Cloud.ConnEvent}
    (hev : ev = .store ∨ ev = .count ∨ ev = .report) :
    CloudSide ids link σ c₀ (Cloud.step cloud addr c (link, ev)) collected ∧
      (Cloud.step cloud addr c (link, ev)).shared.replay = c.shared.replay := by
  obtain ⟨shared, phase⟩ := c
  obtain ⟨hphase, hhistory, hcapacity, hprocessed, hrejected, herrors, hreadings⟩ := h
  dsimp only at hphase hhistory hcapacity hprocessed hrejected herrors
  -- at another of the stops there is nothing to do
  have idle : Cloud.handlerStep cloud link (addr link) shared (phase link) ev
      = (shared, phase link) →
      CloudSide ids link σ c₀ (Cloud.step cloud addr ⟨shared, phase⟩ (link, ev)) collected ∧
        (Cloud.step cloud addr ⟨shared, phase⟩ (link, ev)).shared.replay = shared.replay := by
    intro hstep
    simp only [Cloud.step, hstep, Function.update_eq_self]
    exact ⟨⟨hphase, hhistory, hcapacity, hprocessed, hrejected, herrors, hreadings⟩, trivial⟩
  generalize hp : phase link = p at hphase hhistory hprocessed idle
  cases hphase with
  | receiving => rcases hev with rfl | rfl | rfl <;> exact idle rfl
  | storing r =>
    rcases hev with rfl | rfl | rfl
    · simp only [Cloud.step, hp, Cloud.handlerStep]
      refine ⟨⟨?_, ?_, hcapacity, ?_, hrejected, herrors, hreadings⟩, rfl⟩
      · simp only [Function.update_self]
        exact .counting r
      · simp only [Function.update_self, ← hhistory]
        simp [storing]
      · simp only [Function.update_self, ← hprocessed]
        rfl
    · exact idle rfl
    · exact idle rfl
  | counting r =>
    rcases hev with rfl | rfl | rfl
    · exact idle rfl
    · simp only [Cloud.step, hp, Cloud.handlerStep]
      refine ⟨⟨?_, ?_, hcapacity, ?_, ?_, ?_, hreadings⟩, rfl⟩
      · simp only [Function.update_self]
        exact .reporting r
      · simp only [Function.update_self, ← hhistory]
        simp [storing]
      · simp only [Function.update_self, ← hprocessed]
        simp [Cloud.underway]
      · exact (Metrics.inc_of_ne (show Counter.messagesRejected ≠ .messagesProcessed by
          decide)).trans hrejected
      · exact (Metrics.inc_of_ne (show Counter.errors ≠ .messagesProcessed by decide)).trans herrors
    · exact idle rfl
  | reporting r =>
    rcases hev with rfl | rfl | rfl
    · exact idle rfl
    · exact idle rfl
    · simp only [Cloud.step, hp, Cloud.handlerStep]
      refine ⟨⟨?_, ?_, hcapacity, ?_, hrejected, herrors, hreadings⟩, rfl⟩
      · simp only [Function.update_self]
        exact .receiving
      · simp only [Function.update_self, ← hhistory]
        rfl
      · simp only [Function.update_self, ← hprocessed]
        rfl

end Cloud

/-! ### The system and the pipeline -/

/-- What concerns device `i`, with the places of its readings in the pipeline. -/
def view (ids : ι → PyStr) (s : State ι B) (a : Pipeline.State ι JsonDict) (i : ι) : View B where
  pc := (s.processes i).pc
  lines := s.lines i
  handler := s.handlers i
  gatewayLast := s.gateway.replay.last (ids i)
  cloudLast := s.cloud.shared.replay.last (.str (ids i))
  transit := Pipeline.ofSource i a.shared
  hand := a.hand i
  lane := a.lane i

/-- The system, which has started in `s₀`, is at the same point as the pipeline. -/
structure Refines (ids : ι → PyStr) (keys : ι → B) (link : ℕ) (σ : Session P) (s₀ s : State ι B)
    (a : Pipeline.State ι JsonDict) : Prop where
  flows : ∀ i, ∃ n up, Flow P σ (ids i) (keys i) (view ids s a i) n up
  generated : ∀ i, a.produced i = s.generated i
  gateway : GatewaySide σ s₀.gateway s.gateway a.taken (a.collected.length + a.shared.length)
  cloud : CloudSide ids link σ s₀.cloud s.cloud a.collected
  wire : List.Forall₂ (fun m x => Opens P σ.sessionId σ.sessionKey m x.2) s.wire a.shared

section Refines

variable {cfg deviceKeys cloud addr ids keys link} {σ : Session P} {s₀ s : State ι B}
  {a : Pipeline.State ι JsonDict} {i : ι}

/-- A step of a device produces what it generates. -/
lemma Refines.device (h : Refines ids keys link σ s₀ s a) (hP : P.Lawful)
    (hkey : P.len (keys i) = keyLength) {ev : RunEvent B}
    (hev : Proceeds P (ids i) (keys i) (s.processes i).pc ev) :
    Refines ids keys link σ s₀ (step cfg deviceKeys cloud addr ids keys link s (.device i ev))
      (run Pipeline.step a ((generatedBy (ids i) (s.processes i).pc ev).map (.produce i))) := by
  rw [Pipeline.run_produce]
  refine ⟨fun j => ?_, fun j => ?_, h.gateway, h.cloud, h.wire⟩
  · by_cases hj : j = i
    · rw [hj]
      obtain ⟨n, up, hflow⟩ := h.flows i
      obtain ⟨up, hflow⟩ := hflow.device (runStep_makes hP hkey hev)
      refine ⟨n, up, ?_⟩
      simpa [view, step] using hflow
    · obtain ⟨n, up, hflow⟩ := h.flows j
      refine ⟨n, up, ?_⟩
      simpa [view, step, hj] using hflow
  · by_cases hj : j = i
    · rw [hj]
      simp [step, h.generated i]
    · simp [step, hj, h.generated j]

/-- A step of a handler that moves no reading. -/
lemma Refines.quiet (h : Refines ids keys link σ s₀ s a) {g : GatewayState B}
    (hq : Quiet s.gateway g) {p : DevicePhase B} {lines : List JsonDict}
    (hflow : ∀ n up, Flow P σ (ids i) (keys i) (view ids s a i) n up →
      Flow P σ (ids i) (keys i) { view ids s a i with lines := lines, handler := p } n up) :
    Refines ids keys link σ s₀
      { s with
        gateway := g
        handlers := Function.update s.handlers i p
        lines := Function.update s.lines i lines } a := by
  refine ⟨fun j => ?_, h.generated, h.gateway.quiet hq, h.cloud, h.wire⟩
  obtain ⟨n, up, hold⟩ := h.flows j
  refine ⟨n, up, ?_⟩
  by_cases hj : j = i
  · rw [hj] at hold ⊢
    simpa [view, hq.replay] using hflow n up hold
  · simpa [view, hj, hq.replay] using hold

/-- A step of a handler that sends nothing. -/
lemma serve_eq {ev : DeviceEvent B} {g : GatewayState B} {p : DevicePhase B}
    (hstep : deviceStep P cfg deviceKeys s.gateway (s.handlers i) ev = (g, p))
    (hsent : sentBy s.gateway (s.handlers i) ev = []) :
    s.serve cfg deviceKeys i ev = { s with
      gateway := g
      handlers := Function.update s.handlers i p
      lines := Function.update s.lines i (s.lines i) } := by
  simp only [State.serve, hstep, hsent, List.append_nil, Function.update_eq_self]

/-- The handler reads the reading that its device has sent. -/
lemma Refines.takes (h : Refines ids keys link σ s₀ s a) (hids : Function.Injective ids)
    {m : JsonDict} {rest : List JsonDict} (hlines : s.lines i = m :: rest) {d : PyStr} {key : B}
    (hp : s.handlers i = .serving d key) :
    Refines ids keys link σ s₀ (step cfg deviceKeys cloud addr ids keys link s (.read i))
      (Pipeline.step a (.take i)) := by
  obtain ⟨n, up, hflow⟩ := h.flows i
  obtain ⟨rfl, rfl, hhand, r, k, lane, up, hlane, hfits, hdecrypt, hlt, hflow⟩ :=
    hflow.takes hp hlines
  have hstep := deviceStep_takes cfg deviceKeys hfits hdecrypt hlt
  have hread : step cfg deviceKeys cloud addr ids keys link s (.read i) = { s with
      gateway := afterTake s.gateway (ids i) k
      handlers := Function.update s.handlers i
        (.forwarding (ids i) (keys i) (readingToBytes P r))
      lines := Function.update s.lines i rest } := by
    simp only [step, hlines, hp, awaits, State.serve, hstep, sentBy, List.append_nil, if_true]
  have htake : Pipeline.step a (.take i) = { a with
      lane := Function.update a.lane i lane
      hand := Function.update a.hand i (some r)
      taken := a.taken + 1 } := by
    simp only [Pipeline.step, show a.lane i = r :: lane from hlane, show a.hand i = none from hhand]
  rw [hread, htake]
  refine ⟨fun j => ?_, h.generated, h.gateway.takes (ids i) k, h.cloud, h.wire⟩
  by_cases hj : j = i
  · rw [hj]
    refine ⟨n, up, ?_⟩
    simpa [view, afterTake, ReplayGuard.last] using hflow
  · obtain ⟨n, up, hold⟩ := h.flows j
    refine ⟨n, up, ?_⟩
    -- the guard has entries for other devices as before
    have hne : ids j ≠ ids i := hids.ne hj
    simpa [view, afterTake, ReplayGuard.last, hj, hne] using hold

/-- A handler reads. -/
lemma Refines.read (h : Refines ids keys link σ s₀ s a) (hP : P.Lawful)
    (hids : Function.Injective ids) (hid : ids i ≠ [])
    (hkey : deviceKeys.keys (ids i) = some (keys i)) :
    ∃ τ, Refines ids keys link σ s₀ (step cfg deviceKeys cloud addr ids keys link s (.read i))
      (run Pipeline.step a τ) := by
  rcases hlines : s.lines i with _ | ⟨m, rest⟩
  · refine ⟨[], ?_⟩
    simp only [step, hlines]
    exact h
  obtain ⟨n, up, hflow⟩ := h.flows i
  rcases hp : s.handlers i with _ | _ | _ | _ | _ | ⟨d, key⟩ | _ | _ | _ | _
  case hello =>
    obtain ⟨hhello, -⟩ := hflow.admits hp hlines
    obtain ⟨g, hstep, hquiet⟩ := deviceStep_admits cfg deviceKeys hP hkey hid hhello s.gateway
    have hread : step cfg deviceKeys cloud addr ids keys link s (.read i) = { s with
        gateway := g
        handlers := Function.update s.handlers i (.admitting (ids i) (keys i))
        lines := Function.update s.lines i rest } := by
      simp only [step, hlines, hp, awaits, State.serve, hstep, sentBy, List.append_nil, if_true]
    refine ⟨[], ?_⟩
    rw [hread]
    exact h.quiet hquiet fun n up hf => (hf.admits hp hlines).2
  case serving => exact ⟨[.take i], h.takes hids hlines hp⟩
  all_goals
    -- a handler that reads nothing
    refine ⟨[], ?_⟩
    simp only [step, hlines, hp, awaits, Bool.false_eq_true, if_false]
    exact h

/-- The handler sends the payload that it has built. -/
lemma Refines.sends (h : Refines ids keys link σ s₀ s a) {d : PyStr} {key : B}
    {payload : JsonDict} (hp : s.handlers i = .sending d key payload) :
    Refines ids keys link σ s₀ (step cfg deviceKeys cloud addr ids keys link s
      (.handler i (.send .ok))) (Pipeline.step a (.merge i)) := by
  obtain ⟨n, up, hflow⟩ := h.flows i
  obtain ⟨r, hhand, hopens, hflow⟩ := hflow.forwards hp
  obtain ⟨hstep, hsent⟩ := deviceStep_sends P cfg deviceKeys h.gateway d key payload
  have hmove : step cfg deviceKeys cloud addr ids keys link s (.handler i (.send .ok)) = { s with
      gateway := s.gateway.inc .messagesForwarded
      handlers := Function.update s.handlers i (.serving d key)
      wire := s.wire ++ [payload] } := by
    simp only [step, State.serve, hp, hstep, hsent]
  -- in the pipeline the reading goes from the hand to the shared line
  have hmerge : Pipeline.step a (.merge i) = { a with
      hand := Function.update a.hand i none
      shared := a.shared ++ [(i, r)] } := by
    simp only [Pipeline.step, show a.hand i = some r from hhand]
  rw [hmove, hmerge]
  refine ⟨fun j => ?_, h.generated, ?_, h.cloud, ?_⟩
  · by_cases hj : j = i
    · rw [hj]
      refine ⟨n, up, ?_⟩
      simpa [view] using hflow
    · obtain ⟨n, up, hold⟩ := h.flows j
      refine ⟨n, up, ?_⟩
      simpa [view, hj, Pipeline.ofSource_cons_of_ne (Ne.symm hj)] using hold
  · rw [List.length_append, List.length_singleton, ← Nat.add_assoc]
    exact h.gateway.sends
  · exact List.rel_append h.wire (.cons hopens .nil)

/-- A handler makes a step between two reads. -/
lemma Refines.handler (h : Refines ids keys link σ s₀ s a) (hP : P.Lawful) {ev : DeviceEvent B}
    (hev : Forwards P s.gateway.channel (s.handlers i) ev) :
    ∃ τ, Refines ids keys link σ s₀ (step cfg deviceKeys cloud addr ids keys link s (.handler i ev))
      (run Pipeline.step a τ) := by
  -- a handler that stands elsewhere does nothing
  have idle : deviceStep P cfg deviceKeys s.gateway (s.handlers i) ev = (s.gateway, s.handlers i) →
      sentBy s.gateway (s.handlers i) ev = [] →
      ∃ τ, Refines ids keys link σ s₀
        (step cfg deviceKeys cloud addr ids keys link s (.handler i ev))
        (run Pipeline.step a τ) := by
    intro hstep hsent
    refine ⟨[], ?_⟩
    rw [step, serve_eq hstep hsent]
    exact h.quiet (Quiet.refl _) fun n up hf => hf
  rcases hp : s.handlers i with _ | _ | ⟨d, key⟩ | ⟨d, key⟩ | ⟨d, key⟩ | _ | ⟨d, key, b⟩ |
    ⟨d, key, b⟩ | ⟨d, key, payload⟩ | _
  all_goals rw [hp] at hev idle
  case new =>
    cases hev with
    | accept =>
      have hstep : deviceStep P cfg deviceKeys s.gateway (s.handlers i) .accept
          = (s.gateway.inc .deviceConnections, .hello) := by
        rw [hp]
        rfl
      refine ⟨[], ?_⟩
      rw [step, serve_eq hstep (by rw [hp]; rfl)]
      exact h.quiet ((Quiet.refl _).inc _ rfl) fun n up hf => hf.accepts hp
    | _ => exact idle rfl rfl
  -- the statements of an admission count what is not watched
  case admitting =>
    cases hev with
    | activate =>
      have hstep : deviceStep P cfg deviceKeys s.gateway (s.handlers i) .activate
          = (s.gateway.inc .fallbackActivations, .marking d key) := by
        rw [hp]
        rfl
      refine ⟨[], ?_⟩
      rw [step, serve_eq hstep (by rw [hp]; rfl)]
      exact h.quiet ((Quiet.refl _).inc _ rfl) fun n up hf => hf.admitting hp
    | _ => exact idle rfl rfl
  case marking =>
    cases hev with
    | mark =>
      refine ⟨[], ?_⟩
      by_cases hseen : d ∈ s.gateway.seenDevices
      · have hstep : deviceStep P cfg deviceKeys s.gateway (s.handlers i) .mark
            = (s.gateway, .serving d key) := by
          rw [hp]
          simp only [deviceStep, hseen, if_true]
        rw [step, serve_eq hstep (by rw [hp]; rfl)]
        exact h.quiet (Quiet.refl _) fun n up hf => (hf.marking hp).1
      · have hstep : deviceStep P cfg deviceKeys s.gateway (s.handlers i) .mark
            = ({ s.gateway with seenDevices := d :: s.gateway.seenDevices }, .detecting d key) := by
          rw [hp]
          simp only [deviceStep, hseen, if_false]
        rw [step, serve_eq hstep (by rw [hp]; rfl)]
        have hquiet : Quiet s.gateway { s.gateway with
            seenDevices := d :: s.gateway.seenDevices } := ⟨rfl, rfl, fun _ _ => rfl⟩
        exact h.quiet hquiet fun n up hf => (hf.marking hp).2
    | _ => exact idle rfl rfl
  case detecting =>
    cases hev with
    | detect =>
      have hstep : deviceStep P cfg deviceKeys s.gateway (s.handlers i) .detect
          = (s.gateway.inc .legacyDevicesDetected, .serving d key) := by
        rw [hp]
        rfl
      refine ⟨[], ?_⟩
      rw [step, serve_eq hstep (by rw [hp]; rfl)]
      exact h.quiet ((Quiet.refl _).inc _ rfl) fun n up hf => hf.detecting hp
    | _ => exact idle rfl rfl
  case forwarding =>
    cases hev with
    | check =>
      have hstep := deviceStep_checks cfg deviceKeys h.gateway d key b
      rw [← hp] at hstep
      refine ⟨[], ?_⟩
      rw [step, serve_eq hstep (by rw [hp]; rfl)]
      exact h.quiet (Quiet.refl _) fun n up hf => hf.checks hp
    | _ => exact idle rfl rfl
  case checked =>
    cases hev with
    | build hnonce hfits =>
      obtain ⟨payload, hstep, hopens⟩ := deviceStep_builds cfg deviceKeys hP h.gateway hnonce
        fun payload hb => hfits d key b payload rfl hb
      rw [← hp] at hstep
      refine ⟨[], ?_⟩
      rw [step, serve_eq hstep (by rw [hp]; rfl)]
      exact h.quiet (Quiet.refl _) fun n up hf => hf.builds hp hopens
    | _ => exact idle rfl rfl
  case sending =>
    cases hev with
    | send => exact ⟨[.merge i], h.sends hp⟩
    | _ => exact idle rfl rfl
  all_goals cases hev <;> exact idle rfl rfl

/-- The cloud reads the next message. -/
lemma Refines.receive (h : Refines ids keys link σ s₀ s a) (hids : Function.Injective ids) :
    ∃ τ, Refines ids keys link σ s₀ (step cfg deviceKeys cloud addr ids keys link s .receive)
      (run Pipeline.step a τ) := by
  rcases hwire : s.wire with _ | ⟨m, rest⟩
  · refine ⟨[], ?_⟩
    simp only [step, hwire]
    exact h
  have hserving := h.cloud.phase
  generalize hp : s.cloud.phase link = p at hserving
  cases hserving with
  | receiving =>
    have hopens := h.wire
    rw [hwire] at hopens
    obtain ⟨⟨i, r⟩, shared, hm, hrest, hshared⟩ := List.forall₂_cons_left_iff.1 hopens
    obtain ⟨n, up, hflow⟩ := h.flows i
    have htransit : (view ids s a i).transit = r :: Pipeline.ofSource i shared := by
      simp [view, hshared]
    obtain ⟨hr, hlt, hflow⟩ := hflow.arrives htransit
    have hread : step cfg deviceKeys cloud addr ids keys link s .receive = { s with
        wire := rest
        cloud := afterReceive link σ s.cloud (ids i) (n + 1) r } := by
      simp only [step, hwire, hp, cloudStep_receives cloud addr hp hm hr hlt]
    have hcollect : Pipeline.step a .collect = { a with
        shared := shared
        collected := a.collected ++ [(i, r)] } := by
      simp only [Pipeline.step, hshared]
    refine ⟨[.collect], ?_⟩
    rw [run_cons, run_nil, hread, hcollect]
    refine ⟨fun j => ?_, h.generated, ?_, h.cloud.receives hp hr, hrest⟩
    · by_cases hj : j = i
      · rw [hj]
        refine ⟨n + 1, up, ?_⟩
        simpa [view, afterReceive, ReplayGuard.last] using hflow
      · obtain ⟨n, up, hold⟩ := h.flows j
        refine ⟨n, up, ?_⟩
        have hne : ids j ≠ ids i := hids.ne hj
        simpa [view, afterReceive, ReplayGuard.last, hne, hshared,
          Pipeline.ofSource_cons_of_ne (Ne.symm hj)] using hold
    · have hcount : (a.collected ++ [(i, r)]).length + shared.length
          = a.collected.length + a.shared.length := by
        rw [hshared, List.length_append, List.length_singleton, List.length_cons]
        omega
      rw [hcount]
      exact h.gateway
  | _ =>
    -- the handler is not done with the last reading yet
    refine ⟨[], ?_⟩
    simp only [step, hwire, hp]
    exact h

/-- The cloud goes on with the reading that it has accepted. -/
lemma Refines.works (h : Refines ids keys link σ s₀ s a) {ev : Cloud.ConnEvent}
    (hev : ev = .store ∨ ev = .count ∨ ev = .report) :
    Refines ids keys link σ s₀ { s with cloud := Cloud.step cloud addr s.cloud (link, ev) } a := by
  obtain ⟨hcloud, hreplay⟩ := h.cloud.works cloud addr hev
  refine ⟨fun i => ?_, h.generated, h.gateway, hcloud, h.wire⟩
  obtain ⟨n, up, hflow⟩ := h.flows i
  refine ⟨n, up, ?_⟩
  simpa [view, hreplay] using hflow

/-- The step lemma. -/
lemma Refines.step (h : Refines ids keys link σ s₀ s a) (hP : P.Lawful)
    (hreg : Registered deviceKeys ids keys) {ev : Event ι B} (hev : Smooth P ids keys s ev) :
    ∃ τ, Refines ids keys link σ s₀ (step cfg deviceKeys cloud addr ids keys link s ev)
      (run Pipeline.step a τ) := by
  cases ev with
  | device i ev =>
    exact ⟨_, h.device hP (deviceKeys.key_len (hreg.keys i)) (hev.device i ev rfl)⟩
  | read i => exact h.read hP hreg.injective (hreg.nonempty i) (hreg.keys i)
  | handler i ev => exact h.handler hP (hev.handler i ev rfl)
  | receive => exact h.receive hreg.injective
  | store => exact ⟨[], h.works (Or.inl rfl)⟩
  | count => exact ⟨[], h.works (Or.inr (Or.inl rfl))⟩
  | report => exact ⟨[], h.works (Or.inr (Or.inr rfl))⟩

end Refines

/-! ### The start -/

section Start

variable {cfg deviceKeys cloud addr ids keys link} {s₀ s : State ι B}

/-- Both ends know the session. -/
lemma Established.session (hP : P.Lawful) (hpro : Provisioned cfg cloud)
    {ch : Gateway.CloudChannel B} {cs : Cloud.ServerState B}
    (h : Established cfg cloud addr link ch cs) : ∃ σ : Session P, ch.bare = σ.channel ∧
      cs.phase link = .receiving σ.gatewayId σ.sessionId σ.sessionKey := by
  cases h with
  | @intro ch₀ _ cs sid nonce coins sock request hsid hvalid hnonce hrequest hconnect hidle hnew =>
    have hkey := cloud.gatewayKeys.key_len hpro.registered
    -- both ends compute the same session from the same draws
    have hexchange := exchange_honestAttempt cfg cloud hP hkey hpro.cloudId hpro.pin hpro.pinned
      hsid nonce coins sock
    have hrun := run_handshake hP cfg cloud hpro.registered hpro.gatewayId nonce coins hnonce
      hrequest hsid addr hnew
    refine ⟨⟨cfg.gatewayId, sid, deriveSessionKey P (mlkemEncapsulate P cloud.publicKeyRaw coins).1,
      sock, hsid, hvalid, P.hkdf_len _⟩, ?_, ?_⟩
    · have hpublish : ch = { Gateway.publish { ch₀ with state := .establishing } sid
          (deriveSessionKey P (mlkemEncapsulate P cloud.publicKeyRaw coins).1) sock with
            state := .established } := by
        simp only [Gateway.connectAndEstablish, Gateway.establishOnce, hexchange] at hconnect
        cases hconnect
        rfl
      subst hpublish
      simp only [Gateway.CloudChannel.bare, Gateway.publish, Session.channel]
      rw [show ch₀.reconnecting = false from hidle]
    · rw [hrun]
      exact Function.update_self _ _ _

/-- At the start the pipeline is empty. -/
lemma Ready.refines (h : Ready cfg cloud addr ids link s) (hP : P.Lawful)
    (hpro : Provisioned cfg cloud) :
    ∃ σ : Session P, Refines ids keys link σ s s Pipeline.empty := by
  obtain ⟨σ, hchannel, hphase⟩ := h.session.session hP hpro
  refine ⟨σ, fun i => ⟨loadSequence (s.processes i).file, [], ?_⟩, fun i => (h.generated i).symm,
    ⟨hchannel, fun c hc => ?_⟩,
    ⟨hphase ▸ .receiving, ?_, rfl, ?_, rfl, rfl, by simp [Pipeline.empty]⟩,
    ?_⟩
  · refine ⟨?_, trivial, ?_, h.cloudLast i, ?_, ?_, ?_, ?_⟩
    · simp [view, h.processes i, unsent, Pipeline.empty]
    · simp [view, h.processes i, counter, Pipeline.empty]
    · simpa [view, Pipeline.empty] using h.gatewayLast i
    · simp [view, h.processes i]
    · simp only [view, h.processes i, h.lines i, h.handlers i]
      exact .loaded (Or.inl rfl)
    · simp only [view, h.handlers i]
      exact .new
  · cases c <;> rfl
  · simp [hphase, storing, Pipeline.empty]
  · simp [hphase, Cloud.underway, Pipeline.empty]
  · rw [h.wire]
    exact .nil

/-- The run lemma: the system follows the pipeline. -/
theorem refines_run (h : Ready cfg cloud addr ids link s) (hP : P.Lawful)
    (hpro : Provisioned cfg cloud) (hreg : Registered deviceKeys ids keys) {τ : List (Event ι B)}
    (hτ : Along (step cfg deviceKeys cloud addr ids keys link) (Smooth P ids keys) s τ) :
    ∃ (σ : Session P) (υ : List (Pipeline.Event ι JsonDict)),
      Refines ids keys link σ s (run (step cfg deviceKeys cloud addr ids keys link) s τ)
        (run Pipeline.step Pipeline.empty υ) := by
  obtain ⟨σ, hstart⟩ : ∃ σ : Session P, Refines ids keys link σ s s Pipeline.empty :=
    h.refines hP hpro
  exact ⟨σ, run_simulates (R := Refines ids keys link σ s)
    (fun _ _ _ ht hev => ht.step hP hreg hev) hstart hτ⟩

end Start

end PqcBridge.Delivery
