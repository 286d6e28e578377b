/-
Devices, gateway and cloud on one session.

Any number of devices run `run` of `device/device.py`, each over one gateway connection,
and the gateway forwards their readings over a session that it has made with the cloud.
Devices, handlers and cloud move in any order.  `lines` is what a device has sent and its
handler has not read yet, `wire` what the gateway has sent and the cloud has not read yet.

* `Smooth`: nothing fails in a step, and every message is within the size limit;
* `Ready`, `Consumed`: how a run starts, and how it ends;
* `Delivered`: what has been added to the store by then.
-/
import PqcBridge.Device.Run
import PqcBridge.Gateway.Accounting
import PqcBridge.System.Isolation

namespace PqcBridge.Delivery

open Python Protocol Crypto Runs Handshake Device
open Gateway (DevicePhase DeviceEvent GatewayState deviceStep)
open Isolation (Session Opens delivered sentBy)

variable {ι B : Type}

/-! ### The system -/

/-- The devices, the gateway with one handler for each device, and the cloud.  `generated`
records the readings that each device has generated. -/
structure State (ι B : Type) where
  processes : ι → Process B
  lines : ι → List JsonDict
  handlers : ι → DevicePhase B
  gateway : GatewayState B
  wire : List JsonDict
  cloud : Cloud.ServerState B
  generated : ι → List JsonDict

/-- What can happen. -/
inductive Event (ι B : Type) where
  /-- device `i` makes a step of `run` -/
  | device (i : ι) (ev : RunEvent B)
  /-- the handler of device `i` reads the next line -/
  | read (i : ι)
  /-- the handler of device `i` makes another step -/
  | handler (i : ι) (ev : DeviceEvent B)
  /-- the cloud reads the next message of the gateway -/
  | receive
  /-- the cloud adds the reading that it has accepted -/
  | store
  /-- the cloud counts it -/
  | count
  /-- the cloud writes the line about it -/
  | report

/-- The lines that a step of `run` sends. -/
def sentByDevice (P : Primitives B) (deviceId : PyStr) (key : B) (pc : RunPc B)
    (ev : RunEvent B) : List JsonDict :=
  (helloSent P deviceId key pc ev).toList ++ ((readingSent pc ev).map fun x => x.2.2).toList

/-- The reading that a step of `run` generates. -/
def generatedBy (deviceId : PyStr) : RunPc B → RunEvent B → List JsonDict
  | .looping n, .build timestamp temperature _ =>
    [generateReading deviceId (n + 1) timestamp temperature]
  | _, _ => []

/-- Whether a handler is at a `read_message`. -/
def awaits : DevicePhase B → Bool
  | .hello => true
  | .serving _ _ => true
  | _ => false

variable {P : Primitives B} [DecidableEq ι] (cfg : Gateway.GatewayConfig B)
  (deviceKeys : KeyRegistry P) (cloud : Cloud.CloudConfig P) (addr : ℕ → Cloud.Addr)
  (ids : ι → PyStr) (keys : ι → B) (link : ℕ)

/-- The handler of device `i` makes a step. -/
def State.serve (s : State ι B) (i : ι) (ev : DeviceEvent B) : State ι B :=
  { s with
    gateway := (deviceStep P cfg deviceKeys s.gateway (s.handlers i) ev).1
    handlers := Function.update s.handlers i
      (deviceStep P cfg deviceKeys s.gateway (s.handlers i) ev).2
    wire := s.wire ++ sentBy s.gateway (s.handlers i) ev }

/-- One step of the system; `link` is the connection of the gateway at the cloud. -/
def step (s : State ι B) : Event ι B → State ι B
  | .device i ev =>
    { s with
      processes := Function.update s.processes i
        (runStep P (ids i) (keys i) (s.processes i) ev)
      lines := Function.update s.lines i
        (s.lines i ++ sentByDevice P (ids i) (keys i) (s.processes i).pc ev)
      generated := Function.update s.generated i
        (s.generated i ++ generatedBy (ids i) (s.processes i).pc ev) }
  | .read i =>
    match s.lines i with
    | [] => s
    | m :: rest =>
      if awaits (s.handlers i) then
        { s.serve cfg deviceKeys i (.recv (delivered P m)) with
          lines := Function.update s.lines i rest }
      else s
  | .handler i ev => s.serve cfg deviceKeys i ev
  | .receive =>
    match s.wire, s.cloud.phase link with
    | m :: rest, .receiving _ _ _ =>
      { s with
        wire := rest
        cloud := Cloud.step cloud addr s.cloud (link, .recv (delivered P m)) }
    | _, _ => s
  | .store => { s with cloud := Cloud.step cloud addr s.cloud (link, .store) }
  | .count => { s with cloud := Cloud.step cloud addr s.cloud (link, .count) }
  | .report => { s with cloud := Cloud.step cloud addr s.cloud (link, .report) }

/-! ### Runs in which nothing fails -/

/-- The message is within the size limit. -/
def Fits (P : Primitives B) (m : JsonDict) : Prop := (encodeMessage P m).length ≤ maxMessageBytes

/-- A step of `run` that raises nothing.  Nonces have their length, and `json.loads` undoes
`json.dumps` on the reading. -/
inductive Proceeds (P : Primitives B) (deviceId : PyStr) (key : B) :
    RunPc B → RunEvent B → Prop
  | connect (pc) : Proceeds P deviceId key pc (.connect .ok)
  | hello {pc nonce} : P.len nonce = nonceLength →
      (∀ m, helloMessage P deviceId key nonce = .ok m → Fits P m) →
      Proceeds P deviceId key pc (.hello nonce .ok)
  | build {pc timestamp temperature nonce} : P.len nonce = nonceLength →
      (∀ n, pc = .looping n →
        LoadsBack P (generateReading deviceId (n + 1) timestamp temperature) ∧
        ∃ m, legacyReading P deviceId key (n + 1) (readingToBytes P
          (generateReading deviceId (n + 1) timestamp temperature)) nonce = .ok m ∧ Fits P m) →
      Proceeds P deviceId key pc (.build timestamp temperature nonce)
  | send (pc) : Proceeds P deviceId key pc (.send .ok)
  | save (pc) : Proceeds P deviceId key pc (.save .ok)

/-- A step of a handler between two reads, on a session that does not fail. -/
inductive Forwards (P : Primitives B) (ch : Gateway.CloudChannel B) :
    DevicePhase B → DeviceEvent B → Prop
  | accept (p) : Forwards P ch p .accept
  | activate (p) : Forwards P ch p .activate
  | mark (p) : Forwards P ch p .mark
  | detect (p) : Forwards P ch p .detect
  | check (p) : Forwards P ch p .check
  | build {p nonce} : P.len nonce = nonceLength →
      (∀ d key b payload, p = .checked d key b → Gateway.buildPayload P ch b nonce = .ok payload →
        Fits P payload) →
      Forwards P ch p (.build nonce)
  | send (p) : Forwards P ch p (.send .ok)

/-- Nothing fails in the step. -/
structure Smooth (P : Primitives B) (ids : ι → PyStr) (keys : ι → B) (s : State ι B)
    (ev : Event ι B) : Prop where
  device : ∀ i e, ev = .device i e → Proceeds P (ids i) (keys i) (s.processes i).pc e
  handler : ∀ i e, ev = .handler i e → Forwards P s.gateway.channel (s.handlers i) e

/-! ### The start -/

/-- What the system needs of its configuration: the devices have ids and keys of their own,
which are registered. -/
structure Registered (deviceKeys : KeyRegistry P) (ids : ι → PyStr) (keys : ι → B) : Prop where
  injective : Function.Injective ids
  nonempty : ∀ i, ids i ≠ []
  keys : ∀ i, deviceKeys.keys (ids i) = some (keys i)

/-- Gateway and cloud are set up for each other. -/
structure Provisioned : Prop where
  registered : cloud.gatewayKeys.keys cfg.gatewayId = some cfg.gatewayKey
  gatewayId : cfg.gatewayId ≠ []
  cloudId : cloud.cloudId ≠ []
  pin : cfg.pin = publicKeyFingerprint P cloud.publicKeyRaw
  pinned : cfg.pin ≠ []

/-- `connect_and_establish` has made a session, which the cloud serves on the connection
`link`. -/
inductive Established : Gateway.CloudChannel B → Cloud.ServerState B → Prop
  | intro {ch₀ ch : Gateway.CloudChannel B} {cs : Cloud.ServerState B} {sid : PyStr}
      {nonce coins : B} {sock : ℕ} {request : JsonDict} :
      sid ≠ [] → validUnicode sid = true → P.len nonce = nonceLength →
      Gateway.requestMessage P cfg nonce = .ok request →
      Gateway.connectAndEstablish P cfg none
        (fun _ => honestAttempt cloud sid nonce coins sock) 1 0 ch₀ = some (ch, 1, .ok true) →
      ch.reconnecting = false → cs.phase link = .new →
      Established ch (run (Cloud.step cloud addr) cs (handshakeEvents link request
        (Gateway.encapsMessage P cfg sid (mlkemEncapsulate P cloud.publicKeyRaw coins).2)))

/-- The session is established, the devices have been started and have read their counters,
and neither guard has seen a reading that is newer than the counter. -/
structure Ready (s : State ι B) : Prop where
  session : Established cfg cloud addr link s.gateway.channel s.cloud
  processes : ∀ i, (s.processes i).pc = .loaded (loadSequence (s.processes i).file)
  lines : ∀ i, s.lines i = []
  handlers : ∀ i, s.handlers i = .new
  wire : s.wire = []
  generated : ∀ i, s.generated i = []
  gatewayLast : ∀ i, s.gateway.replay.last (ids i) ≤ loadSequence (s.processes i).file
  cloudLast : ∀ i,
    s.cloud.shared.replay.last (.str (ids i)) ≤ loadSequence (s.processes i).file

/-! ### The end -/

/-- The reading that is generated and not sent yet. -/
def unsent : RunPc B → List JsonDict
  | .built _ r _ => [r]
  | _ => []

/-- The reading that the handler is about to add to the store. -/
def storing : Cloud.Phase B → List JsonDict
  | .storing _ _ _ r => [r]
  | _ => []

/-- Everything that was sent has been read and dealt with. -/
structure Consumed (link : ℕ) (s : State ι B) : Prop where
  lines : ∀ i, s.lines i = []
  handlers : ∀ i, Gateway.Accounting.pending (s.handlers i) = 0
  wire : s.wire = []
  cloud : Cloud.underway (s.cloud.phase link) = 0

/-- Whether the reading names the device. -/
def isOf (deviceId : PyStr) (r : JsonDict) : Bool := isStr (r.field "device_id") deviceId

/-- `added` is what was added to the store between `s₀` and `s`, and it is, for every device,
what that device has generated, but for a reading that it has not sent yet.  The counters say
so. -/
structure Delivered (ids : ι → PyStr) (s₀ s : State ι B) (added : List JsonDict) : Prop where
  history : s.cloud.shared.store.history = s₀.cloud.shared.store.history ++ added
  generated : ∀ i, added.filter (isOf (ids i)) ++ unsent (s.processes i).pc = s.generated i
  owned : ∀ r ∈ added, ∃ i, isOf (ids i) r = true
  readings : s.cloud.shared.store.readings = (s₀.cloud.shared.store.history ++ added).drop
    ((s₀.cloud.shared.store.history ++ added).length - s₀.cloud.shared.store.maxReadings)
  received : s.gateway.channel.metrics .messagesReceived
    = s₀.gateway.channel.metrics .messagesReceived + added.length
  processed : s.gateway.channel.metrics .messagesProcessed
    = s₀.gateway.channel.metrics .messagesProcessed + added.length
  forwarded : s.gateway.channel.metrics .messagesForwarded
    = s₀.gateway.channel.metrics .messagesForwarded + added.length
  stored : s.cloud.shared.metrics .messagesProcessed
    = s₀.cloud.shared.metrics .messagesProcessed + added.length
  gatewayRejected : s.gateway.channel.metrics .messagesRejected
    = s₀.gateway.channel.metrics .messagesRejected
  gatewayErrors : s.gateway.channel.metrics .errors = s₀.gateway.channel.metrics .errors
  cloudRejected : s.cloud.shared.metrics .messagesRejected
    = s₀.cloud.shared.metrics .messagesRejected
  cloudErrors : s.cloud.shared.metrics .errors = s₀.cloud.shared.metrics .errors

end PqcBridge.Delivery
