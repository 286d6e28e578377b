/-
Two devices on one gateway and one cloud.

All devices share the gateway's session with the cloud, the handler that serves it there,
and the replay guard of the cloud.  Here the messages of one device are taken out of a run
and the rest is run again: do the same messages of another device reach the store?

A party is known by its key, and a device connection belongs to the party whose hello is
admitted on it: what opens there was encrypted under that key.  The network does not fail:
a message that was sent is read, in order, and `sendall` raises only on a connection that
the cloud has left.  What has been sent but not read yet is on the `wire`, and `drained` is
the cloud once it has read all of it.

* `receive_of_no_sequence`, `receive_of_sequence`: what the cloud does with a protected
  message of the gateway;
* `Sim`: the run with the messages of one party beside the run without them;
* `stored_messages_isolated`: while the readings that the gateway accepts end no session,
  and those of the two parties name different devices, the messages of the second party
  that reach the store are the same in both runs.
-/
import PqcBridge.Device.Device

namespace PqcBridge.Isolation

open Python Protocol Crypto Runs Handshake

variable {B : Type}

/-! ### The system -/

/-- A protected message on its way to the cloud, with the device connection and the
message whose reading it carries. -/
structure Sent where
  conn : ℕ
  message : JsonDict
  payload : JsonDict

/-- The gateway with its device handlers, and the cloud with the handler of the connection
`link` that serves the gateway. -/
structure State (B : Type) where
  gateway : Gateway.GatewayState B
  devices : ℕ → Gateway.DevicePhase B
  /-- the message that the handler of a device connection has read last -/
  current : ℕ → JsonDict
  link : ℕ
  wire : List Sent
  cloud : Cloud.ServerState B
  /-- the messages of devices whose readings the cloud has stored -/
  stored : List (ℕ × JsonDict)

/-- What can happen. -/
inductive Event (B : Type) where
  /-- the handler of device connection `c` moves -/
  | device (c : ℕ) (ev : Gateway.DeviceEvent B)
  /-- the cloud reads the next message and is done with it -/
  | cloud
  /-- the reconnect thread makes an attempt, which reaches the cloud -/
  | reconnect (sessionId : PyStr) (nonce coins : B) (sock : ℕ)

variable {P : Primitives B} (gateway : Gateway.GatewayConfig B) (deviceKeys : KeyRegistry P)
  (cloud : Cloud.CloudConfig P) (addr : ℕ → Cloud.Addr)

variable (P) in
/-- What `read_message` makes of a message that was sent whole. -/
def delivered (m : JsonDict) : ReadOutcome :=
  if (encodeMessage P m).length ≤ maxMessageBytes then .message m
  else .malformed (lit "message exceeds maximum allowed size")

/-- The cloud and the messages it has stored, after one more message: it stores the
reading where it accepts it, and the handler ends where it raises. -/
def receive (link : ℕ) (cs : Cloud.ServerState B × List (ℕ × JsonDict)) (x : Sent) :
    Cloud.ServerState B × List (ℕ × JsonDict) :=
  let read := Cloud.step cloud addr cs.1 (link, .recv (delivered P x.payload))
  (run (Cloud.step cloud addr) read
      [(link, .store), (link, .count), (link, .report), (link, .finish)],
    match read.phase link with
    | .storing _ _ _ _ => cs.2 ++ [(x.conn, x.message)]
    | _ => cs.2)

/-- The protected message that a step of a device handler sends. -/
def sentBy (st : Gateway.GatewayState B) :
    Gateway.DevicePhase B → Gateway.DeviceEvent B → List JsonDict
  | .sending _ _ payload, .send .ok => if st.channel.sock.isSome then [payload] else []
  | _, _ => []

/-- The message that a device handler has read last, after one more step. -/
def readBy (last : JsonDict) : Gateway.DevicePhase B → Gateway.DeviceEvent B → JsonDict
  | .serving _ _, .recv (.message m) => m
  | _, _ => last

/-- One attempt of the reconnect thread, which reaches the cloud.  What was on the way to
the old connection is lost; an attempt that fails is followed by another one. -/
def reconnect (s : State B) (sessionId : PyStr) (nonce coins : B) (sock : ℕ) : State B :=
  match Gateway.requestMessage P gateway nonce,
    Gateway.establishOnce P gateway { s.gateway.channel with state := .connecting }
      (honestAttempt cloud sessionId nonce coins sock) with
  | .ok request, (ch, .ok ()) =>
    { s with
      gateway := { s.gateway with
        channel := { ch with state := .established, reconnecting := false } }
      link := s.link + 1
      wire := []
      cloud := run (Cloud.step cloud addr) s.cloud (handshakeEvents (s.link + 1) request
        (Gateway.encapsMessage P gateway sessionId
          (mlkemEncapsulate P cloud.publicKeyRaw coins).2)) }
  | _, (ch, _) => { s with gateway := { s.gateway with channel := Gateway.attemptFailed ch } }

/-- One step of the system. -/
def step (s : State B) : Event B → State B
  | .device c ev =>
    { s with
      gateway := (Gateway.deviceStep P gateway deviceKeys s.gateway (s.devices c) ev).1
      devices := Function.update s.devices c
        (Gateway.deviceStep P gateway deviceKeys s.gateway (s.devices c) ev).2
      current := Function.update s.current c (readBy (s.current c) (s.devices c) ev)
      wire := s.wire ++ (sentBy s.gateway (s.devices c) ev).map (⟨c, s.current c, ·⟩) }
  | .cloud =>
    match s.wire with
    | [] => s
    | x :: wire =>
      { s with
        wire := wire
        cloud := (receive cloud addr s.link (s.cloud, s.stored) x).1
        stored := (receive cloud addr s.link (s.cloud, s.stored) x).2 }
  | .reconnect sessionId nonce coins sock =>
    if s.gateway.channel.reconnecting then
      reconnect gateway cloud addr s sessionId nonce coins sock
    else s

/-- The cloud and the messages it has stored, once it has read what has been sent. -/
def drained (s : State B) : Cloud.ServerState B × List (ℕ × JsonDict) :=
  s.wire.foldl (receive cloud addr s.link) (s.cloud, s.stored)

/-! ### Two parties -/

variable (holder : ℕ → B)

/-- The hello that is admitted on a connection was made under the key of its `holder`, no
`sendall` fails while the cloud is there to read, and the nonces have their length. -/
structure Admissible (s : State B) (ev : Event B) : Prop where
  hello : ∀ c m h key, ev = .device c (.recv (.message m)) → s.devices c = .hello →
    Gateway.parseHello m = .ok h → deviceKeys.keys h.deviceId = some key →
      Gateway.evaluateHello P h (some key) = .ok .allowFallback → holder c = key
  sends : ∀ c msg, ev = .device c (.send (.osError msg)) →
    ∃ escaped, s.cloud.phase s.link = .closed escaped
  nonce : ∀ c nonce, ev = .device c (.build nonce) → P.len nonce = nonceLength

/-- The party `k` authored the event: it is on a connection of that party. -/
def authored [DecidableEq B] (k : B) : Event B → Bool
  | .device c _ => holder c = k
  | _ => false

variable (k₁ k₂ : B) (S : Set HashKey)

/-- A reading on the connection `c` that ends no session: with an integer sequence it has
a `device_id` that can be a dictionary key.  What the party `k₂` names is in `S`, and what
the party `k₁` names is not. -/
def Fits (c : ℕ) (r : JsonDict) : Prop :=
  ∀ n, r.field "sequence" = some (.int n) →
    ∃ k, (r.item "device_id" >>= Json.hashKey) = .ok k ∧
      (holder c = k₁ → k ∉ S) ∧ (holder c = k₂ → k ∈ S)

/-- The readings that the gateway accepts fit, and their protected messages are within
the size limit. -/
structure Separate (P : Primitives B) (s : State B) (ev : Event B) : Prop where
  names : ∀ c m d key b sequence r, ev = .device c (.recv (.message m)) →
    s.devices c = .serving d key → Gateway.decryptLegacyMessage P m key d = .ok (b, sequence) →
      s.gateway.replay.last d < sequence → parseReadingBytes P b = .ok r →
        Fits holder k₁ k₂ S c r
  size : ∀ c d key b nonce payload, ev = .device c (.build nonce) →
    s.devices c = .checked d key b →
      Gateway.buildPayload P s.gateway.channel b nonce = .ok payload →
        (encodeMessage P payload).length ≤ maxMessageBytes

/-! ### What the cloud does with a message -/

/-- The message is within the size limit and opens on the session as the reading `r`. -/
def Opens (P : Primitives B) (sid : PyStr) (key : B) (payload r : JsonDict) : Prop :=
  Cloud.decryptProtectedReading P payload key sid = .ok r ∧
    (encodeMessage P payload).length ≤ maxMessageBytes

section Receive

variable {holder k₁ k₂ S} {link : ℕ} {gid sid : PyStr} {key : B} {x : Sent}
  {cs ct : Cloud.ServerState B × List (ℕ × JsonDict)} {r : JsonDict}

/-- The handler goes on reading where it drops a message. -/
lemma receive_of_none {st : Cloud.CloudState B} (hp : cs.1.phase link = .receiving gid sid key)
    (ho : Opens P sid key x.payload r)
    (ha : Cloud.acceptReading P cs.1.shared x.payload key sid = (st, .ok none)) :
    receive cloud addr link cs x
      = (⟨st, Function.update cs.1.phase link (.receiving gid sid key)⟩, cs.2) := by
  have hread : Cloud.step cloud addr cs.1 (link, .recv (delivered P x.payload))
      = ⟨st, Function.update cs.1.phase link (.receiving gid sid key)⟩ := by
    simp only [Cloud.step, hp, Cloud.handlerStep, delivered, ho.2, if_true, ReadOutcome.result, ha]
  simp only [receive, hread]
  simp only [run_cons, run_nil, Cloud.step, Function.update_self, Cloud.handlerStep,
    Function.update_idem]

/-- The handler stores a reading that it accepts, and goes on reading. -/
lemma receive_of_some {st : Cloud.CloudState B} (hp : cs.1.phase link = .receiving gid sid key)
    (ho : Opens P sid key x.payload r)
    (ha : Cloud.acceptReading P cs.1.shared x.payload key sid = (st, .ok (some r))) :
    receive cloud addr link cs x
      = (⟨Cloud.logStored P ((st.addReading r).inc .messagesProcessed) r,
          Function.update cs.1.phase link (.receiving gid sid key)⟩,
        cs.2 ++ [(x.conn, x.message)]) := by
  have hread : Cloud.step cloud addr cs.1 (link, .recv (delivered P x.payload))
      = ⟨st, Function.update cs.1.phase link (.storing gid sid key r)⟩ := by
    simp only [Cloud.step, hp, Cloud.handlerStep, delivered, ho.2, if_true, ReadOutcome.result, ha]
  simp only [receive, hread]
  simp only [run_cons, run_nil, Cloud.step, Function.update_self, Cloud.handlerStep,
    Function.update_idem]

/-- A message without an integer sequence is dropped. -/
lemma receive_of_no_sequence (hp : cs.1.phase link = .receiving gid sid key)
    (ho : Opens P sid key x.payload r) (hs : ∀ n, r.field "sequence" ≠ some (.int n)) :
    (receive cloud addr link cs x).1.phase link = .receiving gid sid key ∧
      (receive cloud addr link cs x).1.shared.replay = cs.1.shared.replay ∧
      (receive cloud addr link cs x).2 = cs.2 := by
  have ha : Cloud.acceptReading P cs.1.shared x.payload key sid
      = (Cloud.drop (cs.1.shared.inc .messagesReceived)
        (lit "dropping reading without a valid sequence"), .ok none) := by
    simp only [Cloud.acceptReading, ho.1]
  rw [receive_of_none cloud addr hp ho ha]
  exact ⟨Function.update_self _ _ _, rfl, rfl⟩

/-- The replay guard decides about a message with an integer sequence. -/
lemma receive_of_sequence {n : ℤ} {k : HashKey} (hp : cs.1.phase link = .receiving gid sid key)
    (ho : Opens P sid key x.payload r) (hs : r.field "sequence" = some (.int n))
    (hk : (r.item "device_id" >>= Json.hashKey) = .ok k) :
    (receive cloud addr link cs x).1.phase link = .receiving gid sid key ∧
      (receive cloud addr link cs x).1.shared.replay
        = (cs.1.shared.replay.checkAndUpdate k n).2 ∧
      (receive cloud addr link cs x).2
        = if (cs.1.shared.replay.checkAndUpdate k n).1 then cs.2 ++ [(x.conn, x.message)]
          else cs.2 := by
  rcases cs.1.shared.replay.checkAndUpdate_cases k n with ⟨-, hc⟩ | ⟨-, hc⟩
  · have ha : ∃ text, Cloud.acceptReading P cs.1.shared x.payload key sid
        = (Cloud.drop (cs.1.shared.inc .messagesReceived) text, .ok none) :=
      ⟨_, by simp only [Cloud.acceptReading, ho.1, hs, hk, Cloud.CloudState.inc_replay, hc]; rfl⟩
    obtain ⟨text, ha⟩ := ha
    rw [receive_of_none cloud addr hp ho ha, hc]
    exact ⟨Function.update_self _ _ _, rfl, rfl⟩
  · have ha : Cloud.acceptReading P cs.1.shared x.payload key sid
        = ({ cs.1.shared.inc .messagesReceived with
            replay := (cs.1.shared.replay.checkAndUpdate k n).2 }, .ok (some r)) := by
      simp only [Cloud.acceptReading, ho.1, hs, hk, Cloud.CloudState.inc_replay, hc]
      rfl
    rw [receive_of_some cloud addr hp ho ha, hc]
    exact ⟨Function.update_self _ _ _, rfl, rfl⟩

/-- While the readings that arrive fit, the handler goes on reading. -/
lemma receive_phase (hp : cs.1.phase link = .receiving gid sid key)
    (ho : Opens P sid key x.payload r) (hf : Fits holder k₁ k₂ S x.conn r) :
    (receive cloud addr link cs x).1.phase link = .receiving gid sid key := by
  by_cases hs : ∃ n, r.field "sequence" = some (.int n)
  · obtain ⟨n, hs⟩ := hs
    obtain ⟨k, hk, -, -⟩ := hf n hs
    exact (receive_of_sequence cloud addr hp ho hs hk).1
  · exact (receive_of_no_sequence cloud addr hp ho (not_exists.1 hs)).1

lemma foldl_receive_phase {wire : List Sent} (hp : cs.1.phase link = .receiving gid sid key)
    (hw : ∀ x ∈ wire, ∃ r, Opens P sid key x.payload r ∧ Fits holder k₁ k₂ S x.conn r) :
    (wire.foldl (receive cloud addr link) cs).1.phase link = .receiving gid sid key := by
  induction wire generalizing cs with
  | nil => exact hp
  | cons x wire ih =>
    obtain ⟨r, ho, hf⟩ := hw x List.mem_cons_self
    exact ih (receive_phase cloud addr hp ho hf) fun y hy => hw y (List.mem_cons_of_mem x hy)

variable [DecidableEq B]

variable (holder k₂ S) in
/-- The replay guard has the same entries for what the second party names, and the same
messages of that party have been stored. -/
structure Same (cs ct : Cloud.ServerState B × List (ℕ × JsonDict)) : Prop where
  guard : ∀ k ∈ S, cs.1.shared.replay.lastSequence k = ct.1.shared.replay.lastSequence k
  stored : cs.2.filter (fun y => holder y.1 = k₂) = ct.2.filter (fun y => holder y.1 = k₂)

/-- A message that both clouds read. -/
lemma Same.both {link' : ℕ} (h : Same holder k₂ S cs ct)
    (hp : cs.1.phase link = .receiving gid sid key)
    (hp' : ct.1.phase link' = .receiving gid sid key) (ho : Opens P sid key x.payload r)
    (hf : Fits holder k₁ k₂ S x.conn r) :
    Same holder k₂ S (receive cloud addr link cs x) (receive cloud addr link' ct x) := by
  by_cases hs : ∃ n, r.field "sequence" = some (.int n)
  · obtain ⟨n, hs⟩ := hs
    obtain ⟨k, hk, -, hown⟩ := hf n hs
    obtain ⟨-, hr, hst⟩ := receive_of_sequence cloud addr hp ho hs hk
    obtain ⟨-, hr', hst'⟩ := receive_of_sequence cloud addr hp' ho hs hk
    refine ⟨fun k' hk' => ?_, ?_⟩
    · rw [hr, hr']
      by_cases hkk : k' = k
      · rw [hkk] at hk' ⊢
        exact ReplayGuard.checkAndUpdate_snd_congr (h.guard k hk')
      · rw [ReplayGuard.checkAndUpdate_of_ne hkk, ReplayGuard.checkAndUpdate_of_ne hkk]
        exact h.guard k' hk'
    · rw [hst, hst']
      by_cases hx : holder x.conn = k₂
      · rw [ReplayGuard.checkAndUpdate_fst_congr (h.guard k (hown hx))]
        split_ifs
        · rw [List.filter_append, List.filter_append, h.stored]
        · exact h.stored
      · -- a message of another party, which may be stored in one run alone
        have hnil : [(x.conn, x.message)].filter (fun y => holder y.1 = k₂) = [] := by
          simp [hx]
        split_ifs <;> simp only [List.filter_append, hnil, List.append_nil, h.stored]
  · obtain ⟨-, hr, hst⟩ := receive_of_no_sequence cloud addr hp ho
      (not_exists.1 hs)
    obtain ⟨-, hr', hst'⟩ := receive_of_no_sequence cloud addr hp' ho
      (not_exists.1 hs)
    exact ⟨fun k hk => by rw [hr, hr']; exact h.guard k hk, by rw [hst, hst']; exact h.stored⟩

/-- A message of the first party that one cloud alone reads. -/
lemma Same.left (h : Same holder k₂ S cs ct)
    (hp : cs.1.phase link = .receiving gid sid key) (ho : Opens P sid key x.payload r)
    (hf : Fits holder k₁ k₂ S x.conn r) (hx : holder x.conn = k₁) (hne : k₁ ≠ k₂) :
    Same holder k₂ S (receive cloud addr link cs x) ct := by
  by_cases hs : ∃ n, r.field "sequence" = some (.int n)
  · obtain ⟨n, hs⟩ := hs
    obtain ⟨k, hk, hforeign, -⟩ := hf n hs
    obtain ⟨-, hr, hst⟩ := receive_of_sequence cloud addr hp ho hs hk
    refine ⟨fun k' hk' => ?_, ?_⟩
    · have hkk : k' ≠ k := by
        rintro rfl
        exact hforeign hx hk'
      rw [hr, ReplayGuard.checkAndUpdate_of_ne hkk]
      exact h.guard k' hk'
    · have hnil : [(x.conn, x.message)].filter (fun y => holder y.1 = k₂) = [] := by
        simp [hx, hne]
      rw [hst]
      split_ifs <;> simp only [List.filter_append, hnil, List.append_nil, h.stored]
  · obtain ⟨-, hr, hst⟩ := receive_of_no_sequence cloud addr hp ho
      (not_exists.1 hs)
    exact ⟨fun k hk => by rw [hr]; exact h.guard k hk, by rw [hst]; exact h.stored⟩

end Receive

/-! ### The invariant of a run -/

/-- A session that a handshake of the gateway leaves. -/
structure Session (P : Primitives B) where
  gatewayId : PyStr
  sessionId : PyStr
  sessionKey : B
  sock : ℕ
  nonempty : sessionId ≠ []
  valid : validUnicode sessionId = true
  key_len : P.len sessionKey = keyLength

/-- The channel on that session, without its counters. -/
def Session.channel (σ : Session P) : Gateway.CloudChannel B :=
  ⟨.established, some σ.sessionId, some σ.sessionKey, some σ.sock, false, .zero⟩

/-- The session is up at both ends, and what is on the wire fits. -/
structure Live (σ : Session P) (s : State B) : Prop where
  channel : s.gateway.channel.bare = σ.channel
  cloud : s.cloud.phase s.link = .receiving σ.gatewayId σ.sessionId σ.sessionKey
  wire : ∀ x ∈ s.wire, ∃ r, Opens P σ.sessionId σ.sessionKey x.payload r ∧
    Fits holder k₁ k₂ S x.conn r

/-- What the handler of connection `c` holds: the key of the party that opened the
connection, and readings that fit. -/
structure PhaseOk (σ : Session P) (c : ℕ) (p : Gateway.DevicePhase B) : Prop where
  registered : ∀ d key, p.device = some (d, key) → deviceKeys.keys d = some key ∧ holder c = key
  accepted : ∀ b, p.plaintext = some b →
    ∃ r, parseReadingBytes P b = .ok r ∧ Fits holder k₁ k₂ S c r
  sending : ∀ d key payload, p = .sending d key payload →
    ∃ r, Opens P σ.sessionId σ.sessionKey payload r ∧ Fits holder k₁ k₂ S c r

variable {gateway deviceKeys cloud addr holder k₁ k₂ S} {σ : Session P} {s : State B} {c : ℕ}
  {ev : Gateway.DeviceEvent B}

/-- On a session that is up, no `sendall` fails. -/
lemma Live.no_osError (h : Live holder k₁ k₂ S σ s)
    (ha : Admissible deviceKeys holder s (.device c ev)) (msg : PyStr) :
    ev ≠ .send (.osError msg) := by
  rintro rfl
  obtain ⟨escaped, hclosed⟩ := ha.sends c msg rfl
  rw [h.cloud] at hclosed
  cases hclosed

/-- What the gateway builds opens at the cloud as the reading that it checked. -/
lemma Live.opens (h : Live holder k₁ k₂ S σ s) (hP : P.Lawful) {b nonce : B}
    {payload r : JsonDict} (hb : Gateway.buildPayload P s.gateway.channel b nonce = .ok payload)
    (hnonce : P.len nonce = nonceLength) (hr : parseReadingBytes P b = .ok r)
    (hsize : (encodeMessage P payload).length ≤ maxMessageBytes) :
    Opens P σ.sessionId σ.sessionKey payload r := by
  have hbuild : Gateway.buildProtectedReading P b σ.sessionKey σ.sessionId nonce = .ok payload := by
    have hbare := congrArg (Gateway.buildPayload P · b nonce) h.channel
    exact hbare.symm.trans hb
  refine ⟨?_, hsize⟩
  rw [decryptProtectedReading_buildProtectedReading hP nonce σ.key_len hnonce σ.nonempty σ.valid
    hbuild, Cloud.parseDecrypted, hr]

/-- The step lemma for the stop of a handler. -/
lemma PhaseOk.step {p p' : Gateway.DevicePhase B} (hP : P.Lawful)
    (hlive : Live holder k₁ k₂ S σ s) (h : PhaseOk deviceKeys holder k₁ k₂ S σ c p)
    (hm : Gateway.Moves deviceKeys s.gateway p ev p') (hp : s.devices c = p)
    (ha : Admissible deviceKeys holder s (.device c ev))
    (hs : Separate holder k₁ k₂ S P s (.device c ev)) :
    PhaseOk deviceKeys holder k₁ k₂ S σ c p' := by
  cases hm with
  | idle => exact h
  | accept => exact ⟨nofun, nofun, nofun⟩
  | ends => exact ⟨nofun, nofun, nofun⟩
  -- a new device: its key is held by the party of the connection
  | @admitted o hello key ho hkey heval =>
    obtain ⟨m, hm, hparse⟩ := bind_eq_ok.1 ho
    rw [readOutcome_eq_ok hm] at ha
    have hholder := ha.hello c m hello key rfl hp hparse hkey heval
    refine ⟨fun d k hd => ?_, nofun, nofun⟩
    cases hd
    exact ⟨hkey, hholder⟩
  | activates => exact ⟨h.registered, nofun, nofun⟩
  | known => exact ⟨h.registered, nofun, nofun⟩
  | marks => exact ⟨h.registered, nofun, nofun⟩
  | detects => exact ⟨h.registered, nofun, nofun⟩
  | dropped => exact ⟨h.registered, nofun, nofun⟩
  -- a reading names a device of the party
  | @accepted o m d key b sequence ho hd hlt =>
    rw [readOutcome_eq_ok ho] at hs
    refine ⟨h.registered, fun b' hb' => ?_, nofun⟩
    cases hb'
    obtain ⟨r, hr⟩ := Gateway.decryptLegacyMessage_parses hd
    exact ⟨r, hr, hs.names c m d key b sequence r rfl hp hd hlt hr⟩
  | checks => exact ⟨h.registered, h.accepted, nofun⟩
  | @builds d key b nonce payload hb =>
    refine ⟨h.registered, nofun, fun d' k payload' heq => ?_⟩
    cases heq
    obtain ⟨r, hr, hf⟩ := h.accepted b rfl
    exact ⟨r, hlive.opens hP hb (ha.nonce c nonce rfl) hr
      (hs.size c d key b nonce payload rfl hp hb), hf⟩
  | sends => exact ⟨h.registered, nofun, nofun⟩

/-! ### Steps of a live system -/

lemma sentBy_cases (st : Gateway.GatewayState B) (p : Gateway.DevicePhase B)
    (ev : Gateway.DeviceEvent B) :
    sentBy st p ev = [] ∨
      ∃ d key payload, p = .sending d key payload ∧ sentBy st p ev = [payload] := by
  unfold sentBy
  split
  · split_ifs
    · exact Or.inr ⟨_, _, _, rfl, rfl⟩
    · exact Or.inl rfl
  · exact Or.inl rfl

lemma sentBy_congr {st st' : Gateway.GatewayState B}
    (h : st.channel.bare = st'.channel.bare) (p : Gateway.DevicePhase B)
    (ev : Gateway.DeviceEvent B) : sentBy st p ev = sentBy st' p ev := by
  have hsock : st.channel.sock = st'.channel.sock :=
    Gateway.CloudChannel.bare_congr h Gateway.CloudChannel.sock fun _ => rfl
  unfold sentBy
  rw [hsock]

lemma Live.step_device (h : Live holder k₁ k₂ S σ s)
    (hp : PhaseOk deviceKeys holder k₁ k₂ S σ c (s.devices c))
    (hev : ∀ msg, ev ≠ .send (.osError msg)) :
    Live holder k₁ k₂ S σ (step gateway deviceKeys cloud addr s (.device c ev)) := by
  refine ⟨?_, h.cloud, fun x hx => ?_⟩
  · exact (Gateway.deviceStep_frame gateway deviceKeys s.gateway hev).1.trans h.channel
  · rcases List.mem_append.1 hx with hx | hx
    · exact h.wire x hx
    · rcases sentBy_cases s.gateway (s.devices c) ev with hsent | ⟨d, key, payload, hphase, hsent⟩
      · rw [hsent] at hx
        cases hx
      · rw [hsent, List.map_cons, List.map_nil, List.mem_singleton] at hx
        rw [hx]
        exact hp.sending d key payload hphase

lemma Live.step_cloud (h : Live holder k₁ k₂ S σ s) :
    Live holder k₁ k₂ S σ (step gateway deviceKeys cloud addr s .cloud) := by
  unfold step
  rcases hw : s.wire with _ | ⟨x, wire⟩
  · exact h
  · obtain ⟨r, ho, hf⟩ := h.wire x (by rw [hw]; exact List.mem_cons_self)
    refine ⟨h.channel, receive_phase cloud addr h.cloud ho hf, fun y hy => ?_⟩
    exact h.wire y (by rw [hw]; exact List.mem_cons_of_mem x hy)

variable (gateway deviceKeys cloud addr s) in
/-- The cloud works on its own side alone. -/
lemma step_cloud_frame : (step gateway deviceKeys cloud addr s .cloud).gateway = s.gateway ∧
    (step gateway deviceKeys cloud addr s .cloud).devices = s.devices ∧
    (step gateway deviceKeys cloud addr s .cloud).current = s.current := by
  simp only [step]
  split <;> exact ⟨rfl, rfl, rfl⟩

/-- While the session is up, no reconnect thread is running. -/
lemma Live.step_reconnect (h : Live holder k₁ k₂ S σ s) (sid : PyStr) (nonce coins : B)
    (sock : ℕ) : step gateway deviceKeys cloud addr s (.reconnect sid nonce coins sock) = s := by
  have hidle : s.gateway.channel.reconnecting = false :=
    congrArg Gateway.CloudChannel.reconnecting h.channel
  simp [step, hidle]

/-- The cloud is still reading when it has read what has been sent. -/
lemma Live.drained_phase (h : Live holder k₁ k₂ S σ s) :
    (drained cloud addr s).1.phase s.link = .receiving σ.gatewayId σ.sessionId σ.sessionKey :=
  foldl_receive_phase cloud addr h.cloud h.wire

lemma drained_device : drained cloud addr (step gateway deviceKeys cloud addr s (.device c ev))
    = ((sentBy s.gateway (s.devices c) ev).map (⟨c, s.current c, ·⟩)).foldl
      (receive cloud addr s.link) (drained cloud addr s) :=
  List.foldl_append

/-- What the cloud reads now, it need not read later. -/
lemma drained_cloud :
    drained cloud addr (step gateway deviceKeys cloud addr s .cloud) = drained cloud addr s := by
  unfold step drained
  rcases hw : s.wire with _ | ⟨x, wire⟩
  · simp [hw]
  · rfl

variable (deviceKeys holder k₁ k₂ S) in
/-- The invariant. -/
structure Ok (σ : Session P) (s : State B) : Prop where
  live : Live holder k₁ k₂ S σ s
  phases : ∀ c, PhaseOk deviceKeys holder k₁ k₂ S σ c (s.devices c)

/-- The step lemma. -/
lemma Ok.step {ev : Event B} (hP : P.Lawful) (h : Ok deviceKeys holder k₁ k₂ S σ s)
    (ha : Admissible deviceKeys holder s ev) (hs : Separate holder k₁ k₂ S P s ev) :
    Ok deviceKeys holder k₁ k₂ S σ (step gateway deviceKeys cloud addr s ev) := by
  cases ev with
  | device c ev =>
    have hm := Gateway.deviceStep_moves gateway deviceKeys s.gateway (s.devices c) ev
    refine ⟨h.live.step_device (h.phases c) (h.live.no_osError ha), ?_⟩
    exact (Function.forall_update_iff s.devices (PhaseOk deviceKeys holder k₁ k₂ S σ)).2
      ⟨(h.phases c).step hP h.live hm rfl ha hs, fun c' _ => h.phases c'⟩
  | cloud =>
    refine ⟨h.live.step_cloud, fun c => ?_⟩
    rw [(step_cloud_frame gateway deviceKeys cloud addr s).2.1]
    exact h.phases c
  | reconnect sid nonce coins sock =>
    rw [h.live.step_reconnect]
    exact h

/-! ### A run and what is left of it -/

variable [DecidableEq B]

variable (deviceKeys cloud addr holder k₁ k₂ S) in
/-- The run with the messages of the first party beside the run without them. -/
structure Sim (σ : Session P) (s t : State B) : Prop where
  ok : Ok deviceKeys holder k₁ k₂ S σ s
  live : Live holder k₁ k₂ S σ t
  entry : ∀ d key, deviceKeys.keys d = some key → key ≠ k₁ → s.gateway.entry d = t.gateway.entry d
  devices : ∀ c, holder c ≠ k₁ → s.devices c = t.devices c
  current : ∀ c, holder c ≠ k₁ → s.current c = t.current c
  same : Same holder k₂ S (drained cloud addr s) (drained cloud addr t)

variable {t : State B}

/-- A step of a handler that both runs make. -/
lemma Sim.device (h : Sim deviceKeys cloud addr holder k₁ k₂ S σ s t) (hP : P.Lawful)
    (hc : holder c ≠ k₁) (ha : Admissible deviceKeys holder s (.device c ev))
    (hs : Separate holder k₁ k₂ S P s (.device c ev)) :
    Sim deviceKeys cloud addr holder k₁ k₂ S σ
      (step gateway deviceKeys cloud addr s (.device c ev))
      (step gateway deviceKeys cloud addr t (.device c ev)) := by
  have hev := h.ok.live.no_osError ha
  have hphase := h.ok.phases c
  have hdev := h.devices c hc
  have hch : s.gateway.channel.bare = t.gateway.channel.bare :=
    h.ok.live.channel.trans h.live.channel.symm
  have hown : ∀ d key, (s.devices c).device = some (d, key) →
      s.gateway.entry d = t.gateway.entry d := by
    intro d key hd
    obtain ⟨hkey, hholder⟩ := hphase.registered d key hd
    exact h.entry d key hkey (hholder ▸ hc)
  obtain ⟨hnext, hentry⟩ := Gateway.deviceStep_congr gateway deviceKeys hch hown hev
  refine ⟨h.ok.step hP ha hs, h.live.step_device (hdev ▸ hphase) hev, fun d key hk hne => ?_,
    fun c' hc' => ?_, fun c' hc' => ?_, ?_⟩
  -- the entries of the other devices are left alone in both runs
  · show (Gateway.deviceStep P gateway deviceKeys s.gateway (s.devices c) ev).1.entry d
      = (Gateway.deviceStep P gateway deviceKeys t.gateway (t.devices c) ev).1.entry d
    rw [← hdev]
    by_cases hd : ∃ key', (s.devices c).device = some (d, key')
    · obtain ⟨key', hd⟩ := hd
      exact hentry d key' hd
    · rw [(Gateway.deviceStep_frame gateway deviceKeys s.gateway hev).2 d (not_exists.1 hd),
        (Gateway.deviceStep_frame gateway deviceKeys t.gateway hev).2 d (not_exists.1 hd)]
      exact h.entry d key hk hne
  · show Function.update s.devices c _ c' = Function.update t.devices c _ c'
    by_cases hcc : c' = c
    · rw [hcc, Function.update_self, Function.update_self, ← hdev]
      exact hnext
    · rw [Function.update_of_ne hcc, Function.update_of_ne hcc]
      exact h.devices c' hc'
  · show Function.update s.current c _ c' = Function.update t.current c _ c'
    by_cases hcc : c' = c
    · rw [hcc, Function.update_self, Function.update_self, ← hdev, h.current c hc]
    · rw [Function.update_of_ne hcc, Function.update_of_ne hcc]
      exact h.current c' hc'
  · -- the same message goes to both clouds
    rw [drained_device, drained_device, ← hdev, ← sentBy_congr hch, ← h.current c hc]
    rcases sentBy_cases s.gateway (s.devices c) ev with hsent | ⟨d, key, payload, hp, hsent⟩
    · rw [hsent]
      exact h.same
    · obtain ⟨r, ho, hf⟩ := hphase.sending d key payload hp
      rw [hsent]
      exact h.same.both cloud addr (x := ⟨c, s.current c, payload⟩) h.ok.live.drained_phase
        h.live.drained_phase ho hf

/-- A step of a handler that was taken out of the second run. -/
lemma Sim.device_left (h : Sim deviceKeys cloud addr holder k₁ k₂ S σ s t) (hP : P.Lawful)
    (hne : k₁ ≠ k₂) (hc : holder c = k₁) (ha : Admissible deviceKeys holder s (.device c ev))
    (hs : Separate holder k₁ k₂ S P s (.device c ev)) :
    Sim deviceKeys cloud addr holder k₁ k₂ S σ
      (step gateway deviceKeys cloud addr s (.device c ev)) t := by
  have hev := h.ok.live.no_osError ha
  have hphase := h.ok.phases c
  refine ⟨h.ok.step hP ha hs, h.live, fun d key hk hkey => ?_, fun c' hc' => ?_,
    fun c' hc' => ?_, ?_⟩
  · -- the handler works for a device with the key of the first party
    have hd : ∀ key', (s.devices c).device ≠ some (d, key') := by
      intro key' hd
      obtain ⟨hk', hholder⟩ := hphase.registered d key' hd
      rw [hk] at hk'
      cases hk'
      exact hkey (hholder.symm.trans hc)
    rw [← h.entry d key hk hkey]
    exact (Gateway.deviceStep_frame gateway deviceKeys s.gateway hev).2 d hd
  · have hcc : c' ≠ c := by
      rintro rfl
      exact hc' hc
    exact (Function.update_of_ne hcc _ s.devices).trans (h.devices c' hc')
  · have hcc : c' ≠ c := by
      rintro rfl
      exact hc' hc
    exact (Function.update_of_ne hcc _ s.current).trans (h.current c' hc')
  · rw [drained_device]
    rcases sentBy_cases s.gateway (s.devices c) ev with hsent | ⟨d, key, payload, hp, hsent⟩
    · rw [hsent]
      exact h.same
    · obtain ⟨r, ho, hf⟩ := hphase.sending d key payload hp
      rw [hsent]
      exact h.same.left cloud addr (x := ⟨c, s.current c, payload⟩) h.ok.live.drained_phase
        ho hf hc hne

/-- The clouds may read at different times. -/
lemma Sim.reads (h : Sim deviceKeys cloud addr holder k₁ k₂ S σ s t) (hP : P.Lawful)
    (ha : Admissible deviceKeys holder s .cloud) (hs : Separate holder k₁ k₂ S P s .cloud) :
    Sim deviceKeys cloud addr holder k₁ k₂ S σ (step gateway deviceKeys cloud addr s .cloud)
      (step gateway deviceKeys cloud addr t .cloud) := by
  obtain ⟨hg, hd, hcur⟩ := step_cloud_frame gateway deviceKeys cloud addr s
  obtain ⟨hg', hd', hcur'⟩ := step_cloud_frame gateway deviceKeys cloud addr t
  refine ⟨h.ok.step hP ha hs, h.live.step_cloud, ?_, ?_, ?_, ?_⟩
  · rw [hg, hg']
    exact h.entry
  · rw [hd, hd']
    exact h.devices
  · rw [hcur, hcur']
    exact h.current
  · rw [drained_cloud, drained_cloud]
    exact h.same

/-- The session is up at both ends, and no device has connected yet. -/
structure Ready (σ : Session P) (s : State B) : Prop where
  channel : s.gateway.channel.bare = σ.channel
  cloud : s.cloud.phase s.link = .receiving σ.gatewayId σ.sessionId σ.sessionKey
  devices : ∀ c, s.devices c = .new
  wire : s.wire = []

lemma Ready.sim (h : Ready σ s) : Sim deviceKeys cloud addr holder k₁ k₂ S σ s s := by
  have hlive : Live holder k₁ k₂ S σ s := by
    refine ⟨h.channel, h.cloud, ?_⟩
    rw [h.wire]
    exact nofun
  refine ⟨⟨hlive, fun c => ?_⟩, hlive, fun _ _ _ _ => rfl, fun _ _ => rfl, fun _ _ => rfl,
    fun _ _ => rfl, rfl⟩
  rw [h.devices c]
  exact ⟨nofun, nofun, nofun⟩

variable (gateway deviceKeys cloud addr holder S)

/-- **Isolation between devices.**  In every run in which the readings that the gateway
accepts end no session, and those of two parties name different devices, the messages of
the second party that reach the store are those that reach it without the messages of the
first party. -/
theorem stored_messages_isolated (hP : P.Lawful) (hne : k₁ ≠ k₂) (σ : Session P) (h0 : Ready σ s)
    {τ : List (Event B)}
    (ha : Along (step gateway deviceKeys cloud addr) (Admissible deviceKeys holder) s τ)
    (hs : Along (step gateway deviceKeys cloud addr) (Separate holder k₁ k₂ S P) s τ) :
    (drained cloud addr (run (step gateway deviceKeys cloud addr) s
        (τ.filter fun ev => !authored holder k₁ ev))).2.filter (fun y => holder y.1 = k₂)
      = (drained cloud addr (run (step gateway deviceKeys cloud addr) s τ)).2.filter
        (fun y => holder y.1 = k₂) := by
  have hsim : Sim deviceKeys cloud addr holder k₁ k₂ S σ
      (run (step gateway deviceKeys cloud addr) s τ)
      (run (step gateway deviceKeys cloud addr) s
        (τ.filter fun ev => !authored holder k₁ ev)) := by
    -- the second run leaves out what the first party does
    refine run_filter (fun s t ev h hev hkeep => ?_) (fun s t ev h hev hdeleted => ?_) h0.sim
      (along_and.2 ⟨ha, hs⟩)
    · cases ev with
      | device c ev =>
        have hc : holder c ≠ k₁ := by simpa [authored] using hkeep
        exact h.device hP hc hev.1 hev.2
      | cloud => exact h.reads hP hev.1 hev.2
      | reconnect sid nonce coins sock =>
        rw [h.ok.live.step_reconnect, h.live.step_reconnect]
        exact h
    · cases ev with
      | device c ev =>
        have hc : holder c = k₁ := by simpa [authored] using hdeleted
        exact h.device_left hP hne hc hev.1 hev.2
      | cloud => cases hdeleted
      | reconnect sid nonce coins sock => cases hdeleted
  exact hsim.same.stored.symm

/-! ### The demo -/

section Demo

open Device

/-- The session of the demo. -/
def demoSession : Session (ideal demoTable) :=
  ⟨lit "gw-01", demoSessionId, demoKey 0, 0, by decide, by decide, rfl⟩

/-- The demo after the handshake of the gateway. -/
def demoStart : State Bytes where
  gateway := ⟨demoChannel, .empty, [], 0⟩
  devices := fun _ => .new
  current := fun _ => []
  link := 0
  wire := []
  cloud := run (Cloud.step (demoCloud demoTable) demoAddr) (Cloud.initial 100 [])
    (handshakeEvents 0 demoRequest (demoEncaps 0 demoSessionId))
  stored := []

/-- Connection `0` is the one of the first device, and connection `1` the one of the
second. -/
def demoHolder (c : ℕ) : Bytes := Demo.deviceKey (c + 1)

/-- A step of the demo. -/
def demoStep : State Bytes → Event Bytes → State Bytes :=
  step Gateway.demoGateway (demoDeviceKeys demoTable) (demoCloud demoTable) demoAddr

/-- The device on connection `c` says hello and sends the record `r`, which the gateway
accepts. -/
def demoOffers (c : ℕ) (deviceId : PyStr) (r : ℕ) : List (Event Bytes) :=
  [.device c .accept, .device c (.recv (.message (demoHello deviceId (c + 1)))),
    .device c .activate, .device c .mark, .device c .detect,
    .device c (.recv (.message (demoLegacy deviceId (c + 1) 1 r))), .device c .check]

/-- The gateway forwards the record, too. -/
def demoSends (c : ℕ) (deviceId : PyStr) (r : ℕ) : List (Event Bytes) :=
  demoOffers c deviceId r ++ [.device c (.build (Demo.nonce 1)), .device c (.send .ok)]

/-- The first device sends the record `r`, and then the second device a reading of its
own. -/
def demoRun (r : ℕ) : List (Event Bytes) :=
  demoSends 0 (lit "dev-01") r ++ demoSends 1 (lit "dev-02") 3

lemma ready_demoStart : Ready demoSession demoStart := by
  have hsid : demoSessionId ≠ [] := by decide
  have hrun := run_demoHandshake (c := 0) (s := Cloud.initial 100 []) demoTable hsid rfl
  refine ⟨rfl, ?_, fun _ => rfl, rfl⟩
  show (run (Cloud.step (demoCloud demoTable) demoAddr) (Cloud.initial 100 [])
    (handshakeEvents 0 demoRequest (demoEncaps 0 demoSessionId))).phase 0 = _
  rw [hrun]
  rfl

lemma admissible_demoSends {s : State Bytes} {c r : ℕ} {deviceId : PyStr}
    (hkey : (demoDeviceKeys demoTable).keys deviceId = some (demoHolder c)) :
    Along demoStep (Admissible (demoDeviceKeys demoTable) demoHolder) s
      (demoSends c deviceId r) := by
  have quiet : ∀ {s : State Bytes} {ev : Event Bytes},
      (∀ c m, ev ≠ .device c (.recv (.message m))) →
      (∀ c msg, ev ≠ .device c (.send (.osError msg))) →
      (∀ c nonce, ev = .device c (.build nonce) → (ideal demoTable).len nonce = nonceLength) →
      Admissible (demoDeviceKeys demoTable) demoHolder s ev := by
    intro s ev hrecv hsend hbuild
    exact ⟨fun c m _ _ hev => absurd hev (hrecv c m), fun c msg hev => absurd hev (hsend c msg),
      hbuild⟩
  refine ⟨quiet nofun nofun nofun, ⟨?_, nofun, nofun⟩, quiet nofun nofun nofun,
    quiet nofun nofun nofun, quiet nofun nofun nofun, ⟨?_, nofun, nofun⟩, quiet nofun nofun nofun,
    quiet nofun nofun ?_, quiet nofun nofun nofun, trivial⟩
  · intro c' m h key hev _ hparse hk _
    cases hev
    have hid : some (Json.str deviceId) = some (.str h.deviceId) :=
      (Gateway.parseHello_eq_ok hparse).2
    cases hid
    exact Option.some_injective _ (hkey.symm.trans hk)
  · intro c' m h key hev _ hparse
    cases hev
    have htype : isStr (some (Json.str msgLegacyReading)) msgHello = true :=
      (Gateway.parseHello_eq_ok hparse).1
    cases htype
  · intro c' nonce hev
    cases hev
    rfl

lemma separate_demoSends {s : State Bytes} {c r : ℕ} {deviceId : PyStr} {k₁ k₂ : Bytes}
    {S : Set HashKey}
    (hfits : ∀ reading, parseReadingBytes (ideal demoTable) (.data (.record r)) = .ok reading →
      Fits demoHolder k₁ k₂ S c reading)
    (hid : (run demoStep s (demoOffers c deviceId r)).gateway.channel.sessionId
      = some demoSessionId)
    (hkey : (run demoStep s (demoOffers c deviceId r)).gateway.channel.sessionKey
      = some (demoKey 0))
    (hplain : ((run demoStep s (demoOffers c deviceId r)).devices c).plaintext
      = some (.data (.record r)))
    (hsize : (encodeMessage (ideal demoTable) (demoReading 0 r demoSessionId)).length
      ≤ maxMessageBytes) :
    Along demoStep (Separate demoHolder k₁ k₂ S (ideal demoTable)) s
      (demoSends c deviceId r) := by
  have quiet : ∀ {s : State Bytes} {ev : Event Bytes},
      (∀ c m, ev ≠ .device c (.recv (.message m))) →
      (∀ c nonce, ev ≠ .device c (.build nonce)) →
      Separate demoHolder k₁ k₂ S (ideal demoTable) s ev := by
    intro s ev hrecv hbuild
    exact ⟨fun c m _ _ _ _ _ hev => absurd hev (hrecv c m),
      fun c _ _ _ nonce _ hev => absurd hev (hbuild c nonce)⟩
  refine along_append.2 ⟨⟨quiet nofun nofun, ⟨?_, nofun⟩, quiet nofun nofun,
    quiet nofun nofun, quiet nofun nofun, ⟨?_, nofun⟩, quiet nofun nofun, trivial⟩, ⟨nofun, ?_⟩,
    quiet nofun nofun, trivial⟩
  · intro c' m d key b sequence reading hev _ hd
    cases hev
    have htype : isStr (some (Json.str msgHello)) msgLegacyReading = true :=
      (Gateway.decryptLegacyMessage_eq_ok hd).1
    cases htype
  · intro c' m d key b sequence reading hev _ hd _ hparse
    cases hev
    obtain ⟨-, -, -, aad, -, hopen⟩ := Gateway.decryptLegacyMessage_eq_ok hd
    obtain ⟨-, -, rfl⟩ := opens_of_ciphertext (m := demoLegacy deviceId (c + 1) 1 r) rfl hopen
    exact hfits reading hparse
  · intro c' d key b nonce payload hev hphase hb
    cases hev
    have hrecord : b = .data (.record r) := by
      rw [hphase] at hplain
      exact Option.some_injective _ hplain
    have hbuild : Gateway.buildProtectedReading (ideal demoTable) (.data (.record r)) (demoKey 0)
        demoSessionId (Demo.nonce 1) = .ok (demoReading 0 r demoSessionId) := by
      have hvalid : validUnicode demoSessionId = true := by decide
      simp only [Gateway.buildProtectedReading, sessionMessageAad, encodeUtf8, hvalid, if_true,
        ok_bind]
      rfl
    rw [hrecord] at hb
    simp only [Gateway.buildPayload, hid, hkey, hbuild] at hb
    cases hb
    exact hsize

/-- Two devices that send readings of their own do not disturb each other. -/
theorem stored_messages_isolated_demo :
    (drained (demoCloud demoTable) demoAddr (run demoStep demoStart (demoRun 1))).2.length = 2 ∧
      (drained (demoCloud demoTable) demoAddr (run demoStep demoStart
          ((demoRun 1).filter fun ev => !authored demoHolder (Demo.deviceKey 1) ev))).2.filter
            (fun y => demoHolder y.1 = Demo.deviceKey 2)
        = (drained (demoCloud demoTable) demoAddr (run demoStep demoStart (demoRun 1))).2.filter
            (fun y => demoHolder y.1 = Demo.deviceKey 2) := by
  refine ⟨by decide +kernel, ?_⟩
  have ha : Along demoStep (Admissible (demoDeviceKeys demoTable) demoHolder) demoStart
      (demoRun 1) :=
    along_append.2 ⟨admissible_demoSends rfl, admissible_demoSends rfl⟩
  have hs : Along demoStep (Separate demoHolder (Demo.deviceKey 1) (Demo.deviceKey 2)
      {.str (lit "dev-02")} (ideal demoTable)) demoStart (demoRun 1) := by
    refine along_append.2 ⟨separate_demoSends (fun reading hparse n hn => ?_) (by decide +kernel)
      (by decide +kernel) (by decide +kernel) (by decide +kernel),
      separate_demoSends (fun reading hparse n hn => ?_) (by decide +kernel)
      (by decide +kernel) (by decide +kernel) (by decide +kernel)⟩
    · cases hparse
      refine ⟨.str (lit "dev-01"), rfl, fun _ => ?_, fun h => ?_⟩
      · decide
      · exact absurd h (by decide)
    · cases hparse
      exact ⟨.str (lit "dev-02"), rfl, fun h => absurd h (by decide), fun _ => rfl⟩
  unfold demoStep at ha hs ⊢
  exact stored_messages_isolated Gateway.demoGateway (demoDeviceKeys demoTable)
    (demoCloud demoTable) demoAddr demoHolder {.str (lit "dev-02")} (ideal_lawful demoTable)
    (by decide) demoSession ready_demoStart ha hs

/-- A reading in the name of the second device suppresses the reading of that device. -/
theorem forged_reading_suppresses : Ready demoSession demoStart ∧
    Along demoStep (Admissible (demoDeviceKeys demoTable) demoHolder) demoStart (demoRun 2) ∧
      (drained (demoCloud demoTable) demoAddr (run demoStep demoStart
          ((demoRun 2).filter fun ev => !authored demoHolder (Demo.deviceKey 1) ev))).2.filter
            (fun y => demoHolder y.1 = Demo.deviceKey 2)
        ≠ (drained (demoCloud demoTable) demoAddr (run demoStep demoStart (demoRun 2))).2.filter
            (fun y => demoHolder y.1 = Demo.deviceKey 2) := by
  refine ⟨ready_demoStart,
    along_append.2 ⟨admissible_demoSends rfl, admissible_demoSends rfl⟩, fun h => ?_⟩
  have hlen := congrArg List.length h
  revert hlen
  decide +kernel

end Demo

end PqcBridge.Isolation
