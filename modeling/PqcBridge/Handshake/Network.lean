/-
Gateways and the cloud on a network that an attacker owns.

The attacker sees every message that an honest party sends, and delivers to each of them
whatever it can put together.  Byte strings are symbolic (`ideal`): a message that is
delivered carries only terms that the attacker derives from the terms it has seen
(`Admissible`).  Any number of gateways make any number of attempts, each step at any
time, and one cloud serves any number of connections.

* `attempt_exchange`: the steps of an attempt are the exchange of `_establish_once`;
* `Ok`: what is on the network, and what the two sides hold;
* `sessionKey_secret`: the session key of an attempt is never derived;
* `accepted_requests_authentic`: a request that the cloud accepts carries the tag of a
  request that the gateway it names has sent.
-/
import PqcBridge.Cloud.Sessions

namespace PqcBridge.Network

open Python Protocol Crypto Runs Symbolic

/-! ### What is on the network -/

/-- The fields that the program decodes to byte strings. -/
def byteFields : List String := ["auth_nonce", "auth_tag", "public_key", "ciphertext", "nonce"]

/-- The byte string in a field of a message. -/
def fieldBytes (m : JsonDict) (f : String) : Option Bytes :=
  match m.field f with
  | some (.str text) => Ideal.decode text
  | _ => none

/-- The byte strings that a message carries. -/
def carried (m : JsonDict) : List Bytes := byteFields.filterMap (fieldBytes m)

/-- What the gateways draw at random: attempt `n` is made by the gateway `gateway n`, as
session `sessionId n`, with the nonce `nonce n` in its tag. -/
structure Draws where
  gateway : ℕ → ℕ
  sessionId : ℕ → PyStr
  nonce : ℕ → Datum
  nonempty : ∀ n, sessionId n ≠ []

/-- The coins of the encapsulation of attempt `n`. -/
def coins (n : ℕ) : Bytes := .name ⟨.coins, n⟩

/-- Where an attempt stands. -/
inductive AttemptPhase where
  /-- the attempt has not been made -/
  | idle
  /-- `read_message` of the public key -/
  | pubkey
  /-- `read_message` of the last reply -/
  | encapsulated (publicKey : Bytes)
  /-- the session is published -/
  | done (sessionKey : Bytes)
  | failed (e : PyExc)

/-- What happens to an attempt.  A `sendall` that fails looks like a read that fails: what
was sent may have been seen. -/
inductive AttemptEvent where
  /-- the gateway has connected -/
  | start
  /-- `read_message` ends -/
  | recv (outcome : ReadOutcome)
  /-- `send_reading` on the session -/
  | send (plaintext nonce : Datum)

/-- A session that the cloud has registered, with the `mlkem_encaps` it came from. -/
structure Registration where
  gatewayId : PyStr
  sessionId : PyStr
  sessionKey : Bytes
  encaps : JsonDict

/-- The two sides, and what has been sent; every message is tagged with its attempt.  The
cloud sends its public key and names, which the attacker knows anyway. -/
structure State where
  attempts : ℕ → AttemptPhase
  cloud : Cloud.ServerState Bytes
  wire : List (ℕ × JsonDict)
  /-- the `mlkem_encaps` messages that the cloud has read, with the gateway of the
  connection -/
  reads : List (PyStr × JsonDict)
  registered : List Registration

/-- What can happen. -/
inductive Event where
  | attempt (n : ℕ) (ev : AttemptEvent)
  | cloud (c : ℕ) (ev : Cloud.ConnEvent)

variable {table : ℕ → Option Json} (gateways : ℕ → Gateway.GatewayConfig Bytes)
  (cloud : Cloud.CloudConfig (ideal table)) (addr : ℕ → Cloud.Addr) (draws : Draws)

/-- The gateway that makes attempt `n`. -/
def gatewayOf (n : ℕ) : Gateway.GatewayConfig Bytes := gateways (draws.gateway n)

variable (table) in
/-- A step of attempt `n`, and the messages it sends. -/
def attemptStep (n : ℕ) : AttemptPhase → AttemptEvent → AttemptPhase × List JsonDict
  | .idle, .start =>
    match Gateway.requestMessage (ideal table) (gatewayOf gateways draws n)
        (.data (draws.nonce n)) with
    | .error e => (.failed e, [])
    | .ok m => (.pubkey, [m])
  | .pubkey, .recv o =>
    match o.result >>= Gateway.acceptPubkeyReply (ideal table) (gatewayOf gateways draws n) with
    | .error e => (.failed e, [])
    | .ok publicKey =>
      (.encapsulated publicKey, [Gateway.encapsMessage (ideal table) (gatewayOf gateways draws n)
        (draws.sessionId n) (mlkemEncapsulate (ideal table) publicKey (coins n)).2])
  | .encapsulated publicKey, .recv o =>
    match o.result >>= (Gateway.parseMlkemEstablishedReply · (draws.sessionId n)) with
    | .error e => (.failed e, [])
    | .ok () =>
      (.done (deriveSessionKey (ideal table)
        (mlkemEncapsulate (ideal table) publicKey (coins n)).1), [])
  | .done sessionKey, .send plaintext nonce =>
    match Gateway.buildProtectedReading (ideal table) (.data plaintext) sessionKey
        (draws.sessionId n) (.data nonce) with
    | .error _ => (.done sessionKey, [])
    | .ok m => (.done sessionKey, [m])
  | phase, _ => (phase, [])

/-- The `mlkem_encaps` that a handler of the cloud reads. -/
def readBy : Cloud.Phase Bytes → Cloud.ConnEvent → List (PyStr × JsonDict)
  | .encaps gatewayId, .recv (.message m) => [(gatewayId, m)]
  | _, _ => []

/-- The session that a step of a handler of the cloud registers. -/
def registeredBy : Cloud.Phase Bytes → Cloud.ConnEvent → Cloud.Phase Bytes → List Registration
  | .encaps _, .recv (.message m), .sendEstablished gatewayId sessionId sessionKey =>
    [⟨gatewayId, sessionId, sessionKey, m⟩]
  | _, _, _ => []

/-- One step of the network. -/
def step (s : State) : Event → State
  | .attempt n ev =>
    { s with
      attempts := Function.update s.attempts n
        (attemptStep table gateways draws n (s.attempts n) ev).1
      wire := (attemptStep table gateways draws n (s.attempts n) ev).2.map ((n, ·)) ++ s.wire }
  | .cloud c ev =>
    { s with
      cloud := Cloud.step cloud addr s.cloud (c, ev)
      reads := readBy (s.cloud.phase c) ev ++ s.reads
      registered := registeredBy (s.cloud.phase c) ev
        ((Cloud.step cloud addr s.cloud (c, ev)).phase c) ++ s.registered }

/-- Before the first attempt and the first connection. -/
def initial (maxReadings : ℕ) (log : List PyStr) : State where
  attempts := fun _ => .idle
  cloud := Cloud.initial maxReadings log
  wire := []
  reads := []
  registered := []

/-! ### The attacker -/

/-- What the attacker has seen: the public key of the cloud, its own secrets, and what the
messages on the network carry. -/
def Known (s : State) : Set Bytes :=
  {t | t = cloud.publicKeyRaw ∨ (∃ i, t = .name ⟨.attacker, i⟩) ∨ ∃ x ∈ s.wire, t ∈ carried x.2}

/-- What is delivered carries only terms that the attacker derives. -/
structure Admissible (s : State) (ev : Event) : Prop where
  attempt : ∀ n m, ev = .attempt n (.recv (.message m)) →
    ∀ t ∈ carried m, Derives (Known cloud s) t
  cloud : ∀ c m, ev = .cloud c (.recv (.message m)) →
    ∀ t ∈ carried m, Derives (Known cloud s) t

/-- The credentials are secrets, each gateway has its own, the registry of the cloud holds
those of the gateways, and the pins are the fingerprint of the cloud. -/
structure Provisioned : Prop where
  privateKey : cloud.privateKey = .name ⟨.cloud, 0⟩
  gatewayKey : ∀ i, (gateways i).gatewayKey = .name ⟨.gateway, i⟩
  registry : ∀ gid key, cloud.gatewayKeys.keys gid = some key →
    ∃ i, key = .name ⟨.gateway, i⟩ ∧ (gateways i).gatewayId = gid
  pin : ∀ i, (gateways i).pin = publicKeyFingerprint (ideal table) cloud.publicKeyRaw

/-! ### Attempts -/

section Attempts

variable (table) (n : ℕ)

/-- **The steps of an attempt** are the exchange of `_establish_once`. -/
theorem attempt_exchange {a : Gateway.Attempt Bytes} (hid : a.sessionId = draws.sessionId n)
    (hnonce : a.nonce = .data (draws.nonce n)) (hcoins : a.coins = coins n)
    (hrequest : a.sendRequest = .ok) (hencaps : a.sendEncaps = .ok) :
    (attemptStep table gateways draws n
      (attemptStep table gateways draws n
        (attemptStep table gateways draws n .idle .start).1 (.recv a.pubkeyReply)).1
      (.recv a.establishedReply)).1
      = match Gateway.exchange (ideal table) (gatewayOf gateways draws n) a with
        | .error e => .failed e
        | .ok secret => .done (deriveSessionKey (ideal table) secret) := by
  simp only [Gateway.exchange, hid, hnonce, hcoins, hrequest, hencaps, Gateway.IoOutcome.result]
  -- one case for each place where the exchange can end
  rcases hm : Gateway.requestMessage (ideal table) (gatewayOf gateways draws n)
    (.data (draws.nonce n)) with e | m
  · simp only [attemptStep, hm, error_bind]
  simp only [attemptStep, hm, ok_bind]
  rcases hr : a.pubkeyReply.result with e | reply
  · rfl
  simp only [ok_bind]
  rcases hk : Gateway.acceptPubkeyReply (ideal table) (gatewayOf gateways draws n) reply with e | pk
  · rfl
  simp only [ok_bind]
  rcases hr' : a.establishedReply.result with e | reply'
  · rfl
  simp only [ok_bind]
  rcases hs : Gateway.parseMlkemEstablishedReply reply' (draws.sessionId n) with e | _
  · rfl
  · rfl

end Attempts

/-- The `mlkem_encaps` of attempt `n` to the key of the cloud. -/
def encapsOf (n : ℕ) : JsonDict :=
  Gateway.encapsMessage (ideal table) (gatewayOf gateways draws n) (draws.sessionId n)
    (mlkemEncapsulate (ideal table) cloud.publicKeyRaw (coins n)).2

/-- The key of that encapsulation. -/
def sessionKey (n : ℕ) : Bytes :=
  deriveSessionKey (ideal table) (mlkemEncapsulate (ideal table) cloud.publicKeyRaw (coins n)).1

/-- The messages that attempt `n` sends. -/
inductive Sent (n : ℕ) : JsonDict → Prop
  | request {m} : Gateway.requestMessage (ideal table) (gatewayOf gateways draws n)
      (.data (draws.nonce n)) = .ok m → Sent n m
  | encaps : Sent n (encapsOf gateways cloud draws n)
  | reading {plaintext nonce m} : Gateway.buildProtectedReading (ideal table) (.data plaintext)
      (sessionKey cloud n) (draws.sessionId n) (.data nonce) = .ok m → Sent n m

/-- The invariant. -/
structure Ok (s : State) : Prop where
  encapsulated : ∀ n pk, s.attempts n = .encapsulated pk →
    pk = cloud.publicKeyRaw ∧ (n, encapsOf gateways cloud draws n) ∈ s.wire
  done : ∀ n key, s.attempts n = .done key →
    key = sessionKey cloud n ∧ (n, encapsOf gateways cloud draws n) ∈ s.wire
  wire : ∀ x ∈ s.wire, Sent gateways cloud draws x.1 x.2
  registered : ∀ r ∈ s.registered,
    Cloud.deriveSession cloud r.encaps = .ok (r.sessionId, r.sessionKey)
  reads : ∀ y ∈ s.reads, ∀ sid key, Cloud.deriveSession cloud y.2 = .ok (sid, key) →
    ⟨y.1, sid, key, y.2⟩ ∈ s.registered
  registry : ∀ sid e, s.cloud.shared.registry sid = some e →
    ∃ r ∈ s.registered, r.gatewayId = e.gatewayId ∧ r.sessionId = sid ∧
      r.sessionKey = e.sessionKey

variable {gateways cloud addr draws} {s : State} {n : ℕ}

/-- The gateway encapsulates to a key with the fingerprint that is pinned, and to no
other one. -/
lemma acceptPubkeyReply_eq_ok {cfg : Gateway.GatewayConfig Bytes} {m : JsonDict} {pk : Bytes}
    (hpin : cfg.pin = publicKeyFingerprint (ideal table) cloud.publicKeyRaw)
    (h : Gateway.acceptPubkeyReply (ideal table) cfg m = .ok pk) : pk = cloud.publicKeyRaw := by
  obtain ⟨raw, -, h⟩ := bind_eq_ok.1 h
  obtain ⟨_, hverify, hload⟩ := bind_eq_ok.1 h
  have hraw : raw = cloud.publicKeyRaw := by
    unfold Gateway.verifyCloudPublicKey at hverify
    split_ifs at hverify
    · cases hverify
    obtain ⟨same, hsame, hverify⟩ := bind_eq_ok.1 hverify
    unfold Gateway.compareDigest at hsame
    split_ifs at hsame
    · cases hsame
      -- the ideal hash is injective, so that the pin leaves one key
      have hcode : Ideal.code raw = cfg.pin := by
        by_contra hne
        rw [if_neg (by rw [decide_eq_true_eq]; exact hne)] at hverify
        cases hverify
      exact Ideal.code_injective (hcode.trans hpin)
    · cases hsame
  unfold loadPublicKey at hload
  split_ifs at hload
  · cases hload
    exact hraw
  · cases hload

/-- What a step of an attempt sends, and where it goes. -/
lemma attemptStep_cases (hprov : Provisioned gateways cloud) (n : ℕ) (p : AttemptPhase)
    (ev : AttemptEvent) (hp : ∀ pk, p = .encapsulated pk → pk = cloud.publicKeyRaw)
    (hd : ∀ key, p = .done key → key = sessionKey cloud n) :
    (∀ m ∈ (attemptStep table gateways draws n p ev).2, Sent gateways cloud draws n m) ∧
      (∀ pk, (attemptStep table gateways draws n p ev).1 = .encapsulated pk →
        pk = cloud.publicKeyRaw ∧ (p = .encapsulated pk ∨
          encapsOf gateways cloud draws n ∈ (attemptStep table gateways draws n p ev).2)) ∧
      (∀ key, (attemptStep table gateways draws n p ev).1 = .done key →
        key = sessionKey cloud n ∧ ((∃ pk, p = .encapsulated pk) ∨ p = .done key)) := by
  unfold attemptStep
  split
  · split
    · exact ⟨nofun, nofun, nofun⟩
    · next m hm =>
      refine ⟨fun m' hm' => ?_, nofun, nofun⟩
      rw [List.mem_singleton] at hm'
      rw [hm']
      exact .request hm
  · split
    · exact ⟨nofun, nofun, nofun⟩
    · next pk h =>
      obtain ⟨reply, -, haccept⟩ := bind_eq_ok.1 h
      have hpk := acceptPubkeyReply_eq_ok (hprov.pin _) haccept
      rw [hpk]
      refine ⟨fun m' hm' => ?_, fun pk' hpk' => ?_, nofun⟩
      · rw [List.mem_singleton] at hm'
        rw [hm']
        exact .encaps
      · cases hpk'
        exact ⟨rfl, Or.inr List.mem_cons_self⟩
  · split
    · exact ⟨nofun, nofun, nofun⟩
    · next pk _ _ _ =>
      refine ⟨nofun, nofun, fun key hkey => ?_⟩
      cases hkey
      have hpk := hp pk rfl
      rw [hpk]
      exact ⟨rfl, Or.inl ⟨_, rfl⟩⟩
  -- a reading is sent under the key of the attempt
  · next key plaintext nonce =>
    have hkey := hd key rfl
    split
    · exact ⟨nofun, nofun, fun key' h => ⟨by cases h; exact hkey, Or.inr h⟩⟩
    · next m hm =>
      refine ⟨fun m' hm' => ?_, nofun, fun key' h => ⟨by cases h; exact hkey, Or.inr h⟩⟩
      rw [List.mem_singleton] at hm'
      rw [hm']
      rw [hkey] at hm
      exact .reading hm
  · exact ⟨nofun, fun pk h => ⟨hp pk h, Or.inl h⟩, fun key h => ⟨hd key h, Or.inr h⟩⟩

lemma Ok.step_attempt (hprov : Provisioned gateways cloud) (h : Ok gateways cloud draws s)
    (n : ℕ) (ev : AttemptEvent) :
    Ok gateways cloud draws (step gateways cloud addr draws s (.attempt n ev)) := by
  obtain ⟨hsent, henc, hdone⟩ := attemptStep_cases hprov n (s.attempts n) ev
    (fun pk hpk => (h.encapsulated n pk hpk).1) fun key hkey => (h.done n key hkey).1
  -- a message that was sent stays on the wire
  have hold : ∀ x ∈ s.wire,
      x ∈ (step gateways cloud addr draws s (.attempt n ev)).wire :=
    fun x hx => List.mem_append_right _ hx
  refine ⟨fun n' pk hn' => ?_, fun n' key hn' => ?_, fun x hx => ?_, h.registered, h.reads,
    h.registry⟩
  · replace hn' : Function.update s.attempts n _ n' = .encapsulated pk := hn'
    rcases eq_or_ne n' n with rfl | hnn
    · rw [Function.update_self] at hn'
      obtain ⟨hpk, hp | hmem⟩ := henc pk hn'
      · exact ⟨hpk, hold _ (h.encapsulated n' pk hp).2⟩
      · exact ⟨hpk, List.mem_append_left _ (List.mem_map_of_mem hmem)⟩
    · rw [Function.update_of_ne hnn] at hn'
      obtain ⟨hpk, hmem⟩ := h.encapsulated n' pk hn'
      exact ⟨hpk, hold _ hmem⟩
  · replace hn' : Function.update s.attempts n _ n' = .done key := hn'
    rcases eq_or_ne n' n with rfl | hnn
    · rw [Function.update_self] at hn'
      obtain ⟨hkey, ⟨pk, hp⟩ | hp⟩ := hdone key hn'
      · exact ⟨hkey, hold _ (h.encapsulated n' pk hp).2⟩
      · exact ⟨hkey, hold _ (h.done n' key hp).2⟩
    · rw [Function.update_of_ne hnn] at hn'
      obtain ⟨hkey, hmem⟩ := h.done n' key hn'
      exact ⟨hkey, hold _ hmem⟩
  · rcases List.mem_append.1 hx with hx | hx
    · obtain ⟨m, hm, rfl⟩ := List.mem_map.1 hx
      exact hsent m hm
    · exact h.wire x hx

/-- What the cloud registers it derives from the `mlkem_encaps` that it reads. -/
lemma registeredBy_eq {c : ℕ} {ev : Cloud.ConnEvent} {r : Registration}
    (hr : r ∈ registeredBy (s.cloud.phase c) ev ((Cloud.step cloud addr s.cloud (c, ev)).phase c)) :
    s.cloud.phase c = .encaps r.gatewayId ∧ ev = .recv (.message r.encaps) ∧
      Cloud.deriveSession cloud r.encaps = .ok (r.sessionId, r.sessionKey) := by
  have hm := Cloud.handlerStep_moves cloud c (addr c) s.cloud.shared (s.cloud.phase c) ev
  rw [show (Cloud.step cloud addr s.cloud (c, ev)).phase c = (Cloud.handlerStep cloud c (addr c)
    s.cloud.shared (s.cloud.phase c) ev).2 from Function.update_self _ _ _] at hr
  generalize (Cloud.handlerStep cloud c (addr c) s.cloud.shared (s.cloud.phase c) ev).1 = st'
    at hm
  generalize (Cloud.handlerStep cloud c (addr c) s.cloud.shared (s.cloud.phase c) ev).2 = p'
    at hm hr
  generalize s.cloud.phase c = p at hm hr ⊢
  -- only one kind of move makes a session live
  unfold registeredBy at hr
  split at hr
  · rw [List.mem_singleton] at hr
    rw [hr]
    rcases hm.registry_cases with ⟨-, -, hlive⟩ | ⟨o, gid, sid, key, hp, hev, hkey, hp', -⟩ |
      ⟨_, _, _, _, hp, -⟩ | ⟨_, _, hp, -⟩
    · cases hlive _ rfl
    · cases hp
      cases hev
      cases hp'
      exact ⟨rfl, rfl, hkey⟩
    · cases hp
    · cases hp
  · cases hr

/-- Every entry of the registry has been registered. -/
lemma Ok.registry_step (h : Ok gateways cloud draws s) (c : ℕ) (ev : Cloud.ConnEvent)
    {sid : PyStr} {e : Cloud.Session Bytes}
    (he : (step gateways cloud addr draws s (.cloud c ev)).cloud.shared.registry sid = some e) :
    ∃ r ∈ (step gateways cloud addr draws s (.cloud c ev)).registered,
      r.gatewayId = e.gatewayId ∧ r.sessionId = sid ∧ r.sessionKey = e.sessionKey := by
  have hold : ∀ r ∈ s.registered,
      r ∈ (step gateways cloud addr draws s (.cloud c ev)).registered :=
    fun r hr => List.mem_append_right _ hr
  obtain ⟨st, p, hm, hstep⟩ := Cloud.step_moves cloud addr s.cloud c ev
  have he' : (Cloud.step cloud addr s.cloud (c, ev)).shared.registry sid = some e := he
  rw [hstep] at he'
  replace he' : st.registry sid = some e := he'
  -- an entry that stays has been registered before
  have hstays : s.cloud.shared.registry sid = some e →
      ∃ r ∈ (step gateways cloud addr draws s (.cloud c ev)).registered,
        r.gatewayId = e.gatewayId ∧ r.sessionId = sid ∧ r.sessionKey = e.sessionKey := by
    intro hs
    obtain ⟨r, hr, hreg⟩ := h.registry sid e hs
    exact ⟨r, hold r hr, hreg⟩
  rcases hm.registry_cases with ⟨hreg, -⟩ | ⟨o, gid, sid', key, hp, hev, hkey, hp', hreg⟩ |
    ⟨_, _, _, _, -, -, hreg, -⟩ | ⟨sid', _, -, -, hreg⟩
  · rw [hreg] at he'
    exact hstays he'
  · rw [hreg, Cloud.SessionRegistry.add] at he'
    by_cases hsid : sid = sid'
    · rw [hsid, Function.update_self, Option.some.injEq] at he'
      obtain ⟨m, hm, -⟩ := bind_eq_ok.1 hkey
      rw [readOutcome_eq_ok hm] at hev
      have hphase : (Cloud.step cloud addr s.cloud (c, ev)).phase c
          = .sendEstablished gid sid' key := by
        rw [hstep, ← hp']
        exact Function.update_self _ _ _
      refine ⟨⟨gid, sid', key, m⟩, List.mem_append_left _ ?_, ?_⟩
      · rw [hphase, hp, hev]
        exact List.mem_cons_self
      · rw [← he', hsid]
        exact ⟨rfl, rfl, rfl⟩
    · rw [Function.update_of_ne hsid] at he'
      exact hstays he'
  · rw [hreg] at he'
    exact hstays he'
  · rw [hreg] at he'
    split_ifs at he'
    exact hstays he'

lemma Ok.step_cloud (h : Ok gateways cloud draws s) (c : ℕ) (ev : Cloud.ConnEvent) :
    Ok gateways cloud draws (step gateways cloud addr draws s (.cloud c ev)) := by
  have hold : ∀ r ∈ s.registered,
      r ∈ (step gateways cloud addr draws s (.cloud c ev)).registered :=
    fun r hr => List.mem_append_right _ hr
  refine ⟨h.encapsulated, h.done, h.wire, fun r hr => ?_, fun y hy sid key hkey => ?_,
    fun sid e he => h.registry_step c ev he⟩
  · rcases List.mem_append.1 hr with hr | hr
    · exact (registeredBy_eq hr).2.2
    · exact h.registered r hr
  · rcases List.mem_append.1 hy with hy | hy
    · -- a message from which a session can be derived is registered at once
      unfold readBy at hy
      split at hy
      · next gid m hp _ =>
        rw [List.mem_singleton] at hy
        rw [hy] at hkey ⊢
        have hphase : (Cloud.step cloud addr s.cloud (c, .recv (.message m))).phase c
            = .sendEstablished gid sid key := by
          simp only [Cloud.step, Cloud.handlerStep, hp, ReadOutcome.result, ok_bind, hkey,
            Function.update_self]
        refine List.mem_append_left _ ?_
        rw [hphase, hp]
        exact List.mem_cons_self
      · cases hy
    · exact hold _ (h.reads y hy sid key hkey)

/-- The step lemma. -/
lemma Ok.step (hprov : Provisioned gateways cloud) (h : Ok gateways cloud draws s) (ev : Event) :
    Ok gateways cloud draws (step gateways cloud addr draws s ev) := by
  cases ev with
  | attempt n ev => exact h.step_attempt hprov n ev
  | cloud c ev => exact h.step_cloud c ev

lemma ok_initial (maxReadings : ℕ) (log : List PyStr) :
    Ok gateways cloud draws (initial maxReadings log) :=
  ⟨nofun, nofun, nofun, nofun, nofun, nofun⟩

/-! ### What the attacker has seen -/

/-- The names that the attacker does not own. -/
def Hidden (a : Name) : Prop := a.owner ≠ .attacker

lemma mem_carried {m : JsonDict} {t : Bytes} : t ∈ carried m ↔
    fieldBytes m "auth_nonce" = some t ∨ fieldBytes m "auth_tag" = some t ∨
      fieldBytes m "public_key" = some t ∨ fieldBytes m "ciphertext" = some t ∨
      fieldBytes m "nonce" = some t := by
  simp [carried, byteFields]

/-- A request carries its nonce and its tag. -/
lemma fieldBytes_requestMessage {cfg : Gateway.GatewayConfig Bytes} {nonce : Bytes} {m : JsonDict}
    (h : Gateway.requestMessage (ideal table) cfg nonce = .ok m) :
    fieldBytes m "auth_nonce" = some nonce ∧
      fieldBytes m "auth_tag" = some (.aead cfg.gatewayKey nonce (emptyBytes (ideal table))
        (gatewayAuthClaimsBytes (ideal table) (.str cfg.gatewayId))) ∧
      fieldBytes m "public_key" = none ∧ fieldBytes m "ciphertext" = none ∧
      fieldBytes m "nonce" = none := by
  obtain ⟨auth, hauth, h⟩ := bind_eq_ok.1 h
  obtain ⟨_, -, hauth⟩ := bind_eq_ok.1 hauth
  cases hauth
  cases h
  exact ⟨Ideal.decode_code _, Ideal.decode_code _, rfl, rfl, rfl⟩

variable (table) in
/-- An `mlkem_encaps` carries its ciphertext. -/
lemma fieldBytes_encapsMessage (cfg : Gateway.GatewayConfig Bytes) (sid : PyStr) (ct : Bytes) :
    fieldBytes (Gateway.encapsMessage (ideal table) cfg sid ct) "auth_nonce" = none ∧
      fieldBytes (Gateway.encapsMessage (ideal table) cfg sid ct) "auth_tag" = none ∧
      fieldBytes (Gateway.encapsMessage (ideal table) cfg sid ct) "public_key" = none ∧
      fieldBytes (Gateway.encapsMessage (ideal table) cfg sid ct) "ciphertext" = some ct ∧
      fieldBytes (Gateway.encapsMessage (ideal table) cfg sid ct) "nonce" = none :=
  ⟨rfl, rfl, rfl, Ideal.decode_code _, rfl⟩

/-- A protected message carries its nonce and its ciphertext. -/
lemma fieldBytes_protectedReading {b key nonce : Bytes} {sid : PyStr} {m : JsonDict}
    (h : Gateway.buildProtectedReading (ideal table) b key sid nonce = .ok m) :
    fieldBytes m "auth_nonce" = none ∧ fieldBytes m "auth_tag" = none ∧
      fieldBytes m "public_key" = none ∧
      (∃ aad, fieldBytes m "ciphertext" = some (.aead key nonce b aad)) ∧
      fieldBytes m "nonce" = some nonce := by
  obtain ⟨aad, -, h⟩ := bind_eq_ok.1 h
  obtain ⟨envelope, henvelope, h⟩ := bind_eq_ok.1 h
  obtain ⟨_, -, henvelope⟩ := bind_eq_ok.1 henvelope
  cases henvelope
  cases h
  exact ⟨rfl, rfl, rfl, ⟨aad, Ideal.decode_code _⟩, Ideal.decode_code _⟩

/-- What an honest party sends: public data, the ciphertext of its encapsulation to the
cloud, readings under its session key, and the tag of its request. -/
lemma Sent.carried_cases {m : JsonDict} (h : Sent gateways cloud draws n m) {t : Bytes}
    (ht : t ∈ carried m) :
    (∃ d, t = .data d) ∨ t = .ct cloud.publicKeyRaw (coins n) ∨
      (∃ nonce d aad, t = .aead (sessionKey cloud n) nonce (.data d) aad) ∨
      (Gateway.requestMessage (ideal table) (gatewayOf gateways draws n) (.data (draws.nonce n))
          = .ok m ∧ fieldBytes m "auth_tag" = some t ∧
        t = .aead (gatewayOf gateways draws n).gatewayKey (.data (draws.nonce n))
          (emptyBytes (ideal table)) (gatewayAuthClaimsBytes (ideal table)
            (.str (gatewayOf gateways draws n).gatewayId))) := by
  rw [mem_carried] at ht
  cases h with
  -- each message carries at most two terms in its five binary fields
  | request hm =>
    obtain ⟨h1, h2, h3, h4, h5⟩ := fieldBytes_requestMessage hm
    rw [h1, h2, h3, h4, h5] at ht
    rcases ht with ht | ht | ht | ht | ht
    · exact Or.inl ⟨_, (Option.some_injective _ ht).symm⟩
    · have htag := (Option.some_injective _ ht).symm
      exact Or.inr (Or.inr (Or.inr ⟨hm, by rw [h2, htag], htag⟩))
    · cases ht
    · cases ht
    · cases ht
  | encaps =>
    obtain ⟨h1, h2, h3, h4, h5⟩ := fieldBytes_encapsMessage table (gatewayOf gateways draws n)
      (draws.sessionId n) (mlkemEncapsulate (ideal table) cloud.publicKeyRaw (coins n)).2
    rw [encapsOf, h1, h2, h3, h4, h5] at ht
    rcases ht with ht | ht | ht | ht | ht
    · cases ht
    · cases ht
    · cases ht
    · exact Or.inr (Or.inl (Option.some_injective _ ht).symm)
    · cases ht
  | reading hm =>
    obtain ⟨h1, h2, h3, ⟨aad, h4⟩, h5⟩ := fieldBytes_protectedReading hm
    rw [h1, h2, h3, h4, h5] at ht
    rcases ht with ht | ht | ht | ht | ht
    · cases ht
    · cases ht
    · cases ht
    · exact Or.inr (Or.inr (Or.inl ⟨_, _, aad, (Option.some_injective _ ht).symm⟩))
    · exact Or.inl ⟨_, (Option.some_injective _ ht).symm⟩

/-- It gives nothing away, and the encryptions in it have been seen. -/
lemma Sent.safe {L : Set Bytes} {m : JsonDict} (h : Sent gateways cloud draws n m) {t : Bytes}
    (ht : t ∈ carried m) (hL : t ∈ L) : Safe Hidden t ∧ Sealed Hidden L t := by
  rcases h.carried_cases ht with ⟨d, rfl⟩ | rfl | ⟨nonce, d, aad, rfl⟩ | ⟨-, -, rfl⟩
  · exact ⟨trivial, trivial⟩
  · exact ⟨trivial, trivial⟩
  · exact ⟨fun _ => trivial, Or.inr hL, trivial⟩
  · exact ⟨fun _ => trivial, Or.inr hL, trivial⟩

/-- What the attacker has seen gives nothing away. -/
lemma Ok.known_safe (h : Ok gateways cloud draws s) {t : Bytes} (ht : t ∈ Known cloud s) :
    Safe Hidden t ∧ Sealed Hidden (Known cloud s) t := by
  have hseen := ht
  rcases ht with rfl | ⟨i, rfl⟩ | ⟨x, hx, ht⟩
  · exact ⟨trivial, trivial⟩
  · exact ⟨fun hidden => hidden rfl, trivial⟩
  · exact (h.wire x hx).safe ht hseen

/-- The session key of an attempt is never derived. -/
lemma Ok.sessionKey_secret (hprov : Provisioned gateways cloud) (h : Ok gateways cloud draws s)
    (n : ℕ) : ¬ Derives (Known cloud s) (sessionKey cloud n) := by
  intro hderived
  have hsafe : Safe Hidden (sessionKey cloud n) :=
    safe_of_derives (fun t ht => (h.known_safe ht).1) hderived
  have hkey : sessionKey cloud n
      = .kdf (.ss (.pub (.name ⟨.cloud, 0⟩)) (.name ⟨.coins, n⟩)) := by
    show Term.kdf (.ss (.pub cloud.privateKey) (coins n)) = _
    rw [hprov.privateKey]
    rfl
  rw [hkey, safe_kdf, safe_ss_pub, safe_name, safe_name] at hsafe
  rcases hsafe with hsafe | hsafe
  · exact hsafe nofun
  · exact hsafe nofun

/-! ### Requests -/

/-- A request that is accepted carries the tag of a request that the gateway it names has
sent. -/
def RequestSent (gateways : ℕ → Gateway.GatewayConfig Bytes)
    (cloud : Cloud.CloudConfig (ideal table)) (draws : Draws) (s : State) (ev : Event) : Prop :=
  ∀ c m gid, ev = .cloud c (.recv (.message m)) → s.cloud.phase c = .request →
    Cloud.authenticateRequest cloud m = .ok gid →
      ∃ x ∈ s.wire, (gatewayOf gateways draws x.1).gatewayId = gid ∧
        Gateway.requestMessage (ideal table) (gatewayOf gateways draws x.1)
          (.data (draws.nonce x.1)) = .ok x.2 ∧
        fieldBytes m "auth_tag" = fieldBytes x.2 "auth_tag"

lemma Ok.requestSent (hprov : Provisioned gateways cloud) (h : Ok gateways cloud draws s)
    {ev : Event} (ha : Admissible cloud s ev) : RequestSent gateways cloud draws s ev := by
  intro c m gid hev _ hauth
  obtain ⟨key, text, tag, nonce, plaintext, hkey, htext, hdecode, hopen⟩ :=
    Cloud.authenticateRequest_eq_ok hauth
  have htag : fieldBytes m "auth_tag" = some tag := by
    simp only [fieldBytes, htext]
    exact hdecode
  obtain ⟨i, hi, hgid⟩ := hprov.registry gid key hkey
  have haead := Ideal.decrypt_eq_some hopen
  -- the attacker does not have the key, so it has seen the tag
  have hderives : Derives (Known cloud s) tag :=
    ha.cloud c m hev tag (mem_carried.2 (Or.inr (Or.inl htag)))
  have hsealed := sealed_of_derives (fun t ht => h.known_safe ht) hderives
  rw [haead, hi] at hsealed
  have hseen : tag ∈ Known cloud s := by
    rw [haead, hi]
    rcases hsealed.1 with hsafe | hseen
    · exact absurd nofun hsafe
    · exact hseen
  rw [haead, hi] at hseen
  rcases hseen with hseen | ⟨_, hseen⟩ | ⟨⟨j, request⟩, hx, hseen⟩
  · cases hseen
  · cases hseen
  · have hkey' : (gatewayOf gateways draws j).gatewayKey = .name ⟨.gateway, draws.gateway j⟩ :=
      hprov.gatewayKey _
    rcases (h.wire _ hx).carried_cases hseen with
      ⟨d, heq⟩ | heq | ⟨_, _, _, heq⟩ | ⟨hm, hfield, heq⟩
    · cases heq
    · cases heq
    · cases heq
    · rw [hkey'] at heq
      have hgateway : i = draws.gateway j := by
        injection heq with hname
        injection hname with hname
        injection hname
      refine ⟨⟨j, request⟩, hx, ?_, hm, ?_⟩
      · rw [gatewayOf, ← hgateway]
        exact hgid
      · rw [htag, haead, hi]
        exact hfield.symm

/-- **Requests are authentic.**  In every run, each request that the cloud accepts carries
the tag of a request that the gateway it names has sent.  It need not be the same request:
the tag covers the id of the gateway and nothing else of the handshake. -/
theorem accepted_requests_authentic (hprov : Provisioned gateways cloud) (maxReadings : ℕ)
    (log : List PyStr) {τ : List Event}
    (ha : Along (step gateways cloud addr draws) (Admissible cloud) (initial maxReadings log) τ) :
    Along (step gateways cloud addr draws) (RequestSent gateways cloud draws)
      (initial maxReadings log) τ :=
  ha.of_inv (J := Ok gateways cloud draws) (ok_initial maxReadings log)
    (fun _ ev h _ => h.step hprov ev) fun _ _ h hev => h.requestSent hprov hev

end PqcBridge.Network
