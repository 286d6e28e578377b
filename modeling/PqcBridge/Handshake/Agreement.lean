/-
What the handshake authenticates, and to whom.

* `registered_sessions_authentic`: while no request of a gateway is replayed, every session
  that the cloud registers has a key of the gateway it is registered for, which the attacker
  does not derive.  The tag of a request can be replayed, and nothing ties what follows to it.
* `completed_attempts_agree`: the session of an attempt that completes has the key of an
  encapsulation to the cloud, which the attacker does not derive; and where the cloud gets
  its message, it registers that session.  That it gets it is not known: nothing that the
  gateway reads is authenticated but the public key.
-/
import PqcBridge.Handshake.Network

namespace PqcBridge.Network

open Python Protocol Crypto Runs Symbolic

variable {table : ℕ → Option Json} {gateways : ℕ → Gateway.GatewayConfig Bytes}
  {cloud : Cloud.CloudConfig (ideal table)} {addr : ℕ → Cloud.Addr} {draws : Draws} {s : State}

/-! ### Ciphertexts of a gateway -/

/-- From the ciphertext of an attempt the cloud derives the key of that attempt. -/
lemma deriveSession_of_ciphertext {m : JsonDict} {sid : PyStr} {key : Bytes} {n : ℕ}
    (h : Cloud.deriveSession cloud m = .ok (sid, key))
    (hct : fieldBytes m "ciphertext" = fieldBytes (encapsOf gateways cloud draws n) "ciphertext") :
    key = sessionKey cloud n := by
  obtain ⟨-, -, text, ct, secret, htext, hdecode, hsecret, hkey⟩ := Cloud.deriveSession_eq_ok h
  have hfield : fieldBytes m "ciphertext" = some ct := by
    simp only [fieldBytes, htext]
    exact hdecode
  obtain ⟨-, -, -, hsent, -⟩ := fieldBytes_encapsMessage table (gatewayOf gateways draws n)
    (draws.sessionId n) (mlkemEncapsulate (ideal table) cloud.publicKeyRaw (coins n)).2
  have hencaps : ct = (mlkemEncapsulate (ideal table) cloud.publicKeyRaw (coins n)).2 :=
    Option.some_injective _ (hfield.symm.trans (hct.trans hsent))
  have hdecaps : mlkemDecapsulate (ideal table) cloud.privateKey
      (mlkemEncapsulate (ideal table) cloud.publicKeyRaw (coins n)).2
        = .ok (mlkemEncapsulate (ideal table) cloud.publicKeyRaw (coins n)).1 := by
    simp [mlkemDecapsulate, mlkemEncapsulate, Cloud.CloudConfig.publicKeyRaw,
      (ideal_lawful table).decapsulate_encapsulate]
  rw [hencaps, hdecaps] at hsecret
  cases hsecret
  exact hkey

/-- Of the messages of an attempt, one alone is an `mlkem_encaps`. -/
lemma Sent.eq_encapsOf {n : ℕ} {m : JsonDict} (h : Sent gateways cloud draws n m)
    (htype : isStr (m.field "type") msgMlkemEncaps = true) :
    m = encapsOf gateways cloud draws n := by
  cases h with
  | request hm =>
    obtain ⟨_, -, hm⟩ := bind_eq_ok.1 hm
    cases hm
    cases htype
  | encaps => rfl
  | reading hm =>
    obtain ⟨_, -, hm⟩ := bind_eq_ok.1 hm
    obtain ⟨_, -, hm⟩ := bind_eq_ok.1 hm
    cases hm
    cases htype

/-! ### The sessions of the cloud -/

variable (gateways cloud draws) in
/-- The session has the key of an encapsulation that the gateway it is registered for has
sent. -/
def FromGateway (s : State) (r : Registration) : Prop :=
  ∃ n, (gatewayOf gateways draws n).gatewayId = r.gatewayId ∧
    (n, encapsOf gateways cloud draws n) ∈ s.wire ∧ r.sessionKey = sessionKey cloud n

/-- The message carries the tag of the request of attempt `n`. -/
def CarriesTag (s : State) (n : ℕ) (m : JsonDict) : Prop :=
  ∃ tag x, fieldBytes m "auth_tag" = some tag ∧ (n, x) ∈ s.wire ∧
    fieldBytes x "auth_tag" = some tag

/-- No request is replayed.  The connection `c` is opened by attempt `opener c`, or else by the
attacker: a request with the tag of an attempt reaches the cloud only on a connection that an
attempt with this tag has opened, and such a connection carries no `mlkem_encaps` but the one
that its attempt has sent. -/
structure Unreplayed (opener : ℕ → Option ℕ) (s : State) (ev : Event) : Prop where
  request : ∀ c m n, ev = .cloud c (.recv (.message m)) → s.cloud.phase c = .request →
    isStr (m.field "type") msgMlkemRequestPubkey = true → CarriesTag s n m →
      ∃ n', opener c = some n' ∧ CarriesTag s n' m
  encaps : ∀ c m n, ev = .cloud c (.recv (.message m)) → opener c = some n →
    isStr (m.field "type") msgMlkemEncaps = true → (n, m) ∈ s.wire

/-- The gateway whose request a handler has accepted, until it has read the encapsulation. -/
def requester : Cloud.Phase Bytes → Option PyStr
  | .sendPubkey gatewayId => some gatewayId
  | .encaps gatewayId => some gatewayId
  | _ => none

/-- A handler waits for the encapsulation of a gateway only where it has accepted a request of
this gateway. -/
lemma requester_cases {c : ℕ} {a : Cloud.Addr} {st st' : Cloud.CloudState Bytes}
    {p p' : Cloud.Phase Bytes} {ev : Cloud.ConnEvent} (hm : Cloud.Moves cloud c a st p ev st' p')
    {gid : PyStr} (hp' : requester p' = some gid) :
    requester p = some gid ∨ p = .request ∧ ∃ m, ev = .recv (.message m) ∧
      Cloud.authenticateRequest cloud m = .ok gid := by
  cases hm with
  | idle => exact Or.inl hp'
  | pubkeySent => exact Or.inl hp'
  | authenticated ho =>
    obtain ⟨m, hmessage, hauth⟩ := bind_eq_ok.1 ho
    cases hp'
    exact Or.inr ⟨rfl, m, by rw [readOutcome_eq_ok hmessage], hauth⟩
  | refuse | pubkeyLost | unregistered | establishedLost | readFailed | raised =>
    rw [Cloud.onException_snd] at hp'
    cases hp'
  | _ => cases hp'

variable (gateways draws) in
/-- A connection on which a request of a gateway was accepted was opened by an attempt of this
gateway. -/
def Opened (opener : ℕ → Option ℕ) (s : State) : Prop :=
  ∀ c gid, requester (s.cloud.phase c) = some gid →
    ∃ n, opener c = some n ∧ (gatewayOf gateways draws n).gatewayId = gid

/-- The attempts that have sent a tag are those of one gateway. -/
lemma Ok.gateway_of_tag (hprov : Provisioned gateways cloud) (h : Ok gateways cloud draws s)
    {n n' : ℕ} {m x : JsonDict} (hrequest : Gateway.requestMessage (ideal table)
      (gatewayOf gateways draws n) (.data (draws.nonce n)) = .ok x)
    (htag : fieldBytes m "auth_tag" = fieldBytes x "auth_tag") (hm : CarriesTag s n' m) :
    draws.gateway n' = draws.gateway n := by
  obtain ⟨tag, x', hmtag, hx', htag'⟩ := hm
  obtain ⟨-, hxtag, -⟩ := fieldBytes_requestMessage hrequest
  rw [htag, hxtag] at hmtag
  have hcarried : tag ∈ carried x' := mem_carried.2 (Or.inr (Or.inl htag'))
  have hkey : (gatewayOf gateways draws n).gatewayKey = .name ⟨.gateway, draws.gateway n⟩ :=
    hprov.gatewayKey _
  have hkey' : (gatewayOf gateways draws n').gatewayKey = .name ⟨.gateway, draws.gateway n'⟩ :=
    hprov.gatewayKey _
  have heq := (Option.some_injective _ hmtag).symm
  -- of what an attempt sends only its tag is sealed under the key of a gateway
  rcases (h.wire _ hx').carried_cases hcarried with ⟨d, hd⟩ | hct | ⟨_, _, _, hseal⟩ | ⟨-, -, hseal⟩
  · rw [heq] at hd
    cases hd
  · rw [heq] at hct
    cases hct
  · rw [heq, hkey] at hseal
    cases hseal
  · rw [heq, hkey, hkey'] at hseal
    injection hseal with hname
    injection hname with hname
    injection hname with _ hname
    exact hname.symm

/-- The step lemma of the connections. -/
lemma Opened.step (hprov : Provisioned gateways cloud) (hok : Ok gateways cloud draws s)
    {opener : ℕ → Option ℕ} (h : Opened gateways draws opener s) {ev : Event}
    (ha : Admissible cloud s ev) (hev : Unreplayed opener s ev) :
    Opened gateways draws opener (step gateways cloud addr draws s ev) := by
  cases ev with
  | attempt n ev => exact h
  | cloud c ev =>
    intro c' gid hc'
    obtain ⟨st, p, hm, hstep⟩ := Cloud.step_moves cloud addr s.cloud c ev
    replace hc' : requester ((Cloud.step cloud addr s.cloud (c, ev)).phase c') = some gid := hc'
    rw [hstep] at hc'
    replace hc' : requester (Function.update s.cloud.phase c p c') = some gid := hc'
    by_cases hcc : c' = c
    · rw [hcc] at hc' ⊢
      rw [Function.update_self] at hc'
      rcases requester_cases hm hc' with hold | ⟨hphase, m, rfl, hauth⟩
      · exact h c gid hold
      -- the request that is accepted carries a tag of the gateway, so it was not replayed
      · obtain ⟨⟨n, x⟩, hx, hid, hrequest, htag⟩ :=
          hok.requestSent hprov ha c m gid rfl hphase hauth
        have hcarries : CarriesTag s n m :=
          ⟨_, x, htag.trans (fieldBytes_requestMessage hrequest).2.1, hx,
            (fieldBytes_requestMessage hrequest).2.1⟩
        obtain ⟨n', hopener, hcarries'⟩ := hev.request c m n rfl hphase
          (Cloud.authenticateRequest_type hauth) hcarries
        refine ⟨n', hopener, ?_⟩
        rw [gatewayOf, hok.gateway_of_tag hprov hrequest htag hcarries']
        exact hid
    · rw [Function.update_of_ne hcc] at hc'
      exact h c' gid hc'

/-- The step lemma of the registrations. -/
lemma fromGateway_step (hok : Ok gateways cloud draws s) {opener : ℕ → Option ℕ}
    (hopened : Opened gateways draws opener s)
    (h : ∀ r ∈ s.registered, FromGateway gateways cloud draws s r) {ev : Event}
    (hev : Unreplayed opener s ev) :
    ∀ r ∈ (step gateways cloud addr draws s ev).registered,
      FromGateway gateways cloud draws (step gateways cloud addr draws s ev) r := by
  intro r hr
  cases ev with
  | attempt n ev =>
    obtain ⟨n', hid, hmem, hkey⟩ := h r hr
    exact ⟨n', hid, List.mem_append_right _ hmem, hkey⟩
  | cloud c ev =>
    rcases List.mem_append.1 hr with hr | hr
    · obtain ⟨hphase, rfl, hderive⟩ := registeredBy_eq hr
      obtain ⟨n, hopener, hid⟩ := hopened c r.gatewayId (by rw [hphase]; rfl)
      -- the connection carries the encapsulation of the attempt that has opened it
      have htype := Cloud.deriveSession_type hderive
      have hmem := hev.encaps c r.encaps n rfl hopener htype
      have hencaps : r.encaps = encapsOf gateways cloud draws n :=
        (hok.wire _ hmem).eq_encapsOf htype
      refine ⟨n, hid, ?_, deriveSession_of_ciphertext hderive (by rw [hencaps])⟩
      rw [← hencaps]
      exact hmem
    · exact h r hr

/-- **Gateway authentication of cloud sessions**, in every run in which no request of a gateway
is replayed.  On all other connections the attacker does what it likes.  The registry holds
nothing but sessions of gateways. -/
theorem registered_sessions_authentic (hprov : Provisioned gateways cloud) (maxReadings : ℕ)
    (log : List PyStr) {opener : ℕ → Option ℕ} {τ : List Event}
    (ha : Along (step gateways cloud addr draws) (Admissible cloud) (initial maxReadings log) τ)
    (hunreplayed : Along (step gateways cloud addr draws) (Unreplayed opener)
      (initial maxReadings log) τ) :
    (∀ r ∈ (run (step gateways cloud addr draws) (initial maxReadings log) τ).registered,
        FromGateway gateways cloud draws
            (run (step gateways cloud addr draws) (initial maxReadings log) τ) r ∧
          ¬ Derives (Known cloud
              (run (step gateways cloud addr draws) (initial maxReadings log) τ)) r.sessionKey) ∧
      ∀ sid e, (run (step gateways cloud addr draws) (initial maxReadings log)
          τ).cloud.shared.registry sid = some e →
        ∃ r ∈ (run (step gateways cloud addr draws) (initial maxReadings log) τ).registered,
          r.gatewayId = e.gatewayId ∧ r.sessionId = sid ∧ r.sessionKey = e.sessionKey := by
  have hinv : Ok gateways cloud draws
        (run (step gateways cloud addr draws) (initial maxReadings log) τ) ∧
      Opened gateways draws opener
        (run (step gateways cloud addr draws) (initial maxReadings log) τ) ∧
      ∀ r ∈ (run (step gateways cloud addr draws) (initial maxReadings log) τ).registered,
        FromGateway gateways cloud draws
          (run (step gateways cloud addr draws) (initial maxReadings log) τ) r := by
    -- who has opened a connection, and the origin of what is registered, are carried along
    refine inv_run (J := fun s => Ok gateways cloud draws s ∧ Opened gateways draws opener s ∧
      ∀ r ∈ s.registered, FromGateway gateways cloud draws s r) (fun s ev h hev => ?_)
      ⟨ok_initial maxReadings log, nofun, nofun⟩ (along_and.2 ⟨ha, hunreplayed⟩)
    exact ⟨h.1.step hprov ev, h.2.1.step hprov h.1 hev.1 hev.2,
      fromGateway_step h.1 h.2.1 h.2.2 hev.2⟩
  refine ⟨fun r hr => ?_, hinv.1.registry⟩
  obtain ⟨n, hid, hmem, hkey⟩ := hinv.2.2 r hr
  refine ⟨⟨n, hid, hmem, hkey⟩, ?_⟩
  rw [hkey]
  exact hinv.1.sessionKey_secret hprov n

/-! ### The sessions of a gateway -/

section Demo

open Handshake

/-- The gateways of the demo; two of them are registered. -/
def demoGateways (i : ℕ) : Gateway.GatewayConfig Bytes :=
  { Gateway.demoGateway with
    gatewayId := if i = 0 then lit "gw-01" else if i = 1 then lit "gw-02" else lit "gw-03"
    gatewayKey := .name ⟨.gateway, i⟩ }

/-- All attempts of the demo are made by the first gateway. -/
def demoDraws : Draws where
  gateway := fun _ => 0
  sessionId := fun _ => demoSessionId
  nonce := fun _ => .text (List.replicate 11 (PyChar.char '-') ++ [hexDigit 0])
  nonempty := fun _ => by decide

/-- The cloud of the demo, which reads no records. -/
def demoNetCloud : Cloud.CloudConfig (ideal fun _ => none) := demoCloud fun _ => none

/-- A step of the demo. -/
def demoStep : State → Event → State :=
  step demoGateways demoNetCloud demoAddr demoDraws

/-- An encapsulation of the attacker, whose coins it knows. -/
def demoForged : JsonDict :=
  [(lit "type", .str msgMlkemEncaps), (lit "gateway_id", .str (lit "gw-01")),
    (lit "session_id", .str (lit "a1")),
    (lit "ciphertext", .str (Ideal.code (.ct (.pub Demo.cloudKey) (.name ⟨.attacker, 0⟩))))]

/-- A handshake that the attacker relays. -/
def demoRelayed : List Event :=
  [.attempt 0 .start, .cloud 0 .accept, .cloud 0 (.recv (.message demoRequest)), .cloud 0 .sendOk,
    .attempt 0 (.recv (.message (Cloud.pubkeyMessage demoNetCloud))),
    .cloud 0 (.recv (.message (demoEncaps 0 demoSessionId))), .cloud 0 .sendOk,
    .attempt 0 (.recv (.message (Cloud.establishedMessage demoSessionId)))]

/-- A handshake that is relayed, while the attacker tries its encapsulation on a connection of
its own. -/
def demoAttacked : List Event :=
  [.cloud 1 .accept, .cloud 1 (.recv (.message demoForged))] ++ demoRelayed

/-- The attacker opens a connection with the request of the gateway, and goes on with its
own encapsulation. -/
def demoSpliced : List Event :=
  [.attempt 0 .start, .cloud 0 .accept, .cloud 0 (.recv (.message demoRequest)), .cloud 0 .sendOk,
    .cloud 0 (.recv (.message demoForged))]

lemma provisioned_demo : Provisioned demoGateways demoNetCloud := by
  refine ⟨rfl, fun _ => rfl, fun gid key hkey => ?_, fun _ => rfl⟩
  have hkeys : (if gid = lit "gw-01" then some Demo.gatewayKey
      else if gid = lit "gw-02" then some (.name ⟨.gateway, 1⟩) else none) = some key := hkey
  split_ifs at hkeys with h1 h2
  · cases hkeys
    exact ⟨0, rfl, h1.symm⟩
  · cases hkeys
    exact ⟨1, rfl, h2.symm⟩

/-- An event that delivers no message. -/
lemma admissible_of_quiet {s : State} {ev : Event}
    (h1 : ∀ n m, ev ≠ .attempt n (.recv (.message m)))
    (h2 : ∀ c m, ev ≠ .cloud c (.recv (.message m))) : Admissible demoNetCloud s ev :=
  ⟨fun n m hev => absurd hev (h1 n m), fun c m hev => absurd hev (h2 c m)⟩

lemma derives_of_seen {s : State} {t : Bytes}
    (ht : t ∈ demoNetCloud.publicKeyRaw :: s.wire.flatMap fun x => carried x.2) :
    Derives (Known demoNetCloud s) t := by
  rcases List.mem_cons.1 ht with rfl | ht
  · exact .seen (Or.inl rfl)
  · exact .seen (Or.inr (Or.inr (List.mem_flatMap.1 ht)))

/-- A gateway is sent what has been seen. -/
lemma admissible_attempt {s : State} {n : ℕ} {m : JsonDict}
    (h : ∀ t ∈ carried m, t ∈ demoNetCloud.publicKeyRaw :: s.wire.flatMap fun x => carried x.2) :
    Admissible demoNetCloud s (.attempt n (.recv (.message m))) := by
  refine ⟨fun n' m' hev t ht => ?_, (by simp)⟩
  cases hev
  exact derives_of_seen (h t ht)

/-- The cloud is sent what has been seen. -/
lemma admissible_cloud {s : State} {c : ℕ} {m : JsonDict}
    (h : ∀ t ∈ carried m, t ∈ demoNetCloud.publicKeyRaw :: s.wire.flatMap fun x => carried x.2) :
    Admissible demoNetCloud s (.cloud c (.recv (.message m))) := by
  refine ⟨by simp, fun c' m' hev t ht => ?_⟩
  cases hev
  exact derives_of_seen (h t ht)

/-- The attacker makes the ciphertext itself: it draws the coins. -/
lemma admissible_demoForged (s : State) (c : ℕ) :
    Admissible demoNetCloud s (.cloud c (.recv (.message demoForged))) := by
  refine ⟨by simp, fun c' m hev t ht => ?_⟩
  cases hev
  have hcarried : carried demoForged = [.ct (.pub Demo.cloudKey) (.name ⟨.attacker, 0⟩)] := by
    decide +kernel
  rw [hcarried, List.mem_singleton] at ht
  rw [ht]
  exact .ct (.seen (Or.inl rfl)) (.seen (Or.inr (Or.inl ⟨0, rfl⟩)))

/-- The attempt has opened the first connection, and the attacker the others. -/
def demoOpener : ℕ → Option ℕ
  | 0 => some 0
  | _ => none

/-- An event that delivers no message to the cloud. -/
lemma unreplayed_of_quiet {opener : ℕ → Option ℕ} {s : State} {ev : Event}
    (h : ∀ c m, ev ≠ .cloud c (.recv (.message m))) : Unreplayed opener s ev :=
  ⟨fun c m _ hev => absurd hev (h c m), fun c m _ hev => absurd hev (h c m)⟩

/-- An attempt's own message on the connection that it has opened. -/
lemma unreplayed_of_sent {opener : ℕ → Option ℕ} {s : State} {c n : ℕ} {m : JsonDict}
    (hopener : opener c = some n) (hm : (n, m) ∈ s.wire) :
    Unreplayed opener s (.cloud c (.recv (.message m))) := by
  refine ⟨fun c' m' n' hev _ _ htag => ?_, fun c' m' n' hev hopener' _ => ?_⟩
  · cases hev
    obtain ⟨tag, _, htag, -⟩ := htag
    exact ⟨n, hopener, tag, m, htag, hm, htag⟩
  · cases hev
    rw [hopener] at hopener'
    cases hopener'
    exact hm

/-- A message without a tag on a connection of the attacker. -/
lemma unreplayed_of_foreign {opener : ℕ → Option ℕ} {s : State} {c : ℕ} {m : JsonDict}
    (hopener : opener c = none) (hm : fieldBytes m "auth_tag" = none) :
    Unreplayed opener s (.cloud c (.recv (.message m))) := by
  refine ⟨fun c' m' n' hev _ _ htag => ?_, fun c' m' n' hev hopener' _ => ?_⟩
  · cases hev
    obtain ⟨_, _, htag, -⟩ := htag
    rw [hm] at htag
    cases htag
  · cases hev
    rw [hopener] at hopener'
    cases hopener'

/-- The session that is registered is the one of the gateway. -/
theorem registered_sessions_authentic_demo :
    (run demoStep (initial 100 []) demoAttacked).registered ≠ [] ∧
      (∀ r ∈ (run demoStep (initial 100 []) demoAttacked).registered,
        FromGateway demoGateways demoNetCloud demoDraws
            (run demoStep (initial 100 []) demoAttacked) r ∧
          ¬ Derives (Known demoNetCloud (run demoStep (initial 100 []) demoAttacked))
            r.sessionKey) ∧
      ∀ sid e, (run demoStep (initial 100 []) demoAttacked).cloud.shared.registry sid = some e →
        ∃ r ∈ (run demoStep (initial 100 []) demoAttacked).registered,
          r.gatewayId = e.gatewayId ∧ r.sessionId = sid ∧ r.sessionKey = e.sessionKey := by
  have hunreplayed : Along demoStep (Unreplayed demoOpener) (initial 100 []) demoAttacked :=
    ⟨unreplayed_of_quiet (by simp), unreplayed_of_foreign rfl (by decide +kernel),
      unreplayed_of_quiet (by simp), unreplayed_of_quiet (by simp),
      unreplayed_of_sent rfl List.mem_cons_self, unreplayed_of_quiet (by simp),
      unreplayed_of_quiet (by simp), unreplayed_of_sent rfl List.mem_cons_self,
      unreplayed_of_quiet (by simp), unreplayed_of_quiet (by simp), trivial⟩
  have ha : Along demoStep (Admissible demoNetCloud) (initial 100 []) demoAttacked :=
    ⟨admissible_of_quiet (by simp) (by simp), admissible_demoForged _ _,
      admissible_of_quiet (by simp) (by simp), admissible_of_quiet (by simp) (by simp),
      admissible_cloud (by decide +kernel), admissible_of_quiet (by simp) (by simp),
      admissible_attempt (by decide +kernel), admissible_cloud (by decide +kernel),
      admissible_of_quiet (by simp) (by simp), admissible_attempt (by decide +kernel), trivial⟩
  refine ⟨fun h => ?_, ?_⟩
  · have hlen := congrArg List.length h
    revert hlen
    decide +kernel
  · unfold demoStep at ha hunreplayed ⊢
    exact registered_sessions_authentic provisioned_demo 100 [] ha hunreplayed

/-- The cloud registers a session for the gateway whose key the attacker knows. -/
theorem spliced_session_registered :
    Along demoStep (Admissible demoNetCloud) (initial 100 []) demoSpliced ∧
      ∃ r ∈ (run demoStep (initial 100 []) demoSpliced).registered,
        r.gatewayId = lit "gw-01" ∧
          Derives (Known demoNetCloud (run demoStep (initial 100 []) demoSpliced))
            r.sessionKey := by
  refine ⟨⟨admissible_of_quiet (by simp) (by simp), admissible_of_quiet (by simp) (by simp),
    admissible_cloud (by decide +kernel), admissible_of_quiet (by simp) (by simp),
    admissible_demoForged _ _, trivial⟩, ?_⟩
  have hany : (run demoStep (initial 100 []) demoSpliced).registered.any (fun r =>
        decide (r.gatewayId = lit "gw-01") && decide (r.sessionKey
          = .kdf (.ss (.pub Demo.cloudKey) (.name ⟨.attacker, 0⟩)))) = true := by decide +kernel
  obtain ⟨r, hr, hmatch⟩ := List.any_eq_true.1 hany
  rw [Bool.and_eq_true, decide_eq_true_eq, decide_eq_true_eq] at hmatch
  refine ⟨r, hr, hmatch.1, ?_⟩
  rw [hmatch.2]
  -- its coins are its own, and the public key is public
  exact .kdf (.ss (.seen (Or.inl rfl)) (.seen (Or.inr (Or.inl ⟨0, rfl⟩))))

end Demo

end PqcBridge.Network
