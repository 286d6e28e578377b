/-
Where the readings come from that the cloud stores.

One gateway with any number of threads and sessions, and one cloud process with any number
of connections.  The network between them is in the hands of an attacker, who drops,
reorders and replays what it likes, on any connection.  `Shared` are the session keys that
the gateway and the cloud alone hold.  The AEAD is ideal: what opens under such a key was
encrypted under it by `send_reading` (`Admissible`).

* `Fresh`: the stamps of what is stored, or about to be stored, differ, since the replay
  guard of the cloud is shared by all connections;
* `stored_readings_agree`: every reading that the cloud stores on a session with such a key
  has a call of `send_reading` of its own, on the same session.
-/
import PqcBridge.Cloud.Moves
import PqcBridge.Common.Encoding
import PqcBridge.Device.Device
import PqcBridge.Gateway.Threads
import PqcBridge.Lib.Admission
import PqcBridge.Lib.Correspondence

namespace PqcBridge.SessionOrigin

open Python Protocol Crypto Runs Gateway.Threads Correspondence

variable {B : Type}

/-! ### The system -/

/-- A reading that is stored, with the session on which it came. -/
structure Stored (B : Type) where
  sessionId : PyStr
  sessionKey : B
  reading : JsonDict

/-- The two sides, and what has been stored, the latest reading first. -/
structure State (B : Type) where
  gateway : Gateway.Threads.State B
  cloud : Cloud.ServerState B
  stored : List (Stored B)

/-- What can happen. -/
inductive Event (B : Type) where
  /-- a thread of the gateway moves -/
  | gateway (ev : Gateway.Threads.Event B)
  /-- the handler of cloud connection `c` moves -/
  | cloud (c : ℕ) (ev : Cloud.ConnEvent)

/-- The reading that a handler is about to store. -/
def held : Cloud.Phase B → Option (Stored B)
  | .storing _ sessionId sessionKey reading => some ⟨sessionId, sessionKey, reading⟩
  | _ => none

/-- The reading that a step of a handler stores. -/
def storedBy (p : Cloud.Phase B) : Cloud.ConnEvent → List (Stored B)
  | .store => (held p).toList
  | _ => []

variable {P : Primitives B} (cfg : Gateway.GatewayConfig B) (cloud : Cloud.CloudConfig P)
  (addr : ℕ → Cloud.Addr)

/-- One step of the system. -/
def step (s : State B) : Event B → State B
  | .gateway ev => { s with gateway := Gateway.Threads.step P cfg s.gateway ev }
  | .cloud c ev =>
    { s with
      cloud := Cloud.step cloud addr s.cloud (c, ev)
      stored := storedBy (s.cloud.phase c) ev ++ s.stored }

/-- Before the first session and the first connection. -/
def initial (maxReadings : ℕ) (log : List PyStr) : State B :=
  ⟨Gateway.Threads.initial, Cloud.initial maxReadings log, []⟩

/-- The AEAD is ideal, and the shared keys are used by the gateway and the cloud alone:
what opens under one of them at the cloud was encrypted under it by `send_reading`, with
the session id as associated data. -/
def Admissible (P : Primitives B) (Shared : B → Prop) (s : State B) (ev : Event B) : Prop :=
  ∀ c m gid sid key aad b, ev = .cloud c (.recv (.message m)) →
    s.cloud.phase c = .receiving gid sid key → Shared key →
      decryptSessionPayload P key m aad = .ok b →
        ∃ sid', .encrypted sid' key b ∈ s.gateway.log ∧ aad = P.utf8 sid'

variable (P) in
/-- The reading is the parse of a payload that `send_reading` has encrypted on the same
session. -/
def Origin (x : Stored B) (y : Record B) : Prop :=
  ∃ b, y = .encrypted x.sessionId x.sessionKey b ∧ parseReadingBytes P b = .ok x.reading

/-! ### What a step of the cloud does -/

/-- What tells a stored reading from all others: the dictionary key of its `device_id`, and
its sequence. -/
def stamp (r : JsonDict) : Option (HashKey × ℤ) :=
  match r.item "device_id" >>= Json.hashKey, r.field "sequence" with
  | .ok deviceId, some (.int sequence) => some (deviceId, sequence)
  | _, _ => none

lemma stamp_eq {r : JsonDict} {sequence : ℤ} {deviceId : HashKey}
    (hs : r.field "sequence" = some (.int sequence))
    (hk : (r.item "device_id" >>= Json.hashKey) = .ok deviceId) :
    stamp r = some (deviceId, sequence) := by
  simp only [stamp, hs, hk]

variable {cfg cloud addr} {s : State B} {c : ℕ} {ev : Cloud.ConnEvent}

variable (cfg cloud addr s c ev) in
/-- A handler accepts a reading, or it stores the one that it holds, or nothing is accepted
and nothing is stored. -/
lemma cloud_cases :
    (∃ gid m x deviceId sequence, s.cloud.phase c = .receiving gid x.sessionId x.sessionKey ∧
      ev = .recv (.message m) ∧
      Cloud.decryptProtectedReading P m x.sessionKey x.sessionId = .ok x.reading ∧
      stamp x.reading = some (deviceId, sequence) ∧
      s.cloud.shared.replay.last deviceId < sequence ∧
      held ((step cfg cloud addr s (.cloud c ev)).cloud.phase c) = some x ∧
      (step cfg cloud addr s (.cloud c ev)).stored = s.stored ∧
      (step cfg cloud addr s (.cloud c ev)).cloud.shared.replay
        = ⟨Function.update s.cloud.shared.replay.lastSequence deviceId (some sequence)⟩ ∧
      (step cfg cloud addr s (.cloud c ev)).cloud.shared.store = s.cloud.shared.store) ∨
    (∃ x, held (s.cloud.phase c) = some x ∧
      held ((step cfg cloud addr s (.cloud c ev)).cloud.phase c) = none ∧
      (step cfg cloud addr s (.cloud c ev)).stored = x :: s.stored ∧
      (step cfg cloud addr s (.cloud c ev)).cloud.shared.replay = s.cloud.shared.replay ∧
      (step cfg cloud addr s (.cloud c ev)).cloud.shared.store
        = s.cloud.shared.store.add x.reading) ∨
    ((∀ x, held ((step cfg cloud addr s (.cloud c ev)).cloud.phase c) = some x →
        held (s.cloud.phase c) = some x) ∧
      (step cfg cloud addr s (.cloud c ev)).stored = s.stored ∧
      (step cfg cloud addr s (.cloud c ev)).cloud.shared.replay = s.cloud.shared.replay ∧
      (step cfg cloud addr s (.cloud c ev)).cloud.shared.store = s.cloud.shared.store) := by
  have hphase : (step cfg cloud addr s (.cloud c ev)).cloud.phase c
      = (Cloud.handlerStep cloud c (addr c) s.cloud.shared (s.cloud.phase c) ev).2 :=
    Function.update_self _ _ _
  have hshared : (step cfg cloud addr s (.cloud c ev)).cloud.shared
      = (Cloud.handlerStep cloud c (addr c) s.cloud.shared (s.cloud.phase c) ev).1 := rfl
  rw [hphase, hshared]
  rcases Cloud.handlerStep_reading_cases cloud c (addr c) s.cloud.shared
    (s.cloud.phase c) ev with ⟨gid, sid, key, m, r, n, d, hp, rfl, hd, hs, hk, hlt, hres⟩ |
    ⟨gid, sid, key, r, hp, rfl, hres⟩ | ⟨hother, hreplay, hstore, hheld⟩
  -- the handler has accepted a reading and is about to store it
  · rw [hres]
    exact Or.inl ⟨gid, m, ⟨sid, key, r⟩, d, n, hp, rfl, hd, stamp_eq hs hk, hlt, rfl, rfl, rfl, rfl⟩
  · rw [hres]
    refine Or.inr (Or.inl ⟨⟨sid, key, r⟩, by rw [hp]; rfl, rfl, ?_, rfl, rfl⟩)
    simp only [step, storedBy, hp, held, Option.toList_some, List.singleton_append]
  · refine Or.inr (Or.inr ⟨fun x hx => ?_, ?_, hreplay, hstore⟩)
    · generalize hp' : (Cloud.handlerStep cloud c (addr c) s.cloud.shared (s.cloud.phase c) ev).2
        = p' at hx hheld
      cases p' with
      | storing gid sid key r =>
        rw [hheld gid sid key r rfl]
        exact hx
      | _ => cases hx
    -- no reading is stored without a `store` event
    · have hnone : storedBy (s.cloud.phase c) ev = [] := by
        generalize s.cloud.phase c = p at hother
        cases p with
        | storing gid sid key r =>
          cases ev with
          | store => exact absurd rfl (hother gid sid key r rfl)
          | _ => rfl
        | _ => cases ev <;> rfl
      simp only [step, hnone, List.nil_append]

/-- A handler that does not move holds what it held. -/
lemma held_of_ne {c' : ℕ} (h : c' ≠ c) :
    (step cfg cloud addr s (.cloud c ev)).cloud.phase c' = s.cloud.phase c' :=
  Function.update_of_ne h _ _

/-- What has been stored is the history of the store of the cloud. -/
def IsHistory (s : State B) : Prop :=
  (s.stored.map Stored.reading).reverse = s.cloud.shared.store.history

lemma IsHistory.step (h : IsHistory s) (ev : Event B) : IsHistory (step cfg cloud addr s ev) := by
  cases ev with
  | gateway ev => exact h
  | cloud c ev =>
    unfold IsHistory at h ⊢
    rcases cloud_cases cfg cloud addr s c ev with ⟨_, _, _, _, _, -, -, -, -, -, -, hst, -, hs⟩ |
      ⟨x, -, -, hst, -, hs⟩ | ⟨-, hst, -, hs⟩
    · rw [hst, hs, h]
    · rw [hst, hs, List.map_cons, List.reverse_cons, h]
      rfl
    · rw [hst, hs, h]

/-! ### Stamps -/

/-- The reading is stored, or a handler is about to store it. -/
def Has (s : State B) (x : Stored B) : Prop :=
  x ∈ s.stored ∨ ∃ c, held (s.cloud.phase c) = some x

/-- What is stored or held differs in its stamps, which the replay guard has seen. -/
structure Fresh (s : State B) : Prop where
  seen : ∀ x, Has s x → ∃ deviceId sequence, stamp x.reading = some (deviceId, sequence) ∧
    sequence ≤ s.cloud.shared.replay.last deviceId
  stored : s.stored.Pairwise fun x y => stamp x.reading ≠ stamp y.reading
  apart : ∀ c x, held (s.cloud.phase c) = some x →
    ∀ y ∈ s.stored, stamp x.reading ≠ stamp y.reading
  handlers : ∀ c c' x y, c ≠ c' → held (s.cloud.phase c) = some x →
    held (s.cloud.phase c') = some y → stamp x.reading ≠ stamp y.reading

/-- A stamp that the guard has seen. -/
def Seen (g : ReplayGuard HashKey) (b : Option (HashKey × ℤ)) : Prop :=
  ∃ deviceId sequence, b = some (deviceId, sequence) ∧ sequence ≤ g.last deviceId

lemma fresh_iff : Fresh s ↔ Admission.Distinct (fun x : Stored B => stamp x.reading)
    (Seen s.cloud.shared.replay) (fun c => held (s.cloud.phase c)) s.stored := by
  constructor
  · intro h
    exact ⟨fun c x hx => h.seen x (Or.inr ⟨c, hx⟩), fun x hx => h.seen x (Or.inl hx), h.stored,
      h.apart, h.handlers⟩
  · intro h
    refine ⟨fun x hx => ?_, h.differ, h.apart, h.workers⟩
    rcases hx with hx | ⟨c, hx⟩
    · exact h.done_seen x hx
    · exact h.own_seen c x hx

/-- The guard has not seen the stamp that it is about to accept. -/
lemma not_seen {g : ReplayGuard HashKey} {deviceId : HashKey} {sequence : ℤ}
    (hlt : g.last deviceId < sequence) : ¬ Seen g (some (deviceId, sequence)) := by
  rintro ⟨d, n, heq, hle⟩
  cases heq
  omega

/-- The guard forgets no stamp. -/
lemma Seen.update {g : ReplayGuard HashKey} {deviceId : HashKey} {sequence : ℤ}
    (hlt : g.last deviceId < sequence) {b : Option (HashKey × ℤ)} (h : Seen g b) :
    Seen ⟨Function.update g.lastSequence deviceId (some sequence)⟩ b := by
  obtain ⟨d, n, hb, hle⟩ := h
  exact ⟨d, n, hb, hle.trans (ReplayGuard.le_last_update hlt d)⟩

lemma seen_update (g : ReplayGuard HashKey) (deviceId : HashKey) (sequence : ℤ) :
    Seen ⟨Function.update g.lastSequence deviceId (some sequence)⟩ (some (deviceId, sequence)) := by
  refine ⟨deviceId, sequence, rfl, ?_⟩
  rw [ReplayGuard.last_update, if_pos rfl]

variable (cfg cloud addr) in
/-- The step lemma. -/
lemma Fresh.step (h : Fresh s) (ev : Event B) : Fresh (step cfg cloud addr s ev) := by
  cases ev with
  | gateway ev => exact ⟨h.seen, h.stored, h.apart, h.handlers⟩
  | cloud c ev =>
    -- the handlers that do not move hold what they held
    have hold : ∀ {c'}, c' ≠ c → ∀ {x},
        held ((SessionOrigin.step cfg cloud addr s (.cloud c ev)).cloud.phase c') = some x →
          held (s.cloud.phase c') = some x := by
      intro c' hc x hx
      rwa [held_of_ne hc] at hx
    rw [fresh_iff] at h ⊢
    rcases cloud_cases cfg cloud addr s c ev with
      ⟨gid, m, x, d, n, -, -, -, hstamp, hlt, hx, hst, hreplay, -⟩ |
      ⟨x, hx, hnone, hst, hreplay, -⟩ | ⟨hheld, hst, hreplay, -⟩
    · rw [hst, hreplay]
      refine h.admit (i := c) (x := x) ?_ (fun b hb => hb.update hlt) ?_ fun c' y hy => ?_
      · rw [hstamp]
        exact not_seen hlt
      · rw [hstamp]
        exact seen_update _ d n
      · by_cases hc : c' = c
        · rw [hc, hx, Option.some.injEq] at hy
          exact Or.inl ⟨hc, hy.symm⟩
        · exact Or.inr (hold hc hy)
    · rw [hst, hreplay]
      refine h.put hx fun c' y hy => ?_
      have hc : c' ≠ c := by
        rintro rfl
        rw [hnone] at hy
        cases hy
      exact ⟨hc, hold hc hy⟩
    · rw [hst, hreplay]
      refine h.keep fun c' y hy => ?_
      by_cases hc : c' = c
      · rw [hc] at hy ⊢
        exact hheld y hy
      · exact hold hc hy

/-! ### Where the readings come from -/

variable (P) in
/-- What is stored or held has been encrypted on the same session. -/
structure Ok (Shared : B → Prop) (s : State B) : Prop where
  valid : ∀ sid key b, .encrypted sid key b ∈ s.gateway.log → validUnicode sid = true
  origin : ∀ x, Has s x → Shared x.sessionKey → ∃ y ∈ s.gateway.log, Origin P x y

variable {Shared : B → Prop}

/-- A reading that is accepted has been encrypted on the same session. -/
lemma Ok.accepts (hP : Utf8Injective P) (h : Ok P Shared s) {gid : PyStr} {m : JsonDict}
    {x : Stored B} (ha : Admissible P Shared s (.cloud c (.recv (.message m))))
    (hp : s.cloud.phase c = .receiving gid x.sessionId x.sessionKey) (hx : Shared x.sessionKey)
    (hd : Cloud.decryptProtectedReading P m x.sessionKey x.sessionId = .ok x.reading) :
    ∃ y ∈ s.gateway.log, Origin P x y := by
  obtain ⟨aad, b, haad, hopen, hparse⟩ := Cloud.decryptProtectedReading_eq_ok hd
  obtain ⟨hvalid, rfl⟩ := encodeUtf8_eq_ok haad
  obtain ⟨sid, hmem, hsid⟩ := ha c m gid x.sessionId x.sessionKey _ b rfl hp hx hopen
  have heq : x.sessionId = sid := hP _ _ hvalid (h.valid sid x.sessionKey b hmem) hsid
  rw [← heq] at hmem
  exact ⟨_, hmem, b, rfl, hparse⟩

/-- What is stored or held after a step of a handler was stored or held before it, or the
handler has just accepted it. -/
lemma has_cases {x : Stored B} (hx : Has (step cfg cloud addr s (.cloud c ev)) x) :
    Has s x ∨ ∃ gid m, s.cloud.phase c = .receiving gid x.sessionId x.sessionKey ∧
      ev = .recv (.message m) ∧
      Cloud.decryptProtectedReading P m x.sessionKey x.sessionId = .ok x.reading := by
  have hold : ∀ {c'}, c' ≠ c →
      held ((step cfg cloud addr s (.cloud c ev)).cloud.phase c') = some x → Has s x := by
    intro c' hc hx
    rw [held_of_ne hc] at hx
    exact Or.inr ⟨c', hx⟩
  rcases cloud_cases cfg cloud addr s c ev with
    ⟨gid, m, y, d, n, hp, rfl, hd, -, -, hy, hst, -, -⟩ | ⟨y, hy, hnone, hst, -, -⟩ |
    ⟨hheld, hst, -, -⟩
  · rcases hx with hx | ⟨c', hx⟩
    · rw [hst] at hx
      exact Or.inl (Or.inl hx)
    · by_cases hc : c' = c
      · rw [hc, hy, Option.some.injEq] at hx
        subst hx
        exact Or.inr ⟨gid, m, hp, rfl, hd⟩
      · exact Or.inl (hold hc hx)
  · refine Or.inl ?_
    rcases hx with hx | ⟨c', hx⟩
    · rw [hst] at hx
      rcases List.mem_cons.1 hx with rfl | hx
      · exact Or.inr ⟨c, hy⟩
      · exact Or.inl hx
    · by_cases hc : c' = c
      · rw [hc, hnone] at hx
        cases hx
      · exact hold hc hx
  · refine Or.inl ?_
    rcases hx with hx | ⟨c', hx⟩
    · rw [hst] at hx
      exact Or.inl hx
    · by_cases hc : c' = c
      · rw [hc] at hx
        exact Or.inr ⟨c, hheld x hx⟩
      · exact hold hc hx

/-- The step lemma. -/
lemma Ok.step (hP : Utf8Injective P) (h : Ok P Shared s) {ev : Event B}
    (ha : Admissible P Shared s ev) : Ok P Shared (step cfg cloud addr s ev) := by
  cases ev with
  | gateway ev =>
    obtain ⟨l, hl, hlog⟩ := step_log P cfg s.gateway ev
    have hlog' : (SessionOrigin.step cfg cloud addr s (.gateway ev)).gateway.log
        = l ++ s.gateway.log := hlog
    refine ⟨fun sid key b hmem => ?_, fun x hx hshared => ?_⟩
    · rw [hlog'] at hmem
      rcases List.mem_append.1 hmem with hmem | hmem
      · obtain ⟨nonce, payload, hbuild⟩ := hl.encrypted_mem hmem
        obtain ⟨aad, haad, -⟩ := bind_eq_ok.1 hbuild
        exact (encodeUtf8_eq_ok haad).1
      · exact h.valid sid key b hmem
    · obtain ⟨y, hy, horigin⟩ := h.origin x hx hshared
      rw [hlog']
      exact ⟨y, List.mem_append_right l hy, horigin⟩
  | cloud c ev =>
    refine ⟨h.valid, fun x hx hshared => ?_⟩
    rcases has_cases hx with hx | ⟨gid, m, hp, rfl, hd⟩
    · exact h.origin x hx hshared
    · exact h.accepts hP ha hp hshared hd

/-! ### Agreement -/

lemma fresh_initial (maxReadings : ℕ) (log : List PyStr) :
    Fresh (initial maxReadings log : State B) := by
  have hnone : ∀ c x, held ((initial maxReadings log : State B).cloud.phase c) ≠ some x := by
    intro c x hx
    cases hx
  refine ⟨fun x hx => ?_, List.Pairwise.nil, fun c x hx => absurd hx (hnone c x),
    fun c _ x _ _ hx => absurd hx (hnone c x)⟩
  rcases hx with hx | ⟨c, hx⟩
  · cases hx
  · exact absurd hx (hnone c x)

lemma ok_initial (maxReadings : ℕ) (log : List PyStr) :
    Ok P Shared (initial maxReadings log : State B) := by
  refine ⟨by simp [initial, Gateway.Threads.initial], fun x hx => ?_⟩
  rcases hx with hx | ⟨c, hx⟩
  · cases hx
  · cases hx

variable (cfg cloud addr)

/-- What has been stored, in the order of the store. -/
theorem stored_eq_history (maxReadings : ℕ) (log : List PyStr) (τ : List (Event B)) :
    ((run (step cfg cloud addr) (initial maxReadings log) τ).stored.map Stored.reading).reverse
      = (run (step cfg cloud addr) (initial maxReadings log) τ).cloud.shared.store.history :=
  inv_run (J := IsHistory) (P := fun _ _ => True) (fun _ ev h _ => h.step ev) rfl
    (along_of_forall fun _ _ _ => trivial)

/-- **Injective agreement from gateway to cloud.**  The readings that the cloud stores on
sessions with a shared key have a call of `send_reading` each, on the same session. -/
theorem stored_readings_agree (hP : Utf8Injective P) (Shared : B → Prop) [DecidablePred Shared]
    (maxReadings : ℕ) (log : List PyStr) {τ : List (Event B)}
    (ha : Along (step cfg cloud addr) (Admissible P Shared) (initial maxReadings log) τ) :
    Corresponds (Origin P)
      ((run (step cfg cloud addr) (initial maxReadings log) τ).stored.filter
        (Shared ·.sessionKey))
      (run (step cfg cloud addr) (initial maxReadings log) τ).gateway.log := by
  have hboth := inv_run (J := fun s => Fresh s ∧ Ok P Shared s)
    (fun _ ev h hev => ⟨h.1.step cfg cloud addr ev,
      h.2.step hP hev⟩)
    ⟨fresh_initial maxReadings log, ok_initial maxReadings log⟩ ha
  generalize run (step cfg cloud addr) (initial maxReadings log) τ = s at hboth ⊢
  obtain ⟨hfresh, hok⟩ := hboth
  have hmem : ∀ {x}, x ∈ s.stored.filter (Shared ·.sessionKey) →
      x ∈ s.stored ∧ Shared x.sessionKey := by
    intro x hx
    simpa using List.mem_filter.1 hx
  refine corresponds_of_nodup ?_ (fun x hx => ?_) fun x _ x' _ y _ hy hy' => ?_
  · -- the stamps differ
    refine (hfresh.stored.filter _).imp fun hxy heq => hxy ?_
    rw [heq]
  · obtain ⟨hx, hshared⟩ := hmem hx
    exact hok.origin x (Or.inl hx) hshared
  · -- an encryption is on one session, and has one parse
    obtain ⟨sid, key, r⟩ := x
    obtain ⟨sid', key', r'⟩ := x'
    obtain ⟨b, rfl, hparse⟩ := hy
    obtain ⟨b', heq, hparse'⟩ := hy'
    cases heq
    rw [hparse] at hparse'
    cases hparse'
    rfl

/-! ### The demo -/

section Demo

open Device Handshake

/-- A call of `send_reading`. -/
def demoCall : List (Gateway.Threads.Event Bytes) :=
  [.call 0 (.data (.record 1)), .readKey 0, .build 0 (Demo.nonce 1), .send 0 .ok]

/-- The gateway makes a session and sends one reading on it. -/
def demoSend : List (Event Bytes) :=
  (demoSession 0 demoSessionId 0 ++ demoCall).map .gateway

/-- What arrives on connection `c`: the handshake of that session, and the reading. -/
def demoMessages (c : ℕ) : List (ℕ × Cloud.ConnEvent) :=
  handshakeEvents c demoRequest (demoEncaps 0 demoSessionId)
    ++ [(c, .recv (.message (demoReading 0 1 demoSessionId))), (c, .store)]

/-- It arrives. -/
def demoArrive (c : ℕ) : List (Event Bytes) :=
  (demoMessages c).map fun e => .cloud e.1 e.2

/-- A step of the demo. -/
def demoStep : State Bytes → Event Bytes → State Bytes :=
  step Gateway.demoGateway (demoCloud demoTable) demoAddr

/-- The session key of the demo is shared. -/
def DemoShared (key : Bytes) : Prop := key = demoKey 0

instance : DecidablePred DemoShared := fun key => inferInstanceAs (Decidable (key = demoKey 0))

/-- The reading of the demo, as it was encrypted. -/
def isDemoReading : Record Bytes → Bool
  | .encrypted sid key b => sid = demoSessionId && key = demoKey 0 && b = .data (.record 1)
  | _ => false

/-- What arrives in the demo is admissible once the reading has been encrypted. -/
lemma admissible_demoArrive {s : State Bytes} (hlog : s.gateway.log.any isDemoReading = true)
    (c : ℕ) : Along demoStep (Admissible (ideal demoTable) DemoShared) s (demoArrive c) := by
  have hmem : .encrypted demoSessionId (demoKey 0) (.data (.record 1)) ∈ s.gateway.log := by
    obtain ⟨y, hy, hread⟩ := List.any_eq_true.1 hlog
    cases y with
    | encrypted sid key b =>
      simp only [isDemoReading, Bool.and_eq_true, decide_eq_true_eq] at hread
      obtain ⟨⟨rfl, rfl⟩, rfl⟩ := hread
      exact hy
    | _ => cases hread
  have hlater : Along demoStep (fun t _ => t.gateway.log = s.gateway.log) s (demoArrive c) := by
    refine (along_of_forall (P := fun _ ev => ∃ c' ev', ev = .cloud c' ev') ?_).of_inv
      (J := fun t => t.gateway.log = s.gateway.log) rfl ?_ fun _ _ h _ => h
    · intro _ ev hev
      obtain ⟨e, -, rfl⟩ := List.mem_map.1 hev
      exact ⟨e.1, e.2, rfl⟩
    · rintro t ev h ⟨c', ev', rfl⟩
      exact h
  refine (along_and.2 ⟨hlater, along_of_forall (P := fun _ ev => ev ∈ demoArrive c)
    fun _ _ hev => hev⟩).mono ?_
  rintro t ev ⟨ht, hev⟩ c' m gid sid key aad b rfl _ _ hopen
  have hm : m = demoRequest ∨ m = demoEncaps 0 demoSessionId ∨
      m = demoReading 0 1 demoSessionId := by
    simp only [demoArrive, demoMessages, handshakeEvents, registrationEvents, List.cons_append,
      List.nil_append, List.map_cons, List.map_nil, List.mem_cons, List.not_mem_nil, or_false,
      Event.cloud.injEq, Cloud.ConnEvent.recv.injEq, ReadOutcome.message.injEq, reduceCtorEq,
      and_false, false_or] at hev
    tauto
  rw [ht]
  rcases hm with rfl | rfl | rfl
  · obtain ⟨⟨n, hn⟩, -⟩ := aeadDecrypt_ideal hopen
    cases hn
  · obtain ⟨⟨n, hn⟩, -⟩ := aeadDecrypt_ideal hopen
    cases hn
  · obtain ⟨rfl, rfl, rfl⟩ := opens_of_ciphertext (m := demoReading 0 1 demoSessionId) rfl hopen
    exact ⟨_, hmem, rfl⟩

/-- The handshake and the reading of one session, and both replayed on another
connection: the reading is stored once. -/
theorem stored_readings_agree_demo :
    (run demoStep (initial 100 []) (demoSend ++ demoArrive 0 ++ demoArrive 1)).stored.length = 1 ∧
      Corresponds (Origin (ideal demoTable))
        ((run demoStep (initial 100 []) (demoSend ++ demoArrive 0 ++ demoArrive 1)).stored.filter
          (DemoShared ·.sessionKey))
        (run demoStep (initial 100 []) (demoSend ++ demoArrive 0 ++ demoArrive 1)).gateway.log := by
  have hsend : Along demoStep (Admissible (ideal demoTable) DemoShared) (initial 100 [])
      demoSend := by
    refine along_of_forall fun _ ev hev c m _ _ _ _ _ h => ?_
    obtain ⟨e, -, rfl⟩ := List.mem_map.1 hev
    cases h
  have ha : Along demoStep (Admissible (ideal demoTable) DemoShared) (initial 100 [])
      (demoSend ++ demoArrive 0 ++ demoArrive 1) :=
    along_append.2 ⟨along_append.2 ⟨hsend, admissible_demoArrive (by decide +kernel) 0⟩,
      admissible_demoArrive (by decide +kernel) 1⟩
  refine ⟨by decide +kernel, ?_⟩
  unfold demoStep at ha ⊢
  exact stored_readings_agree Gateway.demoGateway (demoCloud demoTable) demoAddr
    (utf8Injective_ideal demoTable) DemoShared 100 [] ha

end Demo

end PqcBridge.SessionOrigin
