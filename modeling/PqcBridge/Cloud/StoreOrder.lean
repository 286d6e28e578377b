/-
The order in which the store of the cloud keeps the readings of a device.

The replay guard and the store have a lock each, and between the replay check of a handler
and its `store.add` the other handlers move on.

* `NotOvertaking`: a handler that stores a reading overtakes no other handler that still
  holds an older reading of the device;
* `store_keeps_order`: in the runs in which no handler overtakes, the sequences of every
  device increase from the oldest reading in the store to the newest.
-/
import PqcBridge.Handshake.Honest
import PqcBridge.Lib.Admission

namespace PqcBridge.Cloud.StoreOrder

open Python Runs Admission

variable {B : Type}

/-! ### What the store holds -/

/-- The device and the sequence of a reading, as the replay guard sees them. -/
def itemOf (reading : JsonDict) : Option (Item HashKey) :=
  match reading.item "device_id" >>= Json.hashKey, reading.field "sequence" with
  | .ok deviceId, some (.int sequence) => some ⟨deviceId, sequence⟩
  | _, _ => none

/-- Every reading has a device and a sequence, and of two readings of one device the older
one has the lower sequence. -/
structure InSequence (readings : List JsonDict) : Prop where
  numbered : ∀ r ∈ readings, ∃ x, itemOf r = some x
  increasing : readings.Pairwise fun r r' => ∀ x, itemOf r = some x → ∀ y, itemOf r' = some y →
    x.key = y.key → x.number < y.number

/-- What a handler is about to store. -/
def holds : Phase B → Option (Item HashKey)
  | .storing _ _ _ reading => itemOf reading
  | _ => none

/-- A handler that stores a reading overtakes no other handler that holds an older reading
of the same device. -/
def NotOvertaking (s : ServerState B) (ev : ℕ × ConnEvent) : Prop :=
  ev.2 = .store → Admission.NotOvertaking (fun c => holds (s.phase c)) ev.1

lemma itemOf_eq {r : JsonDict} {deviceId : HashKey} {sequence : ℤ}
    (hs : r.field "sequence" = some (.int sequence))
    (hk : (r.item "device_id" >>= Json.hashKey) = .ok deviceId) :
    itemOf r = some ⟨deviceId, sequence⟩ := by
  simp only [itemOf, hs, hk]

/-! ### The invariant -/

variable {P : Primitives B} {cfg : CloudConfig P} {addr : ℕ → Addr} {s : ServerState B} {c : ℕ}
  {ev : ConnEvent}

/-- What is stored or about to be stored is numbered, and in order. -/
structure Ok (s : ServerState B) : Prop where
  stored : ∀ r ∈ s.shared.store.history, ∃ x, itemOf r = some x
  storing : ∀ c gid sid key r, s.phase c = .storing gid sid key r → ∃ x, itemOf r = some x
  order : InOrder s.shared.replay.last (fun c => holds (s.phase c))
    (s.shared.store.history.filterMap itemOf).reverse

lemma step_phase_self : (step cfg addr s (c, ev)).phase c
    = (handlerStep cfg c (addr c) s.shared (s.phase c) ev).2 :=
  Function.update_self _ _ _

lemma step_phase_of_ne {c' : ℕ} (h : c' ≠ c) : (step cfg addr s (c, ev)).phase c' = s.phase c' :=
  Function.update_of_ne h _ _

lemma step_shared : (step cfg addr s (c, ev)).shared
    = (handlerStep cfg c (addr c) s.shared (s.phase c) ev).1 := rfl

/-- What a handler is about to store is numbered, as the replay check has looked at it. -/
lemma Ok.storing_step (h : Ok s) {c' : ℕ} {gid sid : PyStr} {key : B} {r : JsonDict}
    (hp : (step cfg addr s (c, ev)).phase c' = .storing gid sid key r) :
    ∃ x, itemOf r = some x := by
  by_cases hc : c' = c
  · subst hc
    rw [step_phase_self] at hp
    rcases (handlerStep_moves cfg c' (addr c') s.shared (s.phase c') ev).storing_cases hp with
      hp | ⟨-, _, _, _, -, -, hs, hk⟩
    · exact h.storing c' gid sid key r hp
    · exact ⟨_, itemOf_eq hs hk⟩
  · rw [step_phase_of_ne hc] at hp
    exact h.storing c' gid sid key r hp

/-- The step lemma. -/
lemma Ok.step (h : Ok s) {ev : ℕ × ConnEvent} (hn : NotOvertaking s ev) :
    Ok (step cfg addr s ev) := by
  obtain ⟨c, ev⟩ := ev
  rcases handlerStep_reading_cases cfg c (addr c) s.shared (s.phase c) ev with
    ⟨gid, sid, key, m, r, n, d, hp, rfl, -, hs, hk, hlt, hres⟩ | ⟨gid, sid, key, r, hp, rfl, hres⟩ |
    ⟨-, hreplay, hstore, hheld⟩
  · -- a reading is accepted
    refine ⟨by rw [step_shared, hres]; exact h.stored, fun _ _ _ _ _ => h.storing_step, ?_⟩
    rw [step_shared, hres]
    refine h.order.admit (x := ⟨d, n⟩) hlt (ReplayGuard.le_last_update hlt) ?_ fun c' y hy => ?_
    · rw [ReplayGuard.last_update, if_pos rfl]
    · by_cases hc : c' = c
      · rw [hc, step_phase_self, hres, holds, itemOf_eq hs hk] at hy
        exact Or.inl (Option.some.inj hy).symm
      · rw [step_phase_of_ne hc] at hy
        exact Or.inr hy
  · -- a reading is stored
    obtain ⟨x, hx⟩ := h.storing c gid sid key r hp
    have hhistory : (Cloud.step cfg addr s (c, .store)).shared.store.history
        = s.shared.store.history ++ [r] := by
      rw [step_shared, hres]
      rfl
    have hout : ((s.shared.store.history ++ [r]).filterMap itemOf).reverse
        = x :: (s.shared.store.history.filterMap itemOf).reverse := by
      simp [hx]
    refine ⟨fun r' hr' => ?_, fun _ _ _ _ _ => h.storing_step, ?_⟩
    · rw [hhistory] at hr'
      rcases List.mem_append.1 hr' with hr' | hr'
      · exact h.stored r' hr'
      · rw [List.mem_singleton.1 hr']
        exact ⟨x, hx⟩
    · rw [hhistory, hout, step_shared, hres]
      refine h.order.put (i := c) (by rw [hp]; exact hx) (hn rfl) fun c' y hy => ?_
      have hc : c' ≠ c := by
        rintro rfl
        rw [step_phase_self, hres] at hy
        cases hy
      rw [step_phase_of_ne hc] at hy
      exact ⟨hc, hy⟩
  · -- nothing is accepted and nothing is stored
    refine ⟨by rw [step_shared, hstore]; exact h.stored, fun _ _ _ _ _ => h.storing_step, ?_⟩
    rw [step_shared, hstore, hreplay]
    refine h.order.keep fun c' y hy => ?_
    by_cases hc : c' = c
    · subst hc
      rw [step_phase_self] at hy
      generalize (handlerStep cfg c' (addr c') s.shared (s.phase c') ev).2 = p at hheld hy
      cases p with
      | storing gid sid key r =>
        rw [hheld gid sid key r rfl]
        exact hy
      | _ => cases hy
    · rwa [step_phase_of_ne hc] at hy

lemma ok_initial (maxReadings : ℕ) (log : List PyStr) :
    Ok (initial maxReadings log : ServerState B) :=
  ⟨by simp [initial], by simp [initial], InOrder.start fun _ => rfl⟩

variable (cfg addr) in
/-- **The store keeps the order of every device**, in every run in which no handler overtakes
another one of its device. -/
theorem store_keeps_order (maxReadings : ℕ) (log : List PyStr) {τ : List (ℕ × ConnEvent)}
    (hn : Along (step cfg addr) NotOvertaking (initial maxReadings log) τ) :
    InSequence (run (step cfg addr) (initial maxReadings log) τ).shared.store.readings := by
  have hok : Ok (run (step cfg addr) (initial maxReadings log) τ) :=
    inv_run (J := Ok) (fun _ _ h hev => h.step hev) (ok_initial maxReadings log) hn
  generalize (run (step cfg addr) (initial maxReadings log) τ) = s at hok ⊢
  -- the deque holds the end of the history
  rw [s.shared.store.held]
  refine ⟨fun r hr => hok.stored r (List.mem_of_mem_drop hr), ?_⟩
  refine List.Pairwise.sublist (List.drop_sublist _ _) ?_
  have hincreasing := List.pairwise_filterMap.1 (List.pairwise_reverse.1 hok.order.increasing)
  exact hincreasing.imp fun hxy x hx y hy hkey => hxy x hx y hy hkey.symm

/-- The readings of the store, as items. -/
lemma InSequence.items {readings : List JsonDict} (h : InSequence readings) :
    (readings.filterMap itemOf).Pairwise fun x y => x.key = y.key → x.number < y.number :=
  List.pairwise_filterMap.2 h.increasing

/-! ### The demo -/

section Demo

open Handshake

/-- The `n`-th record is the `n`-th reading of the first device. -/
def storeTable (n : ℕ) : Option Json := some (demoRecord (.str (lit "dev-01")) n)

/-- A step of the demo. -/
def demoStep : ServerState Bytes → ℕ × ConnEvent → ServerState Bytes :=
  step (demoCloud storeTable) demoAddr

/-- Two sessions, on each of which a reading of the first device is accepted. -/
def demoAccepted : List (ℕ × ConnEvent) :=
  handshakeEvents 0 demoRequest (demoEncaps 0 demoSessionId)
    ++ handshakeEvents 1 demoRequest (demoEncaps 1 demoSessionId)
    ++ [(0, .recv (.message (demoReading 0 1 demoSessionId))),
      (1, .recv (.message (demoReading 1 2 demoSessionId)))]

/-- No other connection is open. -/
lemma phase_demo {τ : List (ℕ × ConnEvent)} (hτ : ∀ ev ∈ τ, ev.1 ≤ 1) {c : ℕ} (hc : 1 < c) :
    (run demoStep (initial 1000 []) τ).phase c = .new := by
  refine inv_run (J := fun s : ServerState Bytes => s.phase c = .new) (fun s ev h hev => ?_) rfl
    (along_of_forall (P := fun _ (ev : ℕ × ConnEvent) => ev.1 ≤ 1) fun _ ev hev => hτ ev hev)
  exact (step_phase_of_ne (Nat.ne_of_gt (lt_of_le_of_lt hev hc))).trans h

/-- Where the other connection holds a later reading, or none. -/
lemma notOvertaking_demo {τ : List (ℕ × ConnEvent)} (hτ : ∀ ev ∈ τ, ev.1 ≤ 1) {c : ℕ}
    (hlt : ∀ x ∈ holds ((run demoStep (initial 1000 []) τ).phase c),
      ∀ y ∈ holds ((run demoStep (initial 1000 []) τ).phase (1 - c)), x.number < y.number) :
    NotOvertaking (run demoStep (initial 1000 []) τ) (c, .store) := by
  intro _ x hx c' y hc' hy _
  replace hx : holds ((run demoStep (initial 1000 []) τ).phase c) = some x := hx
  replace hy : holds ((run demoStep (initial 1000 []) τ).phase c') = some y := hy
  have hle : ∀ {k z}, holds ((run demoStep (initial 1000 []) τ).phase k) = some z → k ≤ 1 := by
    intro k z hz
    by_contra hk
    rw [phase_demo hτ (Nat.lt_of_not_le hk)] at hz
    cases hz
  obtain rfl : c' = 1 - c := by
    have hcle := hle hx
    have hcle' := hle hy
    replace hc' : c' ≠ c := hc'
    omega
  exact hlt x hx y hy

/-- The two handlers store in the order in which they have accepted. -/
theorem store_keeps_order_demo :
    InSequence (run demoStep (initial 1000 [])
      (demoAccepted ++ [(0, .store), (1, .store)])).shared.store.readings := by
  have hn : Along demoStep NotOvertaking (initial 1000 [])
      (demoAccepted ++ [(0, .store), (1, .store)]) := by
    refine along_append.2 ⟨along_of_forall fun _ ev hev hstore => ?_, ?_, ?_, trivial⟩
    · obtain ⟨c, ev⟩ := ev
      obtain rfl : ev = .store := hstore
      simp [demoAccepted, handshakeEvents, registrationEvents] at hev
    · exact notOvertaking_demo (by decide +kernel) (by decide +kernel)
    · have hsecond : NotOvertaking (run demoStep (initial 1000 [])
          (demoAccepted ++ [(0, .store)])) (1, .store) :=
        notOvertaking_demo (by decide +kernel) (by decide +kernel)
      rwa [run_append] at hsecond
  unfold demoStep at hn ⊢
  exact store_keeps_order (demoCloud storeTable) demoAddr 1000 [] hn

/-- The handler that has accepted the second reading stores first. -/
theorem store_reordered :
    ¬ InSequence (run demoStep (initial 1000 [])
      (demoAccepted ++ [(1, .store), (0, .store)])).shared.store.readings :=
  fun h => absurd h.items (by decide +kernel)

end Demo

end PqcBridge.Cloud.StoreOrder
