/-
The readings that the cloud shows (`/readings` in `cloud/cloud.py`).

A reading passes the parser, the check of its sequence and the replay guard before it is stored.
Whatever the peers send, and in whatever order the handlers run, nothing incomplete is stored and
nothing is stored twice.

* `Complete`: what a stored reading has;
* `ReadingsOk`: what is stored or about to be stored is complete and distinct;
* `readings_shown`: what the endpoint shows.
-/
import PqcBridge.Cloud.Health
import PqcBridge.Cloud.StoreOrder

namespace PqcBridge.Cloud

open Python Protocol Runs Admission StoreOrder

variable {B : Type} {P : Primitives B} {cfg : CloudConfig P} {addr : ℕ → Addr} {s : ServerState B}
  {c : ℕ} {ev : ConnEvent}

/-! ### Complete readings -/

/-- The four fields are there, the device can be looked up, and the sequence is a positive
integer. -/
structure Complete (r : JsonDict) : Prop where
  fields : ∀ f ∈ requiredReadingFields, (JsonDict.field r f).isSome = true
  item : ∃ deviceId sequence, (r.item "device_id" >>= Json.hashKey) = .ok deviceId ∧
    r.field "sequence" = some (.int sequence) ∧ 0 < sequence

lemma fields_of_parse {b : B} {r : JsonDict} (h : parseReadingBytes P b = .ok r) :
    ∀ f ∈ requiredReadingFields, (JsonDict.field r f).isSome = true := by
  unfold parseReadingBytes at h
  split at h
  · cases h
  · cases h
  · split_ifs at h with hall
    · cases h
      exact List.all_eq_true.1 hall
    · cases h
  · cases h

/-! ### The invariant -/

/-- The reading that a handler is about to store. -/
def pending : Phase B → Option JsonDict
  | .storing _ _ _ reading => some reading
  | _ => none

/-- The replay guard has seen the device with this sequence or a later one. -/
def SeenBy (replay : ReplayGuard HashKey) (stamp : Option (Item HashKey)) : Prop :=
  ∀ x, stamp = some x → x.number ≤ replay.last x.key

/-- What is stored or about to be stored is complete, and no two readings have one device and
one sequence. -/
structure ReadingsOk (s : ServerState B) : Prop where
  guard : ∀ d, 0 ≤ s.shared.replay.last d
  stored : ∀ r ∈ s.shared.store.history, Complete r
  storing : ∀ c r, pending (s.phase c) = some r → Complete r
  distinct : Distinct itemOf (SeenBy s.shared.replay) (fun c => pending (s.phase c))
    s.shared.store.history.reverse

lemma pending_of_ne {c' : ℕ} (h : c' ≠ c) :
    pending ((step cfg addr s (c, ev)).phase c') = pending (s.phase c') := by
  rw [step_phase_of_ne h]

/-- The step lemma. -/
lemma ReadingsOk.step (h : ReadingsOk s) (ev : ℕ × ConnEvent) :
    ReadingsOk (step cfg addr s ev) := by
  obtain ⟨c, ev⟩ := ev
  rcases handlerStep_reading_cases cfg c (addr c) s.shared (s.phase c) ev with
    ⟨gid, sid, key, m, r, n, d, hp, rfl, hd, hs, hk, hlt, hres⟩ |
    ⟨gid, sid, key, r, hp, rfl, hres⟩ | ⟨-, hreplay, hstore, hheld⟩
  · -- a reading is accepted
    have hphase : (Cloud.step cfg addr s (c, .recv (.message m))).phase c
        = .storing gid sid key r := by
      rw [step_phase_self, hres]
    have hcomplete : Complete r := by
      obtain ⟨_, b, -, -, hparse⟩ := decryptProtectedReading_eq_ok hd
      exact ⟨fields_of_parse hparse, d, n, hk, hs, (h.guard d).trans_lt hlt⟩
    have hlater := ReplayGuard.le_last_update (g := s.shared.replay) hlt
    refine ⟨fun e => ?_, ?_, fun c' r' hr' => ?_, ?_⟩
    · rw [step_shared, hres]
      exact (h.guard e).trans (hlater e)
    · rw [step_shared, hres]
      exact h.stored
    · by_cases hc : c' = c
      · rw [hc, hphase] at hr'
        cases hr'
        exact hcomplete
      · rw [pending_of_ne hc] at hr'
        exact h.storing c' r' hr'
    · rw [step_shared, hres]
      have hitem := itemOf_eq hs hk
      refine h.distinct.admit (i := c) (x := r) ?_ ?_ ?_ fun c' r' hr' => ?_
      · intro hseen
        exact absurd (hseen _ hitem) (not_le.2 hlt)
      · intro stamp hstamp x hx
        exact (hstamp x hx).trans (hlater x.key)
      · intro x hx
        rw [hitem] at hx
        cases hx
        rw [ReplayGuard.last_update, if_pos rfl]
      · by_cases hc : c' = c
        · rw [hc, hphase] at hr'
          cases hr'
          exact Or.inl ⟨hc, rfl⟩
        · rw [pending_of_ne hc] at hr'
          exact Or.inr hr'
  · -- a reading is stored
    have hphase : pending ((Cloud.step cfg addr s (c, .store)).phase c) = none := by
      rw [step_phase_self, hres]
      rfl
    have hpending : pending (s.phase c) = some r := by
      rw [hp]
      rfl
    have hhistory : (Cloud.step cfg addr s (c, .store)).shared.store.history
        = s.shared.store.history ++ [r] := by
      rw [step_shared, hres]
      rfl
    have hothers : ∀ c' r', pending ((Cloud.step cfg addr s (c, .store)).phase c') = some r' →
        c' ≠ c ∧ pending (s.phase c') = some r' := by
      intro c' r' hr'
      have hc : c' ≠ c := by
        rintro rfl
        rw [hphase] at hr'
        cases hr'
      rw [pending_of_ne hc] at hr'
      exact ⟨hc, hr'⟩
    refine ⟨by rw [step_shared, hres]; exact h.guard, fun r' hr' => ?_,
      fun c' r' hr' => h.storing c' r' (hothers c' r' hr').2, ?_⟩
    · rw [hhistory] at hr'
      rcases List.mem_append.1 hr' with hr' | hr'
      · exact h.stored r' hr'
      · rw [List.mem_singleton.1 hr']
        exact h.storing c r hpending
    · rw [hhistory, List.reverse_append, step_shared, hres]
      exact h.distinct.put hpending hothers
  · -- nothing is accepted and nothing is stored
    have hothers : ∀ c' r', pending ((Cloud.step cfg addr s (c, ev)).phase c') = some r' →
        pending (s.phase c') = some r' := by
      intro c' r' hr'
      by_cases hc : c' = c
      · subst hc
        rw [step_phase_self] at hr'
        generalize (handlerStep cfg c' (addr c') s.shared (s.phase c') ev).2 = p at hheld hr'
        cases p with
        | storing gid sid key r =>
          rw [hheld gid sid key r rfl]
          exact hr'
        | _ => cases hr'
      · rwa [pending_of_ne hc] at hr'
    refine ⟨by rw [step_shared, hreplay]; exact h.guard,
      by rw [step_shared, hstore]; exact h.stored,
      fun c' r' hr' => h.storing c' r' (hothers c' r' hr'), ?_⟩
    rw [step_shared, hstore, hreplay]
    exact h.distinct.keep hothers

variable (cfg addr) in
/-- The run lemma. -/
lemma readingsOk_run (maxReadings : ℕ) (log : List PyStr) (τ : List (ℕ × ConnEvent)) :
    ReadingsOk (run (step cfg addr) (initial maxReadings log) τ) := by
  refine inv_run (J := ReadingsOk) (P := fun _ _ => True) (fun _ ev h _ => h.step ev) ?_
    (along_of_forall fun _ _ _ => trivial)
  exact ⟨fun _ => le_rfl, by simp [initial], by simp [initial, pending],
    ⟨nofun, by simp [initial], by simp [initial], nofun, nofun⟩⟩

/-! ### The endpoint -/

/-- What `/readings` shows of the readings that were ever stored. -/
structure Shown (maxReadings : ℕ) (history : List JsonDict) (shown : List JsonDict) : Prop where
  newest : shown = history.drop (history.length - min 10 maxReadings)
  complete : ∀ r ∈ shown, Complete r
  /-- no two of them have one device and one sequence -/
  distinct : shown.Pairwise fun r r' => itemOf r ≠ itemOf r'

variable (cfg addr) in
/-- **`/readings` shows the newest readings, each complete and none of them twice**, whatever the
peers of the cloud send; and in the whole life of the server nothing is stored twice. -/
theorem readings_shown (maxReadings : ℕ) (log : List PyStr) (τ : List (ℕ × ConnEvent)) :
    (run (step cfg addr) (initial maxReadings log) τ).shared.store.history.Pairwise
        (fun r r' => itemOf r ≠ itemOf r') ∧
      ∃ shown, readingsRoute (run (step cfg addr) (initial maxReadings log) τ)
          = .arr (shown.map .obj) ∧
        Shown maxReadings (run (step cfg addr) (initial maxReadings log) τ).shared.store.history
          shown := by
  have hok := readingsOk_run cfg addr maxReadings log τ
  have hbound := (tallied_run cfg addr maxReadings log τ).bound
  rw [run_tracked] at hbound
  replace hbound : (run (step cfg addr) (initial maxReadings log) τ).shared.store.maxReadings
    = maxReadings := hbound
  generalize (run (step cfg addr) (initial maxReadings log) τ) = s at hok hbound ⊢
  have hdiffer : s.shared.store.history.Pairwise fun r r' => itemOf r ≠ itemOf r' :=
    (List.pairwise_reverse.1 hok.distinct.differ).imp fun hne => hne.symm
  have hrecent := s.shared.store.recent_eq (n := 10) (by norm_num)
  rw [hbound] at hrecent
  refine ⟨hdiffer, _, rfl, hrecent, fun r hr => ?_, ?_⟩
  · rw [show ((10 : ℤ)) = ((10 : ℕ) : ℤ) from rfl, hrecent] at hr
    exact hok.stored r (List.mem_of_mem_drop hr)
  · rw [show ((10 : ℤ)) = ((10 : ℕ) : ℤ) from rfl, hrecent]
    exact hdiffer.sublist (List.drop_sublist _ _)

end PqcBridge.Cloud
