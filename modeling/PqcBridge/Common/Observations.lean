/-
Counters and observations, and their snapshot (`common/metrics.py`).

`Metrics` of the source keeps a running aggregate for each name, and starts a new one where
the unit of the name changes.  Every method takes the lock, so that a run is the list of the
calls in the order in which they took it.  What the source's floats do besides being added
and compared is a parameter; they are taken to be in a linear order, which NaN is not.

* `aggregates_run`: the running aggregate of a name is that of its observations since its unit
  last changed;
* `snapshot_summarises`: a snapshot shows the sums and the summaries of the history;
* `Metrics.counts`: the dictionary of the counters that the rest of the model has, and
  `lookup_counts_calls`: it is the one of the methods.
-/
import PqcBridge.Common.Metrics
import PqcBridge.Lib.Run

namespace PqcBridge.Observations

open Python Runs

variable {V : Type*}

/-! ### The methods -/

/-- `_Stats`.  The minimum starts at infinity. -/
structure Stats (V : Type*) where
  count : ℕ
  total : V
  min : WithTop V
  max : V
  unit : PyStr

namespace Stats

variable [LinearOrder V] [Zero V] [Add V]

/-- `_Stats(unit)`. -/
def new (unit : PyStr) : Stats V := ⟨0, 0, ⊤, 0, unit⟩

/-- `add`. -/
def add (s : Stats V) (value : V) : Stats V :=
  ⟨s.count + 1, s.total + value, Min.min s.min value, Max.max s.max value, s.unit⟩

end Stats

/-- The two dictionaries of `Metrics`. -/
structure Meters (V : Type*) where
  counters : AList fun _ : PyStr => ℤ
  stats : AList fun _ : PyStr => Stats V

/-- A call of one of the methods that write. -/
inductive Call (V : Type*) where
  | inc (name : PyStr) (amount : ℤ)
  | observe (name : PyStr) (value : V) (unit : PyStr)

namespace Meters

/-- `Metrics()`. -/
def new : Meters V := ⟨∅, ∅⟩

/-- `inc`. -/
def inc (m : Meters V) (name : PyStr) (amount : ℤ) : Meters V :=
  { m with counters := m.counters.insert name ((m.counters.lookup name).getD 0 + amount) }

variable [LinearOrder V] [Zero V] [Add V]

/-- `observe`. -/
def observe (m : Meters V) (name : PyStr) (value : V) (unit : PyStr) : Meters V :=
  match m.stats.lookup name with
  | none => { m with stats := m.stats.insert name ((Stats.new unit).add value) }
  | some stats =>
    if stats.unit ≠ unit then { m with stats := m.stats.insert name ((Stats.new unit).add value) }
    else { m with stats := m.stats.insert name (stats.add value) }

/-- A call takes the lock. -/
def call (m : Meters V) : Call V → Meters V
  | .inc name amount => m.inc name amount
  | .observe name value unit => m.observe name value unit

end Meters

/-- What the source does with its floats besides: the mean, the rounding to six digits, and
what `json.dumps` makes of them. -/
structure Floats (V : Type*) where
  divide : V → ℕ → V
  round6 : V → V
  toJson : WithTop V → Json

variable (F : Floats V)

/-- The rounding, which leaves infinity as it is. -/
def Floats.round (x : WithTop V) : WithTop V := x.map F.round6

/-- An entry of `timings`. -/
def Stats.timing (s : Stats V) : JsonDict :=
  [(lit "count", .int s.count),
    (lit "avg", if s.count ≠ 0 then F.toJson (F.round (F.divide s.total s.count)) else .null),
    (lit "min", if s.count ≠ 0 then F.toJson (F.round s.min) else .null),
    (lit "max", if s.count ≠ 0 then F.toJson (F.round s.max) else .null),
    (lit "unit", .str s.unit)]

/-- `counters` of a snapshot. -/
def Meters.counts (m : Meters V) : JsonDict := m.counters.entries.map fun e => (e.1, .int e.2)

/-- `timings` of a snapshot. -/
def Meters.timings (m : Meters V) : JsonDict :=
  m.stats.entries.map fun e => (e.1, .obj (e.2.timing F))

/-- `snapshot`. -/
def Meters.snapshot (m : Meters V) : JsonDict :=
  [(lit "counters", .obj m.counts), (lit "timings", .obj (m.timings F))]

/-! ### The history -/

/-- The amounts that were added to a counter. -/
def amounts (τ : List (Call V)) (name : PyStr) : List ℤ :=
  τ.filterMap fun
    | .inc n amount => if n = name then some amount else none
    | .observe _ _ _ => none

/-- The observations of a name, with their units. -/
def observations (τ : List (Call V)) (name : PyStr) : List (V × PyStr) :=
  τ.filterMap fun
    | .inc _ _ => none
    | .observe n value unit => if n = name then some (value, unit) else none

/-- The observations in the unit, as far as they go back without another unit. -/
def since (obs : List (V × PyStr)) (unit : PyStr) : List V :=
  (obs.rtakeWhile fun o => o.2 = unit).map Prod.fst

lemma since_concat_self (obs : List (V × PyStr)) (v : V) (unit : PyStr) :
    since (obs ++ [(v, unit)]) unit = since obs unit ++ [v] := by
  rw [since, List.rtakeWhile_concat_pos _ _ _ (by simp), List.map_append]
  rfl

lemma since_concat_ne {obs : List (V × PyStr)} {v : V} {u unit : PyStr} (h : u ≠ unit) :
    since (obs ++ [(v, u)]) unit = [] := by
  rw [since, List.rtakeWhile_concat_neg _ _ _ (by simpa using h)]
  rfl

lemma amounts_concat_inc (τ : List (Call V)) (n name : PyStr) (amount : ℤ) :
    amounts (τ ++ [.inc n amount]) name
      = amounts τ name ++ if n = name then [amount] else [] := by
  rw [amounts, List.filterMap_append]
  by_cases h : n = name
  · simp [h, amounts]
  · simp [h, amounts]

lemma amounts_concat_observe (τ : List (Call V)) (n name unit : PyStr) (v : V) :
    amounts (τ ++ [.observe n v unit]) name = amounts τ name := by
  simp [amounts]

lemma observations_concat_inc (τ : List (Call V)) (n name : PyStr) (amount : ℤ) :
    observations (τ ++ [.inc n amount]) name = observations τ name := by
  simp [observations]

lemma observations_concat_observe (τ : List (Call V)) (n name unit : PyStr) (v : V) :
    observations (τ ++ [.observe n v unit]) name
      = observations τ name ++ if n = name then [(v, unit)] else [] := by
  rw [observations, List.filterMap_append]
  by_cases h : n = name
  · simp [h, observations]
  · simp [h, observations]

/-! ### The methods keep the aggregates of the history -/

variable [LinearOrder V] [Zero V] [Add V] {F}

/-- The aggregate of some values. -/
def aggregate (unit : PyStr) (vs : List V) : Stats V := vs.foldl Stats.add (.new unit)

@[simp] lemma aggregate_concat (unit : PyStr) (vs : List V) (v : V) :
    aggregate unit (vs ++ [v]) = (aggregate unit vs).add v := by
  simp [aggregate]

@[simp] lemma aggregate_unit (unit : PyStr) (vs : List V) : (aggregate unit vs).unit = unit := by
  induction vs using List.reverseRecOn with
  | nil => rfl
  | append_singleton vs v ih =>
    rw [aggregate_concat]
    exact ih

@[simp] lemma aggregate_count (unit : PyStr) (vs : List V) :
    (aggregate unit vs).count = vs.length := by
  induction vs using List.reverseRecOn with
  | nil => rfl
  | append_singleton vs v ih => simp [Stats.add, ih]

lemma aggregate_total (unit : PyStr) (vs : List V) :
    (aggregate unit vs).total = vs.foldl (· + ·) 0 := by
  induction vs using List.reverseRecOn with
  | nil => rfl
  | append_singleton vs v ih => simp [Stats.add, ih]

lemma aggregate_min (unit : PyStr) (vs : List V) : (aggregate unit vs).min = vs.minimum := by
  induction vs using List.reverseRecOn with
  | nil => rfl
  | append_singleton vs v ih =>
    rw [aggregate_concat, List.minimum_concat, ← ih]
    rfl

lemma aggregate_max (unit : PyStr) (vs : List V) :
    (aggregate unit vs).max = vs.foldl Max.max 0 := by
  induction vs using List.reverseRecOn with
  | nil => rfl
  | append_singleton vs v ih => simp [Stats.add, ih]

/-- The aggregate that belongs to some observations: of those in the last unit. -/
def current (obs : List (V × PyStr)) : Option (Stats V) :=
  obs.getLast?.map fun o => aggregate o.2 (since obs o.2)

/-- The counter that belongs to some amounts. -/
def counted (xs : List ℤ) : Option ℤ := if xs = [] then none else some xs.sum

lemma current_concat (obs : List (V × PyStr)) (v : V) (unit : PyStr) :
    current (obs ++ [(v, unit)]) = some ((aggregate unit (since obs unit)).add v) := by
  rw [current, List.getLast?_concat, Option.map_some, since_concat_self, aggregate_concat]

/-- The aggregate of a name with another unit is not looked at. -/
lemma since_eq_nil_of_current {obs : List (V × PyStr)} {s : Stats V} {unit : PyStr}
    (h : current obs = some s) (hunit : s.unit ≠ unit) : since obs unit = [] := by
  rcases List.eq_nil_or_concat obs with rfl | ⟨obs, ⟨v, u⟩, rfl⟩
  · rfl
  · rw [List.concat_eq_append, current_concat] at h
    cases h
    rw [List.concat_eq_append]
    exact since_concat_ne (by simpa [Stats.add] using hunit)

lemma aggregate_since_of_current {obs : List (V × PyStr)} {s : Stats V}
    (h : current obs = some s) : aggregate s.unit (since obs s.unit) = s := by
  obtain ⟨o, -, rfl⟩ := Option.map_eq_some_iff.1 h
  rw [aggregate_unit]

/-- What the dictionaries hold for a name. -/
structure Reflects (m : Meters V) (τ : List (Call V)) : Prop where
  counters : ∀ name, m.counters.lookup name = counted (amounts τ name)
  stats : ∀ name, m.stats.lookup name = current (observations τ name)

lemma counted_concat (xs : List ℤ) (x : ℤ) :
    counted (xs ++ [x]) = some ((counted xs).getD 0 + x) := by
  rcases xs with _ | ⟨y, xs⟩
  · simp [counted]
  · simp [counted, add_assoc]

/-- What `observe` puts into the dictionary. -/
lemma observe_stats (m : Meters V) (name : PyStr) (v : V) (unit : PyStr) {obs : List (V × PyStr)}
    (h : m.stats.lookup name = current obs) :
    (m.observe name v unit).counters = m.counters ∧ (m.observe name v unit).stats
      = m.stats.insert name ((aggregate unit (since obs unit)).add v) := by
  rcases hcur : current obs with _ | s
  · -- the first observation of the name
    have hnil : obs = [] := by
      rcases List.eq_nil_or_concat obs with rfl | ⟨obs, ⟨v, u⟩, rfl⟩
      · rfl
      · rw [List.concat_eq_append, current_concat] at hcur
        cases hcur
    subst hnil
    rw [hcur] at h
    simp only [Meters.observe, h]
    exact ⟨trivial, rfl⟩
  · rw [hcur] at h
    simp only [Meters.observe, h]
    by_cases hunit : s.unit = unit
    · subst hunit
      rw [if_neg (not_not.2 rfl), aggregate_since_of_current hcur]
      exact ⟨rfl, rfl⟩
    · rw [if_pos hunit, since_eq_nil_of_current hcur hunit]
      exact ⟨rfl, rfl⟩

/-- The step lemma. -/
lemma Reflects.call {m : Meters V} {τ : List (Call V)} (h : Reflects m τ) (c : Call V) :
    Reflects (m.call c) (τ ++ [c]) := by
  cases c with
  | inc n amount =>
    refine ⟨fun name => ?_, fun name => ?_⟩
    · rw [amounts_concat_inc]
      by_cases hn : n = name
      · subst hn
        rw [if_pos rfl, counted_concat, ← h.counters]
        exact AList.lookup_insert _
      · rw [if_neg hn, List.append_nil, ← h.counters]
        exact AList.lookup_insert_ne (Ne.symm hn)
    · rw [observations_concat_inc]
      exact h.stats name
  | observe n v unit =>
    obtain ⟨hcounters, hstats⟩ := observe_stats m n v unit (h.stats n)
    refine ⟨fun name => ?_, fun name => ?_⟩
    · rw [amounts_concat_observe, Meters.call, hcounters]
      exact h.counters name
    · rw [observations_concat_observe, Meters.call, hstats]
      by_cases hn : n = name
      · subst hn
        rw [if_pos rfl, current_concat]
        exact AList.lookup_insert _
      · rw [if_neg hn, List.append_nil, ← h.stats]
        exact AList.lookup_insert_ne (Ne.symm hn)

/-- The run lemma: the running aggregates are those of the history. -/
lemma aggregates_run (τ : List (Call V)) : Reflects (run Meters.call .new τ) τ := by
  induction τ using List.reverseRecOn with
  | nil => exact ⟨fun _ => rfl, fun _ => rfl⟩
  | append_singleton τ c ih =>
    rw [run_append]
    exact ih.call c

/-! ### The snapshot -/

/-- What an entry of `timings` says of the values: their number, their mean, the smallest, the
largest that is not negative, and the unit. -/
structure Summarises (F : Floats V) (unit : PyStr) (vs : List V) (timing : JsonDict) : Prop where
  keys : timing.map Prod.fst = [lit "count", lit "avg", lit "min", lit "max", lit "unit"]
  count : timing.field "count" = some (.int vs.length)
  avg : timing.field "avg"
    = some (F.toJson (F.round6 (F.divide (vs.foldl (· + ·) 0) vs.length)))
  min : ∃ lo ∈ vs, (∀ v ∈ vs, lo ≤ v) ∧ timing.field "min" = some (F.toJson (F.round6 lo))
  max : ∃ hi, (hi = 0 ∨ hi ∈ vs) ∧ 0 ≤ hi ∧ (∀ v ∈ vs, v ≤ hi) ∧
    timing.field "max" = some (F.toJson (F.round6 hi))
  unit : timing.field "unit" = some (.str unit)

omit [Add V] in
lemma foldl_max_spec (vs : List V) :
    (vs.foldl Max.max 0 = 0 ∨ vs.foldl Max.max 0 ∈ vs) ∧ 0 ≤ vs.foldl Max.max (0 : V) ∧
      ∀ v ∈ vs, v ≤ vs.foldl Max.max 0 := by
  induction vs using List.reverseRecOn with
  | nil => simp
  | append_singleton vs v ih =>
    obtain ⟨hmem, hzero, hle⟩ := ih
    rw [List.foldl_append, List.foldl_cons, List.foldl_nil]
    refine ⟨?_, hzero.trans (le_max_left _ _), ?_⟩
    · rcases max_choice (vs.foldl Max.max 0) v with h | h
      · rw [h]
        exact hmem.imp id fun h => List.mem_append_left _ h
      · rw [h]
        exact Or.inr (by simp)
    · intro w hw
      rcases List.mem_append.1 hw with hw | hw
      · exact (hle w hw).trans (le_max_left _ _)
      · rw [List.mem_singleton.1 hw]
        exact le_max_right _ _

lemma summarises_timing (unit : PyStr) {vs : List V} (hvs : vs ≠ []) :
    Summarises F unit vs ((aggregate unit vs).timing F) := by
  have hcount : (aggregate unit vs).count ≠ 0 := by
    rw [aggregate_count]
    exact (List.length_pos_of_ne_nil hvs).ne'
  obtain ⟨hmem, hzero, hle⟩ := foldl_max_spec vs
  obtain ⟨lo, hlo⟩ : ∃ lo : V, vs.minimum = lo := WithTop.ne_top_iff_exists.1
    (List.minimum_ne_top_of_ne_nil hvs) |>.imp fun _ h => h.symm
  obtain ⟨hlo_mem, hlo_le⟩ := List.minimum_eq_coe_iff.1 hlo
  refine ⟨rfl, ?_, ?_, ⟨lo, hlo_mem, hlo_le, ?_⟩, ⟨_, hmem, hzero, hle, ?_⟩, ?_⟩
  · show some (Json.int (aggregate unit vs).count) = _
    rw [aggregate_count]
  · show some (if (aggregate unit vs).count ≠ 0 then _ else _) = _
    rw [if_pos hcount, aggregate_total, aggregate_count]
    rfl
  · show some (if (aggregate unit vs).count ≠ 0 then _ else _) = _
    rw [if_pos hcount, aggregate_min, hlo]
    rfl
  · show some (if (aggregate unit vs).count ≠ 0 then _ else _) = _
    rw [if_pos hcount, aggregate_max]
    rfl
  · show some (Json.str (aggregate unit vs).unit) = _
    rw [aggregate_unit]

/-- A dictionary as the list of its items. -/
lemma lookup_map_entries {β : Type*} (f : β → Json) (d : AList fun _ : PyStr => β) (name : PyStr) :
    (d.entries.map fun e => (e.1, f e.2)).lookup name = (d.lookup name).map f := by
  rw [AList.lookup]
  induction d.entries with
  | nil => rfl
  | cons e l ih =>
    by_cases h : e.1 = name
    · subst h
      simp [List.dlookup]
    · rw [List.dlookup_cons_ne _ _ (Ne.symm h), ← ih]
      simp [List.lookup, beq_false_of_ne (Ne.symm h)]

variable (F) in
/-- **A snapshot shows the history.**  Whatever calls were made and in whatever order, every
counter is the sum of its amounts, every entry of `timings` summarises the observations of its
name since its unit last changed, of which there is one at least, and there are no other
entries. -/
theorem snapshot_summarises (τ : List (Call V)) :
    ∃ counts timings, (run Meters.call (.new : Meters V) τ).snapshot F
        = [(lit "counters", .obj counts), (lit "timings", .obj timings)] ∧ ∀ name,
      counts.lookup name = (counted (amounts τ name)).map .int ∧
      (observations τ name = [] → timings.lookup name = none) ∧
      ∀ before v unit, observations τ name = before ++ [(v, unit)] →
        ∃ timing, timings.lookup name = some (.obj timing) ∧
          Summarises F unit (since before unit ++ [v]) timing := by
  obtain ⟨hcounters, hstats⟩ := aggregates_run τ
  refine ⟨_, _, rfl, fun name => ?_⟩
  have htimings := lookup_map_entries (fun s : Stats V => .obj (s.timing F))
    (run Meters.call .new τ).stats name
  rw [hstats] at htimings
  refine ⟨?_, fun hnone => ?_, fun before v unit hobs => ?_⟩
  · rw [← hcounters]
    exact lookup_map_entries .int _ name
  · rw [Meters.timings, htimings, hnone]
    rfl
  · refine ⟨_, htimings.trans ?_, summarises_timing unit (by simp)⟩
    rw [hobs, current_concat, Option.map_some, aggregate_concat]

end PqcBridge.Observations

namespace PqcBridge

open Python Runs Observations

/-! ### The counters of the rest of the model -/

/-- The name under which a counter is kept. -/
def Counter.name : Counter → PyStr
  | .deviceConnections => lit "device_connections"
  | .gatewayConnections => lit "gateway_connections"
  | .messagesReceived => lit "messages_received"
  | .messagesProcessed => lit "messages_processed"
  | .messagesForwarded => lit "messages_forwarded"
  | .messagesRejected => lit "messages_rejected"
  | .errors => lit "errors"
  | .fallbackActivations => lit "fallback_activations"
  | .legacyDevicesDetected => lit "legacy_devices_detected"
  | .mlkemSessionsEstablished => lit "mlkem_sessions_established"

/-- All counters. -/
def Counter.all : List Counter :=
  [.deviceConnections, .gatewayConnections, .messagesReceived, .messagesProcessed,
    .messagesForwarded, .messagesRejected, .errors, .fallbackActivations, .legacyDevicesDetected,
    .mlkemSessionsEstablished]

/-- `counters` of a snapshot: a counter is there from its first `inc` on. -/
def Metrics.counts (m : Metrics) : JsonDict :=
  (Counter.all.filter fun c => m c ≠ 0).map fun c => (c.name, .int (m c))

lemma Counter.name_injective : Function.Injective Counter.name := by
  intro c d h
  cases c <;> cases d <;> first | rfl | exact absurd h (by decide)

lemma Counter.mem_all (c : Counter) : c ∈ Counter.all := by
  cases c <;> decide

lemma Metrics.lookup_counts (m : Metrics) (c : Counter) :
    m.counts.lookup c.name = if m c = 0 then none else some (.int (m c)) := by
  have hlookup : ∀ cs : List Counter, ((cs.filter fun c => m c ≠ 0).map fun c =>
      (c.name, Json.int (m c))).lookup c.name
        = if c ∈ cs ∧ m c ≠ 0 then some (.int (m c)) else none := by
    intro cs
    induction cs with
    | nil => rfl
    | cons d cs ih =>
      rcases eq_or_ne d c with rfl | hd
      · by_cases hm : m d = 0
        · rw [List.filter_cons_of_neg (by simpa using hm), ih]
          simp [hm]
        · simp [hm]
      · have hname : c.name ≠ d.name := fun h => hd (Counter.name_injective h).symm
        by_cases hm : m d = 0
        · rw [List.filter_cons_of_neg (by simpa using hm), ih]
          simp [hd.symm]
        · rw [List.filter_cons_of_pos (by simpa using hm), List.map_cons, List.lookup,
            beq_false_of_ne hname, ih]
          simp [hd.symm]
  rw [Metrics.counts, hlookup]
  by_cases hm : m c = 0
  · simp [hm]
  · simp [hm, c.mem_all]

variable {V : Type*} [LinearOrder V] [Zero V] [Add V]

/-- A call of the program: `inc` of one of the counters, or `observe`. -/
def programCall : Counter ⊕ (PyStr × V × PyStr) → Call V
  | .inl c => .inc c.name 1
  | .inr (name, value, unit) => .observe name value unit

omit [LinearOrder V] [Zero V] [Add V] in
lemma amounts_programCall (calls : List (Counter ⊕ (PyStr × V × PyStr))) (c : Counter) :
    amounts (calls.map programCall) c.name
      = List.replicate ((calls.filterMap Sum.getLeft?).count c) 1 := by
  induction calls with
  | nil => rfl
  | cons call calls ih =>
    rcases call with d | ⟨name, value, unit⟩
    · rcases eq_or_ne d c with rfl | hd
      · have hcons : amounts (((.inl d :: calls) : List (Counter ⊕ (PyStr × V × PyStr))).map
            programCall) d.name = 1 :: amounts (calls.map programCall) d.name := by
          simp [amounts, programCall]
        rw [hcons, ih]
        simp [List.replicate_succ]
      · have hname : d.name ≠ c.name := fun h => hd (Counter.name_injective h)
        have hcons : amounts (((.inl d :: calls) : List (Counter ⊕ (PyStr × V × PyStr))).map
            programCall) c.name = amounts (calls.map programCall) c.name := by
          simp [amounts, programCall, hname]
        rw [hcons, ih]
        simp [hd]
    · exact ih

/-- The dictionary of `Metrics` after these calls is that of the counters of the model. -/
theorem lookup_counts_calls (calls : List (Counter ⊕ (PyStr × V × PyStr))) (c : Counter) :
    (run Meters.call (.new : Meters V) (calls.map programCall)).counts.lookup c.name
      = ((calls.filterMap Sum.getLeft?).foldl Metrics.inc .zero).counts.lookup c.name := by
  have hcount : ∀ (cs : List Counter) (m : Metrics),
      cs.foldl Metrics.inc m c = m c + cs.count c := by
    intro cs
    induction cs with
    | nil => intro m; rfl
    | cons d cs ih =>
      intro m
      rw [List.foldl_cons, ih, Metrics.inc_apply, List.count_cons]
      rcases eq_or_ne d c with rfl | hd
      · rw [if_pos rfl, if_pos (by simp)]
        omega
      · simp [hd, hd.symm]
  have hcounts : (run Meters.call (.new : Meters V) (calls.map programCall)).counts.lookup c.name
      = (counted (amounts (calls.map programCall) c.name)).map .int := by
    rw [← (aggregates_run (calls.map programCall)).counters]
    exact lookup_map_entries .int _ _
  rw [hcounts, Metrics.lookup_counts, hcount, amounts_programCall]
  rcases (calls.filterMap Sum.getLeft?).count c with _ | n
  · rfl
  · simp [counted, Metrics.zero]

end PqcBridge
