/-
Many sources behind one shared queue.

What a source produces waits in a lane of its own.  A server takes it from there, one item
at a time, and puts it into the queue that all sources share, and at the end of this queue
the items are collected.  The sources and the servers move in any order.

* `Conserved`: nothing is lost, added, changed or overtaken by an item of the same source,
  and what was taken is collected, in the queue or in a hand;
* `conserved_run`: this holds along every run;
* `Conserved.collected_append`: once queue and hand are empty, what was collected of a
  source is what it has produced, up to what is still in its lane.
-/
import PqcBridge.Lib.Run

namespace Pipeline

open Runs

variable {ι α : Type*}

/-- The sources, the servers and the queue.  `produced` and `taken` record what has
happened. -/
structure State (ι α : Type*) where
  /-- everything that a source has produced -/
  produced : ι → List α
  lane : ι → List α
  hand : ι → Option α
  shared : List (ι × α)
  collected : List (ι × α)
  /-- how many items have been taken from a lane -/
  taken : ℕ

/-- What can happen. -/
inductive Event (ι α : Type*) where
  | produce (i : ι) (a : α)
  | take (i : ι)
  | merge (i : ι)
  | collect

/-- Before anything was produced. -/
def empty : State ι α := ⟨fun _ => [], fun _ => [], fun _ => none, [], [], 0⟩

variable [DecidableEq ι]

/-- One step; what cannot be done changes nothing. -/
def step (s : State ι α) : Event ι α → State ι α
  | .produce i a =>
    { s with
      produced := Function.update s.produced i (s.produced i ++ [a])
      lane := Function.update s.lane i (s.lane i ++ [a]) }
  | .take i =>
    match s.lane i, s.hand i with
    | a :: rest, none =>
      { s with
        lane := Function.update s.lane i rest
        hand := Function.update s.hand i (some a)
        taken := s.taken + 1 }
    | _, _ => s
  | .merge i =>
    match s.hand i with
    | some a => { s with hand := Function.update s.hand i none, shared := s.shared ++ [(i, a)] }
    | none => s
  | .collect =>
    match s.shared with
    | x :: rest => { s with shared := rest, collected := s.collected ++ [x] }
    | [] => s

/-- A source produces several items. -/
lemma run_produce (s : State ι α) (i : ι) (items : List α) :
    run step s (items.map (.produce i))
      = { s with
          produced := Function.update s.produced i (s.produced i ++ items)
          lane := Function.update s.lane i (s.lane i ++ items) } := by
  induction items generalizing s with
  | nil => simp
  | cons a items ih =>
    rw [List.map_cons, run_cons, ih]
    simp [step]

/-! ### The items of one source -/

/-- The items of source `i`. -/
def ofSource (i : ι) (xs : List (ι × α)) : List α := (xs.filter fun x => x.1 = i).map Prod.snd

variable {i j : ι} {a : α} {xs ys : List (ι × α)}

@[simp] lemma ofSource_nil : ofSource i ([] : List (ι × α)) = [] := rfl

@[simp] lemma ofSource_append : ofSource i (xs ++ ys) = ofSource i xs ++ ofSource i ys := by
  simp [ofSource]

@[simp] lemma ofSource_cons_self : ofSource i ((i, a) :: xs) = a :: ofSource i xs := by
  simp [ofSource]

lemma ofSource_cons_of_ne (h : j ≠ i) : ofSource i ((j, a) :: xs) = ofSource i xs := by
  simp [ofSource, h]

/-! ### The invariant -/

/-- Every item of a source is in one place, in the order in which they were produced, and
every item that was taken is accounted for. -/
structure Conserved (s : State ι α) : Prop where
  items : ∀ i, ofSource i s.collected ++ (ofSource i s.shared ++ ((s.hand i).toList ++ s.lane i))
    = s.produced i
  counted : ∃ busy : Finset ι, (∀ i, i ∈ busy ↔ (s.hand i).isSome) ∧
    s.taken = s.collected.length + s.shared.length + busy.card

lemma conserved_empty : Conserved (empty : State ι α) :=
  ⟨fun _ => rfl, ∅, by simp [empty], rfl⟩

variable {s : State ι α}

lemma Conserved.produce (h : Conserved s) (i : ι) (a : α) : Conserved (step s (.produce i a)) := by
  refine ⟨fun j => ?_, h.counted⟩
  by_cases hj : j = i
  · rw [hj]
    simp [step, ← h.items i]
  · simp [step, hj, ← h.items j]

lemma Conserved.take (h : Conserved s) (i : ι) : Conserved (step s (.take i)) := by
  simp only [step]
  split
  · next a rest hlane hhand =>
    obtain ⟨busy, hbusy, htaken⟩ := h.counted
    have hi : i ∉ busy := by simp [hbusy, hhand]
    refine ⟨fun j => ?_, insert i busy, fun j => ?_, ?_⟩
    · by_cases hj : j = i
      · rw [hj]
        simp [← h.items i, hlane, hhand]
      · simp [hj, ← h.items j]
    · by_cases hj : j = i
      · simp [hj]
      · simp [hj, hbusy]
    · rw [Finset.card_insert_of_notMem hi]
      simp only
      omega
  · exact h

lemma Conserved.merge (h : Conserved s) (i : ι) : Conserved (step s (.merge i)) := by
  simp only [step]
  split
  · next a hhand =>
    obtain ⟨busy, hbusy, htaken⟩ := h.counted
    have hi : i ∈ busy := by simp [hbusy, hhand]
    refine ⟨fun j => ?_, busy.erase i, fun j => ?_, ?_⟩
    · by_cases hj : j = i
      · rw [hj]
        simp [← h.items i, hhand]
      · simp [hj, ofSource_cons_of_ne (Ne.symm hj), ← h.items j]
    · by_cases hj : j = i
      · simp [hj]
      · simp [hj, hbusy]
    · have hcard := Finset.card_erase_add_one hi
      simp only [List.length_append, List.length_singleton]
      omega
  · exact h

lemma Conserved.collect (h : Conserved s) : Conserved (step s .collect) := by
  simp only [step]
  split
  · next x rest hshared =>
    obtain ⟨busy, hbusy, htaken⟩ := h.counted
    refine ⟨fun j => ?_, busy, hbusy, ?_⟩
    · have hsplit : ofSource j (x :: rest) = ofSource j [x] ++ ofSource j rest :=
        @ofSource_append _ _ _ _ [x] _
      rw [← h.items j, hshared, hsplit, ofSource_append, List.append_assoc, List.append_assoc]
    · rw [hshared, List.length_cons] at htaken
      simp only [List.length_append, List.length_singleton]
      omega
  · exact h

/-- The step lemma. -/
lemma Conserved.step (h : Conserved s) (ev : Event ι α) : Conserved (step s ev) := by
  cases ev with
  | produce i a => exact h.produce i a
  | take i => exact h.take i
  | merge i => exact h.merge i
  | collect => exact h.collect

/-- The run lemma. -/
theorem conserved_run (τ : List (Event ι α)) : Conserved (run Pipeline.step empty τ) :=
  inv_run (P := fun _ _ => True) (fun _ ev h _ => h.step ev) conserved_empty
    (along_of_forall fun _ _ _ => trivial)

/-- With all hands empty, what was taken is in the queue or collected. -/
lemma Conserved.taken_eq (h : Conserved s) (hhand : ∀ i, s.hand i = none) :
    s.taken = s.collected.length + s.shared.length := by
  obtain ⟨busy, hbusy, htaken⟩ := h.counted
  have hempty : busy = ∅ := by
    refine Finset.eq_empty_of_forall_notMem fun i hi => ?_
    simp [hbusy, hhand] at hi
  rw [htaken, hempty, Finset.card_empty, Nat.add_zero]

/-- With queue and hand empty, what a source has produced is collected, up to what is still
in its lane. -/
lemma Conserved.collected_append (h : Conserved s) (hshared : s.shared = [])
    (hhand : s.hand i = none) : ofSource i s.collected ++ s.lane i = s.produced i := by
  have hitems := h.items i
  rw [hshared, hhand] at hitems
  exact hitems

end Pipeline
