/-
Counting the workers that stand at a place.

The workers of a system are a function from their names to where they stand, and one of them
moves at a time.  `Counts f q n` says that `n` of them stand where `q` holds.

* `Counts.keep`, `Counts.enter`, `Counts.leave`: the count after a move;
* `Counts.ncard`: the count is the size of a set.
-/
import Mathlib

namespace Counting

variable {ι α : Type*} {f : ι → α} {q : α → Prop} {n : ℕ}

/-- There are `n` workers at which `q` holds. -/
def Counts (f : ι → α) (q : α → Prop) (n : ℕ) : Prop :=
  ∃ s : Finset ι, (∀ i, i ∈ s ↔ q (f i)) ∧ s.card = n

lemma counts_zero (h : ∀ i, ¬ q (f i)) : Counts f q 0 := ⟨∅, fun i => by simp [h i], rfl⟩

lemma Counts.ncard (h : Counts f q n) : {i | q (f i)}.ncard = n := by
  obtain ⟨s, hs, rfl⟩ := h
  have hset : {i | q (f i)} = (s : Set ι) := Set.ext fun i => (hs i).symm
  rw [hset, Set.ncard_coe_finset]

/-- Nobody is counted. -/
lemma Counts.eq_zero (h : Counts f q n) (hf : ∀ i, ¬ q (f i)) : n = 0 := by
  obtain ⟨s, hs, rfl⟩ := h
  exact Finset.card_eq_zero.2 (Finset.eq_empty_of_forall_notMem fun i hi => hf i ((hs i).1 hi))

variable [DecidableEq ι] {i : ι} {x : α}

lemma update_iff (s : Finset ι) (hs : ∀ j, j ∈ s ↔ q (f j)) {j : ι} (hj : j ≠ i) :
    j ∈ s ↔ q (Function.update f i x j) := by
  rw [Function.update_of_ne hj, hs]

/-- A worker moves, and is counted as before. -/
lemma Counts.keep (h : Counts f q n) (hq : q x ↔ q (f i)) : Counts (Function.update f i x) q n := by
  obtain ⟨s, hs, rfl⟩ := h
  refine ⟨s, fun j => ?_, rfl⟩
  by_cases hj : j = i
  · rw [hj, Function.update_self, hs, hq]
  · exact update_iff s hs hj

/-- A worker moves to where it is counted. -/
lemma Counts.enter (h : Counts f q n) (hold : ¬ q (f i)) (hnew : q x) :
    Counts (Function.update f i x) q (n + 1) := by
  obtain ⟨s, hs, rfl⟩ := h
  have hi : i ∉ s := fun hmem => hold ((hs i).1 hmem)
  refine ⟨insert i s, fun j => ?_, Finset.card_insert_of_notMem hi⟩
  by_cases hj : j = i
  · simp [hj, hnew]
  · rw [Finset.mem_insert, or_iff_right hj]
    exact update_iff s hs hj

/-- A worker that was counted moves away. -/
lemma Counts.leave (h : Counts f q n) (hold : q (f i)) (hnew : ¬ q x) :
    ∃ m, n = m + 1 ∧ Counts (Function.update f i x) q m := by
  obtain ⟨s, hs, rfl⟩ := h
  have hi : i ∈ s := (hs i).2 hold
  refine ⟨(s.erase i).card, (Finset.card_erase_add_one hi).symm, s.erase i, fun j => ?_, rfl⟩
  by_cases hj : j = i
  · simp [hj, hnew]
  · rw [Finset.mem_erase, and_iff_right hj]
    exact update_iff s hs hj

end Counting
