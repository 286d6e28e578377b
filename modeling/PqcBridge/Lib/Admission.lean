/-
Numbered items that are admitted in order, and put out later.

An item is admitted only if its number is higher than that of every item of its key that
was admitted before.  An admitted item is held by one of any number of workers, which puts
it out later; in between, other workers admit and put out what they like.

The rules are about three parts of the state of such a system: `last`, the highest number
that was admitted for each key, `held`, what the workers hold, and `out`, what was put out,
the latest first.

* `InOrder.keep`, `InOrder.admit`, `InOrder.put`: what the three kinds of steps preserve; a
  worker may put out its item if it overtakes no other worker that holds an older one;
* `Distinct.keep`, `Distinct.admit`, `Distinct.put`: where workers do overtake, what is
  held and what was put out still differs in its stamps, if only stamps are admitted that
  have not been seen.
-/
import Mathlib

namespace Admission

/-- An item, as the guard sees it. -/
structure Item (κ : Type*) where
  key : κ
  number : ℤ
deriving DecidableEq

variable {ι κ : Type*} {last last' : κ → ℤ} {held held' : ι → Option (Item κ)}
  {out : List (Item κ)}

/-- The items of every key have been put out in the order of their numbers. -/
def Increasing (out : List (Item κ)) : Prop :=
  out.Pairwise fun x y => x.key = y.key → y.number < x.number

/-- Worker `i` overtakes no other worker that holds an older item of the same key. -/
def NotOvertaking (held : ι → Option (Item κ)) (i : ι) : Prop :=
  ∀ x, held i = some x → ∀ j y, j ≠ i → held j = some y → y.key = x.key → x.number < y.number

/-- The invariant: what is held is newer than what was put out, and the guard has seen
all of it. -/
structure InOrder (last : κ → ℤ) (held : ι → Option (Item κ)) (out : List (Item κ)) : Prop where
  held_le : ∀ i x, held i = some x → x.number ≤ last x.key
  out_le : ∀ x ∈ out, x.number ≤ last x.key
  before : ∀ x ∈ out, ∀ i y, held i = some y → y.key = x.key → x.number < y.number
  increasing : Increasing out

/-- At the beginning nothing is held. -/
lemma InOrder.start (hheld : ∀ i, held i = none) : InOrder last held [] := by
  refine ⟨fun i x hx => ?_, by simp, by simp, List.Pairwise.nil⟩
  rw [hheld i] at hx
  cases hx

/-- Nothing is admitted and nothing is put out; held items may be given up. -/
lemma InOrder.keep (h : InOrder last held out)
    (hheld : ∀ i x, held' i = some x → held i = some x) : InOrder last held' out where
  held_le i x hx := h.held_le i x (hheld i x hx)
  out_le := h.out_le
  before x hx i y hy := h.before x hx i y (hheld i y hy)
  increasing := h.increasing

/-- Worker `i` admits an item. -/
lemma InOrder.admit (h : InOrder last held out) {x : Item κ} (hnew : last x.key < x.number)
    (hlast : ∀ k, last k ≤ last' k) (hx : x.number ≤ last' x.key)
    (hheld : ∀ i y, held' i = some y → y = x ∨ held i = some y) : InOrder last' held' out := by
  refine ⟨fun i y hy => ?_, fun y hy => (h.out_le y hy).trans (hlast y.key),
    fun y hy i z hz hkey => ?_, h.increasing⟩
  · rcases hheld i y hy with rfl | hy
    · exact hx
    · exact (h.held_le i y hy).trans (hlast y.key)
  · rcases hheld i z hz with rfl | hz
    · -- the new item is newer than everything that the guard has seen
      have hle := h.out_le y hy
      rw [← hkey] at hle
      exact lt_of_le_of_lt hle hnew
    · exact h.before y hy i z hz hkey

/-- Worker `i` puts out its item. -/
lemma InOrder.put (h : InOrder last held out) {i : ι} {x : Item κ} (hx : held i = some x)
    (hi : NotOvertaking held i)
    (hheld : ∀ j y, held' j = some y → j ≠ i ∧ held j = some y) :
    InOrder last held' (x :: out) := by
  refine ⟨fun j y hy => h.held_le j y (hheld j y hy).2, fun y hy => ?_, fun y hy j z hz hkey => ?_,
    List.pairwise_cons.2 ⟨fun y hy hkey => h.before y hy i x hx hkey, h.increasing⟩⟩
  · rcases List.mem_cons.1 hy with rfl | hy
    · exact h.held_le i y hx
    · exact h.out_le y hy
  · obtain ⟨hj, hz⟩ := hheld j z hz
    rcases List.mem_cons.1 hy with rfl | hy
    · exact hi y hx j z hj hz hkey
    · exact h.before y hy j z hz hkey

/-! ### Stamps -/

section Distinct

variable {α β : Type*} {stamp : α → β} {seen seen' : β → Prop} {own own' : ι → Option α}
  {done : List α}

/-- The invariant: what is held or was put out has been seen, and it differs in its
stamps. -/
structure Distinct (stamp : α → β) (seen : β → Prop) (own : ι → Option α)
    (done : List α) : Prop where
  own_seen : ∀ i x, own i = some x → seen (stamp x)
  done_seen : ∀ x ∈ done, seen (stamp x)
  differ : done.Pairwise fun x y => stamp x ≠ stamp y
  apart : ∀ i x, own i = some x → ∀ y ∈ done, stamp x ≠ stamp y
  workers : ∀ i j x y, i ≠ j → own i = some x → own j = some y → stamp x ≠ stamp y

/-- Nothing is admitted and nothing is put out; held items may be given up. -/
lemma Distinct.keep (h : Distinct stamp seen own done)
    (hown : ∀ i x, own' i = some x → own i = some x) : Distinct stamp seen own' done where
  own_seen i x hx := h.own_seen i x (hown i x hx)
  done_seen := h.done_seen
  differ := h.differ
  apart i x hx := h.apart i x (hown i x hx)
  workers i j x y hij hx hy := h.workers i j x y hij (hown i x hx) (hown j y hy)

/-- Worker `i` admits an item with a stamp that has not been seen. -/
lemma Distinct.admit (h : Distinct stamp seen own done) {i : ι} {x : α}
    (hnew : ¬ seen (stamp x)) (hseen : ∀ b, seen b → seen' b) (hx : seen' (stamp x))
    (hown : ∀ j y, own' j = some y → j = i ∧ y = x ∨ own j = some y) :
    Distinct stamp seen' own' done := by
  have hne : ∀ y, seen (stamp y) → stamp x ≠ stamp y := by
    intro y hy heq
    rw [heq] at hnew
    exact hnew hy
  refine ⟨fun j y hy => ?_, fun y hy => hseen _ (h.done_seen y hy), h.differ,
    fun j y hy z hz => ?_, fun j k y z hjk hy hz => ?_⟩
  · rcases hown j y hy with ⟨-, rfl⟩ | hy
    · exact hx
    · exact hseen _ (h.own_seen j y hy)
  · rcases hown j y hy with ⟨-, rfl⟩ | hy
    · exact hne z (h.done_seen z hz)
    · exact h.apart j y hy z hz
  · rcases hown j y hy with ⟨hj, rfl⟩ | hy
    · rcases hown k z hz with ⟨hk, rfl⟩ | hz
      · -- one worker alone holds the new item
        exact absurd (hj.trans hk.symm) hjk
      · exact hne z (h.own_seen k z hz)
    · rcases hown k z hz with ⟨-, rfl⟩ | hz
      · exact (hne y (h.own_seen j y hy)).symm
      · exact h.workers j k y z hjk hy hz

/-- Worker `i` puts out its item. -/
lemma Distinct.put (h : Distinct stamp seen own done) {i : ι} {x : α} (hx : own i = some x)
    (hown : ∀ j y, own' j = some y → j ≠ i ∧ own j = some y) :
    Distinct stamp seen own' (x :: done) := by
  refine ⟨fun j y hy => h.own_seen j y (hown j y hy).2, fun y hy => ?_,
    List.pairwise_cons.2 ⟨h.apart i x hx, h.differ⟩, fun j y hy z hz => ?_,
    fun j k y z hjk hy hz => h.workers j k y z hjk (hown j y hy).2 (hown k z hz).2⟩
  · rcases List.mem_cons.1 hy with rfl | hy
    · exact h.own_seen i y hx
    · exact h.done_seen y hy
  · obtain ⟨hj, hy⟩ := hown j y hy
    rcases List.mem_cons.1 hz with rfl | hz
    · exact h.workers j i y z hj hy hx
    · exact h.apart j y hy z hz

end Distinct

end Admission
