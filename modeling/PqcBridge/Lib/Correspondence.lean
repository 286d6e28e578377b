/-
Injective correspondences between two records of events.

`Corresponds R xs ys` says that every entry of `xs` has an entry of `ys` of its own to
which it is related by `R`.  Both records may hold equal entries in several places, so
that the entries are told apart by their places.

* `corresponds_of_nodup`: where the entries of `xs` differ, and an entry of `ys` is related
  to one of them at most, it is enough that every entry of `xs` has one in `ys`.
-/
import Mathlib

namespace Correspondence

variable {α β : Type*}

/-- Every entry of `xs` has an entry of `ys` of its own to which it is related. -/
def Corresponds (R : α → β → Prop) (xs : List α) (ys : List β) : Prop :=
  ∃ f : Fin xs.length → Fin ys.length, Function.Injective f ∧ ∀ i, R (xs.get i) (ys.get (f i))

variable {R : α → β → Prop} {xs : List α} {ys : List β}

lemma corresponds_of_nodup (hxs : xs.Nodup) (hex : ∀ x ∈ xs, ∃ y ∈ ys, R x y)
    (hR : ∀ x ∈ xs, ∀ x' ∈ xs, ∀ y ∈ ys, R x y → R x' y → x = x') : Corresponds R xs ys := by
  have hplace : ∀ i : Fin xs.length, ∃ j : Fin ys.length, R (xs.get i) (ys.get j) := by
    intro i
    obtain ⟨y, hy, hRy⟩ := hex _ (List.get_mem xs i)
    obtain ⟨j, hj⟩ := List.get_of_mem hy
    exact ⟨j, by rw [hj]; exact hRy⟩
  choose f hf using hplace
  refine ⟨f, fun i j hij => ?_, hf⟩
  have hj := hf j
  rw [← hij] at hj
  have heq := hR _ (List.get_mem xs i) _ (List.get_mem xs j) _ (List.get_mem ys (f i)) (hf i) hj
  exact List.nodup_iff_injective_get.1 hxs heq

end Correspondence
