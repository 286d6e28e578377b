/-
Reading a running system piece by piece.

A reader that takes no lock sees each piece of the state at a moment of its own, and only the
order of these moments is known.  `seen step s τ m i` is the state of the run `τ` at read `i`.

* `stays_seen`: what the steps keep was there for all later reads;
* `le_seen`: a measure that never falls is no smaller for a later read.
-/
import PqcBridge.Lib.Run

namespace Runs

variable {σ ε : Type*}

/-- The moments of the reads, as numbers of steps: none is before the one of an earlier read. -/
structure Moments where
  moment : ℕ → ℕ
  mono : Monotone moment

/-- The state at a read. -/
def seen (step : σ → ε → σ) (s : σ) (τ : List ε) (m : Moments) (i : ℕ) : σ :=
  run step s (τ.take (m.moment i))

variable {step : σ → ε → σ} {s : σ} {τ : List ε} {m : Moments} {i j : ℕ}

variable (step s τ m) in
/-- Between two reads the system makes some steps. -/
lemma exists_run_seen (hij : i ≤ j) :
    ∃ τ', seen step s τ m j = run step (seen step s τ m i) τ' := by
  refine ⟨(τ.take (m.moment j)).drop (m.moment i), ?_⟩
  have hsplit : τ.take (m.moment i) = (τ.take (m.moment j)).take (m.moment i) := by
    rw [List.take_take, min_eq_left (m.mono hij)]
  rw [seen, seen, hsplit, ← run_append, List.take_append_drop]

lemma stays_seen (Q : σ → Prop) (h : ∀ τ τ', Q (run step s τ) → Q (run step (run step s τ) τ'))
    (hij : i ≤ j) (hi : Q (seen step s τ m i)) : Q (seen step s τ m j) := by
  obtain ⟨τ', hτ'⟩ := exists_run_seen step s τ m hij
  rw [hτ']
  exact h _ τ' hi

lemma le_seen {α : Type*} [Preorder α] {f : σ → α} (h : ∀ s e, f s ≤ f (step s e)) (hij : i ≤ j) :
    f (seen step s τ m i) ≤ f (seen step s τ m j) := by
  have hrun : ∀ (τ : List ε) (s : σ), f s ≤ f (run step s τ) := by
    intro τ
    induction τ with
    | nil => exact fun _ => le_rfl
    | cons e τ ih => exact fun s => (h s e).trans (ih _)
  obtain ⟨τ', hτ'⟩ := exists_run_seen step s τ m hij
  rw [hτ']
  exact hrun τ' _

end Runs
