/-
Runs of a system whose nondeterminism has been moved into its events.

Such a system is a function `step : σ → ε → σ`, a run is a list of events, and the
state that a run reaches is a fold.  What the environment is assumed to do, and the
condition under which a property is claimed, are predicates on a state and the next
event; `Along step P s τ` says that every step of the run `τ` from `s` meets `P`.

The rules are the ways in which a run is used later on:

* `inv_run`: an invariant that every step meeting `P` keeps holds in the state that a
  run along `P` reaches;
* `Along.of_inv`: what the invariant gives at one step it gives at every step;
* `run_filter`: a run and what is left of it when some of its events are deleted;
* `run_view`, `along_view`: the runs of a system that records more than another one;
* `run_simulates`: a run that another system follows, with some of its own events at each
  step.
-/
import Mathlib

namespace Runs

variable {σ ε : Type*} (step : σ → ε → σ)

/-- The state that the run `τ` reaches from `s`. -/
def run (s : σ) (τ : List ε) : σ := τ.foldl step s

/-- Every step of the run `τ` from `s` meets `P`. -/
def Along (P : σ → ε → Prop) : σ → List ε → Prop
  | _, [] => True
  | s, e :: τ => P s e ∧ Along P (step s e) τ

@[simp] lemma run_nil (s : σ) : run step s [] = s := rfl

@[simp] lemma run_cons (s : σ) (e : ε) (τ : List ε) :
    run step s (e :: τ) = run step (step s e) τ := rfl

@[simp] lemma run_append (s : σ) (τ₁ τ₂ : List ε) :
    run step s (τ₁ ++ τ₂) = run step (run step s τ₁) τ₂ := by
  simp [run]

variable {step} {P Q I : σ → ε → Prop} {J : σ → Prop} {s : σ} {e : ε} {τ τ₁ τ₂ : List ε}

@[simp] lemma along_nil : Along step P s [] := trivial

@[simp] lemma along_cons :
    Along step P s (e :: τ) ↔ P s e ∧ Along step P (step s e) τ := Iff.rfl

/-- A condition that can be checked at every step can be checked along a run. -/
instance decidableAlong [∀ s e, Decidable (P s e)] :
    (s : σ) → (τ : List ε) → Decidable (Along step P s τ)
  | _, [] => isTrue trivial
  | s, e :: τ =>
    have := decidableAlong (step s e) τ
    inferInstanceAs (Decidable (P s e ∧ Along step P (step s e) τ))

lemma along_append :
    Along step P s (τ₁ ++ τ₂) ↔ Along step P s τ₁ ∧ Along step P (run step s τ₁) τ₂ := by
  induction τ₁ generalizing s with
  | nil => simp
  | cons e τ₁ ih => simp [ih, and_assoc]

lemma along_of_forall (h : ∀ s, ∀ e ∈ τ, P s e) : Along step P s τ := by
  induction τ generalizing s with
  | nil => trivial
  | cons e τ ih => exact ⟨h s e (by simp), ih fun s e he => h s e (by simp [he])⟩

lemma along_and :
    Along step (fun s e => P s e ∧ Q s e) s τ ↔ Along step P s τ ∧ Along step Q s τ := by
  induction τ generalizing s with
  | nil => simp
  | cons e τ ih =>
    simp only [along_cons, ih]
    tauto

lemma Along.mono (h : Along step P s τ) (hPQ : ∀ s e, P s e → Q s e) :
    Along step Q s τ := by
  induction τ generalizing s with
  | nil => trivial
  | cons e τ ih => exact ⟨hPQ _ _ h.1, ih h.2⟩

/-- An invariant that every step meeting `P` keeps holds at the end of a run along
`P`. -/
lemma inv_run (hstep : ∀ s e, J s → P s e → J (step s e)) (h0 : J s)
    (h : Along step P s τ) : J (run step s τ) := by
  induction τ generalizing s with
  | nil => exact h0
  | cons e τ ih => exact ih (hstep _ _ h0 h.1) h.2

/-- What the invariant and `P` give at a step holds at every step of a run along
`P`. -/
lemma Along.of_inv (h : Along step P s τ) (h0 : J s)
    (hstep : ∀ s e, J s → P s e → J (step s e)) (hQ : ∀ s e, J s → P s e → Q s e) :
    Along step Q s τ := by
  induction τ generalizing s with
  | nil => trivial
  | cons e τ ih => exact ⟨hQ _ _ h0 h.1, ih h.2 (hstep _ _ h0 h.1)⟩

/-- Two conditions that an invariant makes equivalent at every step hold along the same
runs, where every step meets what the invariant needs. -/
lemma Along.congr_of_inv (hI : Along step I s τ) (h0 : J s)
    (hstep : ∀ s e, J s → I s e → J (step s e))
    (hPQ : ∀ s e, J s → I s e → (P s e ↔ Q s e)) : Along step P s τ ↔ Along step Q s τ := by
  induction τ generalizing s with
  | nil => exact Iff.rfl
  | cons e τ ih => exact and_congr (hPQ s e h0 hI.1) (ih hI.2 (hstep s e h0 hI.1))

/-- The same for an invariant that needs nothing of the steps. -/
lemma along_congr_of_inv (h0 : J s) (hstep : ∀ s e, J s → J (step s e))
    (hPQ : ∀ s e, J s → (P s e ↔ Q s e)) : Along step P s τ ↔ Along step Q s τ :=
  Along.congr_of_inv (I := fun _ _ => True) (along_of_forall fun _ _ _ => trivial) h0
    (fun s e h _ => hstep s e h) fun s e h _ => hPQ s e h

/-- A relation that a kept event keeps where both runs make it, and that a deleted event
keeps where the first run alone makes it, relates a run to what is left of it. -/
lemma run_filter {R : σ → σ → Prop} {keep : ε → Bool} {t : σ}
    (hkept : ∀ s t e, R s t → P s e → keep e = true → R (step s e) (step t e))
    (hdeleted : ∀ s t e, R s t → P s e → keep e = false → R (step s e) t)
    (h0 : R s t) (h : Along step P s τ) :
    R (run step s τ) (run step t (τ.filter keep)) := by
  induction τ generalizing s t with
  | nil => exact h0
  | cons e τ ih =>
    cases hk : keep e with
    | true =>
      rw [List.filter_cons_of_pos hk]
      exact ih (hkept s t e h0 h.1 hk) h.2
    | false =>
      rw [List.filter_cons_of_neg (by simp [hk])]
      exact ih (hdeleted s t e h0 h.1 hk) h.2

/-- A view of the state under which the steps are those of another system. -/
lemma run_view {σ' : Type*} {step' : σ' → ε → σ'} {f : σ' → σ}
    (hf : ∀ s e, f (step' s e) = step (f s) e) (s : σ') (τ : List ε) :
    f (run step' s τ) = run step (f s) τ := by
  induction τ generalizing s with
  | nil => rfl
  | cons e τ ih => rw [run_cons, run_cons, ih, hf]

/-- What holds along the runs of that system holds along those of the view. -/
lemma along_view {σ' : Type*} {step' : σ' → ε → σ'} {f : σ' → σ}
    (hf : ∀ s e, f (step' s e) = step (f s) e) (s : σ') :
    Along step' (fun s e => P (f s) e) s τ ↔ Along step P (f s) τ := by
  induction τ generalizing s with
  | nil => exact Iff.rfl
  | cons e τ ih => rw [along_cons, along_cons, ih, hf]

/-- A system that answers every step of a run by a run of its own follows the whole run. -/
lemma run_simulates {σ' ε' : Type*} {step' : σ' → ε' → σ'} {R : σ → σ' → Prop} {t : σ'}
    (hstep : ∀ s t e, R s t → P s e → ∃ υ, R (step s e) (run step' t υ)) (h0 : R s t)
    (h : Along step P s τ) : ∃ υ, R (run step s τ) (run step' t υ) := by
  induction τ generalizing s t with
  | nil => exact ⟨[], h0⟩
  | cons e τ ih =>
    obtain ⟨υ, hυ⟩ := hstep s t e h0 h.1
    obtain ⟨υ', hυ'⟩ := ih hυ h.2
    refine ⟨υ ++ υ', ?_⟩
    rw [run_append]
    exact hυ'

end Runs
