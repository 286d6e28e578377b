/-
Partial machines that are stopped when they grow.

A machine reads letters and may be stuck at one.  The bounded machine makes the same moves,
but fails where a move makes its state larger than a limit.

* `foldlM_step_eq_full_iff`: a bounded run fails at the limit exactly where some beginning of
  the word takes the machine to a state beyond it;
* `run_of_foldlM_step_eq_ok`: a bounded run that ends is a run.
-/
import Mathlib

namespace Bounded

variable {σ τ ε : Type*}

/-- One move of the bounded machine: `stuck` and `full` are its two failures. -/
def step (move : σ → τ → Option σ) (size : σ → ℕ) (limit : ℕ) (stuck full : ε) (s : σ) (t : τ) :
    Except ε σ :=
  match move s t with
  | none => .error stuck
  | some s' => if limit < size s' then .error full else .ok s'

variable {move : σ → τ → Option σ} {size : σ → ℕ} {limit : ℕ} {stuck full : ε} {s s' : σ} {t : τ}

lemma step_of_stuck (h : move s t = none) :
    step move size limit stuck full s t = .error stuck := by
  simp only [step, h]

lemma step_of_lt (h : move s t = some s') (hlt : limit < size s') :
    step move size limit stuck full s t = .error full := by
  simp only [step, h, if_pos hlt]

lemma step_of_le (h : move s t = some s') (hle : size s' ≤ limit) :
    step move size limit stuck full s t = .ok s' := by
  simp only [step, h, if_neg (Nat.not_lt.2 hle)]

lemma step_eq_ok (h : step move size limit stuck full s t = .ok s') :
    move s t = some s' ∧ size s' ≤ limit := by
  rcases hmove : move s t with _ | s''
  · rw [step_of_stuck hmove] at h
    cases h
  · rcases lt_or_ge limit (size s'') with hlt | hle
    · rw [step_of_lt hmove hlt] at h
      cases h
    · rw [step_of_le hmove hle] at h
      cases h
      exact ⟨rfl, hle⟩

/-- A bounded run that ends is a run. -/
theorem run_of_foldlM_step_eq_ok {ts : List τ}
    (h : ts.foldlM (step move size limit stuck full) s = .ok s') : ts.foldlM move s = some s' := by
  induction ts generalizing s with
  | nil =>
    cases h
    rfl
  | cons t ts ih =>
    rw [List.foldlM_cons] at h ⊢
    rcases hstep : step move size limit stuck full s t with e | s₁
    · rw [hstep] at h
      cases h
    · rw [hstep] at h
      rw [(step_eq_ok hstep).1]
      exact ih h

/-- **A bounded run fails at the limit** exactly where some beginning of the word takes the
machine beyond it. -/
theorem foldlM_step_eq_full_iff (hne : stuck ≠ full) (hs : size s ≤ limit) {ts : List τ} :
    ts.foldlM (step move size limit stuck full) s = .error full ↔
      ∃ xs rest s', ts = xs ++ rest ∧ xs.foldlM move s = some s' ∧ limit < size s' := by
  constructor
  · intro h
    induction ts generalizing s with
    | nil => cases h
    | cons t ts ih =>
      rw [List.foldlM_cons] at h
      rcases hmove : move s t with _ | s₁
      · rw [step_of_stuck hmove] at h
        injection h with h
        exact absurd h hne
      -- the first state over the limit ends the run
      · rcases lt_or_ge limit (size s₁) with hlt | hle
        · refine ⟨[t], ts, s₁, rfl, ?_, hlt⟩
          rw [List.foldlM_cons, hmove]
          rfl
        · rw [step_of_le hmove hle] at h
          obtain ⟨xs, rest, s', rfl, hrun, hlt⟩ := ih hle h
          refine ⟨t :: xs, rest, s', rfl, ?_, hlt⟩
          rw [List.foldlM_cons, hmove]
          exact hrun
  · rintro ⟨xs, rest, s', rfl, hrun, hlt⟩
    induction xs generalizing s with
    | nil =>
      cases hrun
      omega
    | cons t xs ih =>
      rw [List.foldlM_cons] at hrun
      rw [List.cons_append, List.foldlM_cons]
      rcases hmove : move s t with _ | s₁
      · rw [hmove] at hrun
        cases hrun
      · rw [hmove] at hrun
        rcases lt_or_ge limit (size s₁) with hlt₁ | hle
        · rw [step_of_lt hmove hlt₁]
          rfl
        · rw [step_of_le hmove hle]
          exact ih hle hrun

end Bounded
