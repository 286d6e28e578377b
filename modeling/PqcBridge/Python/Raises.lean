/-
Reasoning about computations that may raise.

`OnlyRaises x C` says that every exception that can come out of `x` is in the class
`C`.  The rules follow the way the functions of the program are put together: a
`raise`, a value, one computation after another, and a case distinction.
-/
import PqcBridge.Python.Value

namespace Python

variable {α β : Type}

/-! ### Sequencing -/

lemma bind_eq_ok {x : Py α} {f : α → Py β} {b : β} :
    x >>= f = .ok b ↔ ∃ a, x = .ok a ∧ f a = .ok b := by
  rcases x with e | a
  · constructor
    · intro h
      cases h
    · rintro ⟨a, h, -⟩
      cases h
  · constructor
    · exact fun h => ⟨a, rfl, h⟩
    · rintro ⟨a', h, hf⟩
      cases h
      exact hf

lemma bind_eq_error {x : Py α} {f : α → Py β} {e : PyExc} :
    x >>= f = .error e ↔ x = .error e ∨ ∃ a, x = .ok a ∧ f a = .error e := by
  rcases x with e' | a
  · constructor
    · intro h
      have h' : (.error e' : Py β) = .error e := h
      cases h'
      exact Or.inl rfl
    · rintro (h | ⟨a, h, -⟩)
      · cases h
        rfl
      · cases h
  · constructor
    · exact fun h => Or.inr ⟨a, rfl, h⟩
    · rintro (h | ⟨a', h, hf⟩)
      · cases h
      · cases h
        exact hf

@[simp] lemma ok_bind (a : α) (f : α → Py β) : ((.ok a : Py α) >>= f) = f a := rfl

@[simp] lemma error_bind (e : PyExc) (f : α → Py β) : ((.error e : Py α) >>= f) = .error e := rfl

@[simp] lemma pure_eq_ok (a : α) : (pure a : Py α) = .ok a := rfl

@[simp] lemma raise_bind (cls : ExcClass) (msg : PyStr) (f : α → Py β) :
    ((raise cls msg : Py α) >>= f) = raise cls msg := rfl

@[simp] lemma raise_ne_ok (cls : ExcClass) (msg : PyStr) (a : α) :
    (raise cls msg : Py α) ≠ .ok a := nofun

/-! ### What a computation raises -/

/-- Every exception that `x` raises is in `C`. -/
def OnlyRaises (x : Py α) (C : PyExc → Prop) : Prop := ∀ e, x = .error e → C e

variable {x : Py α} {f : α → Py β} {C D : PyExc → Prop}

lemma onlyRaises_ok (a : α) : OnlyRaises (.ok a : Py α) C := nofun

lemma onlyRaises_raise {cls : ExcClass} {msg : PyStr} (h : C ⟨cls, msg⟩) :
    OnlyRaises (raise cls msg : Py α) C := by
  intro e he
  cases he
  exact h

lemma OnlyRaises.mono (h : OnlyRaises x C) (hCD : ∀ e, C e → D e) : OnlyRaises x D :=
  fun e he => hCD e (h e he)

lemma OnlyRaises.bind (hx : OnlyRaises x C) (hf : ∀ a, x = .ok a → OnlyRaises (f a) C) :
    OnlyRaises (x >>= f) C := by
  intro e he
  rcases bind_eq_error.1 he with h | ⟨a, ha, h⟩
  · exact hx e h
  · exact hf a ha e h

lemma OnlyRaises.ite {p : Prop} [Decidable p] {y z : Py α} (hy : p → OnlyRaises y C)
    (hz : ¬ p → OnlyRaises z C) : OnlyRaises (if p then y else z) C := by
  split
  · next h => exact hy h
  · next h => exact hz h

/-- The exception is a `ProtocolError`. -/
def IsProtocolError (e : PyExc) : Prop := e.cls = .protocolError

end Python
