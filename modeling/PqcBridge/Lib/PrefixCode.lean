/-
Codes whose words can be read off the front of a text.

A code writes every letter as a word.  It is a prefix code on a set of letters when two
letters of the set whose words start the same text are equal.

* `of_reader`: a function that reads the first letter off a text makes a prefix code;
* `flatMap_stop`: a list of letters, written word after word and closed by a word that
  starts no other one, can be read off the front of a text.
-/
import Mathlib

namespace PrefixCode

variable {α β : Type*}

/-- Two letters of `S` whose words start the same text are equal. -/
def IsPrefixCode (S : α → Prop) (code : α → List β) : Prop :=
  ∀ a b x y, S a → S b → code a ++ x = code b ++ y → a = b

variable {S : α → Prop} {code : α → List β} {a b : α} {x y : List β}

lemma of_reader {read : List β → Option α} (h : ∀ a x, S a → read (code a ++ x) = some a) :
    IsPrefixCode S code := by
  intro a b x y ha hb heq
  have hread := congrArg read heq
  rw [h a x ha, h b y hb] at hread
  exact Option.some.inj hread

/-- What follows the first word is determined as well. -/
lemma IsPrefixCode.append_cancel (h : IsPrefixCode S code) (ha : S a) (hb : S b)
    (heq : code a ++ x = code b ++ y) : a = b ∧ x = y := by
  obtain rfl := h a b x y ha hb heq
  exact ⟨rfl, List.append_cancel_left heq⟩

/-- A list of letters that is closed by the word `stop`. -/
lemma IsPrefixCode.flatMap_stop (h : IsPrefixCode S code) {stop : List β}
    (hstop : ∀ a x y, S a → code a ++ x ≠ stop ++ y) {l l' : List α} (hl : ∀ a ∈ l, S a)
    (hl' : ∀ a ∈ l', S a) (heq : l.flatMap code ++ (stop ++ x) = l'.flatMap code ++ (stop ++ y)) :
    l = l' ∧ x = y := by
  -- the stop marks the end: no code starts like it
  induction l generalizing l' with
  | nil =>
    cases l' with
    | nil => exact ⟨rfl, List.append_cancel_left heq⟩
    | cons b l' =>
      rw [List.flatMap_nil, List.nil_append, List.flatMap_cons, List.append_assoc] at heq
      exact absurd heq.symm (hstop b _ _ (hl' b List.mem_cons_self))
  | cons a l ih =>
    have ha : S a := hl a List.mem_cons_self
    rw [List.flatMap_cons, List.append_assoc] at heq
    cases l' with
    | nil =>
      rw [List.flatMap_nil, List.nil_append] at heq
      exact absurd heq (hstop a _ _ ha)
    | cons b l' =>
      rw [List.flatMap_cons, List.append_assoc] at heq
      obtain ⟨rfl, hrest⟩ := h.append_cancel ha (hl' b List.mem_cons_self) heq
      obtain ⟨rfl, hxy⟩ := ih (fun c hc => hl c (List.mem_cons_of_mem a hc))
        (fun c hc => hl' c (List.mem_cons_of_mem a hc)) hrest
      exact ⟨rfl, hxy⟩

end PrefixCode
