/-
Finding a value in a text that others may write to.

A scanner looks for the last occurrence of a marker and takes the first run of characters
of a given kind after it.  `afterLast` and `firstRun` are these two searches.  Whoever can
put the marker into the text decides what the scanner finds, and so the results are about
texts that avoid the marker, and about the ways in which texts are put together:

* `Avoids.append_sep`: two texts that avoid the marker, joined by a separator that has
  nothing in common with its ends;
* `avoids_tagLines`: a text of which every line is given a tag;
* `afterLast_append`: what follows a marker that is not found again later;
* `firstRun_append_cons`, `firstRun_append`: a run survives what is written before and
  after it.
-/
import Mathlib

namespace TextSearch

variable {α : Type*}

/-! ### Texts that avoid a marker -/

/-- The text does not contain the marker. -/
def Avoids (pat s : List α) : Prop := ¬ pat <:+: s

/-- No occurrence of the marker `pat` overlaps an occurrence of `sep`. -/
def Separates (pat sep : List α) : Prop :=
  (∀ l ∈ pat.tails, l ≠ [] → ¬ l <+: sep) ∧ (∀ l ∈ pat.inits, l ≠ [] → ¬ l <:+ sep) ∧
    ¬ sep <:+: pat ∧ ¬ pat <:+: sep

instance [DecidableEq α] (pat s : List α) : Decidable (Avoids pat s) :=
  inferInstanceAs (Decidable (¬ pat <:+: s))

instance [DecidableEq α] (pat sep : List α) : Decidable (Separates pat sep) :=
  inferInstanceAs (Decidable ((∀ l ∈ pat.tails, l ≠ [] → ¬ l <+: sep) ∧
    (∀ l ∈ pat.inits, l ≠ [] → ¬ l <:+ sep) ∧ ¬ sep <:+: pat ∧ ¬ pat <:+: sep))

variable {pat sep s t x y : List α} {a c : α}

lemma Avoids.of_infix (h : Avoids pat t) (hst : s <:+: t) : Avoids pat s :=
  fun hs => h (hs.trans hst)

/-- A text without one of the characters of the marker. -/
lemma avoids_of_notMem (hc : c ∈ pat) (h : c ∉ s) : Avoids pat s :=
  fun hs => h (hs.subset hc)

lemma Avoids.append_sep (hsep : Separates pat sep) (hx : Avoids pat x) (hy : Avoids pat y) :
    Avoids pat (x ++ sep ++ y) := by
  obtain ⟨hstart, hend, hin, hout⟩ := hsep
  intro h
  rcases List.infix_append_iff_ne_nil.1 h with h | h | ⟨l₁, l₂, h₁, -, rfl, hl₁, -⟩
  · rcases List.infix_append_iff_ne_nil.1 h with h | h | ⟨l₁, l₂, -, h₂, rfl, -, hl₂⟩
    · exact hx h
    · exact hout h
    · -- the marker starts in `x` and ends in the separator
      exact hstart l₂ (List.mem_tails _ _ |>.2 (List.suffix_append _ _)) h₂ hl₂
  · exact hy h
  · -- the marker ends in `y`: it starts in the separator, or contains it
    rcases List.suffix_or_suffix_of_suffix hl₁ (List.suffix_append x sep) with h | h
    · exact hend l₁ (List.mem_inits _ _ |>.2 (List.prefix_append _ _)) h₁ h
    · exact hin (h.isInfix.trans (List.prefix_append _ _).isInfix)

lemma avoids_nil (h : pat ≠ []) : Avoids pat [] := by
  intro hs
  exact h (List.infix_nil.1 hs)

lemma Avoids.append_sep_nil (hsep : Separates pat sep) (hpat : pat ≠ []) (hx : Avoids pat x) :
    Avoids pat (x ++ sep) := by
  have h := hx.append_sep hsep (avoids_nil hpat)
  rwa [List.append_nil] at h

lemma Avoids.sep_append (hsep : Separates pat sep) (hpat : pat ≠ []) (hy : Avoids pat y) :
    Avoids pat (sep ++ y) :=
  (avoids_nil hpat).append_sep hsep hy

/-! ### Lines with tags -/

/-- The lines of a text, each ended by `nl` and with its tag in front; the line numbered
`k` has been started. -/
def tagLines [DecidableEq α] (nl : α) (tag : ℕ → List α) : ℕ → List α → List α
  | _, [] => [nl]
  | k, a :: s =>
    if a = nl then nl :: (tag (k + 1) ++ tagLines nl tag (k + 1) s)
    else a :: tagLines nl tag k s

section TagLines

variable [DecidableEq α] {nl : α} (tag : ℕ → List α)

lemma tagLines_of_notMem (h : nl ∉ s) (k : ℕ) : tagLines nl tag k s = s ++ [nl] := by
  induction s with
  | nil => rfl
  | cons a s ih =>
    have ha : a ≠ nl := fun ha => h (by simp [ha])
    rw [tagLines, if_neg ha, ih fun hs => h (by simp [hs])]
    rfl

/-- The end of the last line. -/
lemma tagLines_append (h : nl ∉ t) (s : List α) (k : ℕ) :
    ∃ s', tagLines nl tag k (s ++ t) = s' ++ (t ++ [nl]) := by
  induction s generalizing k with
  | nil => exact ⟨[], tagLines_of_notMem tag h k⟩
  | cons a s ih =>
    rw [List.cons_append, tagLines]
    split
    · obtain ⟨s', hs'⟩ := ih (k + 1)
      exact ⟨nl :: (tag (k + 1) ++ s'), by simp [hs']⟩
    · obtain ⟨s', hs'⟩ := ih k
      exact ⟨a :: s', by simp [hs']⟩

/-- A text that avoids the marker still does with tags that end in separators. -/
lemma avoids_tagLines (hnl : Separates pat [nl]) (hpat : pat ≠ [])
    (htag : ∀ k x, Avoids pat x → Avoids pat (tag k ++ x)) (k : ℕ) (x s : List α)
    (h : Avoids pat (x ++ s)) : Avoids pat (tag k ++ (x ++ tagLines nl tag k s)) := by
  induction s generalizing k x with
  | nil =>
    rw [List.append_nil] at h
    exact htag k _ (h.append_sep_nil hnl hpat)
  | cons a s ih =>
    rw [tagLines]
    split
    · -- the line `x` ends, and the next one starts with its tag
      next ha =>
      have hx : Avoids pat x := h.of_infix (List.prefix_append _ _).isInfix
      have hs : Avoids pat ([] ++ s) :=
        h.of_infix ((List.suffix_cons a s).isInfix.trans (List.suffix_append _ _).isInfix)
      have hrest := (htag k x hx).append_sep hnl (ih (k + 1) [] hs)
      simpa [List.append_assoc] using hrest
    · have hx : Avoids pat ((x ++ [a]) ++ s) := by simpa [List.append_assoc] using h
      simpa [List.append_assoc] using ih k (x ++ [a]) hx

end TagLines

/-! ### The last occurrence -/

/-- What follows the last occurrence of `pat`, where there is one. -/
def afterLast? [DecidableEq α] (pat : List α) : List α → Option (List α)
  | [] => if pat = [] then some [] else none
  | a :: s =>
    (afterLast? pat s).or (if pat <+: a :: s then some ((a :: s).drop pat.length) else none)

/-- What follows the last occurrence of `pat`, or the whole text. -/
def afterLast [DecidableEq α] (pat s : List α) : List α := (afterLast? pat s).getD s

section AfterLast

variable [DecidableEq α]

lemma afterLast?_of_avoids (hpat : pat ≠ []) (h : Avoids pat s) : afterLast? pat s = none := by
  induction s with
  | nil => exact if_neg hpat
  | cons a s ih =>
    rw [afterLast?, ih (h.of_infix (List.suffix_cons a s).isInfix),
      if_neg fun hp => h hp.isInfix]
    rfl

lemma afterLast?_append (h : afterLast? pat s = some t) (x : List α) :
    afterLast? pat (x ++ s) = some t := by
  induction x with
  | nil => exact h
  | cons a x ih =>
    rw [List.cons_append, afterLast?, ih]
    rfl

/-- Nothing that is written before the last occurrence counts. -/
lemma afterLast_append (hpat : pat ≠ []) (h : Avoids pat (pat.tail ++ t)) (x : List α) :
    afterLast pat (x ++ (pat ++ t)) = t := by
  obtain ⟨a, p, rfl⟩ := List.exists_cons_of_ne_nil hpat
  have hlast : afterLast? (a :: p) (a :: p ++ t) = some t := by
    have hnone : afterLast? (a :: p) (p ++ t) = none := afterLast?_of_avoids hpat h
    have hfirst : a :: p <+: a :: (p ++ t) := List.prefix_append (a :: p) t
    rw [List.cons_append, afterLast?, hnone, Option.none_or, if_pos hfirst]
    simp
  rw [afterLast, afterLast?_append hlast, Option.getD_some]

end AfterLast

/-! ### The first run -/

/-- The leftmost `n` consecutive characters that meet `p`. -/
def firstRun (p : α → Bool) (n : ℕ) : List α → Option (List α)
  | [] => if n = 0 then some [] else none
  | a :: s =>
    if ((a :: s).take n).length = n ∧ ((a :: s).take n).all p then some ((a :: s).take n)
    else firstRun p n s

variable {p : α → Bool} {n : ℕ} {r u : List α}

/-- The search starts again after a character that does not meet `p`. -/
lemma firstRun_append_cons (hn : n ≠ 0) (hc : p c = false) (h : firstRun p n x = none)
    (y : List α) : firstRun p n (x ++ c :: y) = firstRun p n y := by
  induction x with
  | nil =>
    obtain ⟨m, rfl⟩ := Nat.exists_eq_succ_of_ne_zero hn
    rw [List.nil_append, firstRun, if_neg]
    simp [hc]
  | cons a x ih =>
    rw [firstRun] at h
    split_ifs at h with hrun
    rw [List.cons_append, firstRun, if_neg, ih h]
    rintro ⟨hlen, hall⟩
    rcases Nat.lt_or_ge (a :: x).length n with hlt | hge
    · -- the run would contain `c`
      have hmem : c ∈ (a :: (x ++ c :: y)).take n := by
        have hsplit : a :: (x ++ c :: y) = (a :: x) ++ c :: y := rfl
        obtain ⟨m, hm⟩ := Nat.exists_eq_add_of_lt hlt
        have hrest : n - (a :: x).length = m + 1 := by omega
        rw [hsplit, List.take_append, hrest]
        exact List.mem_append_right _ List.mem_cons_self
      have hpc := List.all_eq_true.1 hall c hmem
      rw [hc] at hpc
      cases hpc
    · refine hrun ⟨List.length_take_of_le hge, ?_⟩
      have htake : ((a :: x) ++ c :: y).take n = (a :: x).take n :=
        List.take_append_of_le_length hge
      rw [← List.cons_append, htake] at hall
      exact hall

lemma firstRun_cons (hn : n ≠ 0) (hc : p c = false) (y : List α) :
    firstRun p n (c :: y) = firstRun p n y := by
  have hnil : firstRun p n [] = none := by rw [firstRun, if_neg hn]
  exact firstRun_append_cons hn hc hnil y

lemma firstRun_run (hlen : r.length = n) (hn : n ≠ 0) (hall : ∀ a ∈ r, p a = true)
    (s : List α) : firstRun p n (r ++ s) = some r := by
  have htake : (r ++ s).take n = r := by rw [← hlen, List.take_left']; rfl
  cases r with
  | nil => exact absurd hlen.symm hn
  | cons a r =>
    rw [List.cons_append, firstRun, ← List.cons_append, htake,
      if_pos ⟨hlen, List.all_eq_true.2 hall⟩]

lemma length_of_firstRun (h : firstRun p n s = some r) : n ≤ s.length := by
  induction s with
  | nil =>
    rw [firstRun] at h
    split_ifs at h with hn
    simp [hn]
  | cons a s ih =>
    rw [firstRun] at h
    split_ifs at h with hrun
    · rw [← hrun.1]
      exact List.length_take_le' _ _
    · exact (ih h).trans (Nat.le_succ _)

/-- What is written after the first run does not count. -/
lemma firstRun_append (h : firstRun p n s = some r) (u : List α) :
    firstRun p n (s ++ u) = some r := by
  induction s with
  | nil =>
    rw [firstRun] at h
    split_ifs at h with hn
    cases h
    subst hn
    cases u <;> simp [firstRun]
  | cons a s ih =>
    have htake : ((a :: s) ++ u).take n = (a :: s).take n :=
      List.take_append_of_le_length (length_of_firstRun h)
    rw [firstRun] at h
    rw [List.cons_append] at htake
    rw [List.cons_append, firstRun, htake]
    split_ifs at h ⊢ with hrun
    · exact h
    · exact ih h

end TextSearch
