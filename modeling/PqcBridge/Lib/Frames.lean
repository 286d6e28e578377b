/-
Frames on a stream that is written in pieces.

A frame is handed to a stream piece by piece, and the writer may give up in the middle.
While one writer at a time works on a stream, what is on it are the frames that were
finished, and after them what the last writer has written of its own.

* `Clean`: only finished frames are there;
* `Writing`: a writer has `rest` of its frame left;
* `Torn`: the last frame may be incomplete.
-/
import Mathlib

namespace Frames

variable {μ α : Type*}

/-- A stream: the frames that were finished, which is a record, and what is on it. -/
structure Pipe (μ α : Type*) where
  finished : List μ
  content : List α

namespace Pipe

/-- A stream on which nothing has been written. -/
def empty : Pipe μ α := ⟨[], []⟩

/-- Something is written. -/
def put (s : Pipe μ α) (xs : List α) : Pipe μ α := { s with content := s.content ++ xs }

/-- A frame is finished. -/
def finish (s : Pipe μ α) (m : μ) : Pipe μ α := { s with finished := s.finished ++ [m] }

@[simp] lemma put_finished (s : Pipe μ α) (xs : List α) : (s.put xs).finished = s.finished := rfl

@[simp] lemma put_content (s : Pipe μ α) (xs : List α) :
    (s.put xs).content = s.content ++ xs := rfl

@[simp] lemma finish_finished (s : Pipe μ α) (m : μ) :
    (s.finish m).finished = s.finished ++ [m] := rfl

@[simp] lemma finish_content (s : Pipe μ α) (m : μ) : (s.finish m).content = s.content := rfl

end Pipe

variable (encode : μ → List α)

/-- There are finished frames only. -/
def Clean (s : Pipe μ α) : Prop := s.content = s.finished.flatMap encode

/-- Behind the finished frames a writer has begun with `m`, and has `rest` left to write. -/
def Writing (s : Pipe μ α) (m : μ) (rest : List α) : Prop :=
  ∃ written, s.content = s.finished.flatMap encode ++ written ∧ written ++ rest = encode m

/-- Behind the finished frames there is at most a beginning of one more. -/
def Torn (s : Pipe μ α) : Prop :=
  ∃ written m rest, s.content = s.finished.flatMap encode ++ written ∧ written ++ rest = encode m ∧
    rest ≠ []

variable {encode} {s : Pipe μ α} {m : μ} {rest : List α}

lemma clean_empty : Clean encode (Pipe.empty : Pipe μ α) := rfl

/-- A writer begins. -/
lemma Clean.begin (h : Clean encode s) (m : μ) : Writing encode s m (encode m) :=
  ⟨[], by rw [List.append_nil]; exact h, rfl⟩

/-- The writer writes a piece. -/
lemma Writing.put (h : Writing encode s m rest) (n : ℕ) :
    Writing encode (s.put (rest.take n)) m (rest.drop n) := by
  obtain ⟨written, hcontent, hframe⟩ := h
  refine ⟨written ++ rest.take n, ?_, ?_⟩
  · rw [Pipe.put_content, Pipe.put_finished, hcontent, List.append_assoc]
  · rw [List.append_assoc, List.take_append_drop, hframe]

/-- The writer has written everything. -/
lemma Writing.finish (h : Writing encode s m []) : Clean encode (s.finish m) := by
  obtain ⟨written, hcontent, hframe⟩ := h
  rw [List.append_nil] at hframe
  subst hframe
  show s.content = (s.finished ++ [m]).flatMap encode
  rw [hcontent, List.flatMap_append, List.flatMap_singleton]

/-- The writer gives up. -/
lemma Writing.torn (h : Writing encode s m rest) (hrest : rest ≠ []) : Torn encode s := by
  obtain ⟨written, hcontent, hframe⟩ := h
  exact ⟨written, m, rest, hcontent, hframe, hrest⟩

/-- Where there are finished frames only, the next one has not begun. -/
lemma Clean.torn [Inhabited μ] (hne : ∀ m, encode m ≠ []) (h : Clean encode s) : Torn encode s :=
  (h.begin default).torn (hne default)

end Frames
