/-
The replay guard over its whole history.

The calls of `check_and_update` take one lock, so that whatever the threads do there is one
list of calls; `log` has their answers.

* `Tracks`: the entry of a device is the highest sequence that has been accepted for it;
* `guard_semantics`: what is accepted, in terms of what has been accepted before.
-/
import PqcBridge.Common.Replay
import PqcBridge.Lib.Run

namespace PqcBridge.ReplayGuard

open Runs

/-- A call of `check_and_update`. -/
structure Call (κ : Type) where
  deviceId : κ
  sequence : ℤ

variable {κ : Type} [DecidableEq κ]

/-- The guard after a call. -/
def call (g : ReplayGuard κ) (c : Call κ) : ReplayGuard κ :=
  (g.checkAndUpdate c.deviceId c.sequence).2

/-- The answer to a call. -/
def answer (g : ReplayGuard κ) (c : Call κ) : Bool := (g.checkAndUpdate c.deviceId c.sequence).1

/-- The calls, each with its answer. -/
def log : ReplayGuard κ → List (Call κ) → List (Call κ × Bool)
  | _, [] => []
  | g, c :: cs => (c, g.answer c) :: log (g.call c) cs

/-- The sequences that have been accepted for a device, in their order. -/
def accepted (g : ReplayGuard κ) (cs : List (Call κ)) (d : κ) : List ℤ :=
  ((log g cs).filter fun x => x.2 && x.1.deviceId = d).map fun x => x.1.sequence

variable {g : ReplayGuard κ} {c : Call κ} {cs : List (Call κ)} {d : κ}

lemma log_append (cs₁ cs₂ : List (Call κ)) :
    log g (cs₁ ++ cs₂) = log g cs₁ ++ log (run call g cs₁) cs₂ := by
  induction cs₁ generalizing g with
  | nil => rfl
  | cons c cs₁ ih => simp [log, ih]

/-- One more call. -/
lemma accepted_concat (g : ReplayGuard κ) (cs : List (Call κ)) (c : Call κ) (d : κ) :
    accepted g (cs ++ [c]) d = accepted g cs d ++
      if (run call g cs).answer c = true ∧ c.deviceId = d then [c.sequence] else [] := by
  rw [accepted, log_append, List.filter_append, List.map_append, ← accepted]
  congr 1
  by_cases h : (run call g cs).answer c = true ∧ c.deviceId = d
  · rw [if_pos h]
    simp [log, h.1, h.2]
  · rw [if_neg h]
    rw [not_and] at h
    simp only [log]
    rw [List.filter_cons_of_neg (by simpa using h)]
    rfl

/-! ### The entry of a device -/

/-- The entry of the device is the highest sequence that has been accepted for it, where there
is one. -/
structure Tracks (g : ReplayGuard κ) (d : κ) (accepted : List ℤ) : Prop where
  nonneg : 0 ≤ g.last d
  le : ∀ s ∈ accepted, s ≤ g.last d
  mem : g.last d = 0 ∨ g.last d ∈ accepted

lemma answer_eq_true_iff : g.answer c = true ↔ g.last c.deviceId < c.sequence := by
  rcases g.checkAndUpdate_cases c.deviceId c.sequence with ⟨hle, h⟩ | ⟨hlt, h⟩
  · simp only [answer, h, Bool.false_eq_true, false_iff, not_lt]
    exact hle
  · simp only [answer, h, true_iff]
    exact hlt

lemma call_of_refused (h : g.answer c = false) : g.call c = g := by
  rcases g.checkAndUpdate_cases c.deviceId c.sequence with ⟨-, hc⟩ | ⟨-, hc⟩
  · rw [call, hc]
  · rw [answer, hc] at h
    cases h

lemma last_call_of_accepted (h : g.answer c = true) (d : κ) :
    (g.call c).last d = if d = c.deviceId then c.sequence else g.last d := by
  rw [call, checkAndUpdate_of_lt (answer_eq_true_iff.1 h), last_update]

omit [DecidableEq κ] in
lemma tracks_empty (d : κ) : Tracks (empty : ReplayGuard κ) d [] where
  nonneg := le_rfl
  le := by simp
  mem := Or.inl rfl

omit [DecidableEq κ] in
/-- What is newer than the entry is newer than everything that has been accepted. -/
lemma Tracks.lt_iff {l : List ℤ} (h : Tracks g d l) {s : ℤ} :
    g.last d < s ↔ 0 < s ∧ ∀ s' ∈ l, s' < s := by
  constructor
  · intro hlt
    exact ⟨h.nonneg.trans_lt hlt, fun s' hs' => (h.le s' hs').trans_lt hlt⟩
  · rintro ⟨hpos, hall⟩
    rcases h.mem with hzero | hmem
    · rw [hzero]
      exact hpos
    · exact hall _ hmem

/-- The entries track the accepted sequences over every list of calls. -/
lemma tracks_run (cs : List (Call κ)) (d : κ) :
    Tracks (run call empty cs) d (accepted empty cs d) := by
  -- on the last call, since the guard of a run is the guard before it and one more call
  induction cs using List.reverseRecOn with
  | nil => exact tracks_empty d
  | append_singleton cs c ih =>
    rw [run_append, accepted_concat]
    generalize run call empty cs = g at ih ⊢
    generalize accepted empty cs d = l at ih ⊢
    show Tracks (g.call c) d _
    cases hanswer : g.answer c with
    | false =>
      rw [call_of_refused hanswer, if_neg (by simp), List.append_nil]
      exact ih
    | true =>
      have hlast := last_call_of_accepted hanswer d
      have hlt := answer_eq_true_iff.1 hanswer
      by_cases hd : c.deviceId = d
      -- the call of the device itself is the new maximum
      · subst hd
        rw [if_pos rfl] at hlast
        rw [if_pos ⟨rfl, rfl⟩]
        have hnew := ih.lt_iff.1 hlt
        refine ⟨?_, ?_, ?_⟩
        · rw [hlast]
          exact hnew.1.le
        · intro s hs
          rw [hlast]
          rcases List.mem_append.1 hs with hs | hs
          · exact (hnew.2 s hs).le
          · exact (List.mem_singleton.1 hs).le
        · rw [hlast]
          exact Or.inr (by simp)
      · rw [if_neg (Ne.symm hd)] at hlast
        rw [if_neg fun h => hd h.2, List.append_nil]
        refine ⟨?_, ?_, ?_⟩
        · rw [hlast]
          exact ih.nonneg
        · rw [hlast]
          exact ih.le
        · rw [hlast]
          exact ih.mem

/-! ### The answers -/

/-- What is accepted increases strictly. -/
lemma accepted_pairwise (cs : List (Call κ)) (d : κ) :
    (accepted empty cs d).Pairwise (· < ·) := by
  induction cs using List.reverseRecOn with
  | nil => exact List.Pairwise.nil
  | append_singleton cs c ih =>
    rw [accepted_concat]
    split_ifs with h
    · obtain ⟨hanswer, rfl⟩ := h
      have hnew := ((tracks_run cs c.deviceId).lt_iff.1 (answer_eq_true_iff.1 hanswer)).2
      refine List.pairwise_append.2 ⟨ih, List.pairwise_singleton _ _, fun s hs t ht => ?_⟩
      rw [List.mem_singleton.1 ht]
      exact hnew s hs
    · rw [List.append_nil]
      exact ih

/-- Two guards with the same entry of a device answer the calls for it in the same way,
whatever other calls the first one gets in between. -/
lemma log_filter {g' : ReplayGuard κ} (h : g.lastSequence d = g'.lastSequence d)
    (cs : List (Call κ)) :
    (log g cs).filter (fun x => x.1.deviceId = d)
      = log g' (cs.filter fun c => c.deviceId = d) := by
  induction cs generalizing g g' with
  | nil => rfl
  | cons c cs ih =>
    by_cases hd : c.deviceId = d
    · subst hd
      have hanswer : g.answer c = g'.answer c := checkAndUpdate_fst_congr h
      have hnext : (g.call c).lastSequence c.deviceId = (g'.call c).lastSequence c.deviceId :=
        checkAndUpdate_snd_congr h
      rw [log, List.filter_cons_of_pos (by simp), List.filter_cons_of_pos (by simp), log, hanswer,
        ih hnext]
    · have hnext : (g.call c).lastSequence d = g'.lastSequence d :=
        (checkAndUpdate_of_ne (Ne.symm hd)).trans h
      rw [log, List.filter_cons_of_neg (by simpa using hd),
        List.filter_cons_of_neg (by simpa using hd), ih hnext]

/-- **Replay guard semantics**, over every list of calls from a fresh guard: a call is accepted
exactly where its sequence is positive and newer than everything accepted for its device; what
is accepted for a device increases strictly; a refused call changes nothing; and the answers for
a device are those of its own calls alone. -/
theorem guard_semantics (cs : List (Call κ)) :
    (∀ c, (run call empty cs).answer c = true ↔
      0 < c.sequence ∧ ∀ s ∈ accepted empty cs c.deviceId, s < c.sequence) ∧
    (∀ d, (accepted empty cs d).Pairwise (· < ·) ∧ (accepted empty cs d).Nodup) ∧
    (∀ c, (run call empty cs).answer c = false → (run call empty cs).call c = run call empty cs) ∧
    ∀ d, (log empty cs).filter (fun x => x.1.deviceId = d)
      = log empty (cs.filter fun c => c.deviceId = d) := by
  refine ⟨fun c => ?_, fun d => ⟨accepted_pairwise cs d, ?_⟩, fun c => call_of_refused,
    fun d => log_filter rfl cs⟩
  · rw [answer_eq_true_iff]
    exact (tracks_run cs c.deviceId).lt_iff
  · exact (accepted_pairwise cs d).imp fun h => h.ne

end PqcBridge.ReplayGuard
