/-
The replay guard (`common/replay.py`): the highest accepted sequence number of each
device.

The guard is generic in its dictionary keys: the gateway looks up strings, the cloud
looks up whatever value the reading carries.  `checkAndUpdate_cases` says everything
that one call can do.
-/
import PqcBridge.Python.Value

namespace PqcBridge

/-- `ReplayGuard`. -/
structure ReplayGuard (κ : Type) where
  lastSequence : κ → Option ℤ

namespace ReplayGuard

variable {κ : Type}

/-- `ReplayGuard()`. -/
def empty : ReplayGuard κ := ⟨fun _ => none⟩

/-- `_last_sequence.get(device_id, 0)`. -/
def last (g : ReplayGuard κ) (deviceId : κ) : ℤ := (g.lastSequence deviceId).getD 0

variable [DecidableEq κ]

/-- `check_and_update`: whether the sequence is newer than the last accepted one, and
the guard afterwards. -/
def checkAndUpdate (g : ReplayGuard κ) (deviceId : κ) (sequence : ℤ) : Bool × ReplayGuard κ :=
  if sequence ≤ g.last deviceId then (false, g)
  else (true, ⟨Function.update g.lastSequence deviceId (some sequence)⟩)

variable {g : ReplayGuard κ} {d e : κ} {s : ℤ}

lemma checkAndUpdate_of_le (h : s ≤ g.last d) : g.checkAndUpdate d s = (false, g) := by
  simp [checkAndUpdate, h]

lemma checkAndUpdate_of_lt (h : g.last d < s) :
    g.checkAndUpdate d s = (true, ⟨Function.update g.lastSequence d (some s)⟩) := by
  simp [checkAndUpdate, h]

/-- A call is refused and changes nothing, or it is accepted and records the
sequence. -/
lemma checkAndUpdate_cases (g : ReplayGuard κ) (d : κ) (s : ℤ) :
    (s ≤ g.last d ∧ g.checkAndUpdate d s = (false, g)) ∨
      (g.last d < s ∧
        g.checkAndUpdate d s = (true, ⟨Function.update g.lastSequence d (some s)⟩)) := by
  rcases le_or_gt s (g.last d) with h | h
  · exact Or.inl ⟨h, checkAndUpdate_of_le h⟩
  · exact Or.inr ⟨h, checkAndUpdate_of_lt h⟩

omit [DecidableEq κ] in
@[simp] lemma last_empty : (empty : ReplayGuard κ).last d = 0 := rfl

/-- The last sequences after one has been recorded. -/
lemma last_update (g : ReplayGuard κ) (d e : κ) (s : ℤ) :
    last ⟨Function.update g.lastSequence d (some s)⟩ e = if e = d then s else g.last e := by
  by_cases h : e = d <;> simp [last, h]

/-- An accepted call lowers no last sequence. -/
lemma le_last_update (h : g.last d < s) (e : κ) :
    g.last e ≤ last ⟨Function.update g.lastSequence d (some s)⟩ e := by
  rw [last_update]
  split_ifs with he
  · rw [he]
    exact h.le
  · exact le_rfl

/-- The answer depends on the entry of the device alone. -/
lemma checkAndUpdate_fst_congr {g' : ReplayGuard κ}
    (h : g.lastSequence d = g'.lastSequence d) :
    (g.checkAndUpdate d s).1 = (g'.checkAndUpdate d s).1 := by
  have hlast : g.last d = g'.last d := by rw [last, last, h]
  unfold checkAndUpdate
  rw [hlast]
  split <;> rfl

/-- A call leaves the entries of the other devices alone. -/
lemma checkAndUpdate_of_ne (h : e ≠ d) :
    (g.checkAndUpdate d s).2.lastSequence e = g.lastSequence e := by
  unfold checkAndUpdate
  split
  · rfl
  · exact Function.update_of_ne h _ _

/-- The new entry of the device depends on its old entry alone. -/
lemma checkAndUpdate_snd_congr {g' : ReplayGuard κ}
    (h : g.lastSequence d = g'.lastSequence d) :
    (g.checkAndUpdate d s).2.lastSequence d = (g'.checkAndUpdate d s).2.lastSequence d := by
  have hlast : g.last d = g'.last d := by rw [last, last, h]
  unfold checkAndUpdate
  rw [hlast]
  split
  · exact h
  · simp

end ReplayGuard

end PqcBridge
