/-
The bounded store of readings (`cloud/store.py`).

`history` records every reading that was ever added; the deque holds the last
`maxReadings` of it, which is a field of the structure.
-/
import PqcBridge.Python.Value

namespace PqcBridge.Cloud

open Python

/-- `ReadingStore`, oldest reading first. -/
structure ReadingStore where
  maxReadings : ℕ
  readings : List JsonDict
  /-- Every reading ever added. -/
  history : List JsonDict
  held : readings = history.drop (history.length - maxReadings)

namespace ReadingStore

/-- `ReadingStore(max_readings)`. -/
def empty (maxReadings : ℕ) : ReadingStore := ⟨maxReadings, [], [], by simp⟩

/-- What a full deque drops when one reading is appended. -/
lemma append_drop_held (n : ℕ) (h : List JsonDict) (r : JsonDict) :
    (h.drop (h.length - n) ++ [r]).drop ((h.drop (h.length - n) ++ [r]).length - n)
      = (h ++ [r]).drop ((h ++ [r]).length - n) := by
  rcases Nat.le_total (h.length + 1) n with hn | hn
  · have h0 : h.length - n = 0 := by omega
    simp [h0]
  · have hlen : (h.drop (h.length - n) ++ [r]).length - n = h.length + 1 - n - (h.length - n) := by
      simp
      omega
    rw [hlen, ← List.drop_append_of_le_length (by omega : h.length - n ≤ h.length),
      List.drop_drop]
    congr 1
    simp
    omega

/-- `add`: the reading is appended, and the deque keeps the last `maxReadings`. -/
def add (s : ReadingStore) (reading : JsonDict) : ReadingStore where
  maxReadings := s.maxReadings
  readings := (s.readings ++ [reading]).drop ((s.readings ++ [reading]).length - s.maxReadings)
  history := s.history ++ [reading]
  held := by rw [s.held, append_drop_held]

@[simp] lemma add_history (s : ReadingStore) (r : JsonDict) :
    (s.add r).history = s.history ++ [r] := rfl

@[simp] lemma empty_history (n : ℕ) : (empty n).history = [] := rfl

end ReadingStore

end PqcBridge.Cloud
