/-
The counters (`common/metrics.py`).  Only the counters are modelled: the observations
are timings and sizes that no decision of the program reads.
-/
import PqcBridge.Python.Value

namespace PqcBridge

/-- The names of the counters. -/
inductive Counter where
  | deviceConnections
  | gatewayConnections
  | messagesReceived
  | messagesProcessed
  | messagesForwarded
  | messagesRejected
  | errors
  | fallbackActivations
  | legacyDevicesDetected
  | mlkemSessionsEstablished
deriving DecidableEq, Repr

/-- The values of the counters. -/
abbrev Metrics : Type := Counter → ℕ

namespace Metrics

/-- `Metrics()`. -/
def zero : Metrics := fun _ => 0

/-- `inc`. -/
def inc (m : Metrics) (name : Counter) : Metrics := Function.update m name (m name + 1)

@[simp] lemma inc_self (m : Metrics) (c : Counter) : m.inc c c = m c + 1 := by
  simp [inc]

@[simp] lemma inc_of_ne {m : Metrics} {c d : Counter} (h : d ≠ c) : m.inc c d = m d := by
  simp [inc, h]

lemma inc_apply (m : Metrics) (c d : Counter) : m.inc c d = m d + if d = c then 1 else 0 := by
  rcases eq_or_ne d c with rfl | h
  · simp
  · simp [h]

end Metrics

end PqcBridge
