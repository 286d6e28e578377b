/-
A process that runs the device (`run` of `device/device.py`), with its readings
(`device/sensor.py`) and its state file (`device/state.py`).

`RunEvent` is what happens next: a step of `run` with the outcome of its calls, or a kill.
The steps stop where the counter in memory, the counter in the file and the messages on the
wire change, so that the process can be stopped between any two of them.

* `loadSequence_saveSequence`: what is saved is loaded again;
* `parseReadingBytes_readingToBytes`: what `json.loads` undoes is a well-formed reading.
-/
import PqcBridge.Device.Device
import PqcBridge.Python.Number

namespace PqcBridge.Device

open Python Protocol Crypto

variable {B : Type}

/-! ### Readings -/

/-- `generate_reading`. -/
def generateReading (deviceId : PyStr) (sequence : ℤ) (timestamp : PyStr)
    (temperature : PyFloat) : JsonDict :=
  [(lit "device_id", .str deviceId), (lit "timestamp", .str timestamp),
    (lit "temperature_c", .float temperature), (lit "unit", .str (lit "celsius")),
    (lit "sequence", .int sequence)]

/-- `reading_to_bytes`.  The text is ASCII, so that encoding it cannot fail. -/
def readingToBytes (P : Primitives B) (reading : JsonDict) : B :=
  P.utf8 (dumps P.floatText (.obj reading))

/-- `json.loads` undoes `json.dumps` on the reading. -/
def LoadsBack (P : Primitives B) (reading : JsonDict) : Prop :=
  P.loads (readingToBytes P reading) = .ok (.obj reading)

/-- A reading of the device is a well-formed reading. -/
lemma parseReadingBytes_readingToBytes {P : Primitives B} {deviceId timestamp : PyStr}
    {sequence : ℤ} {temperature : PyFloat}
    (h : LoadsBack P (generateReading deviceId sequence timestamp temperature)) :
    parseReadingBytes P (readingToBytes P (generateReading deviceId sequence timestamp temperature))
      = .ok (generateReading deviceId sequence timestamp temperature) := by
  unfold LoadsBack at h
  simp only [parseReadingBytes, h]
  rfl

/-! ### The state file -/

/-- `load_sequence`; `none` is a file that cannot be read as text. -/
def loadSequence : Option PyStr → ℤ
  | none => 0
  | some text => (parseInt text).getD 0

/-- The file after `save_sequence`. -/
def saveSequence (sequence : ℤ) : Option PyStr := some (decimal sequence)

@[simp] lemma loadSequence_saveSequence (n : ℤ) : loadSequence (saveSequence n) = n := by
  rw [saveSequence, loadSequence, parseInt_decimal]
  rfl

@[simp] lemma loadSequence_none : loadSequence none = 0 := rfl

/-! ### The process -/

/-- Where a process stands. -/
inductive RunPc (B : Type) where
  /-- no process is running -/
  | stopped
  /-- `load_sequence` has returned -/
  | loaded (sequence : ℤ)
  /-- `create_connection` has returned -/
  | connected (sequence : ℤ)
  /-- the top of the loop -/
  | looping (sequence : ℤ)
  /-- before the `sendall` of a reading -/
  | built (sequence : ℤ) (reading message : JsonDict)
  /-- before `save_sequence` -/
  | sent (sequence : ℤ)

/-- A process and its state file. -/
structure Process (B : Type) where
  file : Option PyStr
  pc : RunPc B

/-- How a `sendall` ends; one that raises may have put the message on the wire. -/
inductive SendOutcome where
  | ok
  | failed (arrived : Bool)

/-- Whether the message is on the wire. -/
def SendOutcome.arrives : SendOutcome → Bool
  | .ok => true
  | .failed arrived => arrived

/-- What happens to a process. -/
inductive RunEvent (B : Type) where
  /-- the process is started, and reads the state file -/
  | start
  /-- `create_connection` -/
  | connect (io : Gateway.IoOutcome)
  /-- `build_hello` and its `sendall` -/
  | hello (nonce : B) (outcome : SendOutcome)
  /-- a reading is generated, encrypted and encoded -/
  | build (timestamp : PyStr) (temperature : PyFloat) (nonce : B)
  /-- the `sendall` of the reading -/
  | send (outcome : SendOutcome)
  /-- `save_sequence`, and the rest of the loop body -/
  | save (io : Gateway.IoOutcome)
  /-- the process is killed -/
  | stop

variable (P : Primitives B) (deviceId : PyStr) (key : B)

/-- One step of a process.  An exception ends it. -/
def runStep (p : Process B) : RunEvent B → Process B
  | .start =>
    match p.pc with
    | .stopped => { p with pc := .loaded (loadSequence p.file) }
    | _ => p
  | .connect io =>
    match p.pc, io with
    | .loaded n, .ok => { p with pc := .connected n }
    | .loaded _, .osError _ => { p with pc := .stopped }
    | _, _ => p
  | .hello nonce outcome =>
    match p.pc, helloMessage P deviceId key nonce, outcome with
    | .connected n, .ok _, .ok => { p with pc := .looping n }
    | .connected _, _, _ => { p with pc := .stopped }
    | _, _, _ => p
  | .build timestamp temperature nonce =>
    match p.pc with
    | .looping n =>
      -- `sequence += 1` comes before the reading is generated
      let reading := generateReading deviceId (n + 1) timestamp temperature
      match legacyReading P deviceId key (n + 1) (readingToBytes P reading) nonce with
      | .ok message => { p with pc := .built (n + 1) reading message }
      | .error _ => { p with pc := .stopped }
    | _ => p
  | .send outcome =>
    match p.pc, outcome with
    | .built n _ _, .ok => { p with pc := .sent n }
    | .built _ _ _, .failed _ => { p with pc := .stopped }
    | _, _ => p
  | .save io =>
    match p.pc, io with
    | .sent n, .ok => ⟨saveSequence n, .looping n⟩
    | .sent _, .osError _ => { p with pc := .stopped }
    | _, _ => p
  | .stop => { p with pc := .stopped }

/-- The hello that a step puts on the wire. -/
def helloSent (pc : RunPc B) : RunEvent B → Option JsonDict
  | .hello nonce outcome =>
    match pc, helloMessage P deviceId key nonce with
    | .connected _, .ok message => if outcome.arrives then some message else none
    | _, _ => none
  | _ => none

/-- The reading that a step puts on the wire, with its sequence and its message. -/
def readingSent : RunPc B → RunEvent B → Option (ℤ × JsonDict × JsonDict)
  | .built sequence reading message, .send outcome =>
    if outcome.arrives then some (sequence, reading, message) else none
  | _, _ => none

variable {P deviceId key}

/-- A reading that is put on the wire was built. -/
lemma readingSent_eq_some {pc : RunPc B} {ev : RunEvent B} {n : ℤ} {r m : JsonDict}
    (h : readingSent pc ev = some (n, r, m)) :
    pc = .built n r m ∧ ∃ outcome, ev = .send outcome ∧ outcome.arrives = true := by
  unfold readingSent at h
  split at h
  · next outcome =>
    split_ifs at h with harrives
    cases h
    exact ⟨rfl, outcome, rfl, harrives⟩
  · cases h

/-- Where a process has built a reading, it is the next one. -/
lemma built_cases {p : Process B} {ev : RunEvent B} {n : ℤ} {r m : JsonDict}
    (h : (runStep P deviceId key p ev).pc = .built n r m) (hp : p.pc ≠ .built n r m) :
    ∃ k timestamp temperature nonce, ev = .build timestamp temperature nonce ∧
      p.pc = .looping k ∧ n = k + 1 ∧ r = generateReading deviceId (k + 1) timestamp temperature ∧
      legacyReading P deviceId key (k + 1) (readingToBytes P
        (generateReading deviceId (k + 1) timestamp temperature)) nonce = .ok m := by
  cases ev with
  | build timestamp temperature nonce =>
    simp only [runStep] at h
    split at h
    · next k hk =>
      split at h
      · next m' hm =>
        cases h
        exact ⟨k, timestamp, temperature, nonce, rfl, hk, rfl, rfl, hm⟩
      · cases h
    · exact absurd h hp
  | stop => cases h
  | _ =>
    -- no other step leads there
    simp only [runStep] at h
    split at h <;> first | exact absurd h hp | cases h

/-! ### The demo -/

/-- The readings of the demo: two devices, and the first three readings of each. -/
def sensorReadings : List (PyStr × ℕ) :=
  [(lit "dev-01", 1), (lit "dev-01", 2), (lit "dev-01", 3), (lit "dev-02", 1), (lit "dev-02", 2),
    (lit "dev-02", 3)]

/-- The time of every reading of the demo. -/
def sensorTime : PyStr := lit "2026-01-01T00:00:00+00:00"

/-- A reading of the demo. -/
def sensorReading (x : PyStr × ℕ) : JsonDict := generateReading x.1 x.2 sensorTime (.finite 21)

/-- Its bytes. -/
def sensorBytes (x : PyStr × ℕ) : Bytes := readingToBytes (ideal fun _ => none) (sensorReading x)

/-- The value of a text of which it is known what it was written from. -/
def sensorLoads : Option (PyStr × ℕ) → Except LoadsError Json
  | some x => .ok (.obj (sensorReading x))
  | none => .error .valueError

/-- Symbolic byte strings, where `json.loads` undoes `json.dumps` on the readings of the
demo. -/
def sensorPrimitives : Primitives Bytes :=
  { ideal fun _ => none with
    loads := fun b => sensorLoads (sensorReadings.find? fun x => sensorBytes x = b) }

lemma sensorPrimitives_lawful : sensorPrimitives.Lawful :=
  have h := ideal_lawful fun _ => none
  ⟨h.b64_roundtrip, h.b64_ne_nil, h.decrypt_encrypt, h.encrypt_len, h.publicKey_len,
    h.publicKey_valid, h.ciphertext_len, h.decapsulate_encapsulate⟩

lemma loadsBack_sensorReading {x : PyStr × ℕ} (hx : x ∈ sensorReadings) :
    LoadsBack sensorPrimitives (sensorReading x) := by
  have hfind : ∀ x ∈ sensorReadings,
      (sensorReadings.find? fun y => sensorBytes y = sensorBytes x) = some x := by
    decide +kernel
  show sensorLoads (sensorReadings.find? fun y => sensorBytes y = sensorBytes x) = _
  rw [hfind x hx]
  rfl

end PqcBridge.Device
