/-
The counter of a device over restarts.

The process may end at any step, by a kill or by an exception, and is started again from
the state file, any number of times.  `wire` records the readings that it puts on the wire,
and which of them is the first one after a start.

* `SavedBeforeStop`: the process does not end while a reading is on the wire whose sequence
  is not yet in the file;
* `counter_survives_restarts`: in the runs that keep to this, no two messages on the wire
  have the same sequence, and a gateway that has read anything that was sent before accepts
  the first reading after every restart.
-/
import PqcBridge.Device.Run

namespace PqcBridge.Device.Restart

open Python Protocol Crypto Runs

variable {B : Type}

/-! ### The system -/

/-- A reading on the wire; `first` is whether it is the first one since the process was
started. -/
structure OnWire where
  first : Bool
  sequence : ℤ
  reading : JsonDict
  message : JsonDict

/-- The process, what it has put on the wire, the latest reading first, and whether it has
put none there since it was started. -/
structure State (B : Type) where
  process : Process B
  fresh : Bool
  wire : List OnWire

variable (P : Primitives B) (deviceId : PyStr) (key : B)

/-- Whether a process is started. -/
def starts : RunPc B → RunEvent B → Bool
  | .stopped, .start => true
  | _, _ => false

/-- One step of the process. -/
def step (s : State B) (ev : RunEvent B) : State B where
  process := runStep P deviceId key s.process ev
  fresh := starts s.process.pc ev || (s.fresh && (readingSent s.process.pc ev).isNone)
  wire := ((readingSent s.process.pc ev).map fun x => ⟨s.fresh, x.1, x.2.1, x.2.2⟩).toList ++ s.wire

/-- Before the first start, with the file as it is. -/
def initial (file : Option PyStr) : State B := ⟨⟨file, .stopped⟩, false, []⟩

/-- The process does not end while a reading is on the wire whose sequence is not yet in
the file: it is not killed there, `save_sequence` does not raise, and a `sendall` that
raises has not put its message on the wire. -/
def SavedBeforeStop (s : State B) (ev : RunEvent B) : Prop :=
  (∀ n, s.process.pc = .sent n → ev ≠ .stop ∧ ∀ msg, ev ≠ .save (.osError msg)) ∧
    ∀ n r m, s.process.pc = .built n r m → ev ≠ .send (.failed true)

/-- What is drawn and generated: nonces of 12 bytes, and readings that `json.loads` gives
back. -/
def Generated (s : State B) (ev : RunEvent B) : Prop :=
  ∀ timestamp temperature nonce n, ev = .build timestamp temperature nonce →
    s.process.pc = .looping n → P.len nonce = nonceLength ∧
      LoadsBack P (generateReading deviceId (n + 1) timestamp temperature)

/-! ### The counters -/

/-- The counter in memory and the counter in the file. -/
def CountersOk (file : Option PyStr) : RunPc B → Prop
  | .stopped => True
  | .loaded n => n = loadSequence file
  | .connected n => n = loadSequence file
  | .looping n => n = loadSequence file
  | .built n _ _ => n = loadSequence file + 1
  | .sent n => n = loadSequence file + 1

/-- The highest sequence that may be on the wire. -/
def highest (p : Process B) : ℤ :=
  match p.pc with
  | .sent n => n
  | _ => loadSequence p.file

/-- The gateway decrypts the message to the reading. -/
def Decrypts (sequence : ℤ) (reading message : JsonDict) : Prop :=
  Gateway.decryptLegacyMessage P message key deviceId = .ok (readingToBytes P reading, sequence)

variable {P deviceId key} {s : State B} {ev : RunEvent B}

/-- The invariant about the counters and the wire; `start` is the counter of the first
file. -/
structure Ok (start : ℤ) (s : State B) : Prop where
  counters : CountersOk s.process.file s.process.pc
  wire : ∀ x ∈ s.wire, start < x.sequence ∧ x.sequence ≤ highest s.process
  start : start ≤ loadSequence s.process.file
  increasing : s.wire.Pairwise fun x y => y.sequence < x.sequence

/-- A step that puts nothing on the wire. -/
lemma Ok.quiet {start : ℤ} (h : Ok start s) {p : Process B} {fresh : Bool}
    (hcounters : CountersOk p.file p.pc) (hhighest : highest s.process ≤ highest p)
    (hstart : start ≤ loadSequence p.file) : Ok start ⟨p, fresh, s.wire⟩ :=
  ⟨hcounters, fun x hx => ⟨(h.wire x hx).1, (h.wire x hx).2.trans hhighest⟩, hstart, h.increasing⟩

/-- `send_hello` leaves the counter alone. -/
lemma Ok.hello {start : ℤ} (h : Ok start s) (nonce : B) (outcome : SendOutcome) :
    Ok start (Restart.step P deviceId key s (.hello nonce outcome)) := by
  obtain ⟨⟨file, pc⟩, fresh, wire⟩ := s
  have hcounters := h.counters
  cases pc with
  | connected n =>
    have hpc : runStep P deviceId key ⟨file, .connected n⟩ (.hello nonce outcome)
          = ⟨file, .looping n⟩ ∨
        runStep P deviceId key ⟨file, .connected n⟩ (.hello nonce outcome) = ⟨file, .stopped⟩ := by
      rcases hm : helloMessage P deviceId key nonce with e | m <;> cases outcome <;>
        simp [runStep, hm]
    rcases hpc with hpc | hpc
    · simp only [Restart.step, hpc]
      exact h.quiet hcounters le_rfl h.start
    · simp only [Restart.step, hpc]
      exact h.quiet trivial le_rfl h.start
  | _ => exact h.quiet hcounters le_rfl h.start

/-- A reading that is built takes the next sequence. -/
lemma Ok.build {start : ℤ} (h : Ok start s) (timestamp : PyStr) (temperature : PyFloat)
    (nonce : B) :
    Ok start (Restart.step P deviceId key s (.build timestamp temperature nonce)) := by
  obtain ⟨⟨file, pc⟩, fresh, wire⟩ := s
  have hcounters := h.counters
  cases pc with
  | looping n =>
    have hn : n = loadSequence file := hcounters
    rcases hm : legacyReading P deviceId key (n + 1)
      (readingToBytes P (generateReading deviceId (n + 1) timestamp temperature)) nonce with e | m
    · have hpc : runStep P deviceId key ⟨file, .looping n⟩ (.build timestamp temperature nonce)
          = ⟨file, .stopped⟩ := by
        simp only [runStep, hm]
      simp only [Restart.step, hpc]
      exact h.quiet trivial le_rfl h.start
    · have hpc : runStep P deviceId key ⟨file, .looping n⟩ (.build timestamp temperature nonce)
          = ⟨file, .built (n + 1) (generateReading deviceId (n + 1) timestamp temperature) m⟩ := by
        simp only [runStep, hm]
      simp only [Restart.step, hpc]
      exact h.quiet (congrArg (· + 1) hn) le_rfl h.start
  | _ => exact h.quiet hcounters le_rfl h.start

/-- A reading that is sent is newer than everything on the wire. -/
lemma Ok.send {start : ℤ} (h : Ok start s) {outcome : SendOutcome}
    (hs : ∀ n r m, s.process.pc = .built n r m → outcome ≠ .failed true) :
    Ok start (Restart.step P deviceId key s (.send outcome)) := by
  obtain ⟨⟨file, pc⟩, fresh, wire⟩ := s
  have hcounters := h.counters
  cases pc with
  | built n r m =>
    have hn : n = loadSequence file + 1 := hcounters
    cases outcome with
    | ok =>
      have hlt : ∀ x ∈ wire, x.sequence < n := by
        intro x hx
        have hle : x.sequence ≤ loadSequence file := (h.wire x hx).2
        omega
      have hstart : start ≤ loadSequence file := h.start
      refine ⟨hcounters, fun x hx => ?_, h.start, ?_⟩
      · rcases List.mem_cons.1 hx with rfl | hx
        · exact ⟨show start < n by omega, le_rfl⟩
        · exact ⟨(h.wire x hx).1, (hlt x hx).le⟩
      · exact List.pairwise_cons.2 ⟨hlt, h.increasing⟩
    | failed arrived =>
      cases arrived with
      | false => exact h.quiet trivial le_rfl h.start
      | true => exact absurd rfl (hs n r m rfl)
  | _ => exact h.quiet hcounters le_rfl h.start

/-- `save_sequence` catches the file up with the wire. -/
lemma Ok.save {start : ℤ} (h : Ok start s) {io : Gateway.IoOutcome}
    (hs : ∀ n, s.process.pc = .sent n → ∀ msg, io ≠ .osError msg) :
    Ok start (Restart.step P deviceId key s (.save io)) := by
  obtain ⟨⟨file, pc⟩, fresh, wire⟩ := s
  have hcounters := h.counters
  cases pc with
  | sent n =>
    have hn : n = loadSequence file + 1 := hcounters
    cases io with
    | ok =>
      have hload : loadSequence (saveSequence n) = n := loadSequence_saveSequence n
      have hstart : start ≤ loadSequence file := h.start
      refine h.quiet (p := ⟨saveSequence n, .looping n⟩) hload.symm ?_ ?_
      · exact hload.ge
      · rw [hload]
        omega
    | osError msg => exact absurd rfl (hs n rfl msg)
  | _ => exact h.quiet hcounters le_rfl h.start

/-- The step lemma. -/
lemma Ok.step {start : ℤ} (h : Ok start s) (hs : SavedBeforeStop s ev) :
    Ok start (step P deviceId key s ev) := by
  obtain ⟨⟨file, pc⟩, fresh, wire⟩ := s
  have hcounters := h.counters
  cases ev with
  | start =>
    cases pc with
    | stopped => exact h.quiet rfl le_rfl h.start
    | _ => exact h.quiet hcounters le_rfl h.start
  | connect io =>
    cases pc with
    | loaded n =>
      cases io with
      | ok => exact h.quiet hcounters le_rfl h.start
      | osError msg => exact h.quiet trivial le_rfl h.start
    | _ => exact h.quiet hcounters le_rfl h.start
  | hello nonce outcome => exact h.hello nonce outcome
  | build timestamp temperature nonce => exact h.build timestamp temperature nonce
  | send outcome => exact h.send fun n r m hp heq => hs.2 n r m hp (congrArg _ heq)
  | save io => exact h.save fun n hp msg heq => (hs.1 n hp).2 msg (congrArg _ heq)
  | stop =>
    cases pc with
    | sent n => exact absurd rfl (hs.1 n rfl).1
    | _ => exact h.quiet trivial le_rfl h.start

/-! ### The gateway -/

/-- A gateway that reads messages of the device, one after the other. -/
def gatewayReads (P : Primitives B) (deviceId : PyStr) (key : B) (st : Gateway.GatewayState B)
    (messages : List JsonDict) : Gateway.GatewayState B :=
  messages.foldl (fun st m => (Gateway.acceptLegacy P st m deviceId key).1) st

/-- What the gateway has accepted last is no newer than what it has read. -/
lemma gatewayReads_last {n : ℤ} {messages : List JsonDict}
    (hm : ∀ m ∈ messages, ∀ b k, Gateway.decryptLegacyMessage P m key deviceId = .ok (b, k) → k < n)
    {st : Gateway.GatewayState B} (hst : st.replay.last deviceId < n) :
    (gatewayReads P deviceId key st messages).replay.last deviceId < n := by
  induction messages generalizing st with
  | nil => exact hst
  | cons m messages ih =>
    refine ih (fun m' hm' => hm m' (List.mem_cons_of_mem m hm')) ?_
    show (Gateway.acceptLegacy P st m deviceId key).1.replay.last deviceId < n
    rcases Gateway.acceptLegacy_cases (P := P) st m deviceId key with h | ⟨e, h⟩ | ⟨b, k, hd, -, h⟩
    · rw [h]
      exact hst
    · rw [h]
      exact hst
    · rw [h]
      show ReplayGuard.last ⟨Function.update _ deviceId (some k)⟩ deviceId < n
      rw [ReplayGuard.last_update, if_pos rfl]
      exact hm m List.mem_cons_self b k hd

/-- What the device has built, or put on the wire, is decrypted by the gateway. -/
structure MessagesOk (P : Primitives B) (deviceId : PyStr) (key : B) (s : State B) : Prop where
  built : ∀ n r m, s.process.pc = .built n r m → Decrypts P deviceId key n r m
  wire : ∀ x ∈ s.wire, Decrypts P deviceId key x.sequence x.reading x.message

/-- The step lemma. -/
lemma MessagesOk.step (hP : P.Lawful) (hkey : P.len key = keyLength)
    (hid : validUnicode deviceId = true) (h : MessagesOk P deviceId key s)
    (hg : Generated P deviceId s ev) : MessagesOk P deviceId key (step P deviceId key s ev) := by
  refine ⟨fun n r m hpc => ?_, fun x hx => ?_⟩
  · replace hpc : (runStep P deviceId key s.process ev).pc = .built n r m := hpc
    by_cases hsame : s.process.pc = .built n r m
    · exact h.built n r m hsame
    obtain ⟨k, timestamp, temperature, nonce, rfl, hk, rfl, rfl, hm⟩ := built_cases hpc hsame
    obtain ⟨hnonce, hload⟩ := hg timestamp temperature nonce k rfl hk
    exact decryptLegacyMessage_legacyReading hP hkey hnonce hid
      (parseReadingBytes_readingToBytes hload) hm
  · rcases List.mem_append.1 hx with hx | hx
    · rcases hsent : readingSent s.process.pc ev with _ | ⟨n, r, m⟩
      · rw [hsent] at hx
        cases hx
      · rw [hsent] at hx
        obtain rfl := List.mem_singleton.1 hx
        exact h.built n r m (readingSent_eq_some hsent).1
    · exact h.wire x hx

/-! ### Restarts -/

/-- No sequence is on the wire in two messages, and the gateway accepts the first reading
after every start as newer than everything before it.  `st` is the gateway at the beginning
of the run; before it reads that reading, it may have read anything that was sent earlier,
in any order and any number of times. -/
structure Survives (P : Primitives B) (deviceId : PyStr) (key : B)
    (st : Gateway.GatewayState B) (wire : List OnWire) : Prop where
  distinct : wire.Pairwise fun x y => x.sequence ≠ y.sequence
  accepted : ∀ later x earlier, wire = later ++ x :: earlier → x.first = true →
    ∀ messages : List JsonDict, (∀ m ∈ messages, ∃ y ∈ earlier, y.message = m) →
      (Gateway.acceptLegacy P (gatewayReads P deviceId key st messages) x.message deviceId key).2
        = .ok (some (readingToBytes P x.reading))

variable (P) in
/-- **The counter survives restarts**, in every run in which the process does not end while
a reading is on the wire and not yet in the file.  At the beginning the gateway has
accepted nothing newer than what the file says. -/
theorem counter_survives_restarts (hP : P.Lawful) (hkey : P.len key = keyLength)
    (hid : validUnicode deviceId = true) {file : Option PyStr} {st : Gateway.GatewayState B}
    (hst : st.replay.last deviceId ≤ loadSequence file) {τ : List (RunEvent B)}
    (hg : Along (step P deviceId key) (Generated P deviceId) (initial file) τ)
    (hs : Along (step P deviceId key) SavedBeforeStop (initial file) τ) :
    Survives P deviceId key st (run (step P deviceId key) (initial file) τ).wire := by
  have hok₀ : Ok (loadSequence file) (initial file : State B) :=
    ⟨trivial, by simp [initial], le_rfl, List.Pairwise.nil⟩
  have hmessages₀ : MessagesOk P deviceId key (initial file) :=
    ⟨by simp [initial], by simp [initial]⟩
  have hboth := inv_run (J := fun s => Ok (loadSequence file) s ∧ MessagesOk P deviceId key s)
    (fun _ _ h hev => ⟨h.1.step hev.2, h.2.step hP hkey hid hev.1⟩) ⟨hok₀, hmessages₀⟩
    (along_and.2 ⟨hg, hs⟩)
  generalize run (step P deviceId key) (initial file) τ = s at hboth ⊢
  obtain ⟨hok, hmessages⟩ := hboth
  refine ⟨hok.increasing.imp fun hxy => (ne_of_lt hxy).symm, ?_⟩
  intro later x earlier hwire _ messages hm
  have hx : x ∈ s.wire := by
    rw [hwire]
    exact List.mem_append_right _ List.mem_cons_self
  have hearlier : ∀ y ∈ earlier, y ∈ s.wire ∧ y.sequence < x.sequence := by
    intro y hy
    have hincreasing := hok.increasing
    rw [hwire, List.pairwise_append] at hincreasing
    refine ⟨?_, (List.pairwise_cons.1 hincreasing.2.1).1 y hy⟩
    rw [hwire]
    exact List.mem_append_right _ (List.mem_cons_of_mem x hy)
  have hlast : (gatewayReads P deviceId key st messages).replay.last deviceId < x.sequence := by
    refine gatewayReads_last (fun m hmem b k hd => ?_) (lt_of_le_of_lt hst (hok.wire x hx).1)
    obtain ⟨y, hy, rfl⟩ := hm m hmem
    obtain ⟨hyw, hlt⟩ := hearlier y hy
    rw [show Gateway.decryptLegacyMessage P y.message key deviceId
      = .ok (readingToBytes P y.reading, y.sequence) from hmessages.wire y hyw] at hd
    cases hd
    exact hlt
  rw [Gateway.acceptLegacy_of_lt (hmessages.wire x hx) hlast]

/-! ### The demo -/

/-- The process is started, and puts one reading on the wire. -/
def demoSent : List (RunEvent Bytes) :=
  [.start, .connect .ok, .hello (Demo.nonce 0) .ok,
    .build sensorTime (.finite 21) (Demo.nonce 1), .send .ok]

/-- A step of the demo. -/
def demoStep : State Bytes → RunEvent Bytes → State Bytes :=
  step sensorPrimitives (lit "dev-01") (Demo.deviceKey 1)

/-- What a start and one reading do to the process. -/
lemma run_demoSent {s : State Bytes} {n : ℕ} (hpc : s.process.pc = .stopped)
    (hfile : loadSequence s.process.file = n) :
    (run demoStep s [.start, .connect .ok, .hello (Demo.nonce 0) .ok]).process
        = ⟨s.process.file, .looping n⟩ ∧
      (run demoStep s demoSent).process = ⟨s.process.file, .sent (n + 1)⟩ := by
  obtain ⟨⟨file, pc⟩, fresh, wire⟩ := s
  obtain rfl : pc = .stopped := hpc
  have hload : loadSequence file = n := hfile
  have hhello := @helloMessage_eq _ sensorPrimitives (lit "dev-01") (Demo.deviceKey 1)
    (Demo.nonce 0) rfl
  have hreading := @legacyReading_eq _ sensorPrimitives (lit "dev-01") (Demo.deviceKey 1)
    (Demo.nonce 1) rfl (by decide)
  constructor
  · simp [demoStep, step, runStep, hload, hhello]
  · simp [demoSent, demoStep, step, runStep, hload, hhello, hreading]

/-- What `save_sequence` does to the process. -/
lemma demoStep_save {s : State Bytes} {file : Option PyStr} {n : ℤ}
    (h : s.process = ⟨file, .sent n⟩) :
    (demoStep s (.save .ok)).process = ⟨saveSequence n, .looping n⟩ := by
  show runStep sensorPrimitives (lit "dev-01") (Demo.deviceKey 1) s.process (.save .ok) = _
  rw [h]
  rfl

/-- The sequence of a reading of the demo, as an integer. -/
lemma loadsBack_succ {n : ℕ} (hn : (lit "dev-01", n + 1) ∈ sensorReadings) :
    LoadsBack sensorPrimitives
      (generateReading (lit "dev-01") ((n : ℤ) + 1) sensorTime (.finite 21)) := by
  have h := loadsBack_sensorReading hn
  rw [sensorReading, Nat.cast_add, Nat.cast_one] at h
  exact h

/-- What is generated where nothing is built. -/
lemma generated_quiet {s : State Bytes} {ev : RunEvent Bytes} (hev : ∀ a b c, ev ≠ .build a b c) :
    Generated sensorPrimitives (lit "dev-01") s ev := by
  intro a b c n hbuild
  exact absurd hbuild (hev a b c)

/-- The reading of a start is generated as it should be. -/
lemma generated_demoSent {s : State Bytes} {n : ℕ} (hpc : s.process.pc = .stopped)
    (hfile : loadSequence s.process.file = n) (hn : (lit "dev-01", n + 1) ∈ sensorReadings) :
    Along demoStep (Generated sensorPrimitives (lit "dev-01")) s demoSent := by
  refine ⟨generated_quiet (by simp), generated_quiet (by simp), generated_quiet (by simp), ?_,
    generated_quiet (by simp), trivial⟩
  have hlooping := (run_demoSent hpc hfile).1
  simp only [run_cons, run_nil] at hlooping
  generalize demoStep _ _ = t at hlooping ⊢
  intro timestamp temperature nonce k hev hk
  have hev' := RunEvent.build.inj hev
  rw [hlooping] at hk
  rw [← hev'.1, ← hev'.2.1, ← hev'.2.2, ← RunPc.looping.inj hk]
  exact ⟨rfl, loadsBack_succ hn⟩

/-- A process that saves what it has sent, and is killed and started again. -/
def demoRestart : List (RunEvent Bytes) := demoSent ++ ([.save .ok, .stop] ++ demoSent)

/-- Where no process ends after a reading is on the wire. -/
lemma savedBeforeStop_quiet {s : State Bytes} {ev : RunEvent Bytes} (hstop : ev ≠ .stop)
    (hsave : ∀ msg, ev ≠ .save (.osError msg)) (hsend : ev ≠ .send (.failed true)) :
    SavedBeforeStop s ev :=
  ⟨fun _ _ => ⟨hstop, hsave⟩, fun _ _ _ _ => hsend⟩

lemma savedBeforeStop_demoSent (s : State Bytes) : Along demoStep SavedBeforeStop s demoSent :=
  ⟨savedBeforeStop_quiet (by simp) (by simp) (by simp),
    savedBeforeStop_quiet (by simp) (by simp) (by simp),
    savedBeforeStop_quiet (by simp) (by simp) (by simp),
    savedBeforeStop_quiet (by simp) (by simp) (by simp),
    savedBeforeStop_quiet (by simp) (by simp) (by simp), trivial⟩

/-- The second start goes on where the first one has ended. -/
theorem counter_survives_restarts_demo :
    (run demoStep (initial none) demoRestart).wire.map OnWire.sequence = [2, 1] ∧
      Survives sensorPrimitives (lit "dev-01") (Demo.deviceKey 1) ⟨.new, .empty, [], 0⟩
        (run demoStep (initial none) demoRestart).wire := by
  have hfirst := (run_demoSent (s := initial none) (n := 0) rfl rfl).2
  set s := run demoStep (initial none) demoSent with hs_def
  have hsaved := demoStep_save hfirst
  have hg : Along demoStep (Generated sensorPrimitives (lit "dev-01")) (initial none)
      demoRestart := by
    refine along_append.2 ⟨generated_demoSent (n := 0) rfl rfl (by decide), along_append.2
      ⟨⟨generated_quiet (by simp), generated_quiet (by simp), trivial⟩, ?_⟩⟩
    rw [← hs_def]
    refine generated_demoSent (n := 1) ?_ ?_ (by decide)
    · rfl
    · exact (congrArg (loadSequence ∘ Process.file) hsaved).trans (loadSequence_saveSequence _)
  have hs : Along demoStep SavedBeforeStop (initial none) demoRestart := by
    refine along_append.2 ⟨savedBeforeStop_demoSent _, along_append.2
      ⟨⟨savedBeforeStop_quiet (by simp) (by simp) (by simp), ⟨?_, by simp⟩, trivial⟩,
        savedBeforeStop_demoSent _⟩⟩
    -- the sequence is in the file when the process is killed
    intro n hsent
    rw [← hs_def, hsaved] at hsent
    cases hsent
  refine ⟨by decide +kernel, ?_⟩
  unfold demoStep at hg hs ⊢
  exact counter_survives_restarts sensorPrimitives sensorPrimitives_lawful rfl (by decide) le_rfl
    hg hs

/-- The process is killed between `sendall` and `save_sequence`.  After the restart it puts
the same sequence on the wire again, and the gateway refuses the reading. -/
theorem counter_reused :
    ((run demoStep (initial none) (demoSent ++ [.stop] ++ demoSent)).wire.map
        OnWire.sequence = [1, 1]) ∧
      ¬ Survives sensorPrimitives (lit "dev-01") (Demo.deviceKey 1) ⟨.new, .empty, [], 0⟩
        (run demoStep (initial none) (demoSent ++ [.stop] ++ demoSent)).wire := by
  have hwire : (run demoStep (initial none) (demoSent ++ [.stop] ++ demoSent)).wire.map
      OnWire.sequence = [1, 1] := by
    decide +kernel
  refine ⟨hwire, fun h => ?_⟩
  have hdistinct := List.pairwise_map.2 h.distinct
  rw [hwire] at hdistinct
  exact absurd hdistinct (by decide)

end PqcBridge.Device.Restart
