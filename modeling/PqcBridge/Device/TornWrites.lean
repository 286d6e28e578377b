/-
The counter of a device whose state file is torn.

`save_sequence` is not atomic: a process that ends inside it leaves the file with the first
digits of the number, or with none.  `load_sequence` then returns a smaller number, or zero.

* `loadSequence_torn`: what is left is no larger than what was to be written;
* `Ok`: the file never runs ahead of the wire, and no sequence is left out on the wire;
* `wire_of_life`: what one process puts on the wire;
* `torn_counter_recovers`: after a restart the replay guard refuses as many readings as the file
  is behind, and accepts all that follow.
-/
import PqcBridge.Common.ReplayHistory
import PqcBridge.Device.Restart

namespace PqcBridge.Device.TornWrites

open Python Protocol Runs

variable {B : Type}

/-! ### The system -/

/-- The process and its state file, and the sequences of the readings that were put on the
wire, the latest first. -/
structure State (B : Type) where
  process : Process B
  wire : List ℤ

/-- What happens to the process. -/
inductive Event (B : Type) where
  /-- a step of `run`, or the end of the process outside `save_sequence` -/
  | run (ev : RunEvent B)
  /-- the process ends inside `save_sequence`, with `k` characters in the file -/
  | tear (k : ℕ)

variable (P : Primitives B) (deviceId : PyStr) (key : B)

/-- One step. -/
def step (s : State B) : Event B → State B
  | .run ev =>
    ⟨runStep P deviceId key s.process ev,
      ((readingSent s.process.pc ev).map Prod.fst).toList ++ s.wire⟩
  | .tear k =>
    match s.process.pc with
    | .sent n => ⟨⟨some ((decimal n).take k), .stopped⟩, s.wire⟩
    | _ => s

/-- Before the first start, with the file as it is. -/
def initial (file : Option PyStr) : State B := ⟨⟨file, .stopped⟩, []⟩

/-! ### A torn file -/

/-- The first digits of a number make a smaller number, or none at all. -/
lemma loadSequence_torn {n : ℤ} (hn : 0 ≤ n) (k : ℕ) :
    0 ≤ loadSequence (some ((decimal n).take k)) ∧
      loadSequence (some ((decimal n).take k)) ≤ n := by
  obtain ⟨v, rfl⟩ := Int.eq_ofNat_of_zero_le hn
  have hdigits : ∀ c ∈ Nat.toDigits 10 v, c.isDigit = true := fun c hc =>
    Nat.isDigit_of_mem_toDigits (by decide) (by decide) hc
  have htext : (decimal (v : ℤ)).take k = ((Nat.toDigits 10 v).take k).map .char := by
    rw [List.map_take, ← Nat.toList_repr]
    rfl
  rw [htext, loadSequence]
  have htake : ∀ c ∈ (Nat.toDigits 10 v).take k, c.isDigit = true := fun c hc =>
    hdigits c (List.mem_of_mem_take hc)
  have hhead : ∀ c : Char, c.isDigit = false →
      (((Nat.toDigits 10 v).take k).map PyChar.char).head? ≠ some (.char c) := by
    intro c hc hmem
    obtain ⟨d, hd, hdc⟩ := List.mem_map.1 (List.mem_of_mem_head? hmem)
    cases hdc
    rw [htake c hd] at hc
    cases hc
  have hspace : ∀ c ∈ ((Nat.toDigits 10 v).take k).map PyChar.char, isSpace c = false := by
    intro c hc
    rw [← htext] at hc
    exact isSpace_decimal _ c (List.mem_of_mem_take hc)
  rw [parseInt_digits hspace (hhead '-' (by decide)) (hhead '+' (by decide))]
  by_cases hempty : (Nat.toDigits 10 v).take k = []
  · rw [hempty]
    exact ⟨le_rfl, hn⟩
  · rw [readDigits_digits htake 0 false (Or.inr hempty)]
    refine ⟨Int.natCast_nonneg _, Int.ofNat_le.2 ?_⟩
    -- the other digits only add to the number
    have hmono : ∀ (l : List Char) (x : ℕ), x ≤ Nat.ofDigitChars 10 l x := by
      intro l
      induction l with
      | nil => exact fun x => le_rfl
      | cons c l ih =>
        intro x
        rw [Nat.ofDigitChars_cons]
        exact le_trans (by omega) (ih _)
    have hsplit : Nat.ofDigitChars 10 (Nat.toDigits 10 v) 0 = v := Nat.ofDigitChars_ten_toDigits
    rw [← List.take_append_drop k (Nat.toDigits 10 v), Nat.ofDigitChars_append] at hsplit
    calc Nat.ofDigitChars 10 ((Nat.toDigits 10 v).take k) 0
        ≤ _ := hmono ((Nat.toDigits 10 v).drop k) _
      _ = v := hsplit

/-! ### The counters -/

/-- The highest sequence that has been used, where the first file has `start`. -/
def highest (start : ℤ) (wire : List ℤ) : ℤ := wire.foldr max start

/-- The counter in memory. -/
def CounterOk (top : ℤ) : RunPc B → Prop
  | .stopped => True
  | .loaded n => 0 ≤ n ∧ n ≤ top
  | .connected n => 0 ≤ n ∧ n ≤ top
  | .looping n => 0 ≤ n ∧ n ≤ top
  | .built n _ _ => 0 ≤ n ∧ n ≤ top + 1
  | .sent n => 0 ≤ n ∧ n ≤ top

/-- The invariant. -/
structure Ok (start : ℤ) (s : State B) : Prop where
  file : 0 ≤ loadSequence s.process.file ∧ loadSequence s.process.file ≤ highest start s.wire
  counter : CounterOk (highest start s.wire) s.process.pc
  /-- no sequence is left out -/
  used : ∀ n, start < n → n ≤ highest start s.wire → n ∈ s.wire

lemma start_le_highest (start : ℤ) (wire : List ℤ) : start ≤ highest start wire := by
  induction wire with
  | nil => exact le_rfl
  | cons n wire ih => exact ih.trans (le_max_right _ _)

lemma le_highest {start n : ℤ} {wire : List ℤ} (h : n ∈ wire) : n ≤ highest start wire := by
  induction wire with
  | nil => cases h
  | cons x wire ih =>
    rcases List.mem_cons.1 h with rfl | h
    · exact le_max_left _ _
    · exact (ih h).trans (le_max_right _ _)

variable {P deviceId key} {s : State B} {start : ℤ}

/-- A step that puts nothing on the wire. -/
lemma Ok.quiet (h : Ok start s) {p : Process B}
    (hfile : 0 ≤ loadSequence p.file ∧ loadSequence p.file ≤ highest start s.wire)
    (hcounter : CounterOk (highest start s.wire) p.pc) : Ok start ⟨p, s.wire⟩ :=
  ⟨hfile, hcounter, h.used⟩

/-- The next sequence is put on the wire. -/
lemma Ok.send (h : Ok start s) {n : ℤ} (hn : 0 ≤ n ∧ n ≤ highest start s.wire + 1) {p : Process B}
    (hfile : p.file = s.process.file) (hpc : p.pc = .sent n ∨ p.pc = .stopped) :
    Ok start ⟨p, n :: s.wire⟩ := by
  have htop : highest start (n :: s.wire) = max n (highest start s.wire) := rfl
  refine ⟨?_, ?_, fun x hx hle => ?_⟩
  · rw [hfile, htop]
    exact ⟨h.file.1, h.file.2.trans (le_max_right _ _)⟩
  · rcases hpc with hpc | hpc
    · simp only [hpc]
      exact ⟨hn.1, le_max_left _ _⟩
    · simp only [hpc]
      trivial
  · rw [htop] at hle
    rcases lt_or_ge (highest start s.wire) x with hlt | hge
    · -- only the new one is above the others
      have hxn : x = n := by omega
      exact hxn ▸ List.mem_cons_self
    · exact List.mem_cons_of_mem _ (h.used x hx hge)

lemma Ok.runStep (h : Ok start s) (ev : RunEvent B) :
    Ok start (step P deviceId key s (.run ev)) := by
  obtain ⟨⟨file, pc⟩, wire⟩ := s
  have hfile := h.file
  have hcounter := h.counter
  cases ev with
  | start => cases pc <;> first | exact h.quiet hfile hfile | exact h
  | connect io =>
    cases pc <;> cases io <;> first | exact h.quiet hfile hcounter | exact h.quiet hfile trivial
  | hello nonce outcome =>
    cases pc with
    | connected n =>
      have hpc : Device.runStep P deviceId key ⟨file, .connected n⟩ (.hello nonce outcome)
            = ⟨file, .looping n⟩ ∨
          Device.runStep P deviceId key ⟨file, .connected n⟩ (.hello nonce outcome)
            = ⟨file, .stopped⟩ := by
        rcases hm : helloMessage P deviceId key nonce with e | m <;> cases outcome <;>
          simp [Device.runStep, hm]
      rcases hpc with hpc | hpc
      · simp only [step, hpc]
        exact h.quiet hfile hcounter
      · simp only [step, hpc]
        exact h.quiet hfile trivial
    | _ => exact h
  | build timestamp temperature nonce =>
    cases pc with
    | looping n =>
      have hnext : 0 ≤ n ∧ n ≤ highest start wire := hcounter
      simp only [step, Device.runStep]
      rcases legacyReading P deviceId key (n + 1) (readingToBytes P
        (generateReading deviceId (n + 1) timestamp temperature)) nonce with e | m
      · exact h.quiet hfile trivial
      · refine h.quiet hfile ?_
        show 0 ≤ n + 1 ∧ n + 1 ≤ highest start wire + 1
        omega
    | _ => exact h
  | send outcome =>
    cases pc with
    | built n r m =>
      cases outcome with
      | ok => exact h.send hcounter rfl (Or.inl rfl)
      | failed arrived =>
        cases arrived with
        | true => exact h.send hcounter rfl (Or.inr rfl)
        | false => exact h.quiet hfile trivial
    | _ => exact h
  | save io =>
    cases pc with
    | sent n =>
      cases io with
      | ok =>
        have hsaved : 0 ≤ loadSequence (saveSequence n) ∧
            loadSequence (saveSequence n) ≤ highest start wire := by
          rw [loadSequence_saveSequence]
          exact hcounter
        exact h.quiet hsaved hcounter
      | osError msg => exact h.quiet hfile trivial
    | _ => cases io <;> exact h
  | stop => cases pc <;> exact h.quiet hfile trivial

/-- The step lemma. -/
lemma Ok.step (h : Ok start s) (ev : Event B) : Ok start (step P deviceId key s ev) := by
  cases ev with
  | run ev => exact h.runStep ev
  | tear k =>
    obtain ⟨⟨file, pc⟩, wire⟩ := s
    cases pc with
    | sent n =>
      have hcounter : 0 ≤ n ∧ n ≤ highest start wire := h.counter
      have htorn := loadSequence_torn hcounter.1 k
      exact h.quiet ⟨htorn.1, htorn.2.trans hcounter.2⟩ trivial
    | _ => exact h

variable (P deviceId key) in
/-- The run lemma. -/
lemma ok_run {file : Option PyStr} (hfile : 0 ≤ loadSequence file) (τ : List (Event B)) :
    Ok (loadSequence file) (run (TornWrites.step P deviceId key) (initial file) τ) :=
  inv_run (J := Ok (loadSequence file)) (P := fun _ _ => True) (fun _ ev h _ => h.step ev)
    ⟨⟨hfile, le_rfl⟩, trivial, fun _ hn hle => absurd hle (not_le.2 hn)⟩
    (along_of_forall fun _ _ _ => trivial)

/-! ### One process -/

/-- The sequences that follow `m`. -/
def following (m : ℤ) (k : ℕ) : List ℤ := (List.range k).map fun i : ℕ => m + ((i : ℤ) + 1)

/-- What a process that has loaded `m` has put on the wire: the next `k` sequences. -/
structure Life (m : ℤ) (before : List ℤ) (s : State B) (k : ℕ) : Prop where
  wire : s.wire = (following m k).reverse ++ before
  counter : match s.process.pc with
    | .stopped => True
    | .loaded n => n = m + k
    | .connected n => n = m + k
    | .looping n => n = m + k
    | .built n _ _ => n = m + k + 1
    | .sent n => n = m + k

lemma following_succ (m : ℤ) (k : ℕ) : following m (k + 1) = following m k ++ [m + (k + 1)] := by
  simp [following, List.range_succ]

/-- As long as no other process is started, the sequences go up by one. -/
lemma Life.step {m : ℤ} {before : List ℤ} {k : ℕ} (h : Life m before s k) {ev : Event B}
    (hev : ev ≠ .run .start) : ∃ k', Life m before (step P deviceId key s ev) k' := by
  obtain ⟨⟨file, pc⟩, wire⟩ := s
  obtain ⟨hwire, hcounter⟩ := h
  replace hwire : wire = (following m k).reverse ++ before := hwire
  have hsend : ∀ n, n = m + k + 1 → n :: wire = (following m (k + 1)).reverse ++ before := by
    rintro n rfl
    rw [following_succ, List.reverse_append, hwire]
    simp [add_assoc]
  cases ev with
  | tear j => cases pc <;> first | exact ⟨k, hwire, hcounter⟩ | exact ⟨k, hwire, trivial⟩
  | run ev =>
    cases ev with
    | start => exact absurd rfl hev
    | connect io =>
      cases pc <;> cases io <;> first | exact ⟨k, hwire, hcounter⟩ | exact ⟨k, hwire, trivial⟩
    | hello nonce outcome =>
      cases pc with
      | connected n =>
        simp only [TornWrites.step, Device.runStep, readingSent]
        rcases helloMessage P deviceId key nonce with e | msg <;> cases outcome <;>
          first | exact ⟨k, hwire, hcounter⟩ | exact ⟨k, hwire, trivial⟩
      | _ => exact ⟨k, hwire, hcounter⟩
    | build timestamp temperature nonce =>
      cases pc with
      | looping n =>
        simp only [TornWrites.step, Device.runStep, readingSent]
        rcases legacyReading P deviceId key (n + 1) (readingToBytes P
          (generateReading deviceId (n + 1) timestamp temperature)) nonce with e | msg
        · exact ⟨k, hwire, trivial⟩
        · refine ⟨k, hwire, ?_⟩
          show n + 1 = m + k + 1
          rw [show n = m + k from hcounter]
      | _ => exact ⟨k, hwire, hcounter⟩
    | send outcome =>
      cases pc with
      | built n r msg =>
        replace hcounter : n = m + k + 1 := hcounter
        cases outcome with
        | ok =>
          refine ⟨k + 1, hsend n hcounter, ?_⟩
          show n = m + ((k + 1 : ℕ) : ℤ)
          rw [hcounter]
          push_cast
          ring
        | failed arrived =>
          cases arrived with
          | true => exact ⟨k + 1, hsend n hcounter, trivial⟩
          | false => exact ⟨k, hwire, trivial⟩
      | _ => exact ⟨k, hwire, hcounter⟩
    | save io =>
      cases pc <;> cases io <;> first | exact ⟨k, hwire, hcounter⟩ | exact ⟨k, hwire, trivial⟩
    | stop => cases pc <;> exact ⟨k, hwire, trivial⟩

variable (P deviceId key) in
/-- What one process puts on the wire. -/
lemma wire_of_life (hpc : s.process.pc = .stopped) {τ : List (Event B)}
    (hτ : ∀ ev ∈ τ, ev ≠ .run .start) :
    ∃ k, (run (TornWrites.step P deviceId key) s (.run .start :: τ)).wire
      = (following (loadSequence s.process.file) k).reverse ++ s.wire := by
  have hstart : Life (loadSequence s.process.file) s.wire
      (TornWrites.step P deviceId key s (.run .start)) 0 := by
    obtain ⟨⟨file, pc⟩, wire⟩ := s
    replace hpc : pc = .stopped := hpc
    subst hpc
    exact ⟨rfl, (add_zero _).symm⟩
  have hlife : ∀ (τ : List (Event B)) (s' : State B) (k : ℕ), (∀ ev ∈ τ, ev ≠ .run .start) →
      Life (loadSequence s.process.file) s.wire s' k →
      ∃ k', Life (loadSequence s.process.file) s.wire
        (run (TornWrites.step P deviceId key) s' τ) k' := by
    intro τ
    induction τ with
    | nil => exact fun s' k _ h => ⟨k, h⟩
    | cons ev τ ih =>
      intro s' k hτ h
      obtain ⟨k', h'⟩ := h.step (hτ ev List.mem_cons_self)
      exact ih _ k' (fun ev' hev' => hτ ev' (List.mem_cons_of_mem _ hev')) h'
  obtain ⟨k, h⟩ := hlife τ _ 0 hτ hstart
  exact ⟨k, h.wire⟩

/-! ### The gateway -/

section Guard

variable {κ : Type} [DecidableEq κ]

/-- The calls for the readings of one device. -/
def calls (d : κ) (l : List ℤ) : List (ReplayGuard.Call κ) := l.map fun n => ⟨d, n⟩

/-- Of readings whose sequences increase, those above the entry are accepted. -/
lemma accepted_calls {g : ReplayGuard κ} {d : κ} {l : List ℤ} (hl : l.Pairwise (· < ·)) :
    g.accepted (calls d l) d = l.filter (g.last d < ·) := by
  induction l generalizing g with
  | nil => rfl
  | cons n l ih =>
    obtain ⟨hn, hl⟩ := List.pairwise_cons.1 hl
    have hlog : g.accepted (calls d (n :: l)) d
        = (if g.answer ⟨d, n⟩ = true then [n] else [])
          ++ (g.call ⟨d, n⟩).accepted (calls d l) d := by
      cases h : g.answer ⟨d, n⟩ <;> simp [ReplayGuard.accepted, calls, ReplayGuard.log, h]
    rw [hlog, ih hl]
    cases h : g.answer ⟨d, n⟩ with
    | true =>
      have hlt := ReplayGuard.answer_eq_true_iff.1 h
      rw [ReplayGuard.last_call_of_accepted h, if_pos rfl, if_pos rfl, List.filter_cons_of_pos
        (by simpa using hlt), List.singleton_append]
      -- what comes after an accepted reading is newer than both entries
      refine congrArg (n :: ·) (List.filter_congr fun x hx => ?_)
      have hnx := hn x hx
      have hx' : g.last d < x := lt_trans hlt hnx
      simp [hnx, hx']
    | false =>
      have hle : ¬ g.last d < n := fun hlt => by
        rw [ReplayGuard.answer_eq_true_iff.2 hlt] at h
        cases h
      rw [ReplayGuard.call_of_refused h, if_neg Bool.false_ne_true, List.filter_cons_of_neg
        (by simpa using hle), List.nil_append]

/-- The entry of a device is zero or one of the sequences that were read. -/
lemma last_calls_le {d : κ} {l : List ℤ} {top : ℤ} (htop : 0 ≤ top) (hl : ∀ n ∈ l, n ≤ top) :
    (run ReplayGuard.call .empty (calls d l)).last d ≤ top := by
  have hrun : ∀ (l : List ℤ) (g : ReplayGuard κ), g.last d ≤ top → (∀ n ∈ l, n ≤ top) →
      (run ReplayGuard.call g (calls d l)).last d ≤ top := by
    intro l
    induction l with
    | nil => exact fun g hg _ => hg
    | cons n l ih =>
      intro g hg hl
      refine ih (g.call ⟨d, n⟩) ?_ fun x hx => hl x (List.mem_cons_of_mem _ hx)
      cases h : g.answer ⟨d, n⟩ with
      | true =>
        rw [ReplayGuard.last_call_of_accepted h, if_pos rfl]
        exact hl n List.mem_cons_self
      | false =>
        rw [ReplayGuard.call_of_refused h]
        exact hg
  exact hrun l _ htop hl

end Guard

lemma pairwise_following (m : ℤ) (k : ℕ) : (following m k).Pairwise (· < ·) := by
  rw [following, List.pairwise_map]
  exact (List.pairwise_lt_range (n := k)).imp fun h => by omega

/-- The sequences above the entry are what is left after as many as the counter is behind. -/
lemma filter_following (m last : ℤ) (k : ℕ) :
    (following m k).filter (last < ·) = (following m k).drop (last - m).toNat := by
  induction k with
  | zero => simp [following]
  | succ k ih =>
    have hlength : (following m k).length = k := by simp [following]
    rw [following_succ, List.filter_append, ih, List.drop_append, hlength]
    congr 1
    by_cases h : last < m + (k + 1)
    · have hzero : (last - m).toNat - k = 0 := by omega
      rw [hzero]
      simp [h]
    · have hpos : 1 ≤ (last - m).toNat - k := by omega
      rw [List.drop_eq_nil_of_le (by simpa using hpos)]
      simp [h]

/-! ### The next process -/

/-- A process whose file is left empty. -/
def demoTorn : List (Event Bytes) := Restart.demoSent.map .run ++ [.tear 0]

/-- A process that sends two readings. -/
def demoTwo : List (Event Bytes) :=
  [.connect .ok, .hello (Demo.nonce 0) .ok, .build sensorTime (.finite 21) (Demo.nonce 1),
    .send .ok, .save .ok, .build sensorTime (.finite 21) (Demo.nonce 2), .send .ok].map .run

/-- What the next process does to the wire, which becomes `wire`, and what a gateway makes of it
whose replay guard is `g`. -/
structure Recovers (deviceId : PyStr) (start : ℤ) (s : State B) (wire : List ℤ)
    (g : ReplayGuard PyStr) : Prop where
  /-- the file is at most behind the wire -/
  file : 0 ≤ loadSequence s.process.file ∧ loadSequence s.process.file ≤ highest start s.wire
  used : ∀ n, start < n → n ≤ highest start s.wire → n ∈ s.wire
  read : g.last deviceId ≤ highest start s.wire
  next : ∃ k, wire = (following (loadSequence s.process.file) k).reverse ++ s.wire ∧
    g.accepted (calls deviceId (following (loadSequence s.process.file) k)) deviceId
      = (following (loadSequence s.process.file) k).drop
          (g.last deviceId - loadSequence s.process.file).toNat

variable (P deviceId key) in
/-- **Recovery after a torn write**: whatever the process and its state file have been through,
with any number of restarts and of writes that were cut short, the file is at most behind the
wire, and no sequence was left out there.  The next process puts the sequences after that of the
file on the wire, one after the other, and a replay guard that has read any part of what was
sent, in any order, refuses as many of them as the file is behind it, and accepts all the
others. -/
theorem torn_counter_recovers {file : Option PyStr} {τ τ' : List (Event B)} {earlier : List ℤ}
    (hfile : 0 ≤ loadSequence file)
    (hpc : (run (TornWrites.step P deviceId key) (initial file) τ).process.pc = .stopped)
    (hlife : ∀ ev ∈ τ', ev ≠ .run .start)
    (hearlier : ∀ n ∈ earlier, n ≤ loadSequence file ∨
      n ∈ (run (TornWrites.step P deviceId key) (initial file) τ).wire) :
    Recovers deviceId (loadSequence file)
      (run (TornWrites.step P deviceId key) (initial file) τ)
      (run (TornWrites.step P deviceId key) (initial file) (τ ++ .run .start :: τ')).wire
      (run ReplayGuard.call .empty (calls deviceId earlier)) := by
  have hok := ok_run P deviceId key hfile τ
  obtain ⟨k, hk⟩ := wire_of_life P deviceId key hpc hlife
  refine ⟨hok.file, hok.used, last_calls_le (hfile.trans (start_le_highest _ _)) fun n hn => ?_, k,
    ?_, ?_⟩
  · rcases hearlier n hn with hle | hn
    · exact hle.trans (start_le_highest _ _)
    · exact le_highest hn
  · rw [run_append]
    exact hk
  · rw [accepted_calls (pairwise_following _ _), filter_following]

/-- The process is killed while it writes the number of its first reading, so that the file is
empty.  The next one starts again at one: a gateway that has read that reading refuses the first
of its two readings and accepts the second. -/
theorem torn_counter_of_empty_file :
    (run (TornWrites.step sensorPrimitives (lit "dev-01") (Demo.deviceKey 1)) (initial none)
      (demoTorn ++ .run .start :: demoTwo)).wire = [2, 1, 1] ∧
    Recovers (lit "dev-01") (loadSequence none)
      (run (TornWrites.step sensorPrimitives (lit "dev-01") (Demo.deviceKey 1)) (initial none)
        demoTorn)
      (run (TornWrites.step sensorPrimitives (lit "dev-01") (Demo.deviceKey 1)) (initial none)
        (demoTorn ++ .run .start :: demoTwo)).wire
      (run ReplayGuard.call .empty (calls (lit "dev-01") [1])) :=
  ⟨by decide +kernel, torn_counter_recovers sensorPrimitives (lit "dev-01") (Demo.deviceKey 1)
    loadSequence_none.ge (by rfl) (by simp [demoTwo]) (by decide +kernel)⟩

end PqcBridge.Device.TornWrites
