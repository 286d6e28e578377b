/-
The key file over the starts of the cloud.

A start reads the file, and where it cannot use what it reads it writes a new key over it.
The write opens the file, which empties it, and appends the bytes of the seed; a start can be
killed anywhere in between.

* `KeepsFile`: once a start has returned a key, no later start whose read raises `OSError`
  opens the file for writing;
* `fingerprint_stable`: in the runs that keep to this, all starts return one key.
-/
import PqcBridge.Cloud.Main
import PqcBridge.Common.Octets
import PqcBridge.Lib.Run

namespace PqcBridge.Cloud.KeyFile

open Python Runs

/-! ### The file -/

/-- The seed of an ML-KEM-768 key: what `private_bytes_raw` returns. -/
abbrev Seed : Type := {seed : Octets // seed.length = 64}

/-- What `Path.write_bytes` does to the file. -/
inductive FileAction where
  | truncate
  | append (b : UInt8)

/-- The file after the action. -/
def FileAction.act (file : Option Octets) : FileAction → Option Octets
  | .truncate => some []
  | .append b => file.map fun data => data ++ [b]

/-- What an entry of `load_or_generate_keypair` does to the file. -/
def fileActions : StartAction Octets → List FileAction
  | .save privateKey => .truncate :: privateKey.map .append
  | .write _ => []
  | .fingerprint _ => []
  | .serve _ => []

lemma foldl_append (data key : Octets) :
    (key.map FileAction.append).foldl FileAction.act (some data) = some (data ++ key) := by
  induction key generalizing data with
  | nil => simp
  | cons b key ih =>
    rw [List.map_cons, List.foldl_cons]
    refine (ih (data ++ [b])).trans ?_
    rw [List.append_assoc, List.singleton_append]

/-- A write that ends leaves the seed in the file. -/
lemma foldl_fileActions_save (file : Option Octets) (key : Octets) :
    (fileActions (.save key)).foldl FileAction.act file = some key :=
  foldl_append [] key

/-! ### Starts -/

/-- One start: the `OSError` that reading the file raises, the key that would be generated,
and after how many actions on the file the process is killed, where it is. -/
structure Start where
  readError : Option PyStr
  fresh : Seed
  killedAfter : Option ℕ

/-- The file, and the keys that the starts have returned. -/
structure State where
  file : Option Octets
  returned : List Octets

variable (fromSeedBytes : Octets → Except PyStr Octets) (keyPath : PyStr)

/-- `load_mlkem_private_key`. -/
def loadMlkemPrivateKey (e : Start) (data : Octets) : Except PyStr Octets :=
  match e.readError with
  | some text => .error text
  | none => fromSeedBytes data

/-- The call of `load_or_generate_keypair`. -/
def call (s : State) (e : Start) : Octets × List (StartAction Octets) :=
  loadOrGenerateKeypair (loadMlkemPrivateKey fromSeedBytes e) keyPath s.file e.fresh

/-- What the call does to the file. -/
def actions (s : State) (e : Start) : List FileAction :=
  (call fromSeedBytes keyPath s e).2.flatMap fileActions

/-- One start. -/
def step (s : State) (e : Start) : State :=
  match e.killedAfter with
  | none =>
    ⟨(actions fromSeedBytes keyPath s e).foldl FileAction.act s.file,
      s.returned ++ [(call fromSeedBytes keyPath s e).1]⟩
  | some n => ⟨((actions fromSeedBytes keyPath s e).take n).foldl FileAction.act s.file, s.returned⟩

/-- Before the first start, with a key file or without one, whatever it holds. -/
def initial (file : Option Octets) : State := ⟨file, []⟩

/-- Once a start has returned a key, no later start whose read raises `OSError` opens the file
for writing. -/
def KeepsFile (s : State) (e : Start) : Prop :=
  s.returned ≠ [] → e.readError.isSome = true → e.killedAfter = some 0

/-! ### The invariant -/

/-- The file holds the key. -/
def Holds (file : Option Octets) (key : Octets) : Prop :=
  ∃ data, file = some data ∧ fromSeedBytes data = .ok key

/-- Every key that has been returned is the one in the file. -/
def Stable (s : State) : Prop := ∀ key ∈ s.returned, Holds fromSeedBytes s.file key

variable {fromSeedBytes keyPath} {s : State} {e : Start}

lemma Holds.unique {file : Option Octets} {key key' : Octets}
    (h : Holds fromSeedBytes file key) (h' : Holds fromSeedBytes file key') : key = key' := by
  obtain ⟨data, hfile, hkey⟩ := h
  obtain ⟨data', hfile', hkey'⟩ := h'
  rw [hfile, Option.some.injEq] at hfile'
  rw [← hfile', hkey, Except.ok.injEq] at hkey'
  exact hkey'

/-- A start that can use the file returns its key and leaves the file alone. -/
lemma call_of_holds {key : Octets} (h : Holds fromSeedBytes s.file key)
    (hread : e.readError = none) :
    (call fromSeedBytes keyPath s e).1 = key ∧ actions fromSeedBytes keyPath s e = [] := by
  obtain ⟨data, hfile, hkey⟩ := h
  have hload : loadMlkemPrivateKey fromSeedBytes e data = .ok key := by
    simp only [loadMlkemPrivateKey, hread, hkey]
  have hcall : call fromSeedBytes keyPath s e
      = (key, [.write (lit "loaded existing ML-KEM keypair from " ++ keyPath)]) := by
    simp only [call, loadOrGenerateKeypair, hfile, hload]
  rw [actions, hcall]
  exact ⟨rfl, rfl⟩

/-- A start that returns leaves the key that it returns in the file. -/
lemma holds_call (hseed : ∀ key : Seed, fromSeedBytes key = .ok key.1) (s : State) (e : Start) :
    Holds fromSeedBytes ((actions fromSeedBytes keyPath s e).foldl FileAction.act s.file)
      (call fromSeedBytes keyPath s e).1 := by
  have hsaved : Holds fromSeedBytes
      ((fileActions (.save e.fresh.1)).foldl FileAction.act s.file) e.fresh.1 :=
    ⟨e.fresh.1, foldl_fileActions_save _ _, hseed e.fresh⟩
  cases hfile : s.file with
  | none =>
    rw [hfile] at hsaved
    simpa [actions, call, loadOrGenerateKeypair, hfile, fileActions] using hsaved
  | some data =>
    rw [hfile] at hsaved
    rcases hload : loadMlkemPrivateKey fromSeedBytes e data with text | key
    · simpa [actions, call, loadOrGenerateKeypair, hfile, hload, fileActions] using hsaved
    · -- the key was loaded, so the read did not fail
      have hkey : fromSeedBytes data = .ok key := by
        unfold loadMlkemPrivateKey at hload
        split at hload
        · cases hload
        · exact hload
      simp only [actions, call, loadOrGenerateKeypair, hfile, hload]
      exact ⟨data, rfl, hkey⟩

lemma Stable.step (hseed : ∀ key : Seed, fromSeedBytes key = .ok key.1)
    (h : Stable fromSeedBytes s) (hkeep : KeepsFile s e) :
    Stable fromSeedBytes (step fromSeedBytes keyPath s e) := by
  -- the keys that were there before
  have hold : ∀ key ∈ s.returned, ∀ n, (e.killedAfter = none ∨ e.killedAfter = some n) →
      Holds fromSeedBytes
        (((actions fromSeedBytes keyPath s e).take n).foldl FileAction.act s.file) key := by
    intro key hkey n hkilled
    cases hread : e.readError with
    | none =>
      rw [(call_of_holds (h key hkey) hread).2, List.take_nil]
      exact h key hkey
    | some text =>
      have hzero := hkeep (List.ne_nil_of_mem hkey) (by rw [hread]; rfl)
      rcases hkilled with hkilled | hkilled
      · rw [hzero] at hkilled
        cases hkilled
      · rw [hzero, Option.some.injEq] at hkilled
        rw [← hkilled, List.take_zero]
        exact h key hkey
  unfold KeyFile.step
  split
  · next hnone =>
    intro key hkey
    rcases List.mem_append.1 hkey with hkey | hkey
    · have hkept := hold key hkey (actions fromSeedBytes keyPath s e).length (Or.inl hnone)
      rw [List.take_length] at hkept
      exact hkept
    · rw [List.mem_singleton] at hkey
      rw [hkey]
      exact holds_call hseed s e
  · next n hsome => exact fun key hkey => hold key hkey n (Or.inr hsome)

/-- **All starts return one key**, and the file holds it, in every run in which no start whose
read raises `OSError` writes over the file once a key has been returned. -/
theorem fingerprint_stable (hseed : ∀ key : Seed, fromSeedBytes key = .ok key.1)
    (file : Option Octets) {τ : List Start}
    (hkeep : Along (step fromSeedBytes keyPath) KeepsFile (initial file) τ) :
    (∀ key ∈ (run (step fromSeedBytes keyPath) (initial file) τ).returned,
      Holds fromSeedBytes (run (step fromSeedBytes keyPath) (initial file) τ).file key) ∧
    ∀ key ∈ (run (step fromSeedBytes keyPath) (initial file) τ).returned,
      ∀ key' ∈ (run (step fromSeedBytes keyPath) (initial file) τ).returned, key = key' := by
  have hstart : Stable fromSeedBytes (initial file) := by
    intro key hkey
    cases hkey
  have hstable : Stable fromSeedBytes (run (step fromSeedBytes keyPath) (initial file) τ) :=
    inv_run (fun s e h hk => h.step hseed hk) hstart hkeep
  exact ⟨hstable, fun key hkey key' hkey' => (hstable key hkey).unique (hstable key' hkey')⟩

/-! ### The demo -/

/-- `MLKEM768PrivateKey.from_seed_bytes`. -/
def demoFromSeedBytes (data : Octets) : Except PyStr Octets :=
  if data.length = 64 then .ok data else .error (lit "An ML-KEM-768 seed is 64 bytes long")

def demoSeed (b : UInt8) : Seed := ⟨List.replicate 64 b, List.length_replicate⟩

/-- The path of the key file. -/
def demoPath : PyStr := lit "cloud_state/cloud.key"

/-- A start is killed in the middle of its write, the next one writes a key, and two others
load it, one of which is killed. -/
def demoStarts : List Start :=
  [⟨none, demoSeed 1, some 10⟩, ⟨none, demoSeed 2, none⟩, ⟨none, demoSeed 3, some 5⟩,
    ⟨some (lit "Input/output error"), demoSeed 4, some 0⟩, ⟨none, demoSeed 5, none⟩]

theorem fingerprint_stable_demo :
    (run (step demoFromSeedBytes demoPath) (initial none) demoStarts).returned
      = [(demoSeed 2).1, (demoSeed 2).1] ∧
    ∀ key ∈ (run (step demoFromSeedBytes demoPath) (initial none) demoStarts).returned,
      Holds demoFromSeedBytes
        (run (step demoFromSeedBytes demoPath) (initial none) demoStarts).file key := by
  have hseed : ∀ key : Seed, demoFromSeedBytes key = .ok key.1 := fun key => if_pos key.2
  have hkeep : Along (step demoFromSeedBytes demoPath) KeepsFile (initial none) demoStarts := by
    unfold KeepsFile
    decide +kernel
  exact ⟨by decide +kernel, (fingerprint_stable hseed none hkeep).1⟩

/-- The second start cannot read the file for once, and replaces the key. -/
theorem key_replaced :
    (run (step demoFromSeedBytes demoPath) (initial none)
      [⟨none, demoSeed 1, none⟩, ⟨some (lit "Input/output error"), demoSeed 2, none⟩]).returned
      = [(demoSeed 1).1, (demoSeed 2).1] ∧
    (demoSeed 1).1 ≠ (demoSeed 2).1 ∧
    (run (step demoFromSeedBytes demoPath) (initial none)
      [⟨none, demoSeed 1, none⟩, ⟨some (lit "Input/output error"), demoSeed 2, none⟩]).file
      = some (demoSeed 2).1 := by
  decide +kernel

end PqcBridge.Cloud.KeyFile
