/-
The process of the cloud (`load_or_generate_keypair` and `main` in `cloud/cloud.py`).

`startup` lists what `main` does before it accepts connections, in the order of the
source.  A process can be killed at any moment, so a start carries out the first `n`
entries of the list only, and accepts connections if it gets to the end; where the entry
that it is killed in writes the key file, a part of the key is left there.  The key file
and what has been logged outlive the process.
-/
import PqcBridge.Cloud.Server

namespace PqcBridge.Cloud

open Python Protocol Crypto

variable {B : Type} {P : Primitives B}

/-- What `main` is given on the command line and in the environment. -/
structure CloudArgs (P : Primitives B) where
  cloudId : PyStr
  listenHost : PyStr
  listenPort : ℕ
  keyFile : PyStr
  gatewayKeys : KeyRegistry P

/-- The default of `ReadingStore(max_readings)`. -/
def defaultMaxReadings : ℕ := 1000

/-- What `main` does, one statement at a time. -/
inductive StartAction (B : Type) where
  /-- `save_mlkem_private_key` -/
  | save (privateKey : B)
  /-- a call of the logger -/
  | write (text : PyStr)
  /-- the call that logs the fingerprint -/
  | fingerprint (text : PyStr)
  /-- `serve_forever` begins to accept connections -/
  | serve (privateKey : B)

/-- `load_or_generate_keypair`: the private key, and what is done on the way.  `saved` is
the content of the key file, `loadKey` is `load_mlkem_private_key` with the text of its
`ValueError` or `OSError`, and `fresh` is the key that would be generated. -/
def loadOrGenerateKeypair (loadKey : B → Except PyStr B) (keyPath : PyStr) (saved : Option B)
    (fresh : B) : B × List (StartAction B) :=
  match saved with
  | some data =>
    match loadKey data with
    | .ok privateKey =>
      (privateKey, [.write (lit "loaded existing ML-KEM keypair from " ++ keyPath)])
    | .error e =>
      (fresh, [.write (lit "could not load keypair from " ++ keyPath ++ lit " (" ++ e
          ++ lit "); generating a new one"),
        .save fresh, .write (lit "generated new ML-KEM keypair; persisted to " ++ keyPath)])
  | none =>
    (fresh, [.save fresh, .write (lit "generated new ML-KEM keypair; persisted to " ++ keyPath)])

variable (args : CloudArgs P) (loadKey : B → Except PyStr B)

/-- The line with the label of the fingerprint. -/
def labelLine : PyStr :=
  lit "cloud " ++ args.cloudId ++ lit " ML-KEM public key SHA-256 fingerprint:"

variable (P) in
/-- The line with the fingerprint. -/
def fingerprintLine (privateKey : B) : PyStr :=
  lit "  " ++ publicKeyFingerprint P (P.publicKey privateKey)

/-- `main` after the keypair is there, up to the first connection. -/
def announce (privateKey : B) : List (StartAction B) :=
  [.write (labelLine args), .fingerprint (fingerprintLine P privateKey),
    .write (lit "provision this value as CLOUD_PUBLIC_KEY_SHA256 on the gateway (F-01 pinning)"),
    .write (lit "cloud listening for gateways on " ++ args.listenHost ++ lit ":"
      ++ decimal args.listenPort),
    .serve privateKey]

/-- `main` up to the first connection. -/
def startup (saved : Option B) (fresh : B) : List (StartAction B) :=
  (loadOrGenerateKeypair loadKey args.keyFile saved fresh).2
    ++ announce args (loadOrGenerateKeypair loadKey args.keyFile saved fresh).1

/-- The configuration of a server with this key. -/
def CloudArgs.config (privateKey : B) : CloudConfig P where
  cloudId := args.cloudId
  privateKey := privateKey
  gatewayKeys := args.gatewayKeys

/-! ### Starts, connections and stops -/

/-- The host of the cloud: the key file, the server of the last process, the key of the
process where one accepts connections, and whether a fingerprint has been logged, which
the program does not look at. -/
structure Host (B : Type) where
  keyFile : Option B
  server : ServerState B
  running : Option B
  announced : Bool

namespace Host

/-- Everything that the cloud has logged. -/
def log (h : Host B) : List PyStr := h.server.shared.log

/-- A call of the logger. -/
def write (h : Host B) (text : PyStr) : Host B :=
  { h with server := { h.server with shared := h.server.shared.write text } }

@[simp] lemma write_keyFile (h : Host B) (t : PyStr) : (h.write t).keyFile = h.keyFile := rfl
@[simp] lemma write_announced (h : Host B) (t : PyStr) : (h.write t).announced = h.announced := rfl
@[simp] lemma write_log (h : Host B) (t : PyStr) : (h.write t).log = h.log ++ [t] := rfl

/-- One entry of `startup` is carried out. -/
def act (h : Host B) : StartAction B → Host B
  | .save privateKey => { h with keyFile := some privateKey }
  | .write text => h.write text
  | .fingerprint text => { h.write text with announced := true }
  | .serve privateKey =>
    { h with server := Cloud.initial defaultMaxReadings h.log, running := some privateKey }

/-- One entry of `startup` is begun; of a key file that is being written, `part` is there. -/
def begin (h : Host B) (part : B) : Option (StartAction B) → Host B
  | some (.save _) => { h with keyFile := some part }
  | _ => h

end Host

/-- What happens to the cloud. -/
inductive HostEvent (B : Type) where
  /-- a process is started, and killed after `n` entries of `startup` if it has more -/
  | start (fresh : B) (n : ℕ)
  /-- a process is started, and killed in the entry after these; of a key that it writes, it
  leaves a part -/
  | startCut (fresh : B) (n : ℕ) (part : B)
  /-- a handler of the running server moves -/
  | conn (c : ℕ) (ev : ConnEvent)
  /-- `KeyboardInterrupt` in `main` -/
  | interrupt
  /-- the process ends -/
  | exit

variable (addr : ℕ → Addr)

/-- One event.  The number of a connection decides its address, and a later process may
use new numbers. -/
def hostStep (h : Host B) : HostEvent B → Host B
  | .start fresh n =>
    ((startup args loadKey h.keyFile fresh).take n).foldl Host.act { h with running := none }
  | .startCut fresh n part =>
    (((startup args loadKey h.keyFile fresh).take n).foldl Host.act
      { h with running := none }).begin part (startup args loadKey h.keyFile fresh)[n]?
  | .conn c ev =>
    match h.running with
    | some privateKey => { h with server := step (args.config privateKey) addr h.server (c, ev) }
    | none => h
  | .interrupt => if h.running.isSome then h.write (lit "cloud stopped by user") else h
  | .exit => { h with running := none }

/-- Before the first start, with a key file or without one. -/
def initialHost (keyFile : Option B) : Host B where
  keyFile := keyFile
  server := Cloud.initial defaultMaxReadings []
  running := none
  announced := false

end PqcBridge.Cloud
