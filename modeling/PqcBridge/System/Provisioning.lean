/-
The provisioning script and the cloud it talks to (`main` in `scripts/docker_bootstrap.py`).

The script starts the cloud, waits for its health endpoint, reads the fingerprint from the log,
writes it to `.env`, and starts the gateway, whose pin `docker compose` takes from that file.
The cloud goes on meanwhile: it is connected to, killed and started again.

* `Sound`: what the file, the gateway and the place of the script say of the cloud;
* `history_ne_nil_of_readingsCount`: what an answer of the health endpoint says of the store;
* `bootstrap_sound`: the gateway is started with the fingerprint of the cloud or not at all, and
  the script returns only after a reading has been stored.
-/
import PqcBridge.Cloud.Health
import PqcBridge.Common.Health
import PqcBridge.System.TrustAnchor

namespace PqcBridge.Provisioning

open Python Protocol Crypto Cloud DockerBootstrap TrustAnchor Runs Handshake

/-! ### The script -/

/-- `int(...)` of a JSON value. -/
inductive IntResult where
  | value (n : ℤ)
  | valueError
  /-- `TypeError` or `OverflowError` -/
  | escapes

/-- `int`. -/
def toInt : Json → IntResult
  | .int n => .value n
  | .bool b => .value (if b then 1 else 0)
  | .float (.finite q) => .value (q.num.tdiv q.den)
  | .float .nan => .valueError
  | .str s => match parseInt s with
    | some n => .value n
    | none => .valueError
  | _ => .escapes

/-- What `urlopen` and the read of the response do. -/
inductive Fetch where
  /-- status 200, with this body -/
  | body (answer : Octets)
  /-- an `OSError`, such as a refused connection or another status -/
  | osError
  /-- an `http.client.HTTPException` -/
  | httpException

/-- `cloud_readings_count`: the number, or `none` where an exception leaves it. -/
def readingsCount (readFloat : PyStr → PyFloat) (limit : ℕ) : Fetch → Option ℤ
  | .osError => some 0
  | .httpException => none
  | .body answer =>
    match Loads.loads readFloat limit answer with
    | .error .valueError => some 0
    | .error .recursionError => none
    | .ok (.obj body) =>
      match toInt ((JsonDict.field body "stored_readings").getD (.int 0)) with
      | .value n => some n
      | .valueError => some 0
      | .escapes => none
    | .ok _ => none

/-- The text of `.env`. -/
def envText (fingerprint : PyStr) : PyStr :=
  lit "CLOUD_PUBLIC_KEY_SHA256=" ++ fingerprint ++ [newline]

/-- Where the script stands. -/
inductive ScriptPc where
  /-- before `docker compose up -d cloud` -/
  | start
  /-- waits for the health endpoint -/
  | health
  /-- before the log is read -/
  | logs
  /-- before `.env` is written -/
  | provision (fingerprint : PyStr)
  /-- before `docker compose up -d` -/
  | up (fingerprint : PyStr)
  /-- waits for a session in the log -/
  | session
  /-- waits for a reading -/
  | readings
  /-- the script has returned; the history of the store at that time, at which it does not look -/
  | complete (history : List JsonDict)
  /-- an exception, `sys.exit`, or a signal -/
  | failed

/-- How `write_text` ends. -/
inductive Written where
  | all
  /-- the file is not opened -/
  | nothing
  /-- the file has been truncated, and then `n` characters are in it -/
  | cut (n : ℕ)

variable {B : Type}

/-- The cloud, the script, the file and the pin with which the script has started the gateway. -/
structure State (B : Type) where
  host : Host B
  /-- whether the health endpoint of the last process was opened -/
  answering : Bool
  pc : ScriptPc
  envFile : Option PyStr
  gateway : Option PyStr

/-- What happens. -/
inductive Event (B : Type) where
  /-- something happens to the cloud -/
  | host (ev : HostEvent B)
  /-- `docker compose up`, which may start the gateway and fail all the same -/
  | compose (started ok : Bool)
  /-- a condition of `wait_until` is asked; whether the health endpoint answers -/
  | poll (ok : Bool)
  /-- the last condition is asked -/
  | pollReadings (fetch : Fetch)
  /-- `compose_logs`, which may raise, and the search in it -/
  | read (ok : Bool)
  | write (written : Written)
  /-- a deadline passes, an exception is raised, or a signal is sent -/
  | stop

variable {P : Primitives B} (args : CloudArgs P) (loadKey : B → Except PyStr B) (addr : ℕ → Addr)
  (f : LogFormat) (readFloat : PyStr → PyFloat) (limit : ℕ) (composePin : Option PyStr → PyStr)

/-- Whether the last process has come to `make_health_server`, which stands behind the first three
lines of the log. -/
def answersAfter (h : Host B) (answering : Bool) : HostEvent B → Bool
  | .start fresh n | .startCut fresh n _ =>
    (loadOrGenerateKeypair loadKey args.keyFile h.keyFile fresh).2.length + 3 ≤ n
  | .exit => false
  | _ => answering

/-- The server of the process whose health endpoint is asked. -/
def answeringServer (h : Host B) : ServerState B :=
  if h.running.isSome then h.server else Cloud.initial defaultMaxReadings h.log

/-- One step.  `composePin` is what `docker compose` makes of `.env`. -/
def step (s : State B) : Event B → State B
  | .host ev =>
    { s with
      host := hostStep args loadKey addr s.host ev
      answering := answersAfter args loadKey s.host s.answering ev }
  | .compose started ok =>
    match s.pc with
    | .start => { s with pc := if ok then .health else .failed }
    | .up _ =>
      { s with
        gateway := if started || ok then some (composePin s.envFile) else s.gateway
        pc := if ok then .session else .failed }
    | _ => s
  | .poll ok =>
    match s.pc with
    | .health => if ok && s.answering then { s with pc := .logs } else s
    | .session =>
      if lit "ML-KEM-768 session" <:+: f.logs s.host.log then { s with pc := .readings } else s
    | _ => s
  | .pollReadings fetch =>
    match s.pc with
    | .readings =>
      match readingsCount readFloat limit fetch with
      | some n =>
        if 1 ≤ n then { s with pc := .complete (answeringServer s.host).shared.store.history }
        else s
      | none => { s with pc := .failed }
    | _ => s
  | .read ok =>
    match s.pc with
    | .logs =>
      match if ok then extractFingerprint (f.logs s.host.log) else none with
      | some fingerprint => { s with pc := .provision fingerprint }
      | none => { s with pc := .failed }
    | _ => s
  | .write written =>
    match s.pc with
    | .provision fingerprint =>
      match written with
      | .all => { s with envFile := some (envText fingerprint), pc := .up fingerprint }
      | .nothing => { s with pc := .failed }
      | .cut n => { s with envFile := some ((envText fingerprint).take n), pc := .failed }
    | _ => s
  | .stop =>
    match s.pc with
    | .complete history => { s with pc := .complete history }
    | _ => { s with pc := .failed }

/-- Before the script is run, with the key file and `.env` as they are. -/
def initial (keyFile : Option B) (envFile : Option PyStr) : State B :=
  ⟨initialHost keyFile, false, .start, envFile, none⟩

/-! ### The cloud -/

variable {args loadKey addr f readFloat limit composePin}

/-- The fingerprint of the cloud, which has logged one. -/
def IsFingerprint (P : Primitives B) (h : Host B) (fingerprint : PyStr) : Prop :=
  h.announced = true ∧ ∃ privateKey, h.keyFile = some privateKey ∧
    fingerprint = publicKeyFingerprint P (P.publicKey privateKey)

/-- Whether the entry replaces the key file. -/
def saves : StartAction B → Bool
  | .save _ => true
  | _ => false

lemma act_announced {h : Host B} (hann : h.announced = true) (a : StartAction B) :
    (h.act a).announced = true := by
  cases a with
  | fingerprint text => rfl
  | _ => exact hann

lemma foldl_act_announced (as : List (StartAction B)) {h : Host B} (hann : h.announced = true) :
    (as.foldl Host.act h).announced = true := by
  induction as generalizing h with
  | nil => exact hann
  | cons a as ih => exact ih (act_announced hann a)

lemma foldl_act_keyFile {as : List (StartAction B)} (has : ∀ a ∈ as, saves a = false) (h : Host B) :
    (as.foldl Host.act h).keyFile = h.keyFile := by
  induction as generalizing h with
  | nil => rfl
  | cons a as ih =>
    have ha := has a List.mem_cons_self
    have hact : (h.act a).keyFile = h.keyFile := by
      cases a with
      | save key => cases ha
      | _ => rfl
    rw [List.foldl_cons, ih fun b hb => has b (List.mem_cons_of_mem _ hb), hact]

/-- A start that comes to the health endpoint has logged the fingerprint. -/
lemma announced_of_start {saved : Option B} {fresh : B} {n : ℕ}
    (hn : (loadOrGenerateKeypair loadKey args.keyFile saved fresh).2.length + 3 ≤ n) (h : Host B) :
    (((startup args loadKey saved fresh).take n).foldl Host.act h).announced = true := by
  unfold startup
  generalize (loadOrGenerateKeypair loadKey args.keyFile saved fresh).1 = key
  generalize (loadOrGenerateKeypair loadKey args.keyFile saved fresh).2 = as at hn ⊢
  obtain ⟨m, rfl⟩ := Nat.exists_eq_add_of_le hn
  have htake : (as ++ Cloud.announce args key).take (as.length + 3 + m)
      = (as ++ [.write (labelLine args), .fingerprint (fingerprintLine P key)])
        ++ ((Cloud.announce args key).drop 2).take (m + 1) := by
    rw [Nat.add_assoc, List.take_length_add_append, List.append_assoc]
    have hm : 3 + m = m + 1 + 2 := by omega
    rw [hm]
    rfl
  rw [htake, List.foldl_append, List.foldl_append]
  exact foldl_act_announced _ rfl

lemma begin_announced (h : Host B) (part : B) (a : Option (StartAction B)) :
    (h.begin part a).announced = h.announced := by
  unfold Host.begin
  split <;> rfl

/-- A fingerprint that has been logged stays logged. -/
lemma announced_step {h : Host B} (hann : h.announced = true) (ev : HostEvent B) :
    (hostStep args loadKey addr h ev).announced = true := by
  cases ev with
  | start fresh n => exact foldl_act_announced _ hann
  | startCut fresh n part =>
    exact (begin_announced _ part _).trans (foldl_act_announced _ hann)
  | conn c ev =>
    simp only [hostStep]
    split <;> exact hann
  | interrupt =>
    simp only [hostStep]
    split_ifs <;> exact hann
  | exit => exact hann

/-- A start that loads the key saves nothing. -/
lemma saves_of_mem_startup {privateKey : B} (hloads : loadKey privateKey = .ok privateKey)
    (fresh : B) : ∀ a ∈ startup args loadKey (some privateKey) fresh, saves a = false := by
  intro a ha
  simp only [startup, loadOrGenerateKeypair, hloads, Cloud.announce, List.mem_append,
    List.mem_cons, List.not_mem_nil, or_false] at ha
  rcases ha with rfl | rfl | rfl | rfl | rfl | rfl <;> rfl

lemma begin_keyFile {part : B} {a : Option (StartAction B)}
    (ha : ∀ b, a = some b → saves b = false) (h : Host B) :
    (h.begin part a).keyFile = h.keyFile := by
  rcases a with _ | a
  · rfl
  · cases a with
    | save key => cases ha _ rfl
    | _ => rfl

/-- The fingerprint of the cloud stays, whatever happens to it. -/
lemma IsFingerprint.step {h : Host B} (hcloud : Ok loadKey f P h) {fingerprint : PyStr}
    (hfp : IsFingerprint P h fingerprint) (ev : HostEvent B) :
    IsFingerprint P (hostStep args loadKey addr h ev) fingerprint := by
  obtain ⟨hann, privateKey, hkey, rfl⟩ := hfp
  refine ⟨announced_step hann ev, privateKey, ?_, rfl⟩
  have hloads : loadKey privateKey = .ok privateKey := by
    obtain ⟨key, hkey', hloads, -⟩ := hcloud hann
    obtain rfl : privateKey = key := Option.some_injective _ (hkey.symm.trans hkey')
    exact hloads
  have hstart : ∀ fresh n, (((startup args loadKey h.keyFile fresh).take n).foldl Host.act
      { h with running := none }).keyFile = some privateKey := by
    intro fresh n
    rw [foldl_act_keyFile fun a ha => ?_]
    · exact hkey
    · rw [hkey] at ha
      exact saves_of_mem_startup hloads fresh a (List.mem_of_mem_take ha)
  cases ev with
  | start fresh n => exact hstart fresh n
  | startCut fresh n part =>
    refine (begin_keyFile (fun a ha => ?_) _).trans (hstart fresh n)
    rw [hkey] at ha
    exact saves_of_mem_startup hloads fresh a (List.mem_of_getElem? ha)
  | conn c ev =>
    simp only [hostStep]
    split <;> exact hkey
  | interrupt =>
    simp only [hostStep]
    split_ifs <;> exact hkey
  | exit => exact hkey

/-! ### The health endpoint -/

variable (floatText : PyFloat → PyStr) (readFloat limit) in
/-- The condition on an answer: it is one of the health endpoint of the cloud, whose provider may
raise, and which reads the store first. -/
def Answered (s : State B) (answer : Octets) : Prop :=
  ∃ endpoint : Health.Endpoint, ∃ provider : Py JsonDict,
    endpoint.routes.lookup (lit "/health") = none ∧ validUnicode endpoint.service = true ∧
    Health.doGet floatText limit endpoint provider (lit "/health") = .ok (.json answer) ∧
    ∀ d, provider = .ok d → ∃ view timings, d = Cloud.status view timings ∧
      (view 0).1 = answeringServer s.host ∧
      Loads.ReadableFields floatText readFloat d ∧ Loads.depth (.obj d) ≤ limit

lemma field_status {view : ℕ → Tracked B} {timings : JsonDict} {service : PyStr} :
    JsonDict.field (Health.healthBody service (.ok (Cloud.status view timings))) "stored_readings"
      = some (.int (view 0).1.shared.store.count) := by
  have hkeys : ((Cloud.status view timings).map Prod.fst).Nodup := by
    show [lit "mlkem_ready", lit "stored_readings", lit "active_sessions", lit "counters",
      lit "timings"].Nodup
    decide
  rw [JsonDict.field, Health.healthBody, Health.lookup_update hkeys]
  rfl

/-- A number above zero says that a reading has been stored. -/
lemma history_ne_nil_of_readingsCount {floatText : PyFloat → PyStr}
    (hfloat : ∀ x, Framing.Printable (floatText x)) (hlimit : 0 < limit) {s : State B}
    {answer : Octets} (hanswer : Answered readFloat limit floatText s answer) {n : ℤ}
    (hn : readingsCount readFloat limit (.body answer) = some n) (hpos : 1 ≤ n) :
    (answeringServer s.host).shared.store.history ≠ [] := by
  obtain ⟨endpoint, provider, hroute, hservice, hget, hprovider⟩ := hanswer
  have hread : ∀ d, provider = .ok d →
      Loads.ReadableFields floatText readFloat d ∧ Loads.depth (.obj d) ≤ limit := by
    intro d hd
    obtain ⟨-, -, -, -, hread⟩ := hprovider d hd
    exact hread
  obtain ⟨payload, hpayload, hloads⟩ := Health.doGet_health hfloat hroute hservice hlimit hread
  rw [hget] at hpayload
  cases hpayload
  rw [readingsCount, hloads] at hn
  rcases provider with e | d
  · -- a provider that raises says nothing of the readings
    cases hn
    omega
  · obtain ⟨view, timings, rfl, hview, -⟩ := hprovider d rfl
    simp only [field_status, Option.getD_some, toInt, Option.some.injEq] at hn
    rw [ReadingStore.count_eq, hview] at hn
    intro hnil
    rw [hnil, List.length_nil, Nat.min_zero] at hn
    omega

/-! ### The invariant -/

/-- The gateway has been started with the fingerprint that is in `.env`. -/
def Started (P : Primitives B) (s : State B) : Prop :=
  ∃ fingerprint, IsFingerprint P s.host fingerprint ∧ s.envFile = some (envText fingerprint) ∧
    s.gateway = some fingerprint

/-- What holds where the script stands at this place; `before` was in `.env`. -/
def Place (P : Primitives B) (before : Option PyStr) (s : State B) : ScriptPc → Prop
  | .start | .health => s.envFile = before ∧ s.gateway = none
  | .logs => s.host.announced = true ∧ s.envFile = before ∧ s.gateway = none
  | .provision fingerprint =>
    IsFingerprint P s.host fingerprint ∧ s.envFile = before ∧ s.gateway = none
  | .up fingerprint =>
    IsFingerprint P s.host fingerprint ∧ s.envFile = some (envText fingerprint) ∧ s.gateway = none
  | .session | .readings => Started P s
  | .complete history => Started P s ∧ history ≠ []
  | .failed => Started P s ∨ s.gateway = none ∧ (s.envFile = before ∨
      ∃ fingerprint n, IsFingerprint P s.host fingerprint ∧
        s.envFile = some ((envText fingerprint).take n))

/-- The invariant. -/
structure Sound (loadKey : B → Except PyStr B) (f : LogFormat) (P : Primitives B)
    (before : Option PyStr) (s : State B) : Prop where
  cloud : Ok loadKey f P s.host
  answering : s.answering = true → s.host.announced = true
  place : Place P before s s.pc

variable {before : Option PyStr} {s : State B}

/-- A script that fails leaves what it has done. -/
lemma Place.failed {pc : ScriptPc} (h : Place P before s pc) (hpc : ∀ r, pc ≠ .complete r) :
    Place P before s .failed := by
  cases pc with
  | start => exact Or.inr ⟨h.2, Or.inl h.1⟩
  | health => exact Or.inr ⟨h.2, Or.inl h.1⟩
  | logs => exact Or.inr ⟨h.2.2, Or.inl h.2.1⟩
  | provision fingerprint => exact Or.inr ⟨h.2.2, Or.inl h.2.1⟩
  | up fingerprint =>
    refine Or.inr ⟨h.2.2, Or.inr ⟨fingerprint, (envText fingerprint).length, h.1, ?_⟩⟩
    rw [List.take_length]
    exact h.2.1
  | session => exact Or.inl h
  | readings => exact Or.inl h
  | complete history => exact absurd rfl (hpc history)
  | failed => exact h

/-- Whatever happens to the cloud, what the script knows of it stays true. -/
lemma Place.host (hcloud : Ok loadKey f P s.host) {pc : ScriptPc} (h : Place P before s pc)
    (ev : HostEvent B) (answering : Bool) :
    Place P before { s with host := hostStep args loadKey addr s.host ev, answering := answering }
      pc := by
  have hstarted : Started P s → Started P
      { s with host := hostStep args loadKey addr s.host ev, answering := answering } := by
    rintro ⟨fingerprint, hfp, hrest⟩
    exact ⟨fingerprint, hfp.step hcloud ev, hrest⟩
  cases pc with
  | start => exact h
  | health => exact h
  | logs => exact ⟨announced_step h.1 ev, h.2⟩
  | provision fingerprint => exact ⟨h.1.step hcloud ev, h.2⟩
  | up fingerprint => exact ⟨h.1.step hcloud ev, h.2⟩
  | session => exact hstarted h
  | readings => exact hstarted h
  | complete history => exact ⟨hstarted h.1, h.2⟩
  | failed =>
    rcases h with h | ⟨hgateway, h | ⟨fingerprint, n, hfp, henv⟩⟩
    · exact Or.inl (hstarted h)
    · exact Or.inr ⟨hgateway, Or.inl h⟩
    · exact Or.inr ⟨hgateway, Or.inr ⟨fingerprint, n, hfp.step hcloud ev, henv⟩⟩

variable (args loadKey addr readFloat limit) in
/-- The condition on one event: the cloud does nothing that misleads the search in its log, and
it is its health endpoint that answers. -/
def Undisturbed (floatText : PyFloat → PyStr) (s : State B) : Event B → Prop
  | .host ev => Quiet args loadKey addr s.host ev
  | .pollReadings (.body answer) => Answered readFloat limit floatText s answer
  | _ => True

/-- What `docker compose` is relied on for: it reads back the 64 digits of a fingerprint. -/
def ReadsPin (composePin : Option PyStr → PyStr) : Prop :=
  ∀ fingerprint, fingerprint.length = 64 → (∀ a ∈ fingerprint, isHex a = true) →
    composePin (some (envText fingerprint)) = fingerprint

/-- The script moves on. -/
lemma Sound.script (h : Sound loadKey f P before s) (pc : ScriptPc) (hpc : Place P before s pc) :
    Sound loadKey f P before { s with pc := pc } :=
  ⟨h.cloud, h.answering, by cases pc <;> exact hpc⟩

/-- Something happens to the cloud. -/
lemma Sound.hostStep (hload : ∀ data k, loadKey data = .ok k → k = data) (hhex : HexDigest P)
    (h : Sound loadKey f P before s) {ev : HostEvent B} (hgen : Generated loadKey ev)
    (hquiet : Quiet args loadKey addr s.host ev) :
    Sound loadKey f P before
      (Provisioning.step args loadKey addr f readFloat limit composePin s (.host ev)) := by
  refine ⟨hostStep_ok hload hhex s.host ev h.cloud ⟨hgen, hquiet⟩, ?_, h.place.host h.cloud ev _⟩
  intro hafter
  cases ev with
  | start fresh n => exact announced_of_start (of_decide_eq_true hafter) _
  | startCut fresh n part =>
    exact (begin_announced _ part _).trans (announced_of_start (of_decide_eq_true hafter) _)
  | conn c ev => exact announced_step (h.answering hafter) _
  | interrupt => exact announced_step (h.answering hafter) _
  | exit => cases hafter

/-- The gateway is started with the pin that is in the file. -/
lemma Place.started (hhex : HexDigest P) (hpin : ReadsPin composePin) {fingerprint : PyStr}
    (h : Place P before s (.up fingerprint)) :
    Started P { s with gateway := some (composePin s.envFile) } := by
  obtain ⟨hfp, henv, -⟩ := h
  refine ⟨fingerprint, hfp, henv, congrArg some ?_⟩
  obtain ⟨-, privateKey, -, rfl⟩ := hfp
  rw [henv]
  exact hpin _ (hhex _).1 (hhex _).2

/-- `docker compose up`. -/
lemma Sound.compose (hhex : HexDigest P) (hpin : ReadsPin composePin)
    (h : Sound loadKey f P before s) (started ok : Bool) :
    Sound loadKey f P before
      (Provisioning.step args loadKey addr f readFloat limit composePin s
        (.compose started ok)) := by
  have hplace := h.place
  simp only [Provisioning.step]
  split
  · rename_i hpc
    rw [hpc] at hplace
    cases ok
    · exact h.script .failed (Or.inr ⟨hplace.2, Or.inl hplace.1⟩)
    · exact h.script .health hplace
  · rename_i fingerprint hpc
    rw [hpc] at hplace
    have hstarted := hplace.started hhex hpin
    refine ⟨h.cloud, h.answering, ?_⟩
    cases ok
    · cases started
      · exact hplace.failed fun _ h => by cases h
      · exact Or.inl hstarted
    · rw [Bool.or_true, if_pos rfl]
      exact hstarted
  · exact h

/-- A condition of `wait_until` is asked. -/
lemma Sound.poll (h : Sound loadKey f P before s) (ok : Bool) :
    Sound loadKey f P before
      (Provisioning.step args loadKey addr f readFloat limit composePin s (.poll ok)) := by
  have hplace := h.place
  simp only [Provisioning.step]
  split
  · rename_i hpc
    rw [hpc] at hplace
    split_ifs with hok
    · rw [Bool.and_eq_true] at hok
      exact h.script .logs ⟨h.answering hok.2, hplace⟩
    · exact h
  · rename_i hpc
    rw [hpc] at hplace
    split_ifs
    · exact h.script .readings hplace
    · exact h
  · exact h

/-- The readings are asked for: if there is a positive number of them, one has been stored. -/
lemma Sound.pollReadings {floatText : PyFloat → PyStr}
    (hfloat : ∀ x, Framing.Printable (floatText x)) (hlimit : 0 < limit)
    (h : Sound loadKey f P before s) {fetch : Fetch}
    (hfetch : Undisturbed args loadKey addr readFloat limit floatText s (.pollReadings fetch)) :
    Sound loadKey f P before
      (Provisioning.step args loadKey addr f readFloat limit composePin s
        (.pollReadings fetch)) := by
  have hplace := h.place
  simp only [Provisioning.step]
  split
  · rename_i hpc
    rw [hpc] at hplace
    rcases hcount : readingsCount readFloat limit fetch with _ | n
    · exact h.script .failed (Or.inl hplace)
    · dsimp only
      split_ifs with hpos
      · refine h.script (.complete _) ⟨hplace, ?_⟩
        cases fetch with
        | body answer => exact history_ne_nil_of_readingsCount hfloat hlimit hfetch hcount hpos
        | osError =>
          cases hcount
          omega
        | httpException => cases hcount
      · exact h
  · exact h

/-- The log is read: the search finds the fingerprint. -/
lemma Sound.read (h : Sound loadKey f P before s) (ok : Bool) :
    Sound loadKey f P before
      (Provisioning.step args loadKey addr f readFloat limit composePin s (.read ok)) := by
  have hplace := h.place
  simp only [Provisioning.step]
  split
  · rename_i hpc
    rw [hpc] at hplace
    obtain ⟨hann, hrest⟩ := hplace
    cases ok
    · exact h.script .failed (Or.inr ⟨hrest.2, Or.inl hrest.1⟩)
    · obtain ⟨privateKey, hkey, -, hlog⟩ := h.cloud hann
      rw [if_pos rfl, hlog.extractFingerprint]
      exact h.script (.provision _) ⟨⟨hann, privateKey, hkey, rfl⟩, hrest⟩
  · exact h

/-- `.env` is written. -/
lemma Sound.write (h : Sound loadKey f P before s) (written : Written) :
    Sound loadKey f P before
      (Provisioning.step args loadKey addr f readFloat limit composePin s (.write written)) := by
  have hplace := h.place
  simp only [Provisioning.step]
  split
  · rename_i fingerprint hpc
    rw [hpc] at hplace
    cases written with
    | all => exact ⟨h.cloud, h.answering, hplace.1, rfl, hplace.2.2⟩
    | nothing => exact h.script .failed (hplace.failed fun _ h => by cases h)
    | cut n =>
      exact ⟨h.cloud, h.answering, Or.inr ⟨hplace.2.2, Or.inr ⟨fingerprint, n, hplace.1, rfl⟩⟩⟩
  · exact h

/-- The script is stopped. -/
lemma Sound.stop (h : Sound loadKey f P before s) :
    Sound loadKey f P before
      (Provisioning.step args loadKey addr f readFloat limit composePin s .stop) := by
  simp only [Provisioning.step]
  split
  · rename_i history hpc
    exact h.script _ (hpc ▸ h.place)
  · rename_i hpc
    exact h.script .failed (h.place.failed hpc)

/-- The step lemma. -/
lemma Sound.step {floatText : PyFloat → PyStr}
    (hload : ∀ data k, loadKey data = .ok k → k = data) (hhex : HexDigest P)
    (hfloat : ∀ x, Framing.Printable (floatText x)) (hlimit : 0 < limit)
    (hpin : ReadsPin composePin) (h : Sound loadKey f P before s) {ev : Event B}
    (hgen : ∀ e, ev = .host e → Generated loadKey e)
    (hev : Undisturbed args loadKey addr readFloat limit floatText s ev) :
    Sound loadKey f P before
      (Provisioning.step args loadKey addr f readFloat limit composePin s ev) := by
  cases ev with
  | host ev => exact h.hostStep hload hhex (hgen ev rfl) hev
  | compose started ok => exact h.compose hhex hpin started ok
  | poll ok => exact h.poll ok
  | pollReadings fetch => exact h.pollReadings hfloat hlimit hev
  | read ok => exact h.read ok
  | write written => exact h.write written
  | stop => exact h.stop

/-! ### Every run -/

/-- What the script does with the trust anchor. -/
structure Bootstrapped (P : Primitives B) (before : Option PyStr) (s : State B) : Prop where
  /-- nothing is ever written to `.env` but the fingerprint, or the beginning of its text -/
  env : s.envFile = before ∨ ∃ fingerprint n, IsFingerprint P s.host fingerprint ∧
    s.envFile = some ((envText fingerprint).take n)
  /-- the gateway that is started accepts the public key of the cloud, and what has its
  fingerprint -/
  gateway : ∀ pin, s.gateway = some pin → s.envFile = some (envText pin) ∧
    ∃ privateKey, s.host.keyFile = some privateKey ∧ ∀ raw,
      Gateway.verifyCloudPublicKey P raw pin = .ok ()
        ↔ publicKeyFingerprint P raw = publicKeyFingerprint P (P.publicKey privateKey)
  /-- the script returns only with the gateway started and a reading stored -/
  complete : ∀ history, s.pc = .complete history → s.gateway.isSome = true ∧ history ≠ []

lemma verifyCloudPublicKey_iff (hhex : HexDigest P) (raw publicKey : B) :
    Gateway.verifyCloudPublicKey P raw (publicKeyFingerprint P publicKey) = .ok ()
      ↔ publicKeyFingerprint P raw = publicKeyFingerprint P publicKey := by
  have hne : publicKeyFingerprint P publicKey ≠ [] := by
    intro hnil
    have hlength := (hhex publicKey).1
    rw [publicKeyFingerprint] at hnil
    rw [hnil] at hlength
    cases hlength
  have hascii : ∀ b, isAscii (publicKeyFingerprint P b) = true := P.sha256hex_ascii
  rw [Gateway.verifyCloudPublicKey, if_neg hne, Gateway.compareDigest, hascii, hascii]
  by_cases h : publicKeyFingerprint P raw = publicKeyFingerprint P publicKey
  · simp [h]
  · simp [h, raise]

lemma Started.gateway_isSome (h : Started P s) : s.gateway.isSome = true := by
  obtain ⟨fingerprint, -, -, hgateway⟩ := h
  rw [hgateway]
  rfl

lemma Place.bootstrapped (hhex : HexDigest P) (h : Place P before s s.pc) :
    Bootstrapped P before s := by
  -- at every place the gateway has been started, or `.env` is half way at most
  have hcases : Started P s ∨ s.gateway = none ∧ (s.envFile = before ∨
      ∃ fingerprint n, IsFingerprint P s.host fingerprint ∧
        s.envFile = some ((envText fingerprint).take n)) := by
    by_cases hpc : ∃ history, s.pc = .complete history
    · obtain ⟨history, hpc⟩ := hpc
      rw [hpc] at h
      exact Or.inl h.1
    · exact h.failed fun history hpc' => hpc ⟨history, hpc'⟩
  refine ⟨?_, fun pin hgateway => ?_, fun history hpc => ?_⟩
  · rcases hcases with ⟨fingerprint, hfp, henv, -⟩ | ⟨-, henv⟩
    · refine Or.inr ⟨fingerprint, (envText fingerprint).length, hfp, ?_⟩
      rw [List.take_length]
      exact henv
    · exact henv
  · rcases hcases with ⟨fingerprint, ⟨-, privateKey, hkey, rfl⟩, henv, hstarted⟩ | ⟨hnone, -⟩
    · rw [hstarted] at hgateway
      cases hgateway
      exact ⟨henv, privateKey, hkey, fun raw => verifyCloudPublicKey_iff hhex raw _⟩
    · rw [hnone] at hgateway
      cases hgateway
  · rw [hpc] at h
    exact ⟨h.1.gateway_isSome, h.2⟩

/-- **The trust anchor is provisioned**, in every run in which the log of the cloud does not mislead
the search.  However often the cloud is killed while the script runs, and wherever the script fails,
`.env` holds what it held or what the script reads as the fingerprint of the cloud, the gateway is
started only with this fingerprint, which stays that of the cloud, and the script returns only after
a reading has been stored. -/
theorem bootstrap_sound (f : LogFormat) {floatText : PyFloat → PyStr}
    (hload : ∀ data k, loadKey data = .ok k → k = data) (hhex : HexDigest P)
    (hfloat : ∀ x, Framing.Printable (floatText x)) (hlimit : 0 < limit)
    (hpin : ReadsPin composePin) (keyFile : Option B) (before : Option PyStr) (τ : List (Event B))
    (hgen : ∀ e, Event.host e ∈ τ → Generated loadKey e)
    (hτ : Along (step args loadKey addr f readFloat limit composePin)
      (Undisturbed args loadKey addr readFloat limit floatText) (initial keyFile before) τ) :
    Bootstrapped P before
      (run (step args loadKey addr f readFloat limit composePin) (initial keyFile before) τ) := by
  have hinit : Sound loadKey f P before (initial keyFile before) :=
    ⟨fun hann => (by cases hann), fun hanswering => (by cases hanswering), rfl, rfl⟩
  have hsound := inv_run
    (fun s ev h hev => h.step hload hhex hfloat hlimit hpin hev.1 hev.2) hinit
    (along_and.2 ⟨along_of_forall fun _ _ hev e he => hgen e (by rwa [← he]), hτ⟩)
  exact hsound.place.bootstrapped hhex

/-! ### Runs of the script and of the cloud -/

/-- What happens to the cloud. -/
def hostEvents : List (Event B) → List (HostEvent B) :=
  List.filterMap fun
    | .host ev => some ev
    | _ => none

/-- The cloud does not depend on the script. -/
lemma step_host_of_script {ev : Event B} (hev : ∀ e, ev ≠ .host e) :
    (step args loadKey addr f readFloat limit composePin s ev).host = s.host := by
  cases ev with
  | host e => exact absurd rfl (hev e)
  | compose | poll | read | stop =>
    simp only [step]
    split <;> (try split_ifs) <;> (try split) <;> rfl
  | pollReadings fetch =>
    simp only [step]
    split
    · split
      · split_ifs <;> rfl
      · rfl
    · rfl
  | write written =>
    simp only [step]
    split
    · cases written <;> rfl
    · rfl

/-- A run of the script in which the health endpoint has not answered the last condition. -/
lemma along_undisturbed {floatText : PyFloat → PyStr} {τ : List (Event B)}
    (hbody : ∀ answer, .pollReadings (.body answer) ∉ τ)
    (hquiet : Along (hostStep args loadKey addr) (Quiet args loadKey addr) s.host
      (hostEvents τ)) :
    Along (step args loadKey addr f readFloat limit composePin)
      (Undisturbed args loadKey addr readFloat limit floatText) s τ := by
  induction τ generalizing s with
  | nil => trivial
  | cons ev τ ih =>
    have hτ : ∀ answer, Event.pollReadings (.body answer) ∉ τ := fun answer hmem =>
      hbody answer (List.mem_cons_of_mem _ hmem)
    by_cases hhost : ∃ e, ev = .host e
    · obtain ⟨e, rfl⟩ := hhost
      exact ⟨hquiet.1, ih hτ hquiet.2⟩
    · have hscript : ∀ e, ev ≠ .host e := fun e he => hhost ⟨e, he⟩
      refine ⟨?_, ih hτ ?_⟩
      · cases ev with
        | host e => exact absurd rfl (hscript e)
        | pollReadings fetch =>
          cases fetch with
          | body answer => exact absurd List.mem_cons_self (hbody answer)
          | _ => trivial
        | _ => trivial
      · rw [step_host_of_script hscript]
        cases ev with
        | host e => exact absurd rfl (hscript e)
        | _ => exact hquiet

variable (readFloat) in
/-- The counters can be read back. -/
lemma readable_counts (floatText : PyFloat → PyStr) {m : Metrics}
    (h : ∀ c, Loads.digits (m c) ≤ Loads.maxStrDigits) :
    Loads.Readable floatText readFloat (.obj m.counts) ∧ Loads.depth (.obj m.counts) ≤ 1 := by
  have hfields : ∀ cs : List Counter,
      Loads.ReadableFields floatText readFloat (cs.map fun c => (c.name, Json.int (m c))) ∧
        Loads.depthFields (cs.map fun c => (c.name, Json.int (m c))) = 0 := by
    intro cs
    induction cs with
    | nil => exact ⟨trivial, rfl⟩
    | cons c cs ih =>
      exact ⟨⟨by cases c <;> exact validUnicode_lit _, h c, ih.1⟩, by
        rw [List.map_cons, Loads.depthFields, ih.2]
        rfl⟩
  have hkeys : (m.counts.map Prod.fst).Nodup := by
    rw [Metrics.counts, List.map_map]
    have hall : Counter.all.Nodup := by decide
    exact (hall.filter _).map Counter.name_injective
  exact ⟨⟨hkeys, (hfields _).1⟩, by rw [Loads.depth, Metrics.counts, (hfields _).2]⟩

variable (readFloat limit) in
/-- An endpoint with numbers that can be read back does answer. -/
lemma exists_answered (floatText : PyFloat → PyStr) (s : State B) (d : Sessions B)
    (endpoint : Health.Endpoint) (hfloat : ∀ x, Framing.Printable (floatText x))
    (hroute : endpoint.routes.lookup (lit "/health") = none)
    (hservice : validUnicode endpoint.service = true) (hlimit : 2 ≤ limit)
    (hstored : Loads.digits (answeringServer s.host).shared.store.count ≤ Loads.maxStrDigits)
    (hsessions : Loads.digits (Sessions.count d) ≤ Loads.maxStrDigits)
    (hcounts : ∀ c, Loads.digits ((answeringServer s.host).shared.metrics c)
      ≤ Loads.maxStrDigits) :
    ∃ answer, Health.doGet floatText limit endpoint
        (.ok (Cloud.status (fun _ => (answeringServer s.host, d)) [])) (lit "/health")
          = .ok (.json answer) ∧
      Answered readFloat limit floatText s answer := by
  obtain ⟨hreadable, hdepth⟩ := readable_counts readFloat floatText hcounts
  have hread : Loads.ReadableFields floatText readFloat
        (Cloud.status (fun _ => (answeringServer s.host, d)) []) ∧
      Loads.depth (.obj (Cloud.status (fun _ => (answeringServer s.host, d)) [])) ≤ limit := by
    refine ⟨⟨rfl, trivial, rfl, hstored, rfl, hsessions, rfl, hreadable, rfl,
      ⟨List.nodup_nil, trivial⟩, trivial⟩, ?_⟩
    simp only [Cloud.status, Loads.depth, Loads.depthFields] at hdepth ⊢
    omega
  have hprovider : ∀ d',
      (.ok (Cloud.status (fun _ => (answeringServer s.host, d)) []) : Py JsonDict) = .ok d' →
      Loads.ReadableFields floatText readFloat d' ∧ Loads.depth (.obj d') ≤ limit := by
    intro d' hd'
    cases hd'
    exact hread
  obtain ⟨answer, hget, -⟩ := Health.doGet_health hfloat hroute hservice
    (Nat.lt_of_lt_of_le Nat.two_pos hlimit) hprovider
  refine ⟨answer, hget, endpoint, _, hroute, hservice, hget, fun d' hd' => ?_⟩
  cases hd'
  exact ⟨_, [], rfl, rfl, hread⟩

/-! ### A first start -/

/-- What `docker compose` makes of a file of one line. -/
def demoPin : Option PyStr → PyStr
  | some text => (text.drop 24).dropLast
  | none => []

lemma readsPin_demoPin : ReadsPin demoPin := by
  intro fingerprint _ _
  have hdrop : (envText fingerprint).drop 24 = fingerprint ++ [newline] := by
    rw [envText, List.append_assoc]
    exact List.drop_left' rfl
  rw [demoPin, hdrop, List.dropLast_concat]

/-- A gateway makes a session and sends a reading. -/
def demoConnection : List (ℕ × ConnEvent) :=
  handshakeEvents 0 demoRequest (demoEncaps 0 demoSessionId) ++
    [(0, .recv (.message (demoReading 0 0 demoSessionId))), (0, .store), (0, .count), (0, .report)]

abbrev demoProvisioning : State Bytes → Event Bytes → State Bytes :=
  step demoArgs demoLoad TrustAnchor.demoAddr demoFormat (fun _ => .nan) 10 demoPin

/-- The cloud is started three times: at first it is killed while it writes the key, and then
after the fingerprint.  The script writes the fingerprint and starts the gateway, and the health
endpoint does not answer at first. -/
def demoEvents : List (Event Bytes) :=
  [.compose false true, .poll false, .host (.startCut (Demo.coins 1) 0 (.data (.text []))),
    .host (.start Demo.cloudKey 5), .host .exit, .host (.start (Demo.coins 0) 6), .poll true,
    .read true, .write .all, .compose true true]
  ++ demoConnection.map (fun ev => .host (.conn ev.1 ev.2)) ++ [.poll true, .pollReadings .osError]

/-- Before the last answer. -/
def demoBefore : State Bytes := run demoProvisioning (initial none none) demoEvents

/-- The dictionary of the registry. -/
def demoSessions : Sessions Bytes :=
  (run (trackedStep (demoArgs.config Demo.cloudKey) TrustAnchor.demoAddr)
    (trackedInitial defaultMaxReadings []) demoConnection).2

def demoEndpoint : Health.Endpoint := ⟨lit "cloud", [(lit "/readings", .ok (.arr []))]⟩

/-- The answer of the health endpoint. -/
def demoAnswer : Octets :=
  match Health.doGet (fun _ => lit "0.0") 10 demoEndpoint
    (.ok (Cloud.status (fun _ => (answeringServer demoBefore.host, demoSessions)) []))
    (lit "/health") with
  | .ok (.json answer) => answer
  | _ => []

def demoRun : List (Event Bytes) := demoEvents ++ [.pollReadings (.body demoAnswer)]

/-- The script has returned. -/
def ScriptPc.isComplete : ScriptPc → Bool
  | .complete _ => true
  | _ => false

lemma quiet_demo : Along (hostStep demoArgs demoLoad TrustAnchor.demoAddr)
    (Quiet demoArgs demoLoad TrustAnchor.demoAddr) (initialHost none) (hostEvents demoEvents) := by
  show Along (hostStep demoArgs demoLoad TrustAnchor.demoAddr)
    (Quiet demoArgs demoLoad TrustAnchor.demoAddr) (initialHost none)
    [.startCut (Demo.coins 1) 0 (.data (.text [])), .start Demo.cloudKey 5, .exit,
    .start (Demo.coins 0) 6, .conn 0 .accept, .conn 0 (.recv (.message demoRequest)),
    .conn 0 .sendOk, .conn 0 (.recv (.message (demoEncaps 0 demoSessionId))), .conn 0 .sendOk,
    .conn 0 (.recv (.message (demoReading 0 0 demoSessionId))), .conn 0 .store, .conn 0 .count,
    .conn 0 .report]
  refine ⟨⟨by decide, by decide, by decide⟩, ⟨by decide, by decide, by decide⟩, trivial,
    ⟨by decide, by decide, by decide⟩, ?_, ?_, ?_, ?_, ?_, ?_, ?_, ?_, ?_, trivial⟩ <;>
  · intro key hkey
    obtain rfl : Demo.cloudKey = key := Option.some.inj hkey
    exact ⟨by decide, by decide +kernel⟩

lemma digits_of_le_one {n : ℕ} (h : n ≤ 1) : Loads.digits n ≤ Loads.maxStrDigits := by
  interval_cases n <;> decide

lemma demo_counts :
    (answeringServer demoBefore.host).shared.store.count ≤ 1 ∧ Sessions.count demoSessions ≤ 1 ∧
      ∀ c ∈ Counter.all, (answeringServer demoBefore.host).shared.metrics c ≤ 1 := by
  decide +kernel

/-- The answer is that of the health endpoint. -/
lemma answered_demo : Answered (fun _ => .nan) 10 (fun _ => lit "0.0") demoBefore demoAnswer := by
  obtain ⟨hstored, hsessions, hcounters⟩ := demo_counts
  have hprintable : Framing.Printable (lit "0.0") := by decide
  obtain ⟨answer, hget, hanswered⟩ := exists_answered (fun _ => .nan) 10 (fun _ => lit "0.0")
    demoBefore demoSessions demoEndpoint (fun _ => hprintable) rfl rfl (by decide)
    (digits_of_le_one hstored) (digits_of_le_one hsessions)
    (fun c => digits_of_le_one (hcounters c c.mem_all))
  have heq : demoAnswer = answer := by
    unfold demoAnswer
    rw [hget]
  rw [heq]
  exact hanswered

theorem bootstrap_sound_demo :
    Bootstrapped demoPrimitives none (run demoProvisioning (initial none none) demoRun) ∧
    (run demoProvisioning (initial none none) demoRun).pc.isComplete = true ∧
    (run demoProvisioning (initial none none) demoRun).gateway
      = some (List.replicate 64 (.char 'a')) := by
  have hbody : ∀ answer, Event.pollReadings (.body answer) ∉ demoEvents := by
    simp [demoEvents]
  have hquiet : Along demoProvisioning
      (Undisturbed demoArgs demoLoad TrustAnchor.demoAddr (fun _ => .nan) 10 fun _ => lit "0.0")
      (initial none none) demoRun :=
    along_append.2 ⟨along_undisturbed hbody quiet_demo, answered_demo, trivial⟩
  have hgen : ∀ e, Event.host e ∈ demoRun → Generated demoLoad e := by
    intro e he
    simp only [demoRun, demoEvents, List.mem_append, List.mem_cons, List.mem_map, List.not_mem_nil,
      or_false, Event.host.injEq, reduceCtorEq, false_or, or_self] at he
    rcases he with (rfl | rfl | rfl | rfl) | ⟨ev, -, rfl⟩
    · exact rfl
    · exact rfl
    · exact trivial
    · exact rfl
    · exact trivial
  have hprintable : Framing.Printable (lit "0.0") := by decide
  refine ⟨bootstrap_sound demoFormat eq_of_demoLoad demo_hexDigest (fun _ => hprintable)
    (by decide) readsPin_demoPin none none demoRun hgen hquiet, ?_⟩
  decide +kernel

end PqcBridge.Provisioning
