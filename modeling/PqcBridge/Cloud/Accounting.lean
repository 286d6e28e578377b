/-
What becomes of a message that the cloud has counted as received.

A message is dropped, or it closes the connection, or its reading is stored once; each of
these is counted once.  Two kinds of message fall through: one that names a session id
which cannot be encoded as UTF-8, and one whose reading carries a list or a dictionary
as its `device_id`.  Their exceptions are in none of the `except` clauses.

* `decryptProtectedReading_raises`, `authenticateRequest_raises`, `deriveSession_raises`:
  the exceptions that reach `_handle`;
* `handlerStep_flows`, `Balanced`: every connection has a ledger of its messages, which is
  balanced after every step that is accounted for;
* `accounting_iff`: the handler is controlled along a run exactly when no message of the
  two kinds is read.
-/
import PqcBridge.Cloud.Sessions

namespace PqcBridge.Cloud

open Python Protocol Crypto Runs Handshake

variable {B : Type} {P : Primitives B} {cfg : CloudConfig P} {addr : ℕ → Addr}

/-! ### The exceptions of the handshake -/

lemma parseMlkemRequest_raises (m : JsonDict) :
    OnlyRaises (parseMlkemRequest m) IsProtocolError := by
  refine .ite (fun _ => onlyRaises_raise rfl) fun _ => ?_
  refine (requireStr_raises m _).bind fun _ _ => ?_
  refine (requireStr_raises m _).bind fun _ _ => ?_
  exact (requireStr_raises m _).bind fun _ _ => onlyRaises_ok _

/-- A parsed request has the fields that the verification looks up. -/
lemma parseMlkemRequest_fields {m : JsonDict} {gid : PyStr} (h : parseMlkemRequest m = .ok gid) :
    ∃ nonce tag, m.item "gateway_id" = .ok (.str gid) ∧ m.item "auth_nonce" = .ok nonce ∧
      m.item "auth_tag" = .ok tag := by
  unfold parseMlkemRequest at h
  split_ifs at h
  · cases h
  obtain ⟨gid', hgid, h⟩ := bind_eq_ok.1 h
  obtain ⟨nonce, hnonce, h⟩ := bind_eq_ok.1 h
  obtain ⟨tag, htag, h⟩ := bind_eq_ok.1 h
  cases h
  obtain ⟨hgid, -⟩ := requireStr_eq_ok.1 hgid
  obtain ⟨hnonce, -⟩ := requireStr_eq_ok.1 hnonce
  obtain ⟨htag, -⟩ := requireStr_eq_ok.1 htag
  refine ⟨.str nonce, .str tag, ?_, ?_, ?_⟩
  · simp only [JsonDict.item, hgid]
  · simp only [JsonDict.item, hnonce]
  · simp only [JsonDict.item, htag]

variable (cfg) in
/-- What the first part of `_establish_session` raises. -/
lemma authenticateRequest_raises (m : JsonDict) :
    OnlyRaises (authenticateRequest cfg m) fun e =>
      IsProtocolError e ∨ e.cls = .authenticationError := by
  refine ((parseMlkemRequest_raises m).mono fun _ => Or.inl).bind fun gid hparse => ?_
  split
  · exact onlyRaises_raise (Or.inr rfl)
  · next key hkey =>
    obtain ⟨nonce, tag, hgid, hnonce, htag⟩ := parseMlkemRequest_fields hparse
    have hverify : OnlyRaises (verifyGatewayRequestAuth P m key) fun e =>
        e.cls = .authenticationError := by
      simp only [verifyGatewayRequestAuth, hgid, hnonce, htag, ok_bind]
      exact verifyAuth_raises (cfg.gatewayKeys.key_len hkey) _ _ _ _
    exact (hverify.mono fun _ => Or.inr).bind fun _ _ => onlyRaises_ok _

variable (P) in
lemma parseMlkemEncaps_raises (m : JsonDict) :
    OnlyRaises (parseMlkemEncaps P m) IsProtocolError := by
  refine .ite (fun _ => onlyRaises_raise rfl) fun _ => ?_
  refine (requireStr_raises m _).bind fun _ _ => ?_
  refine (requireStr_raises m _).bind fun _ _ => ?_
  refine (b64d_raises P _).bind fun _ _ => ?_
  exact .ite (fun _ => onlyRaises_raise rfl) fun _ => onlyRaises_ok _

variable (cfg) in
/-- What the second part of `_establish_session` raises. -/
lemma deriveSession_raises (m : JsonDict) :
    OnlyRaises (deriveSession cfg m) fun e =>
      IsProtocolError e ∨ e.cls = .mlkemDecapsulationError := by
  refine ((parseMlkemEncaps_raises P m).mono fun _ => Or.inl).bind fun x _ => ?_
  have hdecaps : OnlyRaises (mlkemDecapsulate P cfg.privateKey x.2) fun e =>
      e.cls = .mlkemDecapsulationError := by
    unfold mlkemDecapsulate
    split
    · exact onlyRaises_ok _
    · exact onlyRaises_raise rfl
  exact (hdecaps.mono fun _ => Or.inr).bind fun _ _ => onlyRaises_ok _

/-- The exceptions of the handshake and of `read_message` are caught. -/
lemma caught_of_cls {e : PyExc} (h : IsProtocolError e ∨ e.cls = .authenticationError ∨
    e.cls = .mlkemDecapsulationError ∨ e.cls = .connectionClosedError ∨ e.cls = .osError) :
    caught e = true := by
  rcases h with h | h | h | h | h
  · have hcls : e.cls = .protocolError := h
    simp [caught, PyExc.isA, hcls]
  all_goals simp [caught, PyExc.isA, h, ExcClass.base]

lemma readOutcome_caught (o : ReadOutcome) : OnlyRaises o.result fun e => caught e = true :=
  (readOutcome_raises o).mono fun e he => caught_of_cls (by tauto)

/-! ### Session ids and keys -/

/-- The sessions that are served have non-empty ids and 32-byte keys. -/
def SessionsDerived (P : Primitives B) (s : ServerState B) : Prop :=
  ∀ c gid sid key, (s.phase c).live = some (gid, sid, key) → sid ≠ [] ∧ P.len key = keyLength

lemma SessionsDerived.step {s : ServerState B} (h : SessionsDerived P s) (ev : ℕ × ConnEvent) :
    SessionsDerived P (step cfg addr s ev) := by
  obtain ⟨c, ev⟩ := ev
  obtain ⟨st, p, hm, hstep⟩ := step_moves cfg addr s c ev
  rw [hstep]
  intro c' gid sid key hc'
  replace hc' : (Function.update s.phase c p c').live = some (gid, sid, key) := hc'
  by_cases hcc : c' = c
  · rw [hcc, Function.update_self] at hc'
    rcases hm.registry_cases with ⟨-, -, hlive⟩ | ⟨o, gid', sid', key', -, -, hkey, hp', -⟩ |
      ⟨_, _, _, _, -, -, -, -, hlive⟩ | ⟨_, _, -, hp', -⟩
    · exact h c gid sid key (hlive _ hc')
    · obtain ⟨m, -, hderive⟩ := bind_eq_ok.1 hkey
      rw [hp'] at hc'
      cases hc'
      obtain ⟨-, hne, _, _, _, -, -, -, hderived⟩ := deriveSession_eq_ok hderive
      exact ⟨hne, by rw [hderived]; exact P.hkdf_len _⟩
    · rw [hlive] at hc'
      cases hc'
    · rw [hp'] at hc'
      cases hc'
  · rw [Function.update_of_ne hcc] at hc'
    exact h c' gid sid key hc'

/-! ### The exceptions of a message -/

/-- `json.loads` raises nothing but `ValueError`. -/
def LoadsRaisesValueError (P : Primitives B) : Prop := ∀ b, P.loads b ≠ .error .recursionError

/-- The message is a protected message of the session, and the session id is not valid
Unicode. -/
def UnencodableSession (m : JsonDict) (sid : PyStr) : Prop :=
  isStr (m.field "type") msgProtectedReading = true ∧ m.field "session_id" = some (.str sid) ∧
    validUnicode sid = false

lemma parseReadingBytes_raises (hP : LoadsRaisesValueError P) (b : B) :
    OnlyRaises (parseReadingBytes P b) IsProtocolError := by
  unfold parseReadingBytes
  split
  · exact onlyRaises_raise rfl
  · next h => exact absurd h (hP b)
  · exact .ite (fun _ => onlyRaises_ok _) fun _ => onlyRaises_raise rfl
  · exact onlyRaises_raise rfl

lemma parseDecrypted_raises (hP : LoadsRaisesValueError P) (b : B) :
    OnlyRaises (parseDecrypted P b) fun e => e.cls = .cloudProcessingError := by
  unfold parseDecrypted
  split
  · next e he =>
    have hcls : e.cls = .protocolError := parseReadingBytes_raises hP b e he
    refine .ite (fun _ => onlyRaises_raise rfl) fun h => ?_
    simp [PyExc.isA, hcls] at h
  · exact onlyRaises_ok _

/-- A reading that was parsed has a `device_id`. -/
lemma parseDecrypted_eq_ok {b : B} {reading : JsonDict} (h : parseDecrypted P b = .ok reading) :
    ∃ v, reading.field "device_id" = some v := by
  unfold parseDecrypted at h
  split at h
  · split_ifs at h
    cases h
  next r hr =>
  cases h
  unfold parseReadingBytes at hr
  split at hr
  · cases hr
  · cases hr
  · next fields _ =>
    split_ifs at hr with hall
    · cases hr
      simp only [requiredReadingFields, List.all_cons, Bool.and_eq_true] at hall
      exact Option.isSome_iff_exists.1 hall.1
    · cases hr
  · cases hr

/-- Whether `decrypt_protected_reading` raises what the loop drops. -/
def dropped (e : PyExc) : Bool := e.isA .cloudProcessingError || e.isA .cryptoError

lemma dropped_of_cls {e : PyExc} (h : e.cls = .cloudProcessingError ∨ e.cls = .cryptoError) :
    dropped e = true := by
  rcases h with h | h <;> simp [dropped, PyExc.isA, h]

/-- What `decrypt_protected_reading` raises. -/
lemma decryptProtectedReading_raises (hP : LoadsRaisesValueError P) {key : B}
    (hkey : P.len key = keyLength) (m : JsonDict) (sid : PyStr) :
    OnlyRaises (decryptProtectedReading P m key sid) fun e =>
      dropped e = true ∨ IsProtocolError e ∨ UnencodableSession m sid := by
  refine .ite (fun _ => onlyRaises_raise (Or.inl (dropped_of_cls (Or.inl rfl)))) fun htype => ?_
  refine ((requireStr_raises m _).mono fun _ h => Or.inr (Or.inl h)).bind fun named hnamed => ?_
  refine .ite (fun _ => onlyRaises_raise (Or.inl (dropped_of_cls (Or.inl rfl)))) fun hsid => ?_
  have hsid : named = sid := not_not.1 hsid
  have haad : OnlyRaises (sessionMessageAad P sid) fun _ => UnencodableSession m sid := by
    refine .ite (fun _ => onlyRaises_ok _) fun hvalid => onlyRaises_raise ?_
    refine ⟨by simpa using htype, ?_, by simpa using hvalid⟩
    rw [← hsid]
    exact (requireStr_eq_ok.1 hnamed).1
  refine (haad.mono fun _ h => Or.inr (Or.inr h)).bind fun aad _ => ?_
  have hdecrypt : OnlyRaises (decryptSessionPayload P key m aad) fun e =>
      dropped e = true ∨ IsProtocolError e ∨ UnencodableSession m sid :=
    (aeadDecrypt_raises hkey m aad .cryptoError).mono fun e he => by
      rcases he with h | h
      · exact Or.inr (Or.inl h)
      · exact Or.inl (dropped_of_cls (Or.inr h))
  refine hdecrypt.bind fun plaintext _ => ?_
  exact (parseDecrypted_raises hP plaintext).mono fun _ h => Or.inl (dropped_of_cls (Or.inl h))

/-- The session id is encoded before anything is decrypted. -/
lemma decryptProtectedReading_of_unencodable {m : JsonDict} {sid : PyStr} (hsid : sid ≠ [])
    (h : UnencodableSession m sid) (key : B) :
    decryptProtectedReading P m key sid
      = raise .unicodeEncodeError (lit "'utf-8' codec: surrogates not allowed") := by
  obtain ⟨htype, hfield, hvalid⟩ := h
  have hnamed : requireStr m "session_id" = .ok sid := requireStr_eq_ok.2 ⟨hfield, hsid⟩
  simp [decryptProtectedReading, htype, hnamed, sessionMessageAad, encodeUtf8, hvalid]

lemma decryptProtectedReading_deviceId {m : JsonDict} {key : B} {sid : PyStr} {reading : JsonDict}
    (h : decryptProtectedReading P m key sid = .ok reading) :
    ∃ v, reading.field "device_id" = some v := by
  unfold decryptProtectedReading at h
  split_ifs at h
  · cases h
  obtain ⟨named, -, h⟩ := bind_eq_ok.1 h
  split_ifs at h
  · cases h
  obtain ⟨_, -, h⟩ := bind_eq_ok.1 h
  obtain ⟨_, -, h⟩ := bind_eq_ok.1 h
  exact parseDecrypted_eq_ok h

/-! ### What becomes of a message -/

/-- What ends a message or a connection. -/
inductive Outcome where
  /-- the reading of a message is stored, and counted as processed -/
  | processed
  /-- a message is dropped, and the loop goes on -/
  | dropped
  /-- a message closes the connection -/
  | failed
  /-- the gateway is not authenticated -/
  | refused
  /-- the handshake or `read_message` fails in another way -/
  | broken
  /-- the peer closes the connection between two messages -/
  | disconnected
deriving DecidableEq, Repr

/-- The counter in which it is counted. -/
def Outcome.counter : Outcome → Option Counter
  | .processed => some .messagesProcessed
  | .dropped => some .messagesRejected
  | .failed => some .errors
  | .refused => some .messagesRejected
  | .broken => some .errors
  | .disconnected => none

/-- What an exception of the handshake or of `read_message` is to the connection. -/
def exceptionOutcome (e : PyExc) : Outcome :=
  if e.isA .connectionClosedError then .disconnected
  else if e.isA .authenticationError then .refused
  else .broken

variable (cfg) in
/-- The outcome of a step, by where the handler stood and what happened; a message that is read
is dropped or has failed by where the handler stands then. -/
def outcome : Phase B → ConnEvent → Phase B → Option Outcome
  | .request, .recv o, _ =>
    match o.result >>= authenticateRequest cfg with
    | .error e => some (exceptionOutcome e)
    | .ok _ => none
  | .encaps _, .recv o, _ =>
    match o.result >>= deriveSession cfg with
    | .error e => some (exceptionOutcome e)
    | .ok _ => none
  | .sendPubkey _, .sendError _, _ => some .broken
  | .sendEstablished _ _ _, .sendError _, _ => some .broken
  | .receiving _ _ _, .recv (.message _), .receiving _ _ _ => some .dropped
  | .receiving _ _ _, .recv (.message _), .leaving _ _ => some .failed
  | .receiving _ _ _, .recv (.message _), _ => none
  | .receiving _ _ _, .recv .closed, _ => some .disconnected
  | .receiving _ _ _, .recv _, _ => some .broken
  | .counting _ _ _ _, .count, _ => some .processed
  | _, _, _ => none

/-- What a step adds to a counter by its outcome. -/
def added (x : Option Outcome) (name : Counter) : ℕ :=
  if x.bind Outcome.counter = some name then 1 else 0

/-- How often the outcome is `y`. -/
def ends (x : Option Outcome) (y : Outcome) : ℕ := if x = some y then 1 else 0

/-- Whether `_receive_readings` reads a message. -/
def reads : Phase B → ConnEvent → Bool
  | .receiving _ _ _, .recv (.message _) => true
  | _, _ => false

/-- The readings that a step adds to the store. -/
def addedBy : Phase B → ConnEvent → List JsonDict
  | .storing _ _ _ reading, .store => [reading]
  | _, _ => []

/-- The exception that no clause has caught. -/
def Phase.escaped : Phase B → Option PyExc
  | .leaving _ escaped => escaped
  | .closed escaped => escaped
  | _ => none

/-- The number of messages that have no outcome yet. -/
def underway : Phase B → ℕ
  | .storing _ _ _ _ => 1
  | .counting _ _ _ _ => 1
  | _ => 0

/-- The number of readings that are stored and not counted yet. -/
def uncounted : Phase B → ℕ
  | .counting _ _ _ _ => 1
  | _ => 0

/-- Whether the handler has left the loop for good, as a number. -/
def finished : Phase B → ℕ
  | .leaving _ _ => 1
  | .closed _ => 1
  | _ => 0

/-- How many statements of the loop body are left for an accepted reading. -/
def stage : Phase B → ℕ
  | .storing _ _ _ _ => 3
  | .counting _ _ _ _ => 2
  | .reporting _ _ _ _ => 1
  | _ => 0

/-- Whether the event is the next of these statements. -/
def awaits : Phase B → ConnEvent → Bool
  | .storing _ _ _ _, .store => true
  | .counting _ _ _ _, .count => true
  | .reporting _ _ _ _, .report => true
  | _, _ => false

variable (cfg) in
/-- A step of a handler is accounted for.  No exception escapes in it; a message that is read is
counted as received; the store gets the reading that was accepted, when it is added, and nothing
else; and what is counted as processed, rejected or an error is what the outcome of the step
says. -/
structure Accounts (st : CloudState B) (p : Phase B) (ev : ConnEvent) (st' : CloudState B)
    (p' : Phase B) : Prop where
  no_escape : ∀ e, p'.escaped = some e → p.escaped = some e
  received : st'.metrics .messagesReceived
    = st.metrics .messagesReceived + if reads p ev then 1 else 0
  stored : st'.store = (addedBy p ev).foldl ReadingStore.add st.store
  accepted : ∀ gid sid key reading, p' = .storing gid sid key reading → p = p' ∨
    ∃ m, p = .receiving gid sid key ∧ ev = .recv (.message m) ∧
      decryptProtectedReading P m key sid = .ok reading
  outcome : ∀ name ∈ [Counter.messagesProcessed, .messagesRejected, .errors],
    st'.metrics name = st.metrics name + added (outcome cfg p ev p') name

variable (cfg) in
/-- A message that is read is under way until it has one of its three outcomes, a reading that is
stored is counted next, and each of the statements that are left for it takes the handler
further; a connection has one of the outcomes that close it when its handler leaves. -/
structure Flows (p : Phase B) (ev : ConnEvent) (p' : Phase B) : Prop where
  messages : underway p' + (ends (outcome cfg p ev p') .processed
    + ends (outcome cfg p ev p') .dropped + ends (outcome cfg p ev p') .failed)
      = underway p + if reads p ev then 1 else 0
  stored : uncounted p' + ends (outcome cfg p ev p') .processed
    = uncounted p + (addedBy p ev).length
  progress : awaits p ev = true → stage p' < stage p
  closing : finished p' = finished p + (ends (outcome cfg p ev p') .failed
    + ends (outcome cfg p ev p') .refused + ends (outcome cfg p ev p') .broken
    + ends (outcome cfg p ev p') .disconnected)

/-- The message that is read is in order: its session id can be encoded, and if its
reading has an integer sequence, then the `device_id` of the reading can be a dictionary
key. -/
def OrderlyMessage (P : Primitives B) (s : ServerState B) (ev : ℕ × ConnEvent) : Prop :=
  ∀ gid sid key m, s.phase ev.1 = .receiving gid sid key → ev.2 = .recv (.message m) →
    ¬ UnencodableSession m sid ∧
      ∀ reading sequence v, decryptProtectedReading P m key sid = .ok reading →
        reading.field "sequence" = some (.int sequence) → reading.field "device_id" = some v →
          v.hashable = true

/-- The messages that fall through are those that are not in order. -/
lemma acceptReading_error_caught (hP : LoadsRaisesValueError P) {st st' : CloudState B} {key : B}
    (hkey : P.len key = keyLength) {m : JsonDict} {sid : PyStr} {e : PyExc}
    (hm : acceptReading P st m key sid = (st', .error e)) (hu : ¬ UnencodableSession m sid)
    (hh : ∀ reading sequence v, decryptProtectedReading P m key sid = .ok reading →
      reading.field "sequence" = some (.int sequence) → reading.field "device_id" = some v →
        v.hashable = true) : IsProtocolError e := by
  rcases acceptReading_cases (P := P) st m key sid with
    ⟨_, h⟩ | ⟨e', h, hcase⟩ | ⟨_, _, _, -, -, -, -, h⟩
  · rw [hm] at h
    cases h
  · rw [hm] at h
    cases h
    rcases hcase with ⟨hd, h₁, h₂⟩ | ⟨reading, sequence, hd, hseq, hk⟩
    -- what `json.loads` and the AEAD raise is caught, but for a session id that is no UTF-8
    · rcases decryptProtectedReading_raises hP hkey m sid e hd with h | h | h
      · simp [dropped, h₁, h₂] at h
      · exact h
      · exact absurd h hu
    -- the guard raises for a `device_id` that is no dictionary key
    · obtain ⟨v, hv⟩ := decryptProtectedReading_deviceId hd
      have hhash := hh reading sequence v hd hseq hv
      rw [JsonDict.item, hv, ok_bind] at hk
      rw [Json.hashable, hk] at hhash
      cases hhash
  · rw [hm] at h
    cases h

lemma hashKey_raises (v : Json) : OnlyRaises v.hashKey fun e => e.cls = .typeError := by
  unfold Json.hashKey
  split
  all_goals first
    | exact onlyRaises_ok _
    | exact onlyRaises_raise rfl

lemma not_caught_of_cls {e : PyExc} (h : e.cls = .unicodeEncodeError ∨ e.cls = .typeError) :
    caught e = false := by
  rcases h with h | h <;> simp [caught, PyExc.isA, h, ExcClass.base]

/-- A message that is not in order raises an exception that no clause catches. -/
lemma acceptReading_of_not_orderly (st : CloudState B) {key : B} {m : JsonDict} {sid : PyStr}
    (hsid : sid ≠ []) (h : UnencodableSession m sid ∨
      ∃ reading sequence v, decryptProtectedReading P m key sid = .ok reading ∧
        reading.field "sequence" = some (.int sequence) ∧ reading.field "device_id" = some v ∧
          v.hashable = false) :
    ∃ st' e, acceptReading P st m key sid = (st', .error e) ∧ caught e = false := by
  rcases h with h | ⟨reading, sequence, v, hd, hseq, hv, hhash⟩
  · have hd := decryptProtectedReading_of_unencodable (P := P) hsid h key
    refine ⟨st.inc .messagesReceived, ⟨.unicodeEncodeError,
      lit "'utf-8' codec: surrogates not allowed"⟩, ?_, not_caught_of_cls (Or.inl rfl)⟩
    simp only [acceptReading, hd, raise]
    rfl
  · rcases hk : v.hashKey with e | k
    · refine ⟨st.inc .messagesReceived, e, ?_, not_caught_of_cls (Or.inr (hashKey_raises v e hk))⟩
      simp only [acceptReading, hd, hseq, JsonDict.item, hv, ok_bind, hk]
    · rw [Json.hashable, hk] at hhash
      cases hhash

/-! ### The moves of a handler -/

@[simp] lemma evict_metrics (st : CloudState B) (sid : Option PyStr) :
    (evict st sid).metrics = st.metrics := by
  cases sid <;> rfl

@[simp] lemma evict_store (st : CloudState B) (sid : Option PyStr) :
    (evict st sid).store = st.store := by
  cases sid <;> rfl

section Step

variable {st : CloudState B} {p : Phase B} {ev : ConnEvent}

/-- A move that counts nothing of the four and stores nothing. -/
lemma Accounts.of_quiet {st' : CloudState B} {p' : Phase B}
    (hmetrics : ∀ name ∈ [Counter.messagesReceived, .messagesProcessed, .messagesRejected, .errors],
      st'.metrics name = st.metrics name) (hstore : st'.store = st.store)
    (hescape : p'.escaped = p.escaped) (hreads : reads p ev = false) (hadded : addedBy p ev = [])
    (hstoring : ∀ gid sid key reading, p' = .storing gid sid key reading → p = p')
    (houtcome : Cloud.outcome cfg p ev p' = none) : Accounts cfg st p ev st' p' := by
  simp only [List.mem_cons, List.not_mem_nil, or_false, forall_eq_or_imp, forall_eq] at hmetrics
  refine ⟨fun e he => hescape ▸ he, ?_, ?_,
    fun gid sid key r hp => Or.inl (hstoring gid sid key r hp), ?_⟩
  · rw [hmetrics.1, hreads]
    rfl
  · rw [hstore, hadded]
    rfl
  · simp [houtcome, added, hmetrics]

/-- An event that does not concern the handler. -/
lemma Accounts.of_idle (hreads : reads p ev = false) (hadded : addedBy p ev = [])
    (houtcome : Cloud.outcome cfg p ev p = none) : Accounts cfg st p ev st p :=
  .of_quiet (fun _ _ => rfl) rfl rfl hreads hadded (fun _ _ _ _ _ => rfl) houtcome

/-- What the `except` clauses count for an exception that they catch. -/
lemma onException_counts {e : PyExc} (he : caught e = true) (a : Addr) (sid : Option PyStr)
    (name : Counter) : (onException st a sid e).1.metrics name
      = st.metrics name + added (some (exceptionOutcome e)) name := by
  unfold caught at he
  unfold onException exceptionOutcome
  by_cases hclosed : e.isA .connectionClosedError = true
  · simp [hclosed, added, Outcome.counter]
  by_cases hauth : e.isA .authenticationError = true
  · simp [hclosed, hauth, added, Outcome.counter, Metrics.inc_apply, eq_comm]
  · have hother : (e.isA .protocolError || e.isA .cloudProcessingError || e.isA .cryptoError
        || e.isA .osError) = true := by
      simpa [hclosed, hauth, or_assoc] using he
    simp only [hclosed, hauth, hother, if_true, Bool.false_eq_true, if_false]
    simp [added, Outcome.counter, Metrics.inc_apply, eq_comm]

/-- An exception outside the loop body, which is caught. -/
lemma Accounts.of_exception {e : PyExc} (he : caught e = true) (a : Addr) (sid : Option PyStr)
    (hreads : reads p ev = false) (hadded : addedBy p ev = [])
    (houtcome : Cloud.outcome cfg p ev (.leaving sid none) = some (exceptionOutcome e)) :
    Accounts cfg st p ev (onException st a sid e).1 (onException st a sid e).2 := by
  rw [onException_snd, he]
  refine ⟨by simp [Phase.escaped], ?_, ?_, by simp, fun name _ => ?_⟩
  · rw [onException_counts he, hreads]
    unfold added exceptionOutcome
    split_ifs <;> simp_all [Outcome.counter]
  · rw [onException_store, hadded]
    rfl
  · rw [onException_counts he, if_pos rfl, houtcome]

end Step

lemma progress_of_not_awaits {p p' : Phase B} {ev : ConnEvent} (h : awaits p ev = false) :
    awaits p ev = true → stage p' < stage p :=
  fun hawaits => Bool.noConfusion (h.symm.trans hawaits)

/-- A step in which nothing ends and nothing is stored. -/
lemma Flows.of_none {p p' : Phase B} {ev : ConnEvent} (houtcome : outcome cfg p ev p' = none)
    (hunderway : underway p' = underway p) (huncounted : uncounted p' = uncounted p)
    (hfinished : finished p' = finished p) (hreads : reads p ev = false)
    (hadded : addedBy p ev = []) (hawaits : awaits p ev = false) : Flows cfg p ev p' := by
  refine ⟨?_, ?_, progress_of_not_awaits hawaits, ?_⟩
  · simp [houtcome, ends, hunderway, hreads]
  · simp [houtcome, ends, huncounted, hadded]
  · simp [houtcome, ends, hfinished]

/-- An exception outside the loop body closes the connection with one outcome. -/
lemma Flows.of_exception {st : CloudState B} {p : Phase B} {ev : ConnEvent} {a : Addr}
    {sid : Option PyStr} {e : PyExc} {x : Outcome}
    (houtcome : outcome cfg p ev (onException st a sid e).2 = some x)
    (hx : x = .disconnected ∨ x = .refused ∨ x = .broken) (hunderway : underway p = 0)
    (huncounted : uncounted p = 0) (hfinished : finished p = 0) (hreads : reads p ev = false)
    (hadded : addedBy p ev = []) (hawaits : awaits p ev = false) :
    Flows cfg p ev (onException st a sid e).2 := by
  rw [onException_snd] at houtcome ⊢
  refine ⟨?_, ?_, progress_of_not_awaits hawaits, ?_⟩
  · rw [hunderway, hreads]
    rcases hx with rfl | rfl | rfl <;> rw [houtcome] <;> rfl
  · rw [huncounted, hadded]
    rcases hx with rfl | rfl | rfl <;> rw [houtcome] <;> rfl
  · rw [hfinished]
    rcases hx with rfl | rfl | rfl <;> rw [houtcome] <;> rfl

lemma exceptionOutcome_cases (e : PyExc) : exceptionOutcome e = .disconnected ∨
    exceptionOutcome e = .refused ∨ exceptionOutcome e = .broken := by
  unfold exceptionOutcome
  split_ifs <;> simp

/-- What becomes of a message that is read. -/
lemma handlerStep_message_flows (c : ℕ) (a : Addr) (st : CloudState B) (gid sid : PyStr) (key : B)
    (m : JsonDict) : Flows cfg (.receiving gid sid key) (.recv (.message m))
      (handlerStep cfg c a st (.receiving gid sid key) (.recv (.message m))).2 := by
  simp only [handlerStep, ReadOutcome.result]
  rcases acceptReading P st m key sid with ⟨st', e | _ | reading⟩
  · simp only [onException_snd]
    exact ⟨rfl, rfl, progress_of_not_awaits rfl, rfl⟩
  · exact ⟨rfl, rfl, progress_of_not_awaits rfl, rfl⟩
  · exact ⟨rfl, rfl, progress_of_not_awaits rfl, rfl⟩

variable (cfg) in
/-- What is under way after a step. -/
lemma handlerStep_flows (c : ℕ) (a : Addr) (st : CloudState B) (p : Phase B) (ev : ConnEvent) :
    Flows cfg p ev (handlerStep cfg c a st p ev).2 := by
  cases p with
  | new => cases ev <;> exact .of_none rfl rfl rfl rfl rfl rfl rfl
  -- the handshake goes on, or its exception is the outcome
  | request =>
    cases ev with
    | recv o =>
      simp only [handlerStep]
      rcases hres : o.result >>= authenticateRequest cfg with e | gid
      · exact .of_exception (by simp only [outcome, hres]) (exceptionOutcome_cases e)
          rfl rfl rfl rfl rfl rfl
      · exact .of_none (by simp only [outcome, hres]) rfl rfl rfl rfl rfl rfl
    | _ => exact .of_none rfl rfl rfl rfl rfl rfl rfl
  | sendPubkey gid =>
    cases ev with
    | sendError msg => exact .of_exception rfl (by simp) rfl rfl rfl rfl rfl rfl
    | _ => exact .of_none rfl rfl rfl rfl rfl rfl rfl
  | encaps gid =>
    cases ev with
    | recv o =>
      simp only [handlerStep]
      rcases hres : o.result >>= deriveSession cfg with e | ⟨sid, key⟩
      · exact .of_exception (by simp only [outcome, hres]) (exceptionOutcome_cases e)
          rfl rfl rfl rfl rfl rfl
      · exact .of_none (by simp only [outcome, hres]) rfl rfl rfl rfl rfl rfl
    | _ => exact .of_none rfl rfl rfl rfl rfl rfl rfl
  | sendEstablished gid sid key =>
    cases ev with
    | sendError msg => exact .of_exception rfl (by simp) rfl rfl rfl rfl rfl rfl
    | _ => exact .of_none rfl rfl rfl rfl rfl rfl rfl
  | receiving gid sid key =>
    cases ev with
    | recv o =>
      cases o with
      | message m => exact handlerStep_message_flows c a st gid sid key m
      | _ => exact .of_exception rfl (by simp) rfl rfl rfl rfl rfl rfl
    | _ => exact .of_none rfl rfl rfl rfl rfl rfl rfl
  -- the statements that are left for an accepted reading
  | storing gid sid key reading =>
    cases ev with
    | store => exact ⟨rfl, rfl, fun _ => Nat.lt_succ_self 2, rfl⟩
    | _ => exact .of_none rfl rfl rfl rfl rfl rfl rfl
  | counting gid sid key reading =>
    cases ev with
    | count => exact ⟨rfl, rfl, fun _ => Nat.lt_succ_self 1, rfl⟩
    | _ => exact .of_none rfl rfl rfl rfl rfl rfl rfl
  | reporting gid sid key reading =>
    cases ev with
    | report => exact ⟨rfl, rfl, fun _ => Nat.lt_succ_self 0, rfl⟩
    | _ => exact .of_none rfl rfl rfl rfl rfl rfl rfl
  | leaving sid escaped => cases ev <;> exact .of_none rfl rfl rfl rfl rfl rfl rfl
  | closed escaped => cases ev <;> exact .of_none rfl rfl rfl rfl rfl rfl rfl

/-! ### The messages that are in order -/

variable (addr) in
/-- The step of a handler is accounted for. -/
def Handled (cfg : CloudConfig P) (s : ServerState B) (ev : ℕ × ConnEvent) : Prop :=
  Accounts cfg s.shared (s.phase ev.1) ev.2 (step cfg addr s ev).shared
      ((step cfg addr s ev).phase ev.1) ∧
    Flows cfg (s.phase ev.1) ev.2 ((step cfg addr s ev).phase ev.1)

@[simp] lemma step_phase_fst (s : ServerState B) (ev : ℕ × ConnEvent) :
    (step cfg addr s ev).phase ev.1
      = (handlerStep cfg ev.1 (addr ev.1) s.shared (s.phase ev.1) ev.2).2 :=
  Function.update_self _ _ _

/-- A message whose handling no exception leaves is an orderly one. -/
lemma Handled.orderly {s : ServerState B} (hs : SessionsDerived P s) {ev : ℕ × ConnEvent}
    (h : Handled addr cfg s ev) : OrderlyMessage P s ev := by
  obtain ⟨c, ev⟩ := ev
  intro gid sid key m hp hev
  replace hp : s.phase c = .receiving gid sid key := hp
  replace hev : ev = .recv (.message m) := hev
  obtain ⟨hsid, -⟩ := hs c gid sid key (by rw [hp]; rfl)
  by_contra hbad
  have hbad' : UnencodableSession m sid ∨
      ∃ reading sequence v, decryptProtectedReading P m key sid = .ok reading ∧
        reading.field "sequence" = some (.int sequence) ∧ reading.field "device_id" = some v ∧
          v.hashable = false := by
    by_contra hno
    push Not at hno
    refine hbad ⟨hno.1, fun reading sequence v hd hseq hv => ?_⟩
    have := hno.2 reading sequence v hd hseq hv
    simpa using this
  obtain ⟨st', e, hm, he⟩ := acceptReading_of_not_orderly s.shared hsid hbad'
  have hescaped : ((step cfg addr s (c, ev)).phase c).escaped = some e := by
    simp [step, hp, hev, handlerStep, ReadOutcome.result, hm, onException_snd, he, Phase.escaped]
  have := h.1.no_escape e hescaped
  rw [hp] at this
  cases this

/-- A message in order is accounted for. -/
lemma accounts_message (hP : LoadsRaisesValueError P) (c : ℕ) (a : Addr) (st : CloudState B)
    {gid sid : PyStr} {key : B} (hkey : P.len key = keyLength) {m : JsonDict}
    (hu : ¬ UnencodableSession m sid)
    (hh : ∀ reading sequence v, decryptProtectedReading P m key sid = .ok reading →
      reading.field "sequence" = some (.int sequence) → reading.field "device_id" = some v →
        v.hashable = true) :
    Accounts cfg st (.receiving gid sid key) (.recv (.message m))
      (handlerStep cfg c a st (.receiving gid sid key) (.recv (.message m))).1
      (handlerStep cfg c a st (.receiving gid sid key) (.recv (.message m))).2 := by
  simp only [handlerStep, ReadOutcome.result]
  rcases acceptReading_cases (P := P) st m key sid with
    ⟨text, hm⟩ | ⟨e, hm, -⟩ | ⟨reading, sequence, deviceId, hd, -, -, -, hm⟩
  · simp only [hm]
    exact ⟨by simp [Phase.escaped], by simp [drop, reads], by simp [drop, addedBy], by simp,
      by simp [drop, outcome, added, Outcome.counter]⟩
  · have he := acceptReading_error_caught hP hkey hm hu hh
    obtain ⟨text, hexc⟩ := onException_of_protocolError he (st.inc .messagesReceived) a (some sid)
    simp only [hm, hexc]
    exact ⟨by simp [Phase.escaped], by simp [reads], by simp [addedBy], by simp,
      by simp [outcome, added, Outcome.counter]⟩
  · simp only [hm]
    refine ⟨by simp [Phase.escaped], by simp [reads], by simp [addedBy], ?_,
      by simp [outcome, added]⟩
    intro gid' sid' key' reading' hp
    cases hp
    exact Or.inr ⟨m, rfl, rfl, hd⟩

/-- The handler is accounted for where no message is read. -/
lemma accounts_of_not_reads (c : ℕ) (a : Addr) (st : CloudState B) {p : Phase B} {ev : ConnEvent}
    (hreads : reads p ev = false) :
    Accounts cfg st p ev (handlerStep cfg c a st p ev).1 (handlerStep cfg c a st p ev).2 := by
  cases p with
  | new =>
    cases ev with
    | accept => exact .of_quiet (by simp [handlerStep]) rfl rfl rfl rfl (by simp [handlerStep]) rfl
    | _ => exact .of_idle rfl rfl rfl
  | request =>
    cases ev with
    | recv o =>
      simp only [handlerStep]
      rcases hres : o.result >>= authenticateRequest cfg with e | gid
      · refine .of_exception ?_ a none rfl rfl (by simp only [outcome, hres])
        refine ((readOutcome_caught _).bind fun m _ => ?_) _ hres
        exact (authenticateRequest_raises cfg m).mono fun e he => caught_of_cls (by tauto)
      · exact .of_quiet (by simp) rfl rfl rfl rfl (by simp) (by simp only [outcome, hres])
    | _ => exact .of_idle rfl rfl rfl
  | sendPubkey gid =>
    cases ev with
    | sendOk => exact .of_quiet (by simp [handlerStep]) rfl rfl rfl rfl (by simp [handlerStep]) rfl
    | sendError msg => exact .of_exception (caught_of_cls (by simp)) a none rfl rfl rfl
    | _ => exact .of_idle rfl rfl rfl
  | encaps gid =>
    cases ev with
    | recv o =>
      simp only [handlerStep]
      rcases hres : o.result >>= deriveSession cfg with e | ⟨sid, key⟩
      · refine .of_exception ?_ a none rfl rfl (by simp only [outcome, hres])
        refine ((readOutcome_caught _).bind fun m _ => ?_) _ hres
        exact (deriveSession_raises cfg m).mono fun e he => caught_of_cls (by tauto)
      · exact .of_quiet (by simp [register]) rfl rfl rfl rfl (by simp)
          (by simp only [outcome, hres])
    | _ => exact .of_idle rfl rfl rfl
  | sendEstablished gid sid key =>
    cases ev with
    | sendOk => exact .of_quiet (by simp [handlerStep]) rfl rfl rfl rfl (by simp [handlerStep]) rfl
    | sendError msg => exact .of_exception (caught_of_cls (by simp)) a none rfl rfl rfl
    | _ => exact .of_idle rfl rfl rfl
  | receiving gid sid key =>
    cases ev with
    | recv o =>
      cases o with
      | message m => cases hreads
      | closed => exact .of_exception (readOutcome_caught .closed _ rfl) a (some sid) rfl rfl rfl
      | malformed msg =>
        exact .of_exception (readOutcome_caught (.malformed msg) _ rfl) a (some sid) rfl rfl rfl
      | osError msg =>
        exact .of_exception (readOutcome_caught (.osError msg) _ rfl) a (some sid) rfl rfl rfl
    | _ => exact .of_idle rfl rfl rfl
  | storing gid sid key reading =>
    cases ev with
    | store => exact ⟨by simp [handlerStep, Phase.escaped], by simp [handlerStep, reads], rfl,
        by simp [handlerStep], by simp [handlerStep, outcome, added]⟩
    | _ => exact .of_idle rfl rfl rfl
  | counting gid sid key reading =>
    cases ev with
    | count => exact ⟨by simp [handlerStep, Phase.escaped], by simp [handlerStep, reads], rfl,
        by simp [handlerStep], by simp [handlerStep, outcome, added, Outcome.counter]⟩
    | _ => exact .of_idle rfl rfl rfl
  | reporting gid sid key reading =>
    cases ev with
    | report =>
      exact .of_quiet (by simp [handlerStep, logStored]) rfl rfl rfl rfl (by simp [handlerStep]) rfl
    | _ => exact .of_idle rfl rfl rfl
  | leaving sid escaped =>
    cases ev with
    | finish =>
      show Accounts cfg st _ _ (evict st sid) (.closed escaped)
      exact .of_quiet (by simp) (by simp) rfl rfl rfl (by simp) rfl
    | _ => exact .of_idle rfl rfl rfl
  | closed escaped => cases ev <;> exact .of_idle rfl rfl rfl

/-- The step lemma. -/
lemma handled_iff (hP : LoadsRaisesValueError P) {s : ServerState B} (hs : SessionsDerived P s)
    (ev : ℕ × ConnEvent) : Handled addr cfg s ev ↔ OrderlyMessage P s ev := by
  refine ⟨Handled.orderly hs, fun h => ⟨?_, ?_⟩⟩
  · rw [step_phase_fst]
    show Accounts cfg s.shared (s.phase ev.1) ev.2
      (handlerStep cfg ev.1 (addr ev.1) s.shared (s.phase ev.1) ev.2).1 _
    rcases hreads : reads (s.phase ev.1) ev.2 with _ | _
    · exact accounts_of_not_reads _ _ _ hreads
    -- a message is read in the loop, and it is in order
    · unfold reads at hreads
      split at hreads
      · next gid sid key m hp hev =>
        obtain ⟨hu, hh⟩ := h gid sid key m hp hev
        rw [hp, hev]
        exact accounts_message hP _ _ _ (hs ev.1 gid sid key (by rw [hp]; rfl)).2 hu hh
      · cases hreads
  · rw [step_phase_fst]
    exact handlerStep_flows cfg _ _ _ _ _

/-! ### Runs -/

/-- What is recorded of a connection: what its handler has counted, how often it has had an
outcome, and the readings that it has added to the store. -/
structure Ledger where
  counted : Metrics
  ended : Outcome → ℕ
  stored : List JsonDict

/-- The ledger of a connection before it is accepted. -/
def Ledger.empty : Ledger := ⟨.zero, fun _ => 0, []⟩

/-- An outcome and what was counted and stored with it. -/
def Ledger.record (l : Ledger) (before after : CloudState B) (x : Option Outcome) : Ledger where
  counted name := l.counted name + (after.metrics name - before.metrics name)
  ended y := l.ended y + ends x y
  stored := l.stored ++ after.store.history.drop before.store.history.length

/-- The server, with a ledger for every connection. -/
abbrev Booked (B : Type) : Type := ServerState B × (ℕ → Ledger)

variable (cfg addr) in
/-- A step of the server, and what is recorded of it. -/
def bookedStep (s : Booked B) (ev : ℕ × ConnEvent) : Booked B :=
  (step cfg addr s.1 ev, Function.update s.2 ev.1 ((s.2 ev.1).record s.1.shared
    (step cfg addr s.1 ev).shared
    (outcome cfg (s.1.phase ev.1) ev.2 ((step cfg addr s.1 ev).phase ev.1))))

/-- The ledgers do not disturb the server. -/
lemma run_booked (s : Booked B) (τ : List (ℕ × ConnEvent)) :
    (run (bookedStep cfg addr) s τ).1 = run (step cfg addr) s.1 τ :=
  run_view (fun _ _ => rfl) s τ

/-- What a handler has counted and stored by now is what has become of its messages; `p` is where
it stands. -/
structure Balanced (p : Phase B) (l : Ledger) : Prop where
  no_escape : p.escaped = none
  received : l.counted .messagesReceived
    = l.ended .processed + l.ended .dropped + l.ended .failed + underway p
  processed : l.counted .messagesProcessed = l.ended .processed
  stored : l.stored.length = l.ended .processed + uncounted p
  rejected : l.counted .messagesRejected = l.ended .dropped + l.ended .refused
  errors : l.counted .errors = l.ended .failed + l.ended .broken
  closing : l.ended .failed + l.ended .refused + l.ended .broken + l.ended .disconnected
    = finished p

/-- What is counted by the outcome. -/
lemma added_eq (x : Option Outcome) :
    added x .messagesProcessed = ends x .processed ∧
      added x .messagesRejected = ends x .dropped + ends x .refused ∧
        added x .errors = ends x .failed + ends x .broken := by
  rcases x with _ | x
  · exact ⟨rfl, rfl, rfl⟩
  · cases x <;> exact ⟨rfl, rfl, rfl⟩

/-- The ledger after a step that is accounted for. -/
lemma Balanced.record {p p' : Phase B} {l : Ledger} (h : Balanced p l) {st st' : CloudState B}
    {ev : ConnEvent} (haccounts : Accounts cfg st p ev st' p') (hflows : Flows cfg p ev p') :
    Balanced p' (l.record st st' (outcome cfg p ev p')) := by
  obtain ⟨hprocessed, hrejected, herrors⟩ := added_eq (outcome cfg p ev p')
  have hcount := haccounts.outcome
  simp only [List.mem_cons, List.not_mem_nil, or_false, forall_eq_or_imp, forall_eq] at hcount
  obtain ⟨hcount₁, hcount₂, hcount₃⟩ := hcount
  have hreceived := haccounts.received
  have hlength : (st'.store.history.drop st.store.history.length).length
      = (addedBy p ev).length := by
    rw [haccounts.stored]
    unfold addedBy
    split <;> simp
  obtain ⟨hmessages, hstored, -, hclosing⟩ := hflows
  obtain ⟨hopen, h₁, h₂, h₃, h₄, h₅, h₆⟩ := h
  refine ⟨?_, ?_, ?_, ?_, ?_, ?_, ?_⟩
  · rcases he : p'.escaped with _ | e
    · rfl
    · have := haccounts.no_escape e he
      rw [hopen] at this
      cases this
  · simp only [Ledger.record]
    omega
  · simp only [Ledger.record]
    omega
  · simp only [Ledger.record, List.length_append, hlength]
    omega
  all_goals simp only [Ledger.record]; omega

/-- The books of every connection are balanced. -/
def AllBalanced (s : Booked B) : Prop := ∀ c, Balanced (s.1.phase c) (s.2 c)

lemma AllBalanced.step {s : Booked B} (h : AllBalanced s) {ev : ℕ × ConnEvent}
    (hev : Handled addr cfg s.1 ev) : AllBalanced (bookedStep cfg addr s ev) := by
  intro c
  by_cases hc : c = ev.1
  · rw [hc]
    show Balanced _ (Function.update s.2 ev.1 _ ev.1)
    rw [Function.update_self]
    exact (h ev.1).record hev.1 hev.2
  · have hphase : (bookedStep cfg addr s ev).1.phase c = s.1.phase c := Function.update_of_ne hc _ _
    have hledger : (bookedStep cfg addr s ev).2 c = s.2 c := Function.update_of_ne hc _ _
    rw [hphase, hledger]
    exact h c

/-- The two statements after the acceptance of a reading finish it. -/
lemma underway_settled (s : ServerState B) (c : ℕ) :
    underway ((run (step cfg addr) s [(c, .store), (c, .count)]).phase c) = 0 := by
  rw [run_cons, run_cons, run_nil, step_phase_fst, step_phase_fst]
  generalize (step cfg addr s (c, .store)).shared = st
  rcases s.phase c <;> rfl

variable (cfg addr) in
/-- The handlers are controlled along a run: every step is accounted for, and at the end no
exception has escaped, the books of every connection are balanced, and a message that is still
under way is stored and counted by the next two steps of its handler. -/
structure Controlled (s : ServerState B) (τ : List (ℕ × ConnEvent)) : Prop where
  handled : Along (step cfg addr) (Handled addr cfg) s τ
  balanced : AllBalanced (run (bookedStep cfg addr) (s, fun _ => .empty) τ)
  settled : ∀ c, underway ((run (step cfg addr) (run (step cfg addr) s τ)
    [(c, .store), (c, .count)]).phase c) = 0

/-- **Controlled handling and accounting.**  The handlers are controlled along a run
exactly when every message that they read is in order. -/
theorem accounting_iff (hP : LoadsRaisesValueError P) (maxReadings : ℕ) (log : List PyStr)
    (τ : List (ℕ × ConnEvent)) :
    Controlled cfg addr (initial maxReadings log) τ ↔
      Along (step cfg addr) (OrderlyMessage P) (initial maxReadings log) τ := by
  have hderived : SessionsDerived P (initial maxReadings log : ServerState B) :=
    fun _ _ _ _ h => by cases h
  have hiff : Along (step cfg addr) (Handled addr cfg) (initial maxReadings log) τ ↔
      Along (step cfg addr) (OrderlyMessage P) (initial maxReadings log) τ :=
    along_congr_of_inv hderived (fun _ e h => h.step e) fun _ e h => handled_iff hP h e
  refine ⟨fun h => hiff.1 h.handled, fun h => ⟨hiff.2 h, ?_, fun c => underway_settled _ c⟩⟩
  have hzero : AllBalanced ((initial maxReadings log : ServerState B), fun _ => Ledger.empty) :=
    fun c => ⟨rfl, rfl, rfl, rfl, rfl, rfl, rfl⟩
  -- the steps of the server with its ledgers are those of the server
  refine inv_run (J := AllBalanced) (P := fun s ev => Handled addr cfg s.1 ev)
    (fun _ _ h hev => h.step hev) hzero ?_
  exact (along_view (fun _ _ => rfl) _).2 (hiff.2 h)

lemma loadsRaisesValueError_ideal (table : ℕ → Option Json) :
    LoadsRaisesValueError (ideal table) := by
  intro b
  cases b with
  | data a =>
    cases a with
    | text s => nofun
    | record n =>
      show Ideal.loads table (.data (.record n)) ≠ _
      rw [Ideal.loads]
      split <;> nofun
  | _ => nofun

/-- A message of another type is dropped before anything else is looked at. -/
lemma orderlyMessage_of_type {s : ServerState B} {c : ℕ} {m : JsonDict}
    (h : isStr (m.field "type") msgProtectedReading = false) :
    OrderlyMessage P s (c, .recv (.message m)) := by
  intro gid sid key m' _ hev
  cases hev
  refine ⟨fun hu => ?_, fun reading sequence v hd => ?_⟩
  · rw [hu.1] at h
    cases h
  · rw [decryptProtectedReading, h] at hd
    cases hd

/-- An event that delivers no message. -/
lemma orderlyMessage_of_ne {s : ServerState B} {ev : ℕ × ConnEvent}
    (h : ∀ m, ev.2 ≠ .recv (.message m)) : OrderlyMessage P s ev :=
  fun _ _ _ m _ hev => absurd hev (h m)

/-- A reading of the demo device, and a message that is not for the session. -/
theorem accounting_demo :
    Controlled (demoCloud fun _ => some (demoRecord (.str (lit "dev-01")) 1)) demoAddr
      (initial 100 []) (handshakeEvents 0 demoRequest (demoEncaps 0 (lit "a1"))
        ++ [(0, .recv (.message (demoReading 0 0 (lit "a1")))), (0, .store),
          (0, .count), (0, .report), (0, .recv (.message [(lit "type", .str (lit "error"))])),
          (0, .recv .closed)]) := by
  refine (accounting_iff (loadsRaisesValueError_ideal _) 100 [] _).2
    (along_append.2 ⟨along_of_forall fun s ev hev => ?_, ?_⟩)
  · simp only [handshakeEvents, registrationEvents, List.cons_append, List.nil_append,
      List.mem_cons, List.not_mem_nil, or_false] at hev
    rcases hev with rfl | rfl | rfl | rfl | rfl
    · exact orderlyMessage_of_ne (by simp)
    · exact orderlyMessage_of_type rfl
    · exact orderlyMessage_of_ne (by simp)
    · exact orderlyMessage_of_type rfl
    · exact orderlyMessage_of_ne (by simp)
  · rw [run_demoHandshake _ (by decide) rfl]
    refine ⟨?_, orderlyMessage_of_ne (by simp), orderlyMessage_of_ne (by simp),
      orderlyMessage_of_ne (by simp), orderlyMessage_of_type rfl, orderlyMessage_of_ne (by simp),
      trivial⟩
    intro gid sid key m hp hev
    cases hev
    cases hp
    refine ⟨fun hu => absurd hu.2.2 (by decide), fun reading sequence v hd _ hv => ?_⟩
    rw [decryptProtectedReading_demoReading _ (by decide) (by decide)] at hd
    cases hd
    cases hv
    rfl

/-- A gateway whose session id is a lone surrogate crashes its handler with the first
protected message. -/
theorem escapes_on_unencodable_session :
    ¬ Controlled (demoCloud fun _ => none) demoAddr (initial 100 [])
      (handshakeEvents 0 demoRequest (demoEncaps 0 [.surrogate 0])
        ++ [(0, .recv (.message [(lit "type", .str msgProtectedReading),
          (lit "session_id", .str [.surrogate 0])]))]) := by
  intro h
  have hescape := (h.balanced 0).no_escape
  rw [run_booked, run_append, run_demoHandshake _ (by decide) rfl] at hescape
  cases hescape

end PqcBridge.Cloud
