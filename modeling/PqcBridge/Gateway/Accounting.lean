/-
What becomes of a message that the gateway has counted as received.

The main thread makes the first session; then any number of device handlers run, together
with the reconnect threads that they start.  A message that `_serve_legacy` reads is
dropped, or it closes the connection, or its reading is forwarded; each of these is counted
once.  Two kinds of step fall through: the reading of a message that names a registered
device id which cannot be encoded as UTF-8, and a step of `send_reading` in which another
thread has taken the session away.  Their exceptions are in none of the `except` clauses.

* `parseHello_raises`, `evaluateHello_eq`, `decryptLegacyMessage_raises`,
  `buildPayload_raises`: the exceptions that reach `_handle`;
* `accounts_iff`: a step of a handler is accounted for exactly when it is in order;
* `messages_accounted_iff`: every handler is controlled along a run exactly when its steps are in
  order.
-/
import PqcBridge.Cloud.Accounting
import PqcBridge.Gateway.Threads
import PqcBridge.Device.Device

namespace PqcBridge.Gateway.Accounting

open Python Protocol Crypto Runs
open Cloud (LoadsRaisesValueError parseReadingBytes_raises)

variable {B : Type} {P : Primitives B} {cfg : GatewayConfig B} {deviceKeys : KeyRegistry P}

/-! ### The exceptions of a hello -/

lemma parseHello_raises (m : JsonDict) : OnlyRaises (parseHello m) IsProtocolError := by
  refine .ite (fun _ => onlyRaises_raise rfl) fun _ => ?_
  refine (requireStr_raises m _).bind fun _ _ => ?_
  split
  · split
    · refine (requireStr_raises m _).bind fun _ _ => ?_
      exact (requireStr_raises m _).bind fun _ _ => onlyRaises_ok _
    · exact onlyRaises_raise rfl
  · exact onlyRaises_raise rfl

lemma verifyHelloAuth_raises {key : B} (hkey : P.len key = keyLength) (m : JsonDict) :
    OnlyRaises (verifyHelloAuth P key m) fun e => e.cls = .authenticationError := by
  unfold verifyHelloAuth
  split
  · exact verifyAuth_raises hkey _ _ _ _
  · exact onlyRaises_raise rfl

/-- `evaluate_hello` raises nothing under a 32-byte key. -/
lemma evaluateHello_eq {key : B} (hkey : P.len key = keyLength) (h : Hello) :
    ∃ decision, evaluateHello P h (some key) = .ok decision := by
  rcases hv : verifyHelloAuth P key h.message with e | _
  · refine ⟨.rejectUnauthenticated, ?_⟩
    have hcls : e.isA .authenticationError = true := by
      simp [PyExc.isA, verifyHelloAuth_raises hkey h.message e hv]
    simp only [evaluateHello, hv, hcls, if_true]
  · exact ⟨(determinePath h.capabilities).decision, by simp only [evaluateHello, hv]⟩

/-! ### The exceptions of a reading -/

/-- The message is a reading of the device, and the id of the device is not valid
Unicode. -/
def UnencodableDevice (m : JsonDict) (deviceId : PyStr) : Prop :=
  isStr (m.field "type") msgLegacyReading = true ∧ isStr (m.field "device_id") deviceId = true ∧
    (∃ n, m.field "seq" = some (.int n)) ∧ validUnicode deviceId = false

/-- Whether `decrypt_legacy_message` raises what the loop drops. -/
def dropped (e : PyExc) : Bool := e.isA .gatewayProcessingError || e.isA .legacyDecryptionError

lemma dropped_of_cls {e : PyExc}
    (h : e.cls = .gatewayProcessingError ∨ e.cls = .legacyDecryptionError) : dropped e = true := by
  rcases h with h | h <;> simp [dropped, PyExc.isA, h]

lemma checkReading_raises (hP : LoadsRaisesValueError P) (b : B) :
    OnlyRaises (checkReading P b) fun e => e.cls = .gatewayProcessingError := by
  unfold checkReading
  split
  · next e he =>
    have hcls : e.cls = .protocolError := parseReadingBytes_raises hP b e he
    refine .ite (fun _ => onlyRaises_raise rfl) fun h => ?_
    simp [PyExc.isA, hcls] at h
  · exact onlyRaises_ok _

/-- The associated data of a reading can be encoded exactly when the device id can. -/
lemma legacyMessageAad_raises (deviceId : PyStr) (sequence : ℤ) :
    OnlyRaises (legacyMessageAad P deviceId sequence) fun _ => validUnicode deviceId = false := by
  refine .ite (fun _ => onlyRaises_ok _) fun h => onlyRaises_raise ?_
  by_contra hid
  have hvalid : validUnicode deviceId = true := by simpa using hid
  exact h (by simp [hvalid])

/-- What `decrypt_legacy_message` raises. -/
lemma decryptLegacyMessage_raises (hP : LoadsRaisesValueError P) {key : B}
    (hkey : P.len key = keyLength) (m : JsonDict) (d : PyStr) :
    OnlyRaises (decryptLegacyMessage P m key d) fun e =>
      dropped e = true ∨ IsProtocolError e ∨ UnencodableDevice m d := by
  refine .ite (fun _ => onlyRaises_raise (Or.inl (dropped_of_cls (Or.inl rfl)))) fun htype => ?_
  refine .ite (fun _ => onlyRaises_raise (Or.inl (dropped_of_cls (Or.inl rfl)))) fun hid => ?_
  refine ((requireInt_raises m _).mono fun _ h => Or.inr (Or.inl h)).bind fun n hn => ?_
  refine ((legacyMessageAad_raises d n).mono fun _ h => Or.inr (Or.inr ?_)).bind fun aad _ => ?_
  · exact ⟨by simpa using htype, by simpa using hid, ⟨n, requireInt_eq_ok.1 hn⟩, h⟩
  have hdecrypt : OnlyRaises (decryptLegacyPayload P key m aad) fun e =>
      dropped e = true ∨ IsProtocolError e ∨ UnencodableDevice m d :=
    (aeadDecrypt_raises hkey m aad .legacyDecryptionError).mono fun e he => by
      rcases he with h | h
      · exact Or.inr (Or.inl h)
      · exact Or.inl (dropped_of_cls (Or.inr h))
  refine hdecrypt.bind fun plaintext _ => ?_
  refine ((checkReading_raises hP plaintext).mono fun _ h => ?_).bind fun _ _ => onlyRaises_ok _
  exact Or.inl (dropped_of_cls (Or.inl h))

/-- The device id is encoded before anything is decrypted. -/
lemma decryptLegacyMessage_of_unencodable {m : JsonDict} {d : PyStr} (h : UnencodableDevice m d)
    (key : B) : decryptLegacyMessage P m key d
      = raise .unicodeEncodeError (lit "'utf-8' codec: surrogates not allowed") := by
  obtain ⟨htype, hid, ⟨n, hn⟩, hvalid⟩ := h
  have hseq : requireInt m "seq" = .ok n := requireInt_eq_ok.2 hn
  have hinvalid : validUnicode (d ++ lit ":" ++ decimal n) = false := by
    simp [hvalid]
  simp only [decryptLegacyMessage, htype, hid, hseq, ok_bind, legacyMessageAad, encodeUtf8,
    hinvalid]
  rfl

/-! ### The exceptions of `send_reading` -/

/-- The session of the channel is usable where it is there: its id is made of hexadecimal
digits, and its key is derived. -/
structure SessionOk (P : Primitives B) (ch : CloudChannel B) : Prop where
  key_len : ∀ key, ch.sessionKey = some key → P.len key = keyLength
  valid : ∀ sid, ch.sessionId = some sid → validUnicode sid = true

/-- The payload is built where the two fields are there. -/
lemma buildPayload_eq {ch : CloudChannel B} (hch : SessionOk P ch) (hsid : ch.sessionId ≠ none)
    (hkey : ch.sessionKey ≠ none) (b nonce : B) :
    ∃ payload, buildPayload P ch b nonce = .ok payload := by
  obtain ⟨sid, hsid⟩ := Option.ne_none_iff_exists'.1 hsid
  obtain ⟨key, hkey⟩ := Option.ne_none_iff_exists'.1 hkey
  have h := Threads.buildPayload_returns hsid (hch.valid sid hsid) (hch.key_len key hkey) b nonce
  rw [← hkey] at h
  exact h

/-- Where a field is missing, `None` is used in its place. -/
lemma buildPayload_raises {ch : CloudChannel B} (h : ch.sessionId = none ∨ ch.sessionKey = none)
    (b nonce : B) :
    ∃ e, buildPayload P ch b nonce = .error e ∧ (e.cls = .attributeError ∨ e.cls = .typeError) := by
  rcases hsid : ch.sessionId with _ | sid
  · exact ⟨_, by simp only [buildPayload, hsid, raise]; rfl, Or.inl rfl⟩
  · have hkey : ch.sessionKey = none := h.resolve_left (by simp [hsid])
    exact ⟨_, by simp only [buildPayload, hsid, hkey, raise]; rfl, Or.inr rfl⟩

/-! ### The `except` clauses -/

/-- The exceptions that `_handle` catches, counts and ends the connection on. -/
def counted (e : PyExc) : Bool :=
  e.isA .protocolError || e.isA .gatewayProcessingError || e.isA .cryptoError || e.isA .osError

lemma onDeviceException_of_counted {e : PyExc} (he : counted e = true)
    (hclosed : e.isA .connectionClosedError = false) (st : GatewayState B) :
    onDeviceException st e = (st.inc .errors, .closed none) := by
  unfold counted at he
  simp only [onDeviceException, hclosed, he, if_true, Bool.false_eq_true, if_false]

/-- An exception of a class that is counted. -/
lemma onDeviceException_of_cls {e : PyExc} (h : e.cls = .protocolError ∨ e.cls = .cryptoError ∨
    e.cls = .osError) (st : GatewayState B) :
    onDeviceException st e = (st.inc .errors, .closed none) := by
  refine onDeviceException_of_counted ?_ ?_ st
  · rcases h with h | h | h <;> simp [counted, PyExc.isA, h]
  · rcases h with h | h | h <;> simp [PyExc.isA, h, ExcClass.base]

/-- An exception of a class that no clause names. -/
lemma onDeviceException_of_uncaught {e : PyExc} (h : e.cls = .unicodeEncodeError ∨
    e.cls = .attributeError ∨ e.cls = .typeError) (st : GatewayState B) :
    onDeviceException st e = (st, .closed (some e)) := by
  rcases h with h | h | h <;> simp [onDeviceException, PyExc.isA, h, ExcClass.base]

/-! ### The counts of one step -/

/-- What ends a hello, a reading or a connection. -/
inductive Outcome where
  /-- `parse_hello` raises -/
  | refused
  /-- the hello is parsed, and its device is not admitted -/
  | unadmitted
  /-- a reading is dropped, and the loop goes on -/
  | dropped
  /-- `decrypt_legacy_message` raises what closes the connection -/
  | failed
  /-- `send_reading` raises -/
  | raised
  /-- the reading is forwarded -/
  | forwarded
  /-- the peer closes the connection between two messages -/
  | disconnected
  /-- `read_message` raises something else -/
  | broken
deriving DecidableEq, Repr

/-- The counter in which it is counted. -/
def Outcome.counter : Outcome → Option Counter
  | .refused => some .errors
  | .unadmitted => some .messagesRejected
  | .dropped => some .messagesRejected
  | .failed => some .errors
  | .raised => some .errors
  | .forwarded => some .messagesForwarded
  | .disconnected => none
  | .broken => some .errors

/-- Whether the connection is closed with it. -/
def Outcome.closes : Outcome → Bool
  | .dropped => false
  | .forwarded => false
  | _ => true

variable (deviceKeys) in
/-- Whether the policy admits the device of the hello. -/
def admits (hello : Hello) : Bool :=
  match deviceKeys.keys hello.deviceId with
  | none => false
  | some deviceKey =>
    match evaluateHello P hello (some deviceKey) with
    | .ok .allowFallback => true
    | _ => false

variable (deviceKeys) in
/-- What the first message of a connection is to it, where the device is not admitted. -/
def helloOutcome (m : JsonDict) : Option Outcome :=
  match parseHello m with
  | .error _ => some .refused
  | .ok hello => if admits deviceKeys hello then none else some .unadmitted

variable (deviceKeys) in
/-- The outcome of a step, by where the handler stood and what happened; a message that is read in
`_serve_legacy` and a step of `send_reading` have their outcome by where the handler stands
then. -/
def outcome : DevicePhase B → DeviceEvent B → DevicePhase B → Option Outcome
  | .hello, .recv (.message m), _ => helloOutcome deviceKeys m
  | .hello, .recv .closed, _ => some .disconnected
  | .hello, .recv _, _ => some .broken
  | .serving _ _, .recv (.message _), .closed _ => some .failed
  | .serving _ _, .recv (.message _), .serving _ _ => some .dropped
  | .serving _ _, .recv (.message _), _ => none
  | .serving _ _, .recv .closed, _ => some .disconnected
  | .serving _ _, .recv _, _ => some .broken
  | .forwarding _ _ _, .check, .closed _ => some .raised
  | .checked _ _ _, .build _, .closed _ => some .raised
  | .sending _ _ _, .send .ok, .serving _ _ => some .forwarded
  | .sending _ _ _, .send _, _ => some .raised
  | _, _, _ => none

/-- What a step adds to a counter by its outcome. -/
def added (x : Option Outcome) (name : Counter) : ℕ :=
  if x.bind Outcome.counter = some name then 1 else 0

/-- Whether `_serve_legacy` reads a message. -/
def reads : DevicePhase B → DeviceEvent B → Bool
  | .serving _ _, .recv (.message _) => true
  | _, _ => false

/-- A step of a handler is accounted for: no exception escapes in it, a message that is
read is counted, a reading that the guard accepts is counted as processed, and what is
counted as forwarded, rejected or an error is what the outcome of the step says. -/
structure Accounts (deviceKeys : KeyRegistry P) (st : GatewayState B) (p : DevicePhase B)
    (ev : DeviceEvent B) (st' : GatewayState B) (p' : DevicePhase B) : Prop where
  no_escape : ∀ e, p' = .closed (some e) → p = .closed (some e)
  received : st'.channel.metrics .messagesReceived
    = st.channel.metrics .messagesReceived + if reads p ev then 1 else 0
  processed : st'.channel.metrics .messagesProcessed
    = st.channel.metrics .messagesProcessed + if (acceptedBy P st p ev).isSome then 1 else 0
  outcome : ∀ name ∈ [Counter.messagesForwarded, .messagesRejected, .errors],
    st'.channel.metrics name = st.channel.metrics name + added (outcome deviceKeys p ev p') name

/-- A step is in order: the id of the device can be encoded where a reading of it is read,
and `send_reading` still finds the fields of the session that it uses. -/
structure Orderly (st : GatewayState B) (p : DevicePhase B) (ev : DeviceEvent B) : Prop where
  encodable : ∀ d key m, p = .serving d key → ev = .recv (.message m) → ¬ UnencodableDevice m d
  session : ∀ d key b nonce, p = .checked d key b → ev = .build nonce →
    st.channel.sessionId ≠ none ∧ st.channel.sessionKey ≠ none
  sock : ∀ d key payload io, p = .sending d key payload → ev = .send io → st.channel.sock ≠ none

section Step

variable {st : GatewayState B} {p : DevicePhase B} {ev : DeviceEvent B}

@[simp] lemma inc_metrics (st : GatewayState B) (name : Counter) :
    (st.inc name).channel.metrics = st.channel.metrics.inc name := rfl

/-- A step that counts nothing. -/
lemma Accounts.of_quiet {st' : GatewayState B} {p' : DevicePhase B}
    (hmetrics : st'.channel.metrics = st.channel.metrics)
    (hescape : ∀ e, p' = .closed (some e) → p = .closed (some e)) (hreads : reads p ev = false)
    (haccepted : acceptedBy P st p ev = none)
    (houtcome : (Accounting.outcome deviceKeys p ev p').bind Outcome.counter = none) :
    Accounts deviceKeys st p ev st' p' := by
  refine ⟨hescape, ?_, ?_, fun name _ => ?_⟩
  · rw [hmetrics, hreads]
    rfl
  · rw [hmetrics, haccepted]
    rfl
  · rw [hmetrics, added, houtcome]
    rfl

/-- A step that ends the connection with an error, where no message was read. -/
lemma Accounts.of_error (hreads : reads p ev = false) (haccepted : acceptedBy P st p ev = none)
    (houtcome : (Accounting.outcome deviceKeys p ev (.closed none)).bind Outcome.counter
      = some .errors) :
    Accounts deviceKeys st p ev (st.inc .errors) (.closed none) := by
  refine ⟨by simp, ?_, ?_, ?_⟩
  · simp [hreads]
  · simp [haccepted]
  · simp [added, houtcome]

/-- `read_message` raises. -/
lemma accounts_of_readFailed {o : ReadOutcome} {e : PyExc} (ho : o.result = .error e)
    (hp : p = .hello ∨ ∃ d key, p = .serving d key) :
    Accounts deviceKeys st p (.recv o) (onDeviceException st e).1 (onDeviceException st e).2 := by
  have hreads : reads p (.recv o) = false := by
    rcases hp with rfl | ⟨d, key, rfl⟩
    · rfl
    · cases o with
      | message m => cases ho
      | _ => rfl
  have haccepted : acceptedBy P st p (.recv o) = none := by
    rcases hp with rfl | ⟨d, key, rfl⟩
    · rfl
    · cases o with
      | message m => cases ho
      | _ => rfl
  -- a peer that has closed is no error; the other two failures are caught and counted
  cases o with
  | message m => cases ho
  | closed =>
    obtain rfl := Except.error.inj ho
    refine .of_quiet rfl (fun e he => by cases he) hreads haccepted ?_
    rcases hp with rfl | ⟨d, key, rfl⟩ <;> rfl
  | malformed msg =>
    rw [onDeviceException_of_cls (Or.inl (congrArg PyExc.cls (Except.error.inj ho)).symm)]
    refine .of_error hreads haccepted ?_
    rcases hp with rfl | ⟨d, key, rfl⟩ <;> rfl
  | osError msg =>
    rw [onDeviceException_of_cls (Or.inr (Or.inr (congrArg PyExc.cls (Except.error.inj ho)).symm))]
    refine .of_error hreads haccepted ?_
    rcases hp with rfl | ⟨d, key, rfl⟩ <;> rfl

/-- The policy is asked where the device is registered. -/
lemma admits_eq {hello : Hello} {key : B} {decision : Decision}
    (hk : deviceKeys.keys hello.deviceId = some key)
    (hdecision : evaluateHello P hello (some key) = .ok decision) :
    admits deviceKeys hello = true ↔ decision = .allowFallback := by
  simp only [admits, hk, hdecision]
  cases decision <;> simp

variable (cfg) in
/-- A hello. -/
lemma accounts_hello (o : ReadOutcome) :
    Accounts deviceKeys st .hello (.recv o) (deviceStep P cfg deviceKeys st .hello (.recv o)).1
      (deviceStep P cfg deviceKeys st .hello (.recv o)).2 := by
  rcases ho : o.result with e | m
  · have hbind : o.result >>= parseHello = .error e := by rw [ho, error_bind]
    simp only [deviceStep, hbind]
    exact accounts_of_readFailed ho (Or.inl rfl)
  obtain rfl := readOutcome_eq_ok ho
  rcases hparse : parseHello m with e | hello
  · have hbind : (ReadOutcome.message m).result >>= parseHello = .error e := hparse
    simp only [deviceStep, hbind]
    rw [onDeviceException_of_cls (Or.inl (parseHello_raises m e hparse))]
    refine .of_error rfl rfl ?_
    simp only [outcome, helloOutcome, hparse]
    rfl
  have hbind : (ReadOutcome.message m).result >>= parseHello = .ok hello := hparse
  simp only [deviceStep, hbind]
  rcases hk : deviceKeys.keys hello.deviceId with _ | key
  · have hadmits : admits deviceKeys hello = false := by simp only [admits, hk]
    simp only [admitDevice, hk]
    refine ⟨by simp, by simp [reads], by simp [acceptedBy], ?_⟩
    simp [outcome, helloOutcome, hparse, hadmits, added, Outcome.counter]
  -- the policy decides, and one decision alone admits
  obtain ⟨decision, hdecision⟩ := evaluateHello_eq (deviceKeys.key_len hk) hello
  by_cases hallow : decision = .allowFallback
  · have hadmits : admits deviceKeys hello = true := (admits_eq hk hdecision).2 hallow
    rw [hallow] at hdecision
    simp only [admitDevice, hk, hdecision]
    refine ⟨by simp, by simp [reads], by simp [acceptedBy], ?_⟩
    simp [outcome, helloOutcome, hparse, hadmits, added]
  · have hadmits : admits deviceKeys hello = false := by
      rw [← Bool.not_eq_true, admits_eq hk hdecision]
      exact hallow
    have hreject : admitDevice P deviceKeys st hello = (st.inc .messagesRejected, .ok none) := by
      simp only [admitDevice, hk, hdecision]
    simp only [hreject]
    refine ⟨by simp, by simp [reads], by simp [acceptedBy], ?_⟩
    simp [outcome, helloOutcome, hparse, hadmits, added, Outcome.counter]

variable (cfg deviceKeys) in
/-- A reading. -/
lemma accounts_serving (hP : LoadsRaisesValueError P) {d : PyStr} {key : B}
    (hkey : P.len key = keyLength) (o : ReadOutcome)
    (hm : ∀ m, o = .message m → ¬ UnencodableDevice m d) :
    Accounts deviceKeys st (.serving d key) (.recv o)
      (deviceStep P cfg deviceKeys st (.serving d key) (.recv o)).1
      (deviceStep P cfg deviceKeys st (.serving d key) (.recv o)).2 := by
  rcases ho : o.result with e | m
  · simp only [deviceStep, ho]
    exact accounts_of_readFailed ho (Or.inr ⟨d, key, rfl⟩)
  obtain rfl := readOutcome_eq_ok ho
  rcases hd : decryptLegacyMessage P m key d with e | ⟨b, sequence⟩
  · have haccepted : acceptedBy P st (.serving d key) (.recv (.message m)) = none := by
      simp only [acceptedBy, hd]
    by_cases he : dropped e = true
    · have hdrop : acceptLegacy P st m d key
          = ((st.inc .messagesReceived).inc .messagesRejected, .ok none) := by
        unfold dropped at he
        simp only [acceptLegacy, hd, he, if_true]
      simp only [deviceStep, ho, hdrop]
      refine ⟨by simp, by simp [reads], by simp [haccepted], ?_⟩
      simp [outcome, added, Outcome.counter]
    · -- what is not dropped closes the connection
      have hraise : acceptLegacy P st m d key = (st.inc .messagesReceived, .error e) := by
        unfold dropped at he
        simp only [acceptLegacy, hd, he]
        rfl
      have hprotocol : IsProtocolError e := by
        rcases decryptLegacyMessage_raises hP hkey m d e hd with h | h | h
        · exact absurd h he
        · exact h
        · exact absurd h (hm m rfl)
      simp only [deviceStep, ho, hraise, onDeviceException_of_cls (Or.inl hprotocol)]
      refine ⟨by simp, by simp [reads], by simp [haccepted], ?_⟩
      simp [outcome, added, Outcome.counter]
  rcases hc : st.replay.checkAndUpdate_cases d sequence with ⟨-, hno⟩ | ⟨hlt, hyes⟩
  · have haccepted : acceptedBy P st (.serving d key) (.recv (.message m)) = none := by
      simp [acceptedBy, hd, hno]
    have hdrop : acceptLegacy P st m d key
        = ((st.inc .messagesReceived).inc .messagesRejected, .ok none) := by
      simp only [acceptLegacy, hd, GatewayState.inc_replay, hno]
      rfl
    simp only [deviceStep, ho, hdrop]
    refine ⟨by simp, by simp [reads], by simp [haccepted], ?_⟩
    simp [outcome, added, Outcome.counter]
  · have haccepted : acceptedBy P st (.serving d key) (.recv (.message m))
        = some ⟨d, sequence, b⟩ := by
      simp [acceptedBy, hd, hyes]
    simp only [deviceStep, ho, acceptLegacy_of_lt hd hlt]
    refine ⟨by simp, by simp [reads], by simp [haccepted], ?_⟩
    simp [outcome, added]

variable (P cfg deviceKeys st) in
/-- The check of `send_reading`. -/
lemma accounts_check (d : PyStr) (key b : B) :
    Accounts deviceKeys st (.forwarding d key b) .check
      (deviceStep P cfg deviceKeys st (.forwarding d key b) .check).1
      (deviceStep P cfg deviceKeys st (.forwarding d key b) .check).2 := by
  rcases hcheck : checkEstablished st.channel with e | _
  · have he : e.cls = .cryptoError := by
      unfold checkEstablished at hcheck
      split_ifs at hcheck
      obtain rfl := Except.error.inj hcheck
      rfl
    simp only [deviceStep, hcheck, onDeviceException_of_cls (Or.inr (Or.inl he))]
    exact .of_error rfl rfl rfl
  · simp only [deviceStep, hcheck]
    exact .of_quiet rfl (by simp) rfl rfl rfl

variable (cfg deviceKeys) in
/-- The building of the payload. -/
lemma accounts_build (hch : SessionOk P st.channel) (d : PyStr) (key b nonce : B)
    (hsession : st.channel.sessionId ≠ none ∧ st.channel.sessionKey ≠ none) :
    Accounts deviceKeys st (.checked d key b) (.build nonce)
      (deviceStep P cfg deviceKeys st (.checked d key b) (.build nonce)).1
      (deviceStep P cfg deviceKeys st (.checked d key b) (.build nonce)).2 := by
  obtain ⟨payload, hpayload⟩ := buildPayload_eq hch hsession.1 hsession.2 b nonce
  simp only [deviceStep, hpayload]
  exact .of_quiet rfl (by simp) rfl rfl rfl

@[simp] lemma invalidate_metrics (ch : CloudChannel B) :
    (invalidate cfg ch).1.metrics = ch.metrics := by
  unfold invalidate startReconnect
  dsimp only
  split_ifs <;> rfl

variable (P deviceKeys) in
/-- The section under `_send_lock`. -/
lemma accounts_send (d : PyStr) (key : B) (payload : JsonDict) (io : IoOutcome)
    (hsock : st.channel.sock ≠ none) :
    Accounts deviceKeys st (.sending d key payload) (.send io)
      (deviceStep P cfg deviceKeys st (.sending d key payload) (.send io)).1
      (deviceStep P cfg deviceKeys st (.sending d key payload) (.send io)).2 := by
  obtain ⟨sock, hsock⟩ := Option.ne_none_iff_exists'.1 hsock
  cases io with
  | ok =>
    simp only [deviceStep, sendPayload, hsock]
    refine ⟨by simp, by simp [reads], by simp [acceptedBy], ?_⟩
    simp [outcome, added, Outcome.counter]
  | osError msg =>
    have hcatch : ∀ st : GatewayState B, onDeviceException st
        ⟨.cryptoError, lit "cloud session failed"⟩ = (st.inc .errors, .closed none) :=
      onDeviceException_of_cls (Or.inr (Or.inl rfl))
    simp only [deviceStep, sendPayload, hsock, raise, hcatch]
    refine ⟨by simp, by simp [reads], by simp [acceptedBy], ?_⟩
    simp [outcome, added, Outcome.counter]

/-- What is not in order raises an exception that no clause catches. -/
lemma Accounts.orderly (h : Accounts deviceKeys st p ev (deviceStep P cfg deviceKeys st p ev).1
    (deviceStep P cfg deviceKeys st p ev).2) : Orderly st p ev := by
  -- an exception that no handler of the source names leaves the thread
  have escapes : ∀ (st' : GatewayState B) (e : PyExc), (deviceStep P cfg deviceKeys st p ev).2
      = (onDeviceException st' e).2 → (e.cls = .unicodeEncodeError ∨ e.cls = .attributeError ∨
        e.cls = .typeError) → ¬ ∀ escaped, p ≠ .closed escaped := by
    intro st' e hstep hcls hopen
    rw [onDeviceException_of_uncaught hcls] at hstep
    exact hopen _ (h.no_escape e hstep)
  refine ⟨fun d key m hp hev hbad => ?_, fun d key b nonce hp hev => ?_,
    fun d key payload io hp hev hsock => ?_⟩
  · -- the device id is no UTF-8
    subst hp hev
    refine escapes (st.inc .messagesReceived)
      ⟨.unicodeEncodeError, lit "'utf-8' codec: surrogates not allowed"⟩ ?_ (Or.inl rfl) (by simp)
    have hraise := decryptLegacyMessage_of_unencodable (P := P) hbad key
    simp only [deviceStep, ReadOutcome.result, acceptLegacy, hraise, raise]
    rfl
  · -- the session was cleared after the check
    subst hp hev
    by_contra hmissing
    have hnone : st.channel.sessionId = none ∨ st.channel.sessionKey = none := by tauto
    obtain ⟨e, he, hcls⟩ := buildPayload_raises (P := P) hnone b nonce
    refine escapes st e ?_ (Or.inr hcls) (by simp)
    simp only [deviceStep, he]
  · -- the socket was cleared after the payload was built
    subst hp hev
    refine escapes st ⟨.attributeError, lit "'NoneType' object has no attribute 'sendall'"⟩ ?_
      (Or.inr (Or.inl rfl)) (by simp)
    simp only [deviceStep, sendPayload, hsock, raise]
    exact onDeviceException_congr _ _ _

variable (cfg) in
/-- What is in order is accounted for. -/
lemma Orderly.accounts (h : Orderly st p ev) (hP : LoadsRaisesValueError P)
    (hch : SessionOk P st.channel)
    (hkey : ∀ d key, p.device = some (d, key) → P.len key = keyLength) :
    Accounts deviceKeys st p ev (deviceStep P cfg deviceKeys st p ev).1
      (deviceStep P cfg deviceKeys st p ev).2 := by
  obtain ⟨hencodable, hsession, hsock⟩ := h
  cases p with
  | new =>
    cases ev with
    | accept => exact ⟨by simp [deviceStep], by simp [deviceStep, reads],
        by simp [deviceStep, acceptedBy], by simp [deviceStep, outcome, added]⟩
    | _ => exact .of_quiet rfl (by simp [deviceStep]) rfl rfl rfl
  | hello =>
    cases ev with
    | recv o => exact accounts_hello cfg o
    | _ => exact .of_quiet rfl (by simp [deviceStep]) rfl rfl rfl
  | admitting d key =>
    cases ev with
    | activate => exact ⟨by simp [deviceStep], by simp [deviceStep, reads],
        by simp [deviceStep, acceptedBy], by simp [deviceStep, outcome, added]⟩
    | _ => exact .of_quiet rfl (by simp [deviceStep]) rfl rfl rfl
  | marking d key =>
    cases ev with
    | mark =>
      simp only [deviceStep]
      split_ifs <;> exact .of_quiet rfl (by simp) rfl rfl rfl
    | _ => exact .of_quiet rfl (by simp [deviceStep]) rfl rfl rfl
  | detecting d key =>
    cases ev with
    | detect => exact ⟨by simp [deviceStep], by simp [deviceStep, reads],
        by simp [deviceStep, acceptedBy], by simp [deviceStep, outcome, added]⟩
    | _ => exact .of_quiet rfl (by simp [deviceStep]) rfl rfl rfl
  | serving d key =>
    cases ev with
    | recv o =>
      refine accounts_serving cfg deviceKeys hP (hkey d key rfl) o fun m hm => ?_
      exact hencodable d key m rfl (congrArg _ hm)
    | _ => exact .of_quiet rfl (by simp [deviceStep]) rfl rfl rfl
  | forwarding d key b =>
    cases ev with
    | check => exact accounts_check P cfg deviceKeys st d key b
    | _ => exact .of_quiet rfl (by simp [deviceStep]) rfl rfl rfl
  | checked d key b =>
    cases ev with
    | build nonce =>
      exact accounts_build cfg deviceKeys hch d key b nonce (hsession d key b nonce rfl rfl)
    | _ => exact .of_quiet rfl (by simp [deviceStep]) rfl rfl rfl
  | sending d key payload =>
    cases ev with
    | send io =>
      exact accounts_send P deviceKeys d key payload io (hsock d key payload io rfl rfl)
    | _ => exact .of_quiet rfl (by simp [deviceStep]) rfl rfl rfl
  | closed escaped => cases ev <;> exact .of_quiet rfl (fun e he => he) rfl rfl rfl

variable (cfg) in
/-- The step lemma. -/
lemma accounts_iff (hP : LoadsRaisesValueError P) (hch : SessionOk P st.channel)
    (hkey : ∀ d key, p.device = some (d, key) → P.len key = keyLength) :
    Accounts deviceKeys st p ev (deviceStep P cfg deviceKeys st p ev).1
        (deviceStep P cfg deviceKeys st p ev).2
      ↔ Orderly st p ev :=
  ⟨Accounts.orderly, fun h => h.accounts cfg hP hch hkey⟩

end Step

/-! ### What is under way -/

/-- The number of readings that are accepted and neither forwarded nor lost yet. -/
def pending : DevicePhase B → ℕ
  | .forwarding _ _ _ => 1
  | .checked _ _ _ => 1
  | .sending _ _ _ => 1
  | _ => 0

/-- Whether the handler has finished, as a number. -/
def finished : DevicePhase B → ℕ
  | .closed _ => 1
  | _ => 0

/-- How often the outcome is `y`. -/
def ends (x : Option Outcome) (y : Outcome) : ℕ := if x = some y then 1 else 0

/-- How many statements of an admission or of `send_reading` are left, or whether the connection
has yet to be accepted. -/
def stage : DevicePhase B → ℕ
  | .new => 1
  | .admitting _ _ => 3
  | .marking _ _ => 2
  | .detecting _ _ => 1
  | .forwarding _ _ _ => 3
  | .checked _ _ _ => 2
  | .sending _ _ _ => 1
  | _ => 0

lemma pending_le_stage (p : DevicePhase B) : pending p ≤ stage p := by
  cases p <;> simp [pending, stage]

/-- Whether the event is the next of these statements. -/
def awaits : DevicePhase B → DeviceEvent B → Bool
  | .new, .accept => true
  | .admitting _ _, .activate => true
  | .marking _ _, .mark => true
  | .detecting _ _, .detect => true
  | .forwarding _ _ _, .check => true
  | .checked _ _ _, .build _ => true
  | .sending _ _ _, .send _ => true
  | _, _ => false

/-- A message that is read is under way until it has one of its four outcomes, a reading
that is accepted until it is forwarded or `send_reading` has raised, and a connection until
it has one of the outcomes that close it.  Each statement that is left takes the handler further,
and a hello that is neither refused nor rejected takes it on to its device. -/
structure Flows (deviceKeys : KeyRegistry P) (st : GatewayState B) (p : DevicePhase B)
    (ev : DeviceEvent B) (p' : DevicePhase B) : Prop where
  messages : pending p' + (ends (outcome deviceKeys p ev p') .forwarded
    + ends (outcome deviceKeys p ev p') .dropped + ends (outcome deviceKeys p ev p') .failed
    + ends (outcome deviceKeys p ev p') .raised) = pending p + if reads p ev then 1 else 0
  accepted : pending p' + (ends (outcome deviceKeys p ev p') .forwarded
    + ends (outcome deviceKeys p ev p') .raised)
      = pending p + if (acceptedBy P st p ev).isSome then 1 else 0
  closing : finished p' = finished p + (ends (outcome deviceKeys p ev p') .refused
    + ends (outcome deviceKeys p ev p') .unadmitted + ends (outcome deviceKeys p ev p') .failed
    + ends (outcome deviceKeys p ev p') .raised + ends (outcome deviceKeys p ev p') .disconnected
    + ends (outcome deviceKeys p ev p') .broken)
  progress : awaits p ev = true → stage p' < stage p
  admission : ∀ m, p = .hello → ev = .recv (.message m) → helloOutcome deviceKeys m = none →
    p'.device ≠ none

/-- The handler reads a hello. -/
def greets : DevicePhase B → DeviceEvent B → Bool
  | .hello, .recv (.message _) => true
  | _, _ => false

lemma progress_of_not_awaits {p p' : DevicePhase B} {ev : DeviceEvent B}
    (h : awaits p ev = false) : awaits p ev = true → stage p' < stage p :=
  fun hawaits => Bool.noConfusion (h.symm.trans hawaits)

/-- Without a hello nobody is admitted. -/
lemma admission_of_not_greets {p p' : DevicePhase B} {ev : DeviceEvent B}
    (h : greets p ev = false) : ∀ m, p = .hello → ev = .recv (.message m) →
      helloOutcome deviceKeys m = none → p'.device ≠ none := by
  rintro m rfl rfl
  cases h

/-- An event that does not concern the handler. -/
lemma Flows.of_idle {st : GatewayState B} {p : DevicePhase B} {ev : DeviceEvent B}
    (houtcome : outcome deviceKeys p ev p = none) (hreads : reads p ev = false)
    (haccepted : acceptedBy P st p ev = none) (hawaits : awaits p ev = false)
    (hgreets : greets p ev = false) : Flows deviceKeys st p ev p := by
  refine ⟨?_, ?_, ?_, progress_of_not_awaits hawaits, admission_of_not_greets hgreets⟩
  · simp [houtcome, ends, hreads]
  · simp [houtcome, ends, haccepted]
  · simp [houtcome, ends]

variable (cfg deviceKeys) in
/-- A hello. -/
lemma hello_flows (st : GatewayState B) (o : ReadOutcome) :
    Flows deviceKeys st .hello (.recv o) (deviceStep P cfg deviceKeys st .hello (.recv o)).2 := by
  have closes : ∀ (st' : GatewayState B) (e : PyExc) (x : Outcome),
      outcome deviceKeys .hello (.recv o) (onDeviceException st' e).2 = some x →
      x = .refused ∨ x = .disconnected ∨ x = .broken →
        Flows deviceKeys st .hello (.recv o) (onDeviceException st' e).2 := by
    intro st' e x hx hcases
    obtain ⟨escaped, hclosed⟩ := onDeviceException_snd st' e
    rw [hclosed] at hx ⊢
    refine ⟨?_, ?_, ?_, progress_of_not_awaits rfl, fun m _ hev hnone => ?_⟩
    · rcases hcases with rfl | rfl | rfl <;> rw [hx] <;> rfl
    · rcases hcases with rfl | rfl | rfl <;> rw [hx] <;> rfl
    · rcases hcases with rfl | rfl | rfl <;> rw [hx] <;> rfl
    · cases hev
      rw [outcome, hnone] at hx
      cases hx
  cases o with
  | message m =>
    rcases hparse : parseHello m with e | hello
    · have hbind : (ReadOutcome.message m).result >>= parseHello = .error e := hparse
      simp only [deviceStep, hbind]
      exact closes _ _ .refused (by simp only [outcome, helloOutcome, hparse]) (Or.inl rfl)
    have hbind : (ReadOutcome.message m).result >>= parseHello = .ok hello := hparse
    -- what is not admitted closes the connection
    have hrejects : admits deviceKeys hello = false →
        Flows deviceKeys st .hello (.recv (.message m)) (.closed none) := by
      intro hadmits
      have hx : helloOutcome deviceKeys m = some .unadmitted := by
        simp [helloOutcome, hparse, hadmits]
      refine ⟨?_, ?_, ?_, progress_of_not_awaits rfl, fun m' _ hev hnone => ?_⟩
      · simp only [outcome, hx]
        rfl
      · simp only [outcome, hx]
        rfl
      · simp only [outcome, hx]
        rfl
      · cases hev
        rw [hnone] at hx
        cases hx
    simp only [deviceStep, hbind]
    rcases hk : deviceKeys.keys hello.deviceId with _ | key
    · simp only [admitDevice, hk]
      exact hrejects (by simp only [admits, hk])
    obtain ⟨decision, hdecision⟩ := evaluateHello_eq (deviceKeys.key_len hk) hello
    by_cases hallow : decision = .allowFallback
    · have hx : helloOutcome deviceKeys m = none := by
        simp [helloOutcome, hparse, (admits_eq hk hdecision).2 hallow]
      rw [hallow] at hdecision
      simp only [admitDevice, hk, hdecision]
      refine ⟨?_, ?_, ?_, progress_of_not_awaits rfl, fun _ _ _ _ => by simp [DevicePhase.device]⟩
      · simp only [outcome, hx]
        rfl
      · simp only [outcome, hx]
        rfl
      · simp only [outcome, hx]
        rfl
    · have hreject : admitDevice P deviceKeys st hello
          = (st.inc .messagesRejected, .ok none) := by
        simp only [admitDevice, hk, hdecision]
      simp only [hreject]
      refine hrejects ?_
      rw [← Bool.not_eq_true, admits_eq hk hdecision]
      exact hallow
  | closed => exact closes _ _ .disconnected rfl (by simp)
  | malformed msg => exact closes _ _ .broken rfl (by simp)
  | osError msg => exact closes _ _ .broken rfl (by simp)

variable (cfg deviceKeys) in
/-- A message in `_serve_legacy`, or the end of it. -/
lemma serving_flows (st : GatewayState B) (d : PyStr) (key : B) (o : ReadOutcome) :
    Flows deviceKeys st (.serving d key) (.recv o)
      (deviceStep P cfg deviceKeys st (.serving d key) (.recv o)).2 := by
  have hsome := @deviceStep_of_acceptedBy B P cfg deviceKeys (.serving d key) (.recv o) st
  rcases hacc : acceptedBy P st (.serving d key) (.recv o) with _ | x
  · cases o with
    | message m =>
      have hdropped : ∀ st' : GatewayState B, Flows deviceKeys st (.serving d key)
          (.recv (.message m)) (.serving d key) :=
        fun _ => ⟨rfl, by rw [hacc]; rfl, rfl, progress_of_not_awaits rfl,
          admission_of_not_greets rfl⟩
      have hfailed : ∀ (st' : GatewayState B) (e : PyExc), Flows deviceKeys st (.serving d key)
          (.recv (.message m)) (onDeviceException st' e).2 := by
        intro st' e
        obtain ⟨escaped, hclosed⟩ := onDeviceException_snd st' e
        rw [hclosed]
        exact ⟨rfl, by rw [hacc]; rfl, rfl, progress_of_not_awaits rfl,
          admission_of_not_greets rfl⟩
      simp only [deviceStep, ReadOutcome.result]
      rcases acceptLegacy_cases (P := P) st m d key with h | ⟨e, h⟩ | ⟨b, sequence, hd, hlt, h⟩
      · simp only [h]
        exact hdropped st
      · simp only [h]
        exact hfailed _ e
      · -- the message would have been accepted
        rw [acceptedBy, hd] at hacc
        simp only [ReplayGuard.checkAndUpdate_of_lt hlt, if_true] at hacc
        cases hacc
    | _ =>
      simp only [deviceStep, ReadOutcome.result, raise]
      obtain ⟨escaped, hclosed⟩ := onDeviceException_snd st _
      rw [hclosed]
      exact ⟨rfl, rfl, rfl, progress_of_not_awaits rfl, admission_of_not_greets rfl⟩
  · -- the reading goes on to `send_reading`
    obtain ⟨-, key', hp, hforward⟩ := hsome hacc
    obtain ⟨m, -, hev, -⟩ := acceptedBy_eq_some hacc
    rw [hforward]
    cases hev
    exact ⟨rfl, by rw [hacc]; rfl, rfl, progress_of_not_awaits rfl,
      admission_of_not_greets rfl⟩

variable (P cfg deviceKeys) in
/-- What is under way after a step. -/
lemma deviceStep_flows (st : GatewayState B) (p : DevicePhase B) (ev : DeviceEvent B) :
    Flows deviceKeys st p ev (deviceStep P cfg deviceKeys st p ev).2 := by
  cases p with
  | new =>
    cases ev with
    | accept => exact ⟨rfl, rfl, rfl, fun _ => Nat.one_pos, admission_of_not_greets rfl⟩
    | _ => exact .of_idle rfl rfl rfl rfl rfl
  | hello =>
    cases ev with
    | recv o => exact hello_flows cfg deviceKeys st o
    | _ => exact .of_idle rfl rfl rfl rfl rfl
  -- the statements of an admission end nothing
  | admitting d key =>
    cases ev with
    | activate => exact ⟨rfl, rfl, rfl, fun _ => Nat.lt_succ_self 2, admission_of_not_greets rfl⟩
    | _ => exact .of_idle rfl rfl rfl rfl rfl
  | marking d key =>
    cases ev with
    | mark =>
      simp only [deviceStep]
      split_ifs
      · exact ⟨rfl, rfl, rfl, fun _ => Nat.two_pos, admission_of_not_greets rfl⟩
      · exact ⟨rfl, rfl, rfl, fun _ => Nat.lt_succ_self 1, admission_of_not_greets rfl⟩
    | _ => exact .of_idle rfl rfl rfl rfl rfl
  | detecting d key =>
    cases ev with
    | detect => exact ⟨rfl, rfl, rfl, fun _ => Nat.one_pos, admission_of_not_greets rfl⟩
    | _ => exact .of_idle rfl rfl rfl rfl rfl
  | serving d key =>
    cases ev with
    | recv o => exact serving_flows cfg deviceKeys st d key o
    | _ => exact .of_idle rfl rfl rfl rfl rfl
  -- in `send_reading` a step ends the reading or takes it one stop further
  | forwarding d key b =>
    cases ev with
    | check =>
      simp only [deviceStep]
      rcases checkEstablished st.channel with e | _
      · obtain ⟨escaped, hclosed⟩ := onDeviceException_snd st e
        simp only [hclosed]
        exact ⟨rfl, rfl, rfl, fun _ => Nat.zero_lt_succ 2, admission_of_not_greets rfl⟩
      · exact ⟨rfl, rfl, rfl, fun _ => Nat.lt_succ_self 2, admission_of_not_greets rfl⟩
    | _ => exact .of_idle rfl rfl rfl rfl rfl
  | checked d key b =>
    cases ev with
    | build nonce =>
      simp only [deviceStep]
      rcases buildPayload P st.channel b nonce with e | payload
      · obtain ⟨escaped, hclosed⟩ := onDeviceException_snd st e
        simp only [hclosed]
        exact ⟨rfl, rfl, rfl, fun _ => Nat.zero_lt_succ 1, admission_of_not_greets rfl⟩
      · exact ⟨rfl, rfl, rfl, fun _ => Nat.lt_succ_self 1, admission_of_not_greets rfl⟩
    | _ => exact .of_idle rfl rfl rfl rfl rfl
  | sending d key payload =>
    cases ev with
    | send io =>
      have hraised : ∀ (st' : GatewayState B) (e : PyExc), Flows deviceKeys st
          (.sending d key payload) (.send io) (onDeviceException st' e).2 := by
        intro st' e
        obtain ⟨escaped, hclosed⟩ := onDeviceException_snd st' e
        rw [hclosed]
        cases io <;> exact ⟨rfl, rfl, rfl, fun _ => Nat.one_pos, admission_of_not_greets rfl⟩
      rcases hsock : st.channel.sock with _ | sock
      · simp only [deviceStep, sendPayload, hsock, raise]
        exact hraised _ _
      · cases io with
        | ok =>
          simp only [deviceStep, sendPayload, hsock]
          exact ⟨rfl, rfl, rfl, fun _ => Nat.one_pos, admission_of_not_greets rfl⟩
        | osError msg =>
          simp only [deviceStep, sendPayload, hsock, raise]
          exact hraised _ _
    | _ => exact .of_idle rfl rfl rfl rfl rfl
  | closed escaped => cases ev <;> exact .of_idle rfl rfl rfl rfl rfl

/-! ### The gateway -/

/-- What is recorded of a connection: what its handler has counted, and how often it has
had an outcome. -/
structure Ledger where
  counted : Metrics
  ended : Outcome → ℕ

/-- An outcome and what was counted with it. -/
def Ledger.record (l : Ledger) (before after : Metrics) (x : Option Outcome) : Ledger where
  counted name := l.counted name + (after name - before name)
  ended y := l.ended y + ends x y

/-- The gateway: what its handlers share, where they stand, the threads of
`connect_and_establish`, of which the main thread is number 0, and what is recorded of the
connections. -/
structure State (B : Type) where
  shared : GatewayState B
  phase : ℕ → DevicePhase B
  threads : ℕ → ReconnectPc B
  ledger : ℕ → Ledger

/-- Which thread moves, and what the environment does. -/
inductive Event (B : Type) where
  /-- the handler of connection `c` -/
  | device (c : ℕ) (ev : DeviceEvent B)
  /-- thread `i` of `connect_and_establish` -/
  | thread (i : ℕ) (a : Attempt B)

variable (P cfg deviceKeys) in
/-- The handler of connection `c` makes a step, and a reconnect thread is started where it
asks for one. -/
def State.serve (s : State B) (c : ℕ) (ev : DeviceEvent B) : State B where
  shared := (deviceStep P cfg deviceKeys s.shared (s.phase c) ev).1
  phase := Function.update s.phase c (deviceStep P cfg deviceKeys s.shared (s.phase c) ev).2
  threads :=
    if (deviceStep P cfg deviceKeys s.shared (s.phase c) ev).1.reconnectsStarted
        = s.shared.reconnectsStarted then s.threads
    else Function.update s.threads
      (deviceStep P cfg deviceKeys s.shared (s.phase c) ev).1.reconnectsStarted .loop
  ledger := Function.update s.ledger c ((s.ledger c).record s.shared.channel.metrics
    (deviceStep P cfg deviceKeys s.shared (s.phase c) ev).1.channel.metrics
    (outcome deviceKeys (s.phase c) ev
      (deviceStep P cfg deviceKeys s.shared (s.phase c) ev).2))

variable (P cfg deviceKeys) in
/-- One atomic step of one thread.  No device is served before the main thread has made
the first session. -/
def step (s : State B) : Event B → State B
  | .device c ev =>
    if Threads.running (s.threads 0) then s else s.serve P cfg deviceKeys c ev
  | .thread i a =>
    { s with
      shared := { s.shared with
        channel := (Threads.threadStep P cfg i s.shared.channel (s.threads i) a).1 }
      threads := Function.update s.threads i
        (Threads.threadStep P cfg i s.shared.channel (s.threads i) a).2 }

/-- A gateway that has just started. -/
def initial : State B :=
  ⟨⟨.new, .empty, [], 0⟩, fun _ => .new, Function.update (fun _ => .stopped) 0 .loop,
    fun _ => ⟨.zero, fun _ => 0⟩⟩

/-- Session ids are made of hexadecimal digits. -/
def Admissible (ev : Event B) : Prop := ∀ i a, ev = .thread i a → validUnicode a.sessionId = true

/-! ### The invariant -/

/-- What a thread is about to publish is usable. -/
def Usable (P : Primitives B) : ReconnectPc B → Prop
  | .exchanging a => validUnicode a.sessionId = true
  | .publishKey sid key _ => validUnicode sid = true ∧ P.len key = keyLength
  | .publishId sid _ => validUnicode sid = true
  | _ => True

/-- The session and the threads are usable, and devices are served under their keys. -/
structure Ok (deviceKeys : KeyRegistry P) (s : State B) : Prop where
  session : SessionOk P s.shared.channel
  threads : ∀ i, Usable P (s.threads i)
  devices : ∀ c d key, (s.phase c).device = some (d, key) → deviceKeys.keys d = some key

variable (cfg) in
/-- A step of a thread of `connect_and_establish`. -/
lemma usable_threadStep {ch : CloudChannel B} (hch : SessionOk P ch) {pc : ReconnectPc B}
    (hpc : Usable P pc) (i : ℕ) {a : Attempt B} (ha : validUnicode a.sessionId = true) :
    SessionOk P (Threads.threadStep P cfg i ch pc a).1 ∧
      Usable P (Threads.threadStep P cfg i ch pc a).2 := by
  have hstep : SessionOk P (reconnectStep P cfg ch pc a).1 ∧
      Usable P (reconnectStep P cfg ch pc a).2 := by
    cases pc with
    | connect =>
      simp only [reconnectStep]
      split
      · exact ⟨hch, trivial⟩
      · exact ⟨⟨hch.key_len, hch.valid⟩, ha⟩
    | exchanging a' =>
      simp only [reconnectStep]
      split
      · exact ⟨hch, trivial⟩
      · exact ⟨hch, hpc, P.hkdf_len _⟩
    | publishKey sid key sock =>
      refine ⟨⟨fun k hk => ?_, hch.valid⟩, hpc.1⟩
      obtain rfl := Option.some.inj hk
      exact hpc.2
    | publishId sid sock =>
      refine ⟨⟨hch.key_len, fun sid' hsid => ?_⟩, trivial⟩
      obtain rfl := Option.some.inj hsid
      exact hpc
    | failing e =>
      simp only [reconnectStep]
      split
      · exact ⟨⟨hch.key_len, hch.valid⟩, trivial⟩
      · exact ⟨hch, trivial⟩
    | _ => exact ⟨⟨hch.key_len, hch.valid⟩, trivial⟩
  -- the main thread ends where a reconnect thread takes the flag back
  unfold Threads.threadStep
  split
  · exact ⟨hch, trivial⟩
  · exact hstep

lemma onDeviceException_session {st : GatewayState B} (h : SessionOk P st.channel) (e : PyExc) :
    SessionOk P (onDeviceException st e).1.channel := by
  unfold onDeviceException
  split_ifs <;> exact ⟨h.key_len, h.valid⟩

variable (cfg deviceKeys) in
/-- A handler can only take the session away. -/
lemma sessionOk_deviceStep {st : GatewayState B} (h : SessionOk P st.channel) (p : DevicePhase B)
    (ev : DeviceEvent B) : SessionOk P (deviceStep P cfg deviceKeys st p ev).1.channel := by
  by_cases hev : ∀ msg, ev ≠ .send (.osError msg)
  · have hbare := (deviceStep_frame (P := P) cfg deviceKeys st (p := p) hev).1
    have hkey := CloudChannel.bare_congr hbare CloudChannel.sessionKey fun _ => rfl
    have hid := CloudChannel.bare_congr hbare CloudChannel.sessionId fun _ => rfl
    exact ⟨fun key => hkey ▸ h.key_len key, fun sid => hid ▸ h.valid sid⟩
  · push Not at hev
    obtain ⟨msg, rfl⟩ := hev
    cases p with
    | sending d key payload =>
      have hinvalid : SessionOk P (invalidate cfg st.channel).1 := by
        unfold invalidate startReconnect
        dsimp only
        split_ifs <;> exact ⟨by simp, h.valid⟩
      rcases hsock : st.channel.sock with _ | sock
      · simp only [deviceStep, sendPayload, hsock, raise]
        exact onDeviceException_session h _
      · simp only [deviceStep, sendPayload, hsock, raise]
        exact onDeviceException_session hinvalid _
    | _ => exact h

/-- The invariant is kept. -/
lemma Ok.step {s : State B} (h : Ok deviceKeys s) {ev : Event B} (hev : Admissible ev) :
    Ok deviceKeys (step P cfg deviceKeys s ev) := by
  cases ev with
  | device c ev =>
    rw [Accounting.step]
    split_ifs
    · exact h
    refine ⟨sessionOk_deviceStep cfg deviceKeys h.session _ _, fun i => ?_, ?_⟩
    · simp only [State.serve]
      split_ifs
      · exact h.threads i
      · rw [Function.update_apply]
        split_ifs
        · trivial
        · exact h.threads i
    · have hm := deviceStep_moves cfg deviceKeys s.shared (s.phase c) ev
      exact (Function.forall_update_iff s.phase fun _ p => ∀ d key, p.device = some (d, key) →
        deviceKeys.keys d = some key).2
          ⟨hm.registered deviceKeys (h.devices c), fun c' _ => h.devices c'⟩
  -- the other threads stand where they stood
  | thread i a =>
    obtain ⟨hsession, hthread⟩ :=
      usable_threadStep cfg h.session (h.threads i) i (hev i a rfl)
    refine ⟨hsession, fun j => ?_, h.devices⟩
    by_cases hj : j = i
    · rw [hj]
      simpa [Accounting.step] using hthread
    · simpa [Accounting.step, hj] using h.threads j

lemma ok_initial : Ok deviceKeys (initial : State B) := by
  refine ⟨⟨by simp [initial, CloudChannel.new], by simp [initial, CloudChannel.new]⟩, fun i => ?_,
    by simp [initial, DevicePhase.device]⟩
  simp only [initial, Function.update_apply]
  split_ifs <;> trivial

/-! ### Runs -/

variable (cfg deviceKeys) in
/-- The step of a handler is accounted for, and takes what is under way further. -/
def Handled (s : State B) (ev : Event B) : Prop :=
  ∀ c x, ev = .device c x → Threads.running (s.threads 0) = false →
    Accounts deviceKeys s.shared (s.phase c) x (step P cfg deviceKeys s ev).shared
      ((step P cfg deviceKeys s ev).phase c) ∧
    Flows deviceKeys s.shared (s.phase c) x ((step P cfg deviceKeys s ev).phase c)

/-- The step of a handler is in order. -/
def OrderlyStep (s : State B) (ev : Event B) : Prop :=
  ∀ c x, ev = .device c x → Threads.running (s.threads 0) = false →
    Orderly s.shared (s.phase c) x

/-- What a handler has counted by now is what has become of its messages; `p` is where it
stands. -/
structure Balanced (p : DevicePhase B) (l : Ledger) : Prop where
  no_escape : ∀ e, p ≠ .closed (some e)
  received : l.counted .messagesReceived
    = l.ended .forwarded + l.ended .dropped + l.ended .failed + l.ended .raised + pending p
  processed : l.counted .messagesProcessed
    = l.counted .messagesForwarded + l.ended .raised + pending p
  forwarded : l.counted .messagesForwarded = l.ended .forwarded
  rejected : l.counted .messagesRejected = l.ended .dropped + l.ended .unadmitted
  errors : l.counted .errors
    = l.ended .refused + l.ended .failed + l.ended .raised + l.ended .broken
  closing : l.ended .refused + l.ended .unadmitted + l.ended .failed + l.ended .raised
    + l.ended .disconnected + l.ended .broken = finished p

/-- An error closes the connection, and so do the other outcomes but two. -/
lemma Balanced.errors_le {p : DevicePhase B} {l : Ledger} (h : Balanced p l) :
    l.counted .errors + l.ended .disconnected + l.ended .unadmitted ≤ 1 := by
  have herrors := h.errors
  have hclosing := h.closing
  have hle : finished p ≤ 1 := by cases p <;> simp [finished]
  omega

/-- What is counted by the outcome. -/
lemma added_eq (x : Option Outcome) :
    added x .messagesForwarded = ends x .forwarded ∧
      added x .messagesRejected = ends x .dropped + ends x .unadmitted ∧
        added x .errors = ends x .refused + ends x .failed + ends x .raised + ends x .broken := by
  rcases x with _ | x
  · exact ⟨rfl, rfl, rfl⟩
  · cases x <;> exact ⟨rfl, rfl, rfl⟩

/-- The ledger after a step that is accounted for. -/
lemma Balanced.record {p p' : DevicePhase B} {l : Ledger} (h : Balanced p l)
    {st st' : GatewayState B} {ev : DeviceEvent B} (haccounts : Accounts deviceKeys st p ev st' p')
    (hflows : Flows deviceKeys st p ev p') :
    Balanced p' (l.record st.channel.metrics st'.channel.metrics (outcome deviceKeys p ev p')) := by
  obtain ⟨hforwarded, hrejected, herrors⟩ := added_eq (outcome deviceKeys p ev p')
  have hcount := haccounts.outcome
  simp only [List.mem_cons, List.not_mem_nil, or_false, forall_eq_or_imp, forall_eq] at hcount
  obtain ⟨hcount₁, hcount₂, hcount₃⟩ := hcount
  have hreceived := haccounts.received
  have hprocessed := haccounts.processed
  obtain ⟨hmessages, haccepted, hclosing, -, -⟩ := hflows
  obtain ⟨hopen, h₁, h₂, h₃, h₄, h₅, h₆⟩ := h
  refine ⟨fun e he => hopen e (haccounts.no_escape e he), ?_, ?_, ?_, ?_, ?_, ?_⟩ <;>
    simp only [Ledger.record] <;> omega

/-- The step lemma. -/
lemma handled_iff (hP : LoadsRaisesValueError P) {s : State B} (h : Ok deviceKeys s)
    (ev : Event B) : Handled cfg deviceKeys s ev ↔ OrderlyStep s ev := by
  have hstep : ∀ c x, ev = .device c x → Threads.running (s.threads 0) = false →
      (Accounts deviceKeys s.shared (s.phase c) x (step P cfg deviceKeys s ev).shared
          ((step P cfg deviceKeys s ev).phase c) ∧
        Flows deviceKeys s.shared (s.phase c) x ((step P cfg deviceKeys s ev).phase c)
          ↔ Orderly s.shared (s.phase c) x) := by
    rintro c x rfl hmain
    have hkey : ∀ d key, (s.phase c).device = some (d, key) → P.len key = keyLength :=
      fun d key hd => deviceKeys.key_len (h.devices c d key hd)
    simp only [step, hmain, Bool.false_eq_true, if_false, State.serve, Function.update_self]
    rw [and_iff_left (deviceStep_flows P cfg deviceKeys s.shared (s.phase c) x)]
    exact accounts_iff cfg hP h.session hkey
  constructor
  · intro hh c x hx hmain
    exact (hstep c x hx hmain).1 (hh c x hx hmain)
  · intro ho c x hx hmain
    exact (hstep c x hx hmain).2 (ho c x hx hmain)

/-- The books of every connection are balanced. -/
def AllBalanced (s : State B) : Prop := ∀ c, Balanced (s.phase c) (s.ledger c)

lemma AllBalanced.step {s : State B} (h : AllBalanced s) {ev : Event B}
    (hev : Handled cfg deviceKeys s ev) : AllBalanced (step P cfg deviceKeys s ev) := by
  cases ev with
  | thread i a => exact h
  | device c ev =>
    have hev := hev c ev rfl
    rw [Accounting.step] at hev ⊢
    split_ifs at hev ⊢ with hmain
    · exact h
    intro c'
    by_cases hc : c' = c
    · subst hc
      obtain ⟨haccounts, hflows⟩ := hev (by simpa using hmain)
      simp only [State.serve, Function.update_self] at haccounts hflows ⊢
      exact (h c').record haccounts hflows
    · simp only [State.serve, Function.update_of_ne hc]
      exact h c'

variable (P cfg deviceKeys) in
/-- Where the rest of `send_reading` takes a handler, which finds `st₁`, `st₂` and `st₃` at its
three statements. -/
def afterSend (p : DevicePhase B) (st₁ st₂ st₃ : GatewayState B) (nonce : B) (io : IoOutcome) :
    DevicePhase B :=
  (deviceStep P cfg deviceKeys st₃ (deviceStep P cfg deviceKeys st₂
    (deviceStep P cfg deviceKeys st₁ p .check).2 (.build nonce)).2 (.send io)).2

/-- Nothing is under way when `send_reading` is over. -/
lemma pending_afterSend (p : DevicePhase B) (st₁ st₂ st₃ : GatewayState B) (nonce : B)
    (io : IoOutcome) : pending (afterSend P cfg deviceKeys p st₁ st₂ st₃ nonce io) = 0 := by
  have hsending : ∀ d key payload,
      pending (deviceStep P cfg deviceKeys st₃ (.sending d key payload) (.send io)).2 = 0 := by
    intro d key payload
    have hstage :
        stage (deviceStep P cfg deviceKeys st₃ (.sending d key payload) (.send io)).2 < 1 :=
      (deviceStep_flows P cfg deviceKeys st₃ (.sending d key payload) (.send io)).progress rfl
    exact Nat.lt_one_iff.1 ((pending_le_stage _).trans_lt hstage)
  have hchecked : ∀ d key b, pending (deviceStep P cfg deviceKeys st₃ (deviceStep P cfg
      deviceKeys st₂ (.checked d key b) (.build nonce)).2 (.send io)).2 = 0 := by
    intro d key b
    rcases hpayload : buildPayload P st₂.channel b nonce with e | payload
    · obtain ⟨escaped, hclosed⟩ := onDeviceException_snd st₂ e
      have hstep : (deviceStep P cfg deviceKeys st₂ (.checked d key b) (.build nonce)).2
          = .closed escaped := by simp only [deviceStep, hpayload, hclosed]
      rw [hstep]
      rfl
    · have hstep : (deviceStep P cfg deviceKeys st₂ (.checked d key b) (.build nonce)).2
          = .sending d key payload := by simp only [deviceStep, hpayload]
      rw [hstep]
      exact hsending d key payload
  cases p with
  | forwarding d key b =>
    unfold afterSend
    rcases hcheck : checkEstablished st₁.channel with e | _
    · obtain ⟨escaped, hclosed⟩ := onDeviceException_snd st₁ e
      have hstep : (deviceStep P cfg deviceKeys st₁ (.forwarding d key b) .check).2
          = .closed escaped := by simp only [deviceStep, hcheck, hclosed]
      rw [hstep]
      rfl
    · have hstep : (deviceStep P cfg deviceKeys st₁ (.forwarding d key b) .check).2
          = .checked d key b := by simp only [deviceStep, hcheck]
      rw [hstep]
      exact hchecked d key b
  | checked d key b => exact hchecked d key b
  | sending d key payload => exact hsending d key payload
  | _ => rfl

variable (cfg deviceKeys) in
/-- The handlers are controlled along a run: every step is accounted for, and at the end no
exception has escaped, the books of every connection are balanced, no connection has added more
than one to `errors`, or any where the peer has closed it between two messages or the device was
not admitted, and a reading that is still under way is not so any more when its `send_reading`
is over, whatever the other threads do meanwhile. -/
structure Controlled (τ : List (Event B)) : Prop where
  handled : Along (step P cfg deviceKeys) (Handled cfg deviceKeys) initial τ
  balanced : AllBalanced (run (step P cfg deviceKeys) initial τ)
  errors : ∀ c, ((run (step P cfg deviceKeys) initial τ).ledger c).counted .errors
    + ((run (step P cfg deviceKeys) initial τ).ledger c).ended .disconnected
    + ((run (step P cfg deviceKeys) initial τ).ledger c).ended .unadmitted ≤ 1
  settled : ∀ c st₁ st₂ st₃ nonce io, pending (afterSend P cfg deviceKeys
    ((run (step P cfg deviceKeys) initial τ).phase c) st₁ st₂ st₃ nonce io) = 0

variable (cfg deviceKeys) in
/-- **Controlled handling and accounting at the gateway.**  The handlers are controlled
along a run exactly when all their steps are in order. -/
theorem messages_accounted_iff (hP : LoadsRaisesValueError P) {τ : List (Event B)}
    (hτ : ∀ ev ∈ τ, Admissible ev) :
    Controlled cfg deviceKeys τ ↔ Along (step P cfg deviceKeys) OrderlyStep initial τ := by
  have hadmissible : Along (step P cfg deviceKeys) (fun _ ev => Admissible ev) initial τ :=
    along_of_forall fun _ ev hev => hτ ev hev
  have hiff : Along (step P cfg deviceKeys) (Handled cfg deviceKeys) initial τ ↔
      Along (step P cfg deviceKeys) OrderlyStep initial τ :=
    hadmissible.congr_of_inv ok_initial (fun _ _ h hev => h.step hev)
      fun _ ev h _ => handled_iff hP h ev
  have hzero : AllBalanced (initial : State B) := by
    intro c
    exact ⟨by simp [initial], rfl, rfl, rfl, rfl, rfl, rfl⟩
  refine ⟨fun h => hiff.1 h.handled, fun h => ?_⟩
  have hbalanced : AllBalanced (run (step P cfg deviceKeys) initial τ) :=
    inv_run (J := AllBalanced) (fun _ _ h hev => h.step hev) hzero (hiff.2 h)
  exact ⟨hiff.2 h, hbalanced, fun c => (hbalanced c).errors_le,
    fun _ _ _ _ _ _ => pending_afterSend _ _ _ _ _ _⟩

/-! ### The demo -/

open Device Handshake

/-- The main thread makes the first session. -/
def demoStart : List (Event Bytes) :=
  List.replicate 8
    (.thread 0
      (honestAttempt (demoCloud fun _ => none) demoSessionId (Demo.nonce 0) (Demo.coins 0) 0))

/-- Device `n` connects as connection `c`, and its reading `r` is accepted. -/
def demoAccepted (c : ℕ) (deviceId : PyStr) (n r : ℕ) : List (Event Bytes) :=
  [.device c .accept, .device c (.recv (.message (demoHello deviceId n))),
    .device c .activate, .device c .mark, .device c .detect,
    .device c (.recv (.message (demoLegacy deviceId n 1 r)))]

/-- A step of the demo. -/
def demoStep : State Bytes → Event Bytes → State Bytes :=
  step (ideal demoTable) demoGateway (demoDeviceKeys demoTable)

lemma admissible_demoStart {τ : List (Event Bytes)} (hτ : ∀ i a, .thread i a ∉ τ) :
    ∀ ev ∈ demoStart ++ τ, Admissible ev := by
  rintro ev hev i a rfl
  rcases List.mem_append.1 hev with hev | hev
  · cases List.eq_of_mem_replicate hev
    decide
  · exact absurd hev (hτ i a)

/-- `OrderlyStep`, as a check. -/
def orderlyCheck (s : State Bytes) : Event Bytes → Bool
  | .device c (.recv _) => (s.phase c).device.all fun x => validUnicode x.1
  | .device _ (.build _) =>
    s.shared.channel.sessionId.isSome && s.shared.channel.sessionKey.isSome
  | .device _ (.send _) => s.shared.channel.sock.isSome
  | _ => true

lemma orderlyStep_of_check {s : State Bytes} {ev : Event Bytes} (h : orderlyCheck s ev = true) :
    OrderlyStep s ev := by
  rintro c x rfl -
  refine ⟨fun d key m hp hev hbad => ?_, fun d key b nonce hp hev => ?_,
    fun d key payload io hp hev => ?_⟩
  · subst hev
    simp only [orderlyCheck, hp, DevicePhase.device, Option.all_some] at h
    rw [hbad.2.2.2] at h
    cases h
  · subst hev
    simpa [orderlyCheck, Option.isSome_iff_ne_none] using h
  · subst hev
    simpa [orderlyCheck, Option.isSome_iff_ne_none] using h

/-- A reading that is forwarded, a message that is dropped, and a peer that goes away. -/
theorem messages_accounted_demo : Controlled demoGateway (demoDeviceKeys demoTable)
    (demoStart ++ (demoAccepted 0 (lit "dev-01") 1 1 ++ [.device 0 .check,
      .device 0 (.build (Demo.nonce 1)), .device 0 (.send .ok),
      .device 0 (.recv (.message [(lit "type", .str (lit "error"))])),
      .device 0 (.recv .closed)])) := by
  have horderly : Along demoStep (fun s ev => orderlyCheck s ev = true) initial
      (demoStart ++ (demoAccepted 0 (lit "dev-01") 1 1 ++ [.device 0 .check,
        .device 0 (.build (Demo.nonce 1)), .device 0 (.send .ok),
        .device 0 (.recv (.message [(lit "type", .str (lit "error"))])),
        .device 0 (.recv .closed)])) := by
    decide +kernel
  unfold demoStep at horderly
  exact (messages_accounted_iff demoGateway (demoDeviceKeys demoTable)
    (Cloud.loadsRaisesValueError_ideal demoTable)
    (admissible_demoStart (by simp [demoAccepted]))).2
      (horderly.mono fun _ _ => orderlyStep_of_check)

/-- Whether an exception has escaped from the handler. -/
def escaped : DevicePhase Bytes → Bool
  | .closed (some _) => true
  | _ => false

lemma Balanced.not_escaped {p : DevicePhase Bytes} {l : Ledger} (h : Balanced p l) :
    escaped p = false := by
  unfold escaped
  split
  · exact absurd rfl (h.no_escape _)
  · rfl

/-- A registry with a device whose id is a lone surrogate. -/
def surrogateKeys : KeyRegistry (ideal demoTable) where
  keys id := if id = [.surrogate 0] then some (Demo.deviceKey 1) else none
  key_len {id k} h := by
    split_ifs at h
    cases h
    rfl

/-- The handler of the first device has passed the check of `send_reading` when the `sendall`
of the second one fails; and the device whose id cannot be encoded sends its first reading.
In both cases an exception escapes. -/
theorem accounting_counterexample :
    ¬ Controlled demoGateway (demoDeviceKeys demoTable)
      (demoStart ++ (demoAccepted 0 (lit "dev-01") 1 1 ++ demoAccepted 1 (lit "dev-02") 2 3
        ++ [.device 0 .check, .device 1 .check, .device 1 (.build (Demo.nonce 1)),
          .device 1 (.send (.osError (lit "[Errno 32] Broken pipe"))),
          .device 0 (.build (Demo.nonce 2))])) ∧
    ¬ Controlled demoGateway surrogateKeys
      (demoStart ++ demoAccepted 0 [.surrogate 0] 1 1) := by
  constructor
  · intro h
    exact absurd (h.balanced 0).not_escaped (by decide +kernel)
  · intro h
    exact absurd (h.balanced 0).not_escaped (by decide +kernel)

end PqcBridge.Gateway.Accounting
