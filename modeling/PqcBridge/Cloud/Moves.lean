/-
What one step of a handler can do.

`handlerStep` decides by computing; the invariants of the server need the list of what
can come out.  `Moves` is that list, one constructor for each way from a stop to the
next one, and `handlerStep_moves` says that it is complete.  Every invariant of the
server is then a case analysis over `Moves`.

* `acceptReading_cases`: what the loop body of `_receive_readings` does with a message;
* `onException_fst`, `onException_snd`: what the `except` clauses of `_handle` do;
* `handlerStep_moves`: the inversion of `handlerStep`.
-/
import PqcBridge.Cloud.Server
import PqcBridge.Common.Validation

namespace PqcBridge.Cloud

open Python Protocol Crypto

variable {B : Type} {P : Primitives B} {cfg : CloudConfig P}

/-! ### The messages of the handshake -/

/-- A request that is accepted carries a tag that opens under the key of the gateway it
names. -/
lemma authenticateRequest_eq_ok {m : JsonDict} {gid : PyStr}
    (h : authenticateRequest cfg m = .ok gid) :
    ∃ key text tag nonce plaintext, cfg.gatewayKeys.keys gid = some key ∧
      m.field "auth_tag" = some (.str text) ∧ P.b64decode text = some tag ∧
      P.decrypt key nonce tag (gatewayAuthClaimsBytes P (.str gid)) = some plaintext := by
  obtain ⟨gid', hparse, h⟩ := bind_eq_ok.1 h
  have hid : m.field "gateway_id" = some (.str gid') := by
    unfold parseMlkemRequest at hparse
    split_ifs at hparse
    · cases hparse
    obtain ⟨_, hid, hparse⟩ := bind_eq_ok.1 hparse
    obtain ⟨_, -, hparse⟩ := bind_eq_ok.1 hparse
    obtain ⟨_, -, hparse⟩ := bind_eq_ok.1 hparse
    cases hparse
    exact (requireStr_eq_ok.1 hid).1
  split at h
  · cases h
  · next key hkey =>
    obtain ⟨_, hverify, h⟩ := bind_eq_ok.1 h
    cases h
    -- the three fields that `verify_gateway_request_auth` reads
    obtain ⟨v, hv, hverify⟩ := bind_eq_ok.1 hverify
    obtain ⟨w, -, hverify⟩ := bind_eq_ok.1 hverify
    obtain ⟨u, hu, hverify⟩ := bind_eq_ok.1 hverify
    rw [item_eq_ok] at hv hu
    rw [hid] at hv
    cases hv
    obtain ⟨nonce, tag, plaintext, htag, hopen⟩ := verifyAuth_eq_ok hverify
    obtain ⟨text, rfl, htext⟩ := b64d_eq_ok htag
    exact ⟨key, text, tag, nonce, plaintext, hkey, hu, htext, hopen⟩

/-- A request that is accepted is an `mlkem_request_pubkey`. -/
lemma authenticateRequest_type {m : JsonDict} {gid : PyStr}
    (h : authenticateRequest cfg m = .ok gid) :
    isStr (m.field "type") msgMlkemRequestPubkey = true := by
  obtain ⟨_, hparse, -⟩ := bind_eq_ok.1 h
  unfold parseMlkemRequest at hparse
  split_ifs at hparse with htype
  · cases hparse
  · simpa using htype

/-- A session that is derived has the id that the message names, and the key is that of
the ciphertext that the message carries. -/
lemma deriveSession_eq_ok {m : JsonDict} {sid : PyStr} {key : B}
    (h : deriveSession cfg m = .ok (sid, key)) :
    m.field "session_id" = some (.str sid) ∧ sid ≠ [] ∧
      ∃ text ciphertext secret, m.field "ciphertext" = some (.str text) ∧
        P.b64decode text = some ciphertext ∧
        mlkemDecapsulate P cfg.privateKey ciphertext = .ok secret ∧
        key = deriveSessionKey P secret := by
  obtain ⟨⟨sid', ct⟩, hparse, h⟩ := bind_eq_ok.1 h
  obtain ⟨secret, hsecret, h⟩ := bind_eq_ok.1 h
  cases h
  unfold parseMlkemEncaps at hparse
  split_ifs at hparse
  · cases hparse
  obtain ⟨sid'', hsid, hparse⟩ := bind_eq_ok.1 hparse
  obtain ⟨text, htext, hparse⟩ := bind_eq_ok.1 hparse
  obtain ⟨ct', hct, hparse⟩ := bind_eq_ok.1 hparse
  split_ifs at hparse
  · cases hparse
  · cases hparse
    obtain ⟨_, heq, hdecode⟩ := b64d_eq_ok hct
    cases heq
    have hfield := requireStr_eq_ok.1 hsid
    exact ⟨hfield.1, hfield.2, text, ct, secret, (requireStr_eq_ok.1 htext).1, hdecode, hsecret,
      rfl⟩

/-- A message from which the cloud derives a session is an `mlkem_encaps`. -/
lemma deriveSession_type {m : JsonDict} {session : PyStr × B}
    (h : deriveSession cfg m = .ok session) :
    isStr (m.field "type") msgMlkemEncaps = true := by
  obtain ⟨_, hparse, -⟩ := bind_eq_ok.1 h
  unfold parseMlkemEncaps at hparse
  split_ifs at hparse with htype
  · cases hparse
  · simpa using htype

/-- What `decrypt_protected_reading` accepts opens with the session id as associated data,
and is the reading that is parsed. -/
lemma decryptProtectedReading_eq_ok {m : JsonDict} {key : B} {sid : PyStr} {r : JsonDict}
    (h : decryptProtectedReading P m key sid = .ok r) :
    ∃ aad b, sessionMessageAad P sid = .ok aad ∧ decryptSessionPayload P key m aad = .ok b ∧
      parseReadingBytes P b = .ok r := by
  unfold decryptProtectedReading at h
  split_ifs at h
  · cases h
  obtain ⟨named, -, h⟩ := bind_eq_ok.1 h
  split_ifs at h
  · cases h
  obtain ⟨aad, haad, h⟩ := bind_eq_ok.1 h
  obtain ⟨b, hb, h⟩ := bind_eq_ok.1 h
  refine ⟨aad, b, haad, hb, ?_⟩
  unfold parseDecrypted at h
  split at h
  · split_ifs at h
    · cases h
  · next r' hr =>
    cases h
    exact hr

/-! ### One message -/

/-- A reading with a sequence newer than the last one is accepted. -/
lemma acceptReading_of_lt {st : CloudState B} {m : JsonDict} {key : B} {sid : PyStr}
    {r : JsonDict} {sequence : ℤ} {deviceId : HashKey}
    (hd : decryptProtectedReading P m key sid = .ok r)
    (hs : r.field "sequence" = some (.int sequence))
    (hk : (r.item "device_id" >>= Json.hashKey) = .ok deviceId)
    (hlt : st.replay.last deviceId < sequence) :
    acceptReading P st m key sid = ({ st.inc .messagesReceived with
      replay := ⟨Function.update st.replay.lastSequence deviceId (some sequence)⟩ },
        .ok (some r)) := by
  simp only [acceptReading, hd, hs, hk, CloudState.inc_replay, ReplayGuard.checkAndUpdate_of_lt hlt]
  rfl

/-- A message is dropped, or it raises, or its reading is accepted. -/
lemma acceptReading_cases (st : CloudState B) (message : JsonDict) (key : B) (sid : PyStr) :
    (∃ text, acceptReading P st message key sid
        = (drop (st.inc .messagesReceived) text, .ok none)) ∨
    (∃ e, acceptReading P st message key sid = (st.inc .messagesReceived, .error e) ∧
      ((decryptProtectedReading P message key sid = .error e ∧
          e.isA .cloudProcessingError = false ∧ e.isA .cryptoError = false) ∨
        ∃ reading sequence, decryptProtectedReading P message key sid = .ok reading ∧
          reading.field "sequence" = some (.int sequence) ∧
          (reading.item "device_id" >>= Json.hashKey) = .error e)) ∨
    (∃ reading sequence deviceId, decryptProtectedReading P message key sid = .ok reading ∧
      reading.field "sequence" = some (.int sequence) ∧
      (reading.item "device_id" >>= Json.hashKey) = .ok deviceId ∧
      st.replay.last deviceId < sequence ∧
      acceptReading P st message key sid = ({ st.inc .messagesReceived with
        replay := ⟨Function.update st.replay.lastSequence deviceId (some sequence)⟩ },
          .ok (some reading))) := by
  rcases hd : decryptProtectedReading P message key sid with e | reading
  · by_cases he : e.isA .cloudProcessingError || e.isA .cryptoError
    · exact Or.inl ⟨_, by simp only [acceptReading, hd, he]; rfl⟩
    · refine Or.inr (Or.inl ⟨e, by simp only [acceptReading, hd, he]; rfl, Or.inl ⟨rfl, ?_⟩⟩)
      simpa using he
  by_cases hs : ∃ sequence, reading.field "sequence" = some (.int sequence)
  · obtain ⟨sequence, hs⟩ := hs
    rcases hk : reading.item "device_id" >>= Json.hashKey with e | deviceId
    · refine Or.inr (Or.inl ⟨e, ?_, Or.inr ⟨reading, sequence, rfl, hs, hk⟩⟩)
      simp only [acceptReading, hd, hs, hk]
    rcases st.replay.checkAndUpdate_cases deviceId sequence with ⟨-, hc⟩ | ⟨hlt, hc⟩
    · exact Or.inl ⟨_, by simp only [acceptReading, hd, hs, hk, CloudState.inc_replay, hc]; rfl⟩
    · exact Or.inr (Or.inr ⟨reading, sequence, deviceId, rfl, hs, hk, hlt,
        acceptReading_of_lt hd hs hk hlt⟩)
  · -- a sequence that is missing or is not an integer
    refine Or.inl ⟨lit "dropping reading without a valid sequence", ?_⟩
    simp only [acceptReading, hd]
    split
    · next sequence h => exact absurd ⟨sequence, h⟩ hs
    · rfl

/-! ### The `except` clauses -/

/-- The `except` clauses write one log record and count at most one of two metrics. -/
lemma onException_fst (st : CloudState B) (addr : Addr) (sid : Option PyStr) (e : PyExc) :
    ∃ text, (onException st addr sid e).1 = st.write text ∨
      (onException st addr sid e).1 = (st.write text).inc .messagesRejected ∨
      (onException st addr sid e).1 = (st.write text).inc .errors := by
  unfold onException
  split_ifs
  · exact ⟨_, Or.inl rfl⟩
  · exact ⟨_, Or.inr (Or.inl rfl)⟩
  · exact ⟨_, Or.inr (Or.inr rfl)⟩
  · exact ⟨_, Or.inl rfl⟩

lemma onException_snd (st : CloudState B) (addr : Addr) (sid : Option PyStr) (e : PyExc) :
    (onException st addr sid e).2 = .leaving sid (if caught e then none else some e) := by
  unfold onException caught
  split_ifs <;> simp_all

@[simp] lemma onException_registry (st : CloudState B) (addr : Addr) (sid : Option PyStr)
    (e : PyExc) : (onException st addr sid e).1.registry = st.registry := by
  obtain ⟨_, h | h | h⟩ := onException_fst st addr sid e <;> rw [h] <;> rfl

@[simp] lemma onException_replay (st : CloudState B) (addr : Addr) (sid : Option PyStr)
    (e : PyExc) : (onException st addr sid e).1.replay = st.replay := by
  obtain ⟨_, h | h | h⟩ := onException_fst st addr sid e <;> rw [h] <;> rfl

@[simp] lemma onException_store (st : CloudState B) (addr : Addr) (sid : Option PyStr)
    (e : PyExc) : (onException st addr sid e).1.store = st.store := by
  obtain ⟨_, h | h | h⟩ := onException_fst st addr sid e <;> rw [h] <;> rfl

/-- A malformed message of a peer counts as an error and closes the connection. -/
lemma onException_of_protocolError {e : PyExc} (h : e.cls = .protocolError) (st : CloudState B)
    (addr : Addr) (sid : Option PyStr) :
    ∃ text, onException st addr sid e = ((st.write text).inc .errors, .leaving sid none) := by
  refine ⟨lit "closing gateway connection " ++ addr.text ++ lit ": " ++ e.msg, ?_⟩
  simp [onException, PyExc.isA, h, ExcClass.base]

/-! ### The steps of a handler -/

variable (cfg)

/-- One step of the handler of connection `c`: its stop, what happens to it, the shared
state afterwards and its next stop. -/
inductive Moves (c : ℕ) (addr : Addr) (st : CloudState B) :
    Phase B → ConnEvent → CloudState B → Phase B → Prop
  /-- the event does not concern a handler that stands there -/
  | idle (p ev) : Moves c addr st p ev st p
  | accept : Moves c addr st .new .accept
      ((st.write (lit "gateway connection from " ++ addr.text)).inc .gatewayConnections) .request
  | authenticated {o gid} : o.result >>= authenticateRequest cfg = .ok gid →
      Moves c addr st .request (.recv o) st (.sendPubkey gid)
  | refuse {o e} : o.result >>= authenticateRequest cfg = .error e →
      Moves c addr st .request (.recv o) (onException st addr none e).1
        (onException st addr none e).2
  | pubkeySent {gid} : Moves c addr st (.sendPubkey gid) .sendOk st (.encaps gid)
  | pubkeyLost {gid msg} : Moves c addr st (.sendPubkey gid) (.sendError msg)
      (onException st addr none ⟨.osError, msg⟩).1 (onException st addr none ⟨.osError, msg⟩).2
  | registered {o gid sid key} : o.result >>= deriveSession cfg = .ok (sid, key) →
      Moves c addr st (.encaps gid) (.recv o) (register st c gid sid key)
        (.sendEstablished gid sid key)
  | unregistered {o gid e} : o.result >>= deriveSession cfg = .error e →
      Moves c addr st (.encaps gid) (.recv o) (onException st addr none e).1
        (onException st addr none e).2
  | establishedSent {gid sid key} :
      Moves c addr st (.sendEstablished gid sid key) .sendOk st (.receiving gid sid key)
  | establishedLost {gid sid key msg} :
      Moves c addr st (.sendEstablished gid sid key) (.sendError msg)
        (onException st addr none ⟨.osError, msg⟩).1 (onException st addr none ⟨.osError, msg⟩).2
  | readFailed {o gid sid key e} : o.result = .error e →
      Moves c addr st (.receiving gid sid key) (.recv o) (onException st addr (some sid) e).1
        (onException st addr (some sid) e).2
  | dropped {o gid sid key m text} : o.result = .ok m →
      acceptReading P st m key sid = (drop (st.inc .messagesReceived) text, .ok none) →
      Moves c addr st (.receiving gid sid key) (.recv o) (drop (st.inc .messagesReceived) text)
        (.receiving gid sid key)
  | raised {o gid sid key m e} : o.result = .ok m →
      acceptReading P st m key sid = (st.inc .messagesReceived, .error e) →
      Moves c addr st (.receiving gid sid key) (.recv o)
        (onException (st.inc .messagesReceived) addr (some sid) e).1
        (onException (st.inc .messagesReceived) addr (some sid) e).2
  | accepted {o gid sid key m reading sequence deviceId} : o.result = .ok m →
      decryptProtectedReading P m key sid = .ok reading →
      reading.field "sequence" = some (.int sequence) →
      (reading.item "device_id" >>= Json.hashKey) = .ok deviceId →
      st.replay.last deviceId < sequence →
      Moves c addr st (.receiving gid sid key) (.recv o) { st.inc .messagesReceived with
        replay := ⟨Function.update st.replay.lastSequence deviceId (some sequence)⟩ }
        (.storing gid sid key reading)
  | stored {gid sid key reading} : Moves c addr st (.storing gid sid key reading) .store
      (st.addReading reading) (.counting gid sid key reading)
  | counted {gid sid key reading} : Moves c addr st (.counting gid sid key reading) .count
      (st.inc .messagesProcessed) (.reporting gid sid key reading)
  | reported {gid sid key reading} : Moves c addr st (.reporting gid sid key reading) .report
      (logStored P st reading) (.receiving gid sid key)
  | left {sid escaped} :
      Moves c addr st (.leaving sid escaped) .finish (evict st sid) (.closed escaped)

/-- A handler does nothing else. -/
theorem handlerStep_moves (c : ℕ) (addr : Addr) (st : CloudState B) (p : Phase B)
    (ev : ConnEvent) :
    Moves cfg c addr st p ev (handlerStep cfg c addr st p ev).1
      (handlerStep cfg c addr st p ev).2 := by
  unfold handlerStep
  split
  · exact .accept
  · next o => split
              · next h => exact .refuse h
              · next h => exact .authenticated h
  · exact .pubkeySent
  · exact .pubkeyLost
  · next o => split
              · next h => exact .unregistered h
              · next h => exact .registered h
  · exact .establishedSent
  · exact .establishedLost
  · next gid sid key o =>
    split
    · next h => exact .readFailed h
    · next m h =>
      rcases acceptReading_cases (P := P) st m key sid with
        ⟨text, hm⟩ | ⟨e, hm, -⟩ | ⟨reading, sequence, deviceId, hd, hs, hk, hlt, hm⟩
      · simp only [hm]
        exact .dropped h hm
      · simp only [hm]
        exact .raised h hm
      · simp only [hm]
        exact .accepted h hd hs hk hlt
  · exact .stored
  · exact .counted
  · exact .reported
  · exact .left
  · exact .idle _ _

/-! ### Readings -/

variable {cfg}

/-- A move adds nothing to the store, or the reading that the handler was about to
add. -/
lemma Moves.store_cases {c : ℕ} {a : Addr} {st st' : CloudState B} {p p' : Phase B}
    {ev : ConnEvent} (hm : Moves cfg c a st p ev st' p') :
    st'.store = st.store ∨
      ∃ gid sid key r, p = .storing gid sid key r ∧ st'.store = st.store.add r := by
  cases hm with
  | stored => exact Or.inr ⟨_, _, _, _, rfl, rfl⟩
  | refuse | pubkeyLost | unregistered | establishedLost | readFailed | raised =>
    exact Or.inl (onException_store _ _ _ _)
  | @left sid => exact Or.inl (by cases sid <;> rfl)
  | _ => exact Or.inl rfl

/-- A handler that is about to add a reading was already, or it has just accepted it. -/
lemma Moves.storing_cases {c : ℕ} {a : Addr} {st st' : CloudState B} {p p' : Phase B}
    {ev : ConnEvent} (hm : Moves cfg c a st p ev st' p') {gid sid : PyStr} {key : B}
    {r : JsonDict} (hp' : p' = .storing gid sid key r) :
    p = .storing gid sid key r ∨
      p = .receiving gid sid key ∧ ∃ m sequence deviceId, ev = .recv (.message m) ∧
        decryptProtectedReading P m key sid = .ok r ∧
        r.field "sequence" = some (.int sequence) ∧
        (r.item "device_id" >>= Json.hashKey) = .ok deviceId := by
  cases hm with
  | idle => exact Or.inl hp'
  | accepted ho hd hs hk _ =>
    cases hp'
    exact Or.inr ⟨rfl, _, _, _, by rw [readOutcome_eq_ok ho], hd, hs, hk⟩
  | refuse | pubkeyLost | unregistered | establishedLost | readFailed | raised =>
    rw [onException_snd] at hp'
    cases hp'
  | _ => cases hp'

variable (cfg) in
/-- A handler accepts a reading, or it adds the one that it has accepted, or it leaves the
guard and the store alone. -/
lemma handlerStep_reading_cases (c : ℕ) (addr : Addr) (st : CloudState B) (p : Phase B)
    (ev : ConnEvent) :
    (∃ gid sid key m r sequence deviceId, p = .receiving gid sid key ∧
      ev = .recv (.message m) ∧ decryptProtectedReading P m key sid = .ok r ∧
      r.field "sequence" = some (.int sequence) ∧
      (r.item "device_id" >>= Json.hashKey) = .ok deviceId ∧
      st.replay.last deviceId < sequence ∧
      handlerStep cfg c addr st p ev = ({ st.inc .messagesReceived with
        replay := ⟨Function.update st.replay.lastSequence deviceId (some sequence)⟩ },
          .storing gid sid key r)) ∨
    (∃ gid sid key r, p = .storing gid sid key r ∧ ev = .store ∧
      handlerStep cfg c addr st p ev = (st.addReading r, .counting gid sid key r)) ∨
    ((∀ gid sid key r, p = .storing gid sid key r → ev ≠ .store) ∧
      (handlerStep cfg c addr st p ev).1.replay = st.replay ∧
      (handlerStep cfg c addr st p ev).1.store = st.store ∧
      ∀ gid sid key r, (handlerStep cfg c addr st p ev).2 = .storing gid sid key r →
        p = .storing gid sid key r) := by
  by_cases hstore : ∃ gid sid key r, p = .storing gid sid key r ∧ ev = .store
  · obtain ⟨gid, sid, key, r, rfl, rfl⟩ := hstore
    exact Or.inr (Or.inl ⟨gid, sid, key, r, rfl, rfl, rfl⟩)
  -- any other move of the handler
  have hother : ∀ gid sid key r, p = .storing gid sid key r → ev ≠ .store :=
    fun gid sid key r hp hev => hstore ⟨gid, sid, key, r, hp, hev⟩
  have hm := handlerStep_moves cfg c addr st p ev
  have hpair : ∀ st' p', (handlerStep cfg c addr st p ev).1 = st' →
      (handlerStep cfg c addr st p ev).2 = p' → handlerStep cfg c addr st p ev = (st', p') := by
    rintro _ _ rfl rfl
    rfl
  generalize (handlerStep cfg c addr st p ev).1 = st', (handlerStep cfg c addr st p ev).2 = p'
    at hm hpair ⊢
  cases hm with
  | idle => exact Or.inr (Or.inr ⟨hother, rfl, rfl, fun gid sid key r h => h⟩)
  | accepted ho hd hs hk hlt =>
    exact Or.inl ⟨_, _, _, _, _, _, _, rfl, by rw [readOutcome_eq_ok ho], hd, hs, hk, hlt,
      hpair _ _ rfl rfl⟩
  | stored => exact absurd rfl (hother _ _ _ _ rfl)
  | refuse | pubkeyLost | unregistered | establishedLost | readFailed | raised =>
    -- a handler that leaves by an exception touches neither the guard nor the store
    refine Or.inr (Or.inr ⟨hother, onException_replay _ _ _ _, onException_store _ _ _ _, ?_⟩)
    intro gid sid key r h
    rw [onException_snd] at h
    cases h
  | @left sid => exact Or.inr (Or.inr ⟨hother, by cases sid <;> rfl, by cases sid <;> rfl, by simp⟩)
  | _ => exact Or.inr (Or.inr ⟨hother, rfl, rfl, by simp⟩)

end PqcBridge.Cloud
