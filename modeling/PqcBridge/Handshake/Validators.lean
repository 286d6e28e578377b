/-
The grammar of the handshake messages.

Each validator accepts exactly the objects of its grammar, returns what the grammar says, and
raises `ProtocolError` on every other object.  `Decides` is this property of a computation; it
is put together along the computation.

* `validators_exact`: the five validators.
-/
import PqcBridge.Cloud.Processing
import PqcBridge.Common.Validation
import PqcBridge.Gateway.Accounting

namespace PqcBridge.Handshake

open Python Protocol Crypto

/-! ### Computations that decide -/

/-- The computation returns what satisfies `spec`, and raises `ProtocolError` where nothing
does. -/
structure Decides {α : Type} (x : Py α) (spec : α → Prop) : Prop where
  accepts : ∀ a, x = .ok a ↔ spec a
  rejects : (¬ ∃ a, spec a) → ∃ msg, x = raise .protocolError msg

section

variable {α β : Type} {x : Py α} {f : α → Py β} {spec : α → Prop}

/-- Computations that raise nothing else. -/
lemma Decides.of_onlyRaises (haccepts : ∀ a, x = .ok a ↔ spec a)
    (hraises : OnlyRaises x IsProtocolError) : Decides x spec := by
  refine ⟨haccepts, fun hnone => ?_⟩
  rcases hx : x with e | a
  · obtain ⟨cls, msg⟩ := e
    obtain rfl : cls = .protocolError := hraises _ hx
    exact ⟨msg, rfl⟩
  · exact absurd ⟨a, (haccepts a).1 hx⟩ hnone

lemma Decides.onlyRaises (h : Decides x spec) : OnlyRaises x IsProtocolError := by
  intro e he
  have hnone : ¬ ∃ a, spec a := by
    rintro ⟨a, ha⟩
    rw [(h.accepts a).2 ha] at he
    cases he
  obtain ⟨msg, hmsg⟩ := h.rejects hnone
  rw [hmsg] at he
  cases he
  rfl

lemma Decides.congr {spec' : α → Prop} (h : Decides x spec) (hspec : ∀ a, spec a ↔ spec' a) :
    Decides x spec' :=
  .of_onlyRaises (fun a => (h.accepts a).trans (hspec a)) h.onlyRaises

/-- A value. -/
lemma decides_ok (a : α) : Decides (.ok a) fun b => a = b :=
  .of_onlyRaises (fun b => by rw [Except.ok.injEq]) (onlyRaises_ok a)

/-- One computation after another. -/
lemma Decides.bind {spec' : α → β → Prop} (hx : Decides x spec)
    (hf : ∀ a, spec a → Decides (f a) (spec' a)) :
    Decides (x >>= f) fun b => ∃ a, spec a ∧ spec' a b := by
  refine .of_onlyRaises (fun b => ?_) ?_
  · rw [bind_eq_ok]
    constructor
    · rintro ⟨a, ha, hb⟩
      have ha' := (hx.accepts a).1 ha
      exact ⟨a, ha', ((hf a ha').accepts b).1 hb⟩
    · rintro ⟨a, ha, hb⟩
      exact ⟨a, (hx.accepts a).2 ha, ((hf a ha).accepts b).2 hb⟩
  · exact hx.onlyRaises.bind fun a ha => (hf a ((hx.accepts a).1 ha)).onlyRaises

/-- A check, and what follows where it holds. -/
lemma Decides.ite {p : Prop} [Decidable p] {t : PyStr} (hx : ¬ p → Decides x spec) :
    Decides (if p then raise .protocolError t else x) fun a => ¬ p ∧ spec a := by
  by_cases hp : p
  · rw [if_pos hp]
    exact ⟨fun a => by simp [hp], fun _ => ⟨t, rfl⟩⟩
  · rw [if_neg hp]
    exact (hx hp).congr fun a => by simp [hp]

end

/-! ### Fields -/

variable {B : Type} (P : Primitives B)

/-- The field holds a string that is not empty. -/
def HasText (m : JsonDict) (f : String) (s : PyStr) : Prop := m.field f = some (.str s) ∧ s ≠ []

lemma decides_requireStr (m : JsonDict) (f : String) :
    Decides (requireStr m f) (HasText m f) :=
  .of_onlyRaises (fun _ => requireStr_eq_ok) (requireStr_raises m f)

lemma decides_b64d (text : PyStr) :
    Decides (b64d P (.str text)) fun data => P.b64decode text = some data := by
  refine .of_onlyRaises (fun data => ?_) (b64d_raises P _)
  simp only [b64d]
  split
  · next data' h => rw [h, Except.ok.injEq, Option.some.injEq]
  · next h => simp [h]

lemma not_isStr_iff {v : Option Json} {s : PyStr} :
    ¬ (!isStr v s) = true ↔ v = some (.str s) := by
  rw [Bool.not_eq_true', Bool.not_eq_false]
  unfold isStr
  split
  · simp
  · next h =>
    constructor
    · intro hfalse
      cases hfalse
    · intro hv
      exact absurd hv (h s)

/-! ### The grammars -/

/-- A hello: the device id, the capabilities and the two fields of the tag.  The whole message
is returned, with the two fields that are read off it. -/
structure IsHello (m : JsonDict) (h : Gateway.Hello) : Prop where
  type : m.field "type" = some (.str msgHello)
  deviceId : HasText m "device_id" h.deviceId
  capabilities : m.field "capabilities" = some (.arr (h.capabilities.map .str))
  nonce : ∃ s, HasText m "auth_nonce" s
  tag : ∃ s, HasText m "auth_tag" s
  message : h.message = m

/-- A request for the public key. -/
structure IsRequest (m : JsonDict) (gatewayId : PyStr) : Prop where
  type : m.field "type" = some (.str msgMlkemRequestPubkey)
  gatewayId : HasText m "gateway_id" gatewayId
  nonce : ∃ s, HasText m "auth_nonce" s
  tag : ∃ s, HasText m "auth_tag" s

/-- The field holds valid base64 of `n` bytes, which decode to `data`. -/
def HasBytes (m : JsonDict) (f : String) (n : ℕ) (data : B) : Prop :=
  ∃ text, HasText m f text ∧ P.b64decode text = some data ∧ P.len data = n

/-- An encapsulation. -/
structure IsEncaps (m : JsonDict) (r : PyStr × B) : Prop where
  type : m.field "type" = some (.str msgMlkemEncaps)
  sessionId : HasText m "session_id" r.1
  ciphertext : HasBytes P m "ciphertext" 1088 r.2

/-- A public key. -/
structure IsPubkeyReply (m : JsonDict) (raw : B) : Prop where
  type : m.field "type" = some (.str msgMlkemPubkey)
  cloudId : ∃ s, HasText m "cloud_id" s
  publicKey : HasBytes P m "public_key" 1184 raw

/-- The end of the handshake for a session id. -/
structure IsEstablishedReply (expected : PyStr) (m : JsonDict) : Prop where
  type : m.field "type" = some (.str msgMlkemEstablished)
  sessionId : HasText m "session_id" expected

/-! ### The validators -/

lemma mapM_capability_eq_some {items : List Json} {capabilities : List PyStr} :
    items.mapM Gateway.capability = some capabilities ↔ items = capabilities.map .str := by
  refine ⟨Gateway.eq_map_of_mapM_capability, ?_⟩
  rintro rfl
  induction capabilities with
  | nil => rfl
  | cons c capabilities ih =>
    rw [List.map_cons, List.mapM_cons, ih]
    rfl

lemma decides_parseMlkemRequest (m : JsonDict) :
    Decides (Cloud.parseMlkemRequest m) (IsRequest m) := by
  have h := Decides.ite (p := (!isStr (m.field "type") msgMlkemRequestPubkey) = true)
    (t := lit "expected mlkem_request_pubkey as first message") fun _ =>
    (decides_requireStr m "gateway_id").bind fun gatewayId _ =>
    (decides_requireStr m "auth_nonce").bind fun _ _ =>
    (decides_requireStr m "auth_tag").bind fun _ _ => decides_ok gatewayId
  refine h.congr fun gatewayId => ?_
  rw [not_isStr_iff]
  constructor
  · rintro ⟨htype, _, hid, nonce, hnonce, tag, htag, rfl⟩
    exact ⟨htype, hid, ⟨nonce, hnonce⟩, ⟨tag, htag⟩⟩
  · rintro ⟨htype, hid, ⟨nonce, hnonce⟩, ⟨tag, htag⟩⟩
    exact ⟨htype, _, hid, nonce, hnonce, tag, htag, rfl⟩

lemma parseHello_eq_ok_iff {m : JsonDict} {h : Gateway.Hello} :
    Gateway.parseHello m = .ok h ↔ IsHello m h := by
  constructor
  · intro hm
    obtain ⟨htype, -⟩ := Gateway.parseHello_eq_ok hm
    obtain ⟨hmessage, hcaps⟩ := Gateway.parseHello_capabilities hm
    unfold Gateway.parseHello at hm
    split_ifs at hm
    · cases hm
    -- the list of capabilities is checked before the two fields of the tag
    obtain ⟨deviceId, hid, hm⟩ := bind_eq_ok.1 hm
    split at hm
    · split at hm
      · obtain ⟨nonce, hnonce, hm⟩ := bind_eq_ok.1 hm
        obtain ⟨tag, htag, hm⟩ := bind_eq_ok.1 hm
        cases hm
        refine ⟨not_isStr_iff.1 (by rw [htype]; decide), requireStr_eq_ok.1 hid, hcaps,
          ⟨nonce, requireStr_eq_ok.1 hnonce⟩, ⟨tag, requireStr_eq_ok.1 htag⟩, hmessage⟩
      · cases hm
    · cases hm
  · obtain ⟨message, deviceId, capabilities⟩ := h
    rintro ⟨htype, hid, hcaps, ⟨nonce, hnonce⟩, ⟨tag, htag⟩, rfl⟩
    have htype' : isStr (message.field "type") msgHello = true := by
      rw [htype]
      rfl
    have hid' : requireStr message "device_id" = .ok deviceId := requireStr_eq_ok.2 hid
    have hnonce' : requireStr message "auth_nonce" = .ok nonce := requireStr_eq_ok.2 hnonce
    have htag' : requireStr message "auth_tag" = .ok tag := requireStr_eq_ok.2 htag
    have hmap : (capabilities.map Json.str).mapM Gateway.capability = some capabilities :=
      mapM_capability_eq_some.2 rfl
    simp only [Gateway.parseHello, htype', Bool.not_true, Bool.false_eq_true, if_false, hid',
      ok_bind, hcaps, hmap, hnonce', htag', pure_eq_ok]

lemma decides_parseHello (m : JsonDict) : Decides (Gateway.parseHello m) (IsHello m) :=
  .of_onlyRaises (fun _ => parseHello_eq_ok_iff) (Gateway.Accounting.parseHello_raises m)

lemma decides_parseMlkemEncaps (m : JsonDict) :
    Decides (Cloud.parseMlkemEncaps P m) (IsEncaps P m) := by
  have h := Decides.ite (p := (!isStr (m.field "type") msgMlkemEncaps) = true)
    (t := lit "expected mlkem_encaps") fun _ =>
    (decides_requireStr m "session_id").bind fun sessionId _ =>
    (decides_requireStr m "ciphertext").bind fun text _ =>
    (decides_b64d P text).bind fun ciphertext _ =>
    Decides.ite (p := P.len ciphertext ≠ mlkem768CiphertextBytes)
      (t := lit "ML-KEM ciphertext has invalid length") fun _ =>
        decides_ok (sessionId, ciphertext)
  refine h.congr fun r => ?_
  rw [not_isStr_iff]
  constructor
  · rintro ⟨htype, _, hid, text, htext, data, hdata, hlen, rfl⟩
    exact ⟨htype, hid, text, htext, hdata, not_not.1 hlen⟩
  · obtain ⟨sessionId, ciphertext⟩ := r
    rintro ⟨htype, hid, text, htext, hdata, hlen⟩
    exact ⟨htype, sessionId, hid, text, htext, ciphertext, hdata, not_not.2 hlen, rfl⟩

lemma decides_parseMlkemPubkeyReply (m : JsonDict) :
    Decides (Gateway.parseMlkemPubkeyReply P m) (IsPubkeyReply P m) := by
  have h := Decides.ite (p := (!isStr (m.field "type") msgMlkemPubkey) = true)
    (t := lit "expected mlkem_pubkey") fun _ =>
    (decides_requireStr m "cloud_id").bind fun _ _ =>
    (decides_requireStr m "public_key").bind fun text _ =>
    (decides_b64d P text).bind fun raw _ =>
    Decides.ite (p := P.len raw ≠ mlkem768PublicKeyBytes)
      (t := lit "ML-KEM public key has invalid length") fun _ => decides_ok raw
  refine h.congr fun raw => ?_
  rw [not_isStr_iff]
  constructor
  · rintro ⟨htype, cloudId, hid, text, htext, data, hdata, hlen, rfl⟩
    exact ⟨htype, ⟨cloudId, hid⟩, text, htext, hdata, not_not.1 hlen⟩
  · rintro ⟨htype, ⟨cloudId, hid⟩, text, htext, hdata, hlen⟩
    exact ⟨htype, cloudId, hid, text, htext, raw, hdata, not_not.2 hlen, rfl⟩

lemma decides_parseMlkemEstablishedReply (expected : PyStr) (m : JsonDict) :
    Decides (Gateway.parseMlkemEstablishedReply m expected)
      fun _ => IsEstablishedReply expected m := by
  have h := Decides.ite (p := (!isStr (m.field "type") msgMlkemEstablished) = true)
    (t := lit "expected mlkem_established") fun _ =>
    (decides_requireStr m "session_id").bind fun sessionId _ =>
    Decides.ite (p := sessionId ≠ expected) (t := lit "session_id does not match") fun _ =>
      decides_ok ()
  refine h.congr fun _ => ?_
  rw [not_isStr_iff]
  constructor
  · rintro ⟨htype, sessionId, hid, hsame, -⟩
    rw [not_not.1 hsame] at hid
    exact ⟨htype, hid⟩
  · rintro ⟨htype, hid⟩
    exact ⟨htype, expected, hid, not_not.2 rfl, rfl⟩

/-- **The validators accept exactly their grammar**: each returns what the grammar says, and
raises `ProtocolError` on everything else. -/
theorem validators_exact :
    (∀ m, Decides (Gateway.parseHello m) (IsHello m)) ∧
    (∀ m, Decides (Cloud.parseMlkemRequest m) (IsRequest m)) ∧
    (∀ m, Decides (Cloud.parseMlkemEncaps P m) (IsEncaps P m)) ∧
    (∀ m, Decides (Gateway.parseMlkemPubkeyReply P m) (IsPubkeyReply P m)) ∧
    ∀ expected m, Decides (Gateway.parseMlkemEstablishedReply m expected)
      fun _ => IsEstablishedReply expected m :=
  ⟨decides_parseHello, decides_parseMlkemRequest, decides_parseMlkemEncaps P,
    decides_parseMlkemPubkeyReply P, decides_parseMlkemEstablishedReply⟩

end PqcBridge.Handshake
