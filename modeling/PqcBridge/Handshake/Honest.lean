/-
The handshake between an honest gateway and the cloud.

Each message that one side builds is accepted by the other side, and both derive the
same session key; `run_handshake` puts this together into a run of the handler of the
cloud.  This is what the messages are for, and the runs of the other modules start
from it.
-/
import PqcBridge.Cloud.Moves
import PqcBridge.Gateway.Establishment
import PqcBridge.Lib.Run

namespace PqcBridge.Handshake

open Python Protocol Crypto Runs

variable {B : Type} {P : Primitives B}

/-! ### Tags -/

/-- A tag verifies under the key it was made with, against the same claims. -/
lemma verifyAuth_encrypt (hP : P.Lawful) {key nonce : B} (hkey : P.len key = keyLength)
    (hnonce : P.len nonce = nonceLength) (claims : B) (what : String) :
    verifyAuth P key (.str (P.b64encode nonce))
      (.str (P.b64encode (P.encrypt key nonce (emptyBytes P) claims))) claims what = .ok () := by
  have hdecode : decodeAuth P (.str (P.b64encode nonce))
      (.str (P.b64encode (P.encrypt key nonce (emptyBytes P) claims)))
        = .ok (nonce, P.encrypt key nonce (emptyBytes P) claims) := by
    simp [decodeAuth, b64d, hP.b64_roundtrip, hnonce]
  simp [verifyAuth, hdecode, chacha_eq_ok hkey, hP.decrypt_encrypt _ _ _ _ hkey hnonce]

lemma b64encode_ne_nil (hP : P.Lawful) {data : B} {n : ℕ} (h : P.len data = n + 1) :
    P.b64encode data ≠ [] :=
  hP.b64_ne_nil data (by omega)

/-! ### The messages of the gateway, at the cloud -/

section Messages

variable (gateway : Gateway.GatewayConfig B) (cloud : Cloud.CloudConfig P)

/-- The cloud authenticates the request of a registered gateway. -/
lemma authenticateRequest_requestMessage (hP : P.Lawful)
    (hreg : cloud.gatewayKeys.keys gateway.gatewayId = some gateway.gatewayKey)
    (hid : gateway.gatewayId ≠ []) {nonce : B} (hnonce : P.len nonce = nonceLength)
    {request : JsonDict} (h : Gateway.requestMessage P gateway nonce = .ok request) :
    Cloud.authenticateRequest cloud request = .ok gateway.gatewayId := by
  have hkey := cloud.gatewayKeys.key_len hreg
  have hrequest : request = [(lit "type", .str msgMlkemRequestPubkey),
      (lit "gateway_id", .str gateway.gatewayId),
      (lit "auth_nonce", .str (P.b64encode nonce)),
      (lit "auth_tag", .str (P.b64encode (P.encrypt gateway.gatewayKey nonce (emptyBytes P)
        (gatewayAuthClaimsBytes P (.str gateway.gatewayId)))))] := by
    simp only [Gateway.requestMessage, buildGatewayAuth, authFields, chacha_eq_ok hkey, ok_bind,
      pure_eq_ok, Except.ok.injEq] at h
    exact h.symm
  -- the three fields are there, and none is empty
  have hparse : Cloud.parseMlkemRequest request = .ok gateway.gatewayId := by
    have hid' : requireStr request "gateway_id" = .ok gateway.gatewayId :=
      requireStr_eq_ok.2 ⟨by rw [hrequest]; rfl, hid⟩
    have hnonce' : requireStr request "auth_nonce" = .ok (P.b64encode nonce) :=
      requireStr_eq_ok.2 ⟨by rw [hrequest]; rfl, b64encode_ne_nil hP hnonce⟩
    have htag := requireStr_eq_ok (m := request) (f := "auth_tag").2
      ⟨by rw [hrequest]; rfl, b64encode_ne_nil hP (hP.encrypt_len _ _ _ _)⟩
    have htype : isStr (request.field "type") msgMlkemRequestPubkey = true := by
      rw [hrequest]
      rfl
    simp [Cloud.parseMlkemRequest, htype, hid', hnonce', htag]
  have hverify : Cloud.verifyGatewayRequestAuth P request gateway.gatewayKey = .ok () := by
    rw [hrequest]
    exact verifyAuth_encrypt hP hkey hnonce _ _
  simp [Cloud.authenticateRequest, hparse, hreg, hverify]

/-- The cloud derives the key of the encapsulation. -/
lemma deriveSession_encapsMessage (hP : P.Lawful) {sid : PyStr} (hsid : sid ≠ []) (coins : B) :
    Cloud.deriveSession cloud (Gateway.encapsMessage P gateway sid
      (mlkemEncapsulate P cloud.publicKeyRaw coins).2)
      = .ok (sid, deriveSessionKey P (mlkemEncapsulate P cloud.publicKeyRaw coins).1) := by
  have hlen : P.len (mlkemEncapsulate P cloud.publicKeyRaw coins).2 = mlkem768CiphertextBytes :=
    hP.ciphertext_len _ _
  have hparse : Cloud.parseMlkemEncaps P (Gateway.encapsMessage P gateway sid
      (mlkemEncapsulate P cloud.publicKeyRaw coins).2)
        = .ok (sid, (mlkemEncapsulate P cloud.publicKeyRaw coins).2) := by
    have hsid' := requireStr_eq_ok (m := Gateway.encapsMessage P gateway sid
      (mlkemEncapsulate P cloud.publicKeyRaw coins).2) (f := "session_id").2 ⟨rfl, hsid⟩
    have hct := requireStr_eq_ok (m := Gateway.encapsMessage P gateway sid
      (mlkemEncapsulate P cloud.publicKeyRaw coins).2) (f := "ciphertext").2
        ⟨rfl, b64encode_ne_nil hP hlen⟩
    have htype : isStr (JsonDict.field (Gateway.encapsMessage P gateway sid
      (mlkemEncapsulate P cloud.publicKeyRaw coins).2) "type") msgMlkemEncaps = true := rfl
    simp [Cloud.parseMlkemEncaps, htype, hsid', hct, b64d, hP.b64_roundtrip, hlen]
  have hdecaps : mlkemDecapsulate P cloud.privateKey
      (mlkemEncapsulate P cloud.publicKeyRaw coins).2
        = .ok (mlkemEncapsulate P cloud.publicKeyRaw coins).1 := by
    simp [mlkemDecapsulate, mlkemEncapsulate, Cloud.CloudConfig.publicKeyRaw,
      hP.decapsulate_encapsulate]
  simp [Cloud.deriveSession, hparse, hdecaps]

/-! ### The messages of the cloud, at the gateway -/

/-- The gateway accepts the key of the cloud whose fingerprint is its pin. -/
lemma acceptPubkeyReply_pubkeyMessage (hP : P.Lawful) (hid : cloud.cloudId ≠ [])
    (hpin : gateway.pin = publicKeyFingerprint P cloud.publicKeyRaw) (hne : gateway.pin ≠ []) :
    Gateway.acceptPubkeyReply P gateway (Cloud.pubkeyMessage cloud) = .ok cloud.publicKeyRaw := by
  have hlen : P.len cloud.publicKeyRaw = mlkem768PublicKeyBytes := hP.publicKey_len _
  have hparse : Gateway.parseMlkemPubkeyReply P (Cloud.pubkeyMessage cloud)
      = .ok cloud.publicKeyRaw := by
    have hid' := requireStr_eq_ok (m := Cloud.pubkeyMessage cloud) (f := "cloud_id").2 ⟨rfl, hid⟩
    have hkey := requireStr_eq_ok (m := Cloud.pubkeyMessage cloud) (f := "public_key").2
      ⟨rfl, b64encode_ne_nil hP hlen⟩
    have htype : isStr (JsonDict.field (Cloud.pubkeyMessage cloud) "type") msgMlkemPubkey
      = true := rfl
    simp [Gateway.parseMlkemPubkeyReply, htype, hid', hkey, b64d, hP.b64_roundtrip, hlen]
  have hverify : Gateway.verifyCloudPublicKey P cloud.publicKeyRaw gateway.pin = .ok () := by
    have hascii : isAscii gateway.pin = true := by
      rw [hpin]
      exact P.sha256hex_ascii _
    simp [Gateway.verifyCloudPublicKey, hne, Gateway.compareDigest, ← hpin, hascii]
  have hload : loadPublicKey P cloud.publicKeyRaw = .ok cloud.publicKeyRaw := by
    simp [loadPublicKey, Cloud.CloudConfig.publicKeyRaw, hP.publicKey_valid]
  simp [Gateway.acceptPubkeyReply, hparse, hverify, hload]

lemma parseMlkemEstablishedReply_establishedMessage {sid : PyStr} (hsid : sid ≠ []) :
    Gateway.parseMlkemEstablishedReply (Cloud.establishedMessage sid) sid = .ok () := by
  have hsid' := requireStr_eq_ok (m := Cloud.establishedMessage sid) (f := "session_id").2
    ⟨rfl, hsid⟩
  have htype : isStr (JsonDict.field (Cloud.establishedMessage sid) "type") msgMlkemEstablished
    = true := rfl
  simp [Gateway.parseMlkemEstablishedReply, htype, hsid']

/-- An attempt that reaches the cloud, with its answers. -/
def honestAttempt (sid : PyStr) (nonce coins : B) (sock : ℕ) : Gateway.Attempt B where
  sessionId := sid
  nonce := nonce
  coins := coins
  sock := sock
  connect := .ok
  sendRequest := .ok
  pubkeyReply := .message (Cloud.pubkeyMessage cloud)
  sendEncaps := .ok
  establishedReply := .message (Cloud.establishedMessage sid)

/-- Such an attempt ends with the shared secret of its encapsulation. -/
lemma exchange_honestAttempt (hP : P.Lawful) (hkey : P.len gateway.gatewayKey = keyLength)
    (hid : cloud.cloudId ≠ []) (hpin : gateway.pin = publicKeyFingerprint P cloud.publicKeyRaw)
    (hne : gateway.pin ≠ []) {sid : PyStr} (hsid : sid ≠ []) (nonce coins : B) (sock : ℕ) :
    Gateway.exchange P gateway (honestAttempt cloud sid nonce coins sock)
      = .ok (mlkemEncapsulate P cloud.publicKeyRaw coins).1 := by
  obtain ⟨request, hrequest⟩ := Gateway.requestMessage_eq_ok hkey nonce
  simp [Gateway.exchange, honestAttempt, hrequest, Gateway.IoOutcome.result, ReadOutcome.result,
    acceptPubkeyReply_pubkeyMessage gateway cloud hP hid hpin hne,
    parseMlkemEstablishedReply_establishedMessage hsid]

end Messages

/-! ### Readings -/

/-- The cloud decrypts what the gateway encrypts, and parses it. -/
lemma decryptProtectedReading_buildProtectedReading (hP : P.Lawful) {key : B} (nonce : B)
    (hkey : P.len key = keyLength) (hnonce : P.len nonce = nonceLength) {sid : PyStr}
    (hsid : sid ≠ []) (hvalid : validUnicode sid = true) {plaintext : B} {m : JsonDict}
    (h : Gateway.buildProtectedReading P plaintext key sid nonce = .ok m) :
    Cloud.decryptProtectedReading P m key sid = Cloud.parseDecrypted P plaintext := by
  have haad : sessionMessageAad P sid = .ok (P.utf8 sid) := by
    simp [sessionMessageAad, encodeUtf8, hvalid]
  have hm : m = [(lit "type", .str msgProtectedReading), (lit "session_id", .str sid),
      (lit "nonce", .str (P.b64encode nonce)),
      (lit "ciphertext", .str (P.b64encode (P.encrypt key nonce plaintext (P.utf8 sid))))] := by
    simp only [Gateway.buildProtectedReading, haad, encryptSessionPayload, aeadEncrypt,
      chacha_eq_ok hkey, ok_bind, pure_eq_ok, Except.ok.injEq] at h
    exact h.symm
  have htype : isStr (m.field "type") msgProtectedReading = true := by
    rw [hm]
    rfl
  have hnamed : requireStr m "session_id" = .ok sid :=
    requireStr_eq_ok.2 ⟨by rw [hm]; rfl, hsid⟩
  -- base64 and the AEAD undo what the gateway has done
  have hn : envelopeField P .cryptoError m "nonce" = .ok nonce := by
    rw [hm]
    exact (show _ = b64d P (.str (P.b64encode nonce)) from rfl).trans
      (by simp [b64d, hP.b64_roundtrip])
  have hc : envelopeField P .cryptoError m "ciphertext"
      = .ok (P.encrypt key nonce plaintext (P.utf8 sid)) := by
    rw [hm]
    exact (show _ = b64d P (.str (P.b64encode (P.encrypt key nonce plaintext (P.utf8 sid))))
      from rfl).trans (by simp [b64d, hP.b64_roundtrip])
  have hdecrypt : decryptSessionPayload P key m (P.utf8 sid) = .ok plaintext := by
    simp [decryptSessionPayload, aeadDecrypt, hn, hc, hnonce, chacha_eq_ok hkey,
      hP.decrypt_encrypt _ _ _ _ hkey hnonce]
  simp [Cloud.decryptProtectedReading, htype, hnamed, haad, hdecrypt]

/-! ### The run of the cloud -/

/-- What happens to the handler of connection `c` until it registers a session. -/
def registrationEvents (c : ℕ) (request encaps : JsonDict) : List (ℕ × Cloud.ConnEvent) :=
  [(c, .accept), (c, .recv (.message request)), (c, .sendOk), (c, .recv (.message encaps))]

/-- What happens to the handler of connection `c` during a handshake. -/
def handshakeEvents (c : ℕ) (request encaps : JsonDict) : List (ℕ × Cloud.ConnEvent) :=
  registrationEvents c request encaps ++ [(c, .sendOk)]

/-- The state after the connection was accepted. -/
def acceptedState (addr : Cloud.Addr) (st : Cloud.CloudState B) : Cloud.CloudState B :=
  (st.write (lit "gateway connection from " ++ addr.text)).inc .gatewayConnections

section Run

variable (hP : P.Lawful) (gateway : Gateway.GatewayConfig B) (cloud : Cloud.CloudConfig P)
  (hreg : cloud.gatewayKeys.keys gateway.gatewayId = some gateway.gatewayKey)
  (hid : gateway.gatewayId ≠ []) (nonce coins : B) (hnonce : P.len nonce = nonceLength)
  {request : JsonDict} (h : Gateway.requestMessage P gateway nonce = .ok request)
  {sid : PyStr} (hsid : sid ≠ []) (addr : ℕ → Cloud.Addr) {c : ℕ} {s : Cloud.ServerState B}
  (hc : s.phase c = .new)

include hP hreg hid hnonce h hsid hc

/-- The cloud registers the session of an honest gateway under the gateway's name, with
the key that the gateway derives. -/
lemma run_registration :
    run (Cloud.step cloud addr) s (registrationEvents c request
        (Gateway.encapsMessage P gateway sid (mlkemEncapsulate P cloud.publicKeyRaw coins).2))
      = ⟨Cloud.register (acceptedState (addr c) s.shared) c gateway.gatewayId sid
          (deriveSessionKey P (mlkemEncapsulate P cloud.publicKeyRaw coins).1),
        Function.update s.phase c (.sendEstablished gateway.gatewayId sid
          (deriveSessionKey P (mlkemEncapsulate P cloud.publicKeyRaw coins).1))⟩ := by
  simp [registrationEvents, Cloud.step, hc, Cloud.handlerStep, ReadOutcome.result,
    authenticateRequest_requestMessage gateway cloud hP hreg hid hnonce h,
    deriveSession_encapsMessage gateway cloud hP hsid coins, acceptedState]

/-- **The handshake of an honest gateway** ends with the cloud receiving on a session
that both sides know. -/
theorem run_handshake :
    run (Cloud.step cloud addr) s (handshakeEvents c request
        (Gateway.encapsMessage P gateway sid (mlkemEncapsulate P cloud.publicKeyRaw coins).2))
      = ⟨Cloud.register (acceptedState (addr c) s.shared) c gateway.gatewayId sid
          (deriveSessionKey P (mlkemEncapsulate P cloud.publicKeyRaw coins).1),
        Function.update s.phase c (.receiving gateway.gatewayId sid
          (deriveSessionKey P (mlkemEncapsulate P cloud.publicKeyRaw coins).1))⟩ := by
  rw [handshakeEvents, run_append,
    run_registration hP gateway cloud hreg hid nonce coins hnonce h hsid addr hc]
  simp [Cloud.step, Cloud.handlerStep]

end Run

/-! ### The demo -/

/-- The gateways that the cloud of the demo knows. -/
def demoGatewayKeys (table : ℕ → Option Json) : KeyRegistry (ideal table) where
  keys id := if id = lit "gw-01" then some Demo.gatewayKey
    else if id = lit "gw-02" then some (.name ⟨.gateway, 1⟩) else none
  key_len {id k} h := by
    split_ifs at h
    · cases h
      rfl
    · cases h
      rfl

/-- The cloud of the demo. -/
def demoCloud (table : ℕ → Option Json) : Cloud.CloudConfig (ideal table) :=
  ⟨lit "cloud-01", Demo.cloudKey, demoGatewayKeys table⟩

/-- The session key of the `n`-th encapsulation to the cloud of the demo. -/
def demoKey (n : ℕ) : Bytes := .kdf (.ss (.pub Demo.cloudKey) (Demo.coins n))

/-- The request of the gateway of the demo. -/
def demoRequest : JsonDict :=
  [(lit "type", .str msgMlkemRequestPubkey), (lit "gateway_id", .str (lit "gw-01")),
    (lit "auth_nonce", .str (Ideal.code (Demo.nonce 0))),
    (lit "auth_tag", .str (Ideal.code (.aead Demo.gatewayKey (Demo.nonce 0) (.data (.text []))
      (.data (.text (dumps (fun _ => lit "0.0") (.obj [(lit "gateway_id", .str (lit "gw-01")),
        (lit "scope", .str (lit "gateway-cloud-handshake"))])))))))]

/-- The `n`-th encapsulation of the gateway of the demo, sent as session `sid`. -/
def demoEncaps (n : ℕ) (sid : PyStr) : JsonDict :=
  [(lit "type", .str msgMlkemEncaps), (lit "gateway_id", .str (lit "gw-01")),
    (lit "session_id", .str sid),
    (lit "ciphertext", .str (Ideal.code (.ct (.pub Demo.cloudKey) (Demo.coins n))))]

/-- The session id of the first session of the demo. -/
def demoSessionId : PyStr := lit "ffeeddccbbaa9988"

/-- A channel on the first session of the demo. -/
def demoChannel : Gateway.CloudChannel Bytes :=
  Gateway.publish { Gateway.CloudChannel.new with state := .established } demoSessionId
    (demoKey 0) 0

/-- An attempt of the gateway of the demo that reaches the cloud of the demo. -/
def demoAttempt (table : ℕ → Option Json) (n : ℕ) : Gateway.Attempt Bytes :=
  honestAttempt (demoCloud table) (lit "00112233aabbccdd") (Demo.nonce 0) (Demo.coins n) n

/-- A record with the reading of a device. -/
def demoRecord (deviceId : Json) (sequence : ℤ) : Json :=
  .obj [(lit "device_id", deviceId), (lit "timestamp", .str (lit "2026-01-01T00:00:00")),
    (lit "temperature_c", .int 21), (lit "sequence", .int sequence)]

/-- The record `r` as a protected message on the `n`-th session. -/
def demoReading (n r : ℕ) (sid : PyStr) : JsonDict :=
  [(lit "type", .str msgProtectedReading), (lit "session_id", .str sid),
    (lit "nonce", .str (Ideal.code (Demo.nonce 1))),
    (lit "ciphertext", .str (Ideal.code (.aead (demoKey n) (Demo.nonce 1) (.data (.record r))
      (.data (.text sid)))))]

/-- The address of every peer of the demo. -/
def demoAddr : ℕ → Cloud.Addr := fun c => ⟨lit "10.0.0.7", 40000 + c⟩

section Demo

variable (table : ℕ → Option Json) {c : ℕ} {sid : PyStr} (hsid : sid ≠ [])
  {s : Cloud.ServerState Bytes} (hc : s.phase c = .new)

lemma requestMessage_demo :
    Gateway.requestMessage (ideal table) Gateway.demoGateway (Demo.nonce 0) = .ok demoRequest :=
  rfl

lemma exchange_demoAttempt (n : ℕ) :
    Gateway.exchange (ideal table) Gateway.demoGateway (demoAttempt table n)
      = .ok (.ss (.pub Demo.cloudKey) (Demo.coins n)) :=
  exchange_honestAttempt Gateway.demoGateway (demoCloud table) (ideal_lawful table) rfl
    (show lit "cloud-01" ≠ [] by decide) rfl (by decide) (by decide) (Demo.nonce 0) (Demo.coins n) n

include hsid

lemma decryptProtectedReading_demoReading (hvalid : validUnicode sid = true) (n r : ℕ) :
    Cloud.decryptProtectedReading (ideal table) (demoReading n r sid) (demoKey n) sid
      = Cloud.parseDecrypted (ideal table) (.data (.record r)) := by
  refine decryptProtectedReading_buildProtectedReading (ideal_lawful table) (Demo.nonce 1) rfl rfl
    hsid hvalid ?_
  simp only [Gateway.buildProtectedReading, sessionMessageAad, encodeUtf8, hvalid, if_true, ok_bind]
  rfl

lemma deriveSession_demoEncaps (n : ℕ) :
    Cloud.deriveSession (demoCloud table) (demoEncaps n sid) = .ok (sid, demoKey n) :=
  deriveSession_encapsMessage Gateway.demoGateway (demoCloud table) (ideal_lawful table) hsid
    (Demo.coins n)

include hc

lemma run_demoRegistration :
    run (Cloud.step (demoCloud table) demoAddr) s
        (registrationEvents c demoRequest (demoEncaps c sid))
      = ⟨Cloud.register (acceptedState (demoAddr c) s.shared) c (lit "gw-01") sid (demoKey c),
        Function.update s.phase c (.sendEstablished (lit "gw-01") sid (demoKey c))⟩ :=
  run_registration (ideal_lawful table) Gateway.demoGateway (demoCloud table) rfl (by decide)
    (Demo.nonce 0) (Demo.coins c) rfl (requestMessage_demo table) hsid demoAddr hc

lemma run_demoHandshake :
    run (Cloud.step (demoCloud table) demoAddr) s
        (handshakeEvents c demoRequest (demoEncaps c sid))
      = ⟨Cloud.register (acceptedState (demoAddr c) s.shared) c (lit "gw-01") sid (demoKey c),
        Function.update s.phase c (.receiving (lit "gw-01") sid (demoKey c))⟩ :=
  run_handshake (ideal_lawful table) Gateway.demoGateway (demoCloud table) rfl (by decide)
    (Demo.nonce 0) (Demo.coins c) rfl (requestMessage_demo table) hsid demoAddr hc

end Demo

end PqcBridge.Handshake
