/-
The messages of a device (`device/device.py`), and the gateway that reads them.

* `parseHello_buildHello`, `evaluateHello_buildHello`: the gateway admits a registered
  device with the capability of the legacy path;
* `decryptLegacyMessage_legacyReading`: it accepts the readings of that device.
-/
import PqcBridge.Gateway.Moves
import PqcBridge.Handshake.Honest

namespace PqcBridge.Device

open Python Protocol Crypto

variable {B : Type} (P : Primitives B)

/-- The hello that `run` sends. -/
def helloMessage (deviceId : PyStr) (key nonce : B) : Py JsonDict :=
  buildHello P deviceId [.str capChacha20Poly1305] key nonce

/-- The message that `run` sends for a reading. -/
def legacyReading (deviceId : PyStr) (key : B) (sequence : ℤ) (plaintext nonce : B) :
    Py JsonDict := do
  let aad ← legacyMessageAad P deviceId sequence
  let envelope ← encryptLegacyPayload P key plaintext aad nonce
  return [(lit "type", .str msgLegacyReading), (lit "device_id", .str deviceId),
    (lit "seq", .int sequence)] ++ envelope

variable {P} (hP : P.Lawful) {deviceId : PyStr} {key nonce : B} (hkey : P.len key = keyLength)
  (hnonce : P.len nonce = nonceLength)

lemma helloMessage_eq (hkey : P.len key = keyLength) : helloMessage P deviceId key nonce = .ok
    [(lit "type", .str msgHello), (lit "device_id", .str deviceId),
      (lit "capabilities", .arr [.str capChacha20Poly1305]),
      (lit "auth_nonce", .str (P.b64encode nonce)),
      (lit "auth_tag", .str (P.b64encode (P.encrypt key nonce (emptyBytes P)
        (helloClaimsBytes P (.str deviceId) (.arr [.str capChacha20Poly1305])))))] := by
  simp [helloMessage, buildHello, authFields, chacha_eq_ok hkey]

lemma legacyReading_eq (hkey : P.len key = keyLength) (hid : validUnicode deviceId = true)
    (sequence : ℤ) (plaintext : B) : legacyReading P deviceId key sequence plaintext nonce = .ok
    [(lit "type", .str msgLegacyReading), (lit "device_id", .str deviceId),
      (lit "seq", .int sequence), (lit "nonce", .str (P.b64encode nonce)),
      (lit "ciphertext", .str (P.b64encode (P.encrypt key nonce plaintext
        (P.utf8 (deviceId ++ lit ":" ++ decimal sequence)))))] := by
  simp [legacyReading, legacyMessageAad, encodeUtf8, hid, encryptLegacyPayload, aeadEncrypt,
    chacha_eq_ok hkey]

include hP hkey hnonce

/-- The hello of a device is well formed. -/
lemma parseHello_buildHello (hid : deviceId ≠ []) {hello : JsonDict}
    (h : helloMessage P deviceId key nonce = .ok hello) :
    Gateway.parseHello hello = .ok ⟨hello, deviceId, [capChacha20Poly1305]⟩ := by
  rw [helloMessage_eq hkey, Except.ok.injEq] at h
  have htype : isStr (hello.field "type") msgHello = true := by
    rw [← h]
    rfl
  have hid' : requireStr hello "device_id" = .ok deviceId :=
    requireStr_eq_ok.2 ⟨by rw [← h]; rfl, hid⟩
  have hcaps : hello.field "capabilities" = some (.arr [.str capChacha20Poly1305]) := by
    rw [← h]
    rfl
  have hnonce' : requireStr hello "auth_nonce" = .ok (P.b64encode nonce) :=
    requireStr_eq_ok.2 ⟨by rw [← h]; rfl, Handshake.b64encode_ne_nil hP hnonce⟩
  have htag := requireStr_eq_ok (m := hello) (f := "auth_tag").2
    ⟨by rw [← h]; rfl, Handshake.b64encode_ne_nil hP (hP.encrypt_len _ _ _ _)⟩
  simp [Gateway.parseHello, htype, hid', hcaps, Gateway.capability, hnonce', htag]

/-- A device with its registered key is admitted to the legacy path. -/
lemma evaluateHello_buildHello {hello : JsonDict}
    (h : helloMessage P deviceId key nonce = .ok hello) :
    Gateway.evaluateHello P ⟨hello, deviceId, [capChacha20Poly1305]⟩ (some key)
      = .ok .allowFallback := by
  rw [helloMessage_eq hkey, Except.ok.injEq] at h
  have hverify : verifyHelloAuth P key hello = .ok () := by
    rw [← h]
    exact Handshake.verifyAuth_encrypt hP hkey hnonce _ _
  simp only [Gateway.evaluateHello, hverify]
  rfl

/-- A reading of the device is decrypted, and its plaintext is handed on as it is. -/
lemma decryptLegacyMessage_legacyReading (hid : validUnicode deviceId = true) {sequence : ℤ}
    {plaintext : B} {reading : JsonDict} (hparse : parseReadingBytes P plaintext = .ok reading)
    {m : JsonDict} (h : legacyReading P deviceId key sequence plaintext nonce = .ok m) :
    Gateway.decryptLegacyMessage P m key deviceId = .ok (plaintext, sequence) := by
  rw [legacyReading_eq hkey hid, Except.ok.injEq] at h
  have htype : isStr (m.field "type") msgLegacyReading = true := by
    rw [← h]
    rfl
  have hid' : isStr (m.field "device_id") deviceId = true := by
    rw [← h]
    exact decide_eq_true rfl
  have hseq : requireInt m "seq" = .ok sequence := requireInt_eq_ok.2 (by rw [← h]; rfl)
  have haad : legacyMessageAad P deviceId sequence
      = .ok (P.utf8 (deviceId ++ lit ":" ++ decimal sequence)) := by
    simp [legacyMessageAad, encodeUtf8, hid]
  -- base64 gives back nonce and ciphertext
  have hn : envelopeField P .legacyDecryptionError m "nonce" = .ok nonce := by
    rw [← h]
    exact (show _ = b64d P (.str (P.b64encode nonce)) from rfl).trans
      (by simp [b64d, hP.b64_roundtrip])
  have hc : envelopeField P .legacyDecryptionError m "ciphertext" = .ok (P.encrypt key nonce
      plaintext (P.utf8 (deviceId ++ lit ":" ++ decimal sequence))) := by
    rw [← h]
    exact (show _ = b64d P (.str (P.b64encode (P.encrypt key nonce plaintext
      (P.utf8 (deviceId ++ lit ":" ++ decimal sequence))))) from rfl).trans
      (by simp [b64d, hP.b64_roundtrip])
  have hdecrypt : decryptLegacyPayload P key m (P.utf8 (deviceId ++ lit ":" ++ decimal sequence))
      = .ok plaintext := by
    simp [decryptLegacyPayload, aeadDecrypt, hn, hc, hnonce, chacha_eq_ok hkey,
      hP.decrypt_encrypt _ _ _ _ hkey hnonce]
  have hcheck : Gateway.checkReading P plaintext = .ok () := by
    simp [Gateway.checkReading, hparse]
  simp only [Gateway.decryptLegacyMessage, htype, hid', hseq, haad, hdecrypt, hcheck, ok_bind,
    pure_eq_ok, Bool.not_true, Bool.false_eq_true, if_false]

omit hP hkey hnonce

/-! ### The demo -/

/-- The devices that the gateway of the demo knows. -/
def demoDeviceKeys (table : ℕ → Option Json) : KeyRegistry (ideal table) where
  keys id := if id = lit "dev-01" then some (Demo.deviceKey 1)
    else if id = lit "dev-02" then some (Demo.deviceKey 2) else none
  key_len {id k} h := by
    split_ifs at h
    · cases h
      rfl
    · cases h
      rfl

/-- The hello of device `deviceId`, under the key of device `n`. -/
def demoHello (deviceId : PyStr) (n : ℕ) : JsonDict :=
  [(lit "type", .str msgHello), (lit "device_id", .str deviceId),
    (lit "capabilities", .arr [.str capChacha20Poly1305]),
    (lit "auth_nonce", .str (Ideal.code (Demo.nonce 0))),
    (lit "auth_tag", .str (Ideal.code (.aead (Demo.deviceKey n) (Demo.nonce 0) (.data (.text []))
      (helloClaimsBytes (ideal fun _ => none) (.str deviceId)
        (.arr [.str capChacha20Poly1305])))))]

/-- The associated data of a reading. -/
def demoAad (deviceId : PyStr) (sequence : ℤ) : Bytes :=
  .data (.text (deviceId ++ lit ":" ++ decimal sequence))

/-- The record `r` as a reading of device `deviceId`, under the key of device `n`. -/
def demoLegacy (deviceId : PyStr) (n : ℕ) (sequence : ℤ) (r : ℕ) : JsonDict :=
  [(lit "type", .str msgLegacyReading), (lit "device_id", .str deviceId),
    (lit "seq", .int sequence), (lit "nonce", .str (Ideal.code (Demo.nonce 0))),
    (lit "ciphertext", .str (Ideal.code (.aead (Demo.deviceKey n) (Demo.nonce 0)
      (.data (.record r)) (demoAad deviceId sequence))))]

/-- The records of the demo: a reading of the first device, one in the name of the second
device, and one of the second device. -/
def demoTable : ℕ → Option Json
  | 1 => some (Handshake.demoRecord (.str (lit "dev-01")) 1)
  | 2 => some (Handshake.demoRecord (.str (lit "dev-02")) 7)
  | 3 => some (Handshake.demoRecord (.str (lit "dev-02")) 1)
  | _ => none

end PqcBridge.Device
