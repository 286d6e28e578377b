/-
What the validators of the protocol raise.

A validator is handed whatever a peer sent.  Whatever that is, `ProtocolError` is all
that comes out of the field checks and of base64 decoding; the checks of tags raise
`AuthenticationError`, and decryption raises the class it is given.
-/
import PqcBridge.Common.Crypto
import PqcBridge.Common.Ideal
import PqcBridge.Python.Raises

namespace PqcBridge

open Python Protocol Crypto

variable {B : Type} {P : Primitives B}

lemma requireStr_raises (m : JsonDict) (f : String) :
    OnlyRaises (requireStr m f) IsProtocolError := by
  unfold requireStr
  split
  · exact .ite (fun _ => onlyRaises_raise rfl) fun _ => onlyRaises_ok _
  · exact onlyRaises_raise rfl

lemma requireStr_eq_ok {m : JsonDict} {f : String} {s : PyStr} :
    requireStr m f = .ok s ↔ m.field f = some (.str s) ∧ s ≠ [] := by
  unfold requireStr
  split
  · next t h =>
    rw [h]
    split_ifs with ht
    · subst ht
      simp
    · constructor
      · intro hs
        cases hs
        exact ⟨rfl, ht⟩
      · rintro ⟨hs, -⟩
        cases hs
        rfl
  · next h =>
    constructor
    · intro hs
      cases hs
    · rintro ⟨hs, -⟩
      exact absurd hs (h s)

lemma requireInt_raises (m : JsonDict) (f : String) :
    OnlyRaises (requireInt m f) IsProtocolError := by
  unfold requireInt
  split
  · exact onlyRaises_ok _
  · exact onlyRaises_raise rfl

lemma requireInt_eq_ok {m : JsonDict} {f : String} {n : ℤ} :
    requireInt m f = .ok n ↔ m.field f = some (.int n) := by
  unfold requireInt
  split
  · next k h =>
    rw [h]
    constructor
    · intro hs
      cases hs
      rfl
    · intro hs
      cases hs
      rfl
  · next h =>
    constructor
    · intro hs
      cases hs
    · intro hs
      exact absurd hs (h n)

lemma item_eq_ok {m : JsonDict} {f : String} {v : Json} :
    m.item f = .ok v ↔ m.field f = some v := by
  unfold JsonDict.item
  split
  · next w h =>
    rw [h]
    constructor
    · intro hv
      cases hv
      rfl
    · intro hv
      cases hv
      rfl
  · next h =>
    rw [h]
    constructor
    · intro hv
      cases hv
    · intro hv
      cases hv

variable (P) in
lemma b64d_raises (v : Json) : OnlyRaises (b64d P v) IsProtocolError := by
  unfold b64d
  split
  · split
    · exact onlyRaises_ok _
    · exact onlyRaises_raise rfl
  · exact onlyRaises_raise rfl

variable (P) in
/-- Reading one field of an envelope: malformed base64 is a `ProtocolError`, a missing
field is of the class the caller gives. -/
lemma envelopeField_raises (cls : ExcClass) (m : JsonDict) (f : String) :
    OnlyRaises (envelopeField P cls m f) fun e => IsProtocolError e ∨ e.cls = cls := by
  unfold envelopeField
  split
  · exact (b64d_raises P _).mono fun e he => Or.inl he
  · exact onlyRaises_raise (Or.inr rfl)

lemma chacha_eq_ok {key : B} (h : P.len key = keyLength) : chacha P key = .ok () := by
  simp [chacha, h]

lemma b64d_eq_ok {v : Json} {data : B} (h : b64d P v = .ok data) :
    ∃ text, v = .str text ∧ P.b64decode text = some data := by
  unfold b64d at h
  split at h
  · next text =>
    split at h
    · next data' hdata =>
      cases h
      exact ⟨text, rfl, hdata⟩
    · cases h
  · cases h

/-- Decryption under a 32-byte key. -/
lemma aeadDecrypt_raises {key : B} (h : P.len key = keyLength) (m : JsonDict) (aad : B)
    (cls : ExcClass) :
    OnlyRaises (aeadDecrypt P key m aad cls) fun e => IsProtocolError e ∨ e.cls = cls := by
  refine (envelopeField_raises P cls m _).bind fun nonce _ => ?_
  refine (envelopeField_raises P cls m _).bind fun ciphertext _ => ?_
  refine .ite (fun _ => onlyRaises_raise (Or.inl rfl)) fun _ => ?_
  rw [chacha_eq_ok h, ok_bind]
  split
  · exact onlyRaises_ok _
  · exact onlyRaises_raise (Or.inr rfl)

/-- The check of a tag under a 32-byte key. -/
lemma verifyAuth_raises {key : B} (h : P.len key = keyLength) (nonce tag : Json) (claims : B)
    (what : String) :
    OnlyRaises (verifyAuth P key nonce tag claims what) fun e => e.cls = .authenticationError := by
  unfold verifyAuth
  split
  · exact onlyRaises_raise rfl
  · rw [chacha_eq_ok h, ok_bind]
    split
    · exact onlyRaises_ok _
    · exact onlyRaises_raise rfl

/-- A tag that passes the check opens under the key, with the claims. -/
lemma verifyAuth_eq_ok {key : B} {authNonce authTag : Json} {claims : B} {what : String}
    (h : verifyAuth P key authNonce authTag claims what = .ok ()) :
    ∃ nonce tag plaintext, b64d P authTag = .ok tag ∧
      P.decrypt key nonce tag claims = some plaintext := by
  unfold verifyAuth at h
  split at h
  · cases h
  · next nonce tag hdecode =>
    obtain ⟨nonce', -, hdecode⟩ := bind_eq_ok.1 hdecode
    obtain ⟨tag', htag, hdecode⟩ := bind_eq_ok.1 hdecode
    split_ifs at hdecode
    · cases hdecode
    cases hdecode
    obtain ⟨_, -, h⟩ := bind_eq_ok.1 h
    split at h
    · next p hp => exact ⟨nonce, tag, p, htag, hp⟩
    · cases h

/-- What decodes is a string. -/
lemma verifyAuth_opens {key : B} {authNonce authTag : Json} {claims : B} {what : String}
    (h : verifyAuth P key authNonce authTag claims what = .ok ()) :
    ∃ text tag nonce plaintext, authTag = .str text ∧ P.b64decode text = some tag ∧
      P.decrypt key nonce tag claims = some plaintext := by
  obtain ⟨nonce, tag, plaintext, htag, hopen⟩ := verifyAuth_eq_ok h
  obtain ⟨text, htext, hdecode⟩ := b64d_eq_ok htag
  exact ⟨text, tag, nonce, plaintext, htext, hdecode, hopen⟩

/-- The tag of a hello that passes the check opens with the claims of the hello. -/
lemma verifyHelloAuth_opens {key : B} {m : JsonDict} {deviceId capabilities : Json}
    (hd : m.field "device_id" = some deviceId) (hcaps : m.field "capabilities" = some capabilities)
    (h : verifyHelloAuth P key m = .ok ()) :
    ∃ text tag nonce plaintext, m.field "auth_tag" = some (.str text) ∧
      P.b64decode text = some tag ∧
      P.decrypt key nonce tag (helloClaimsBytes P deviceId capabilities) = some plaintext := by
  unfold verifyHelloAuth at h
  split at h
  · next htag hd' hcaps' =>
    rw [hd, Option.some.injEq] at hd'
    rw [hcaps, Option.some.injEq] at hcaps'
    rw [← hd', ← hcaps'] at h
    obtain ⟨text, tag, nonce, plaintext, htext, hdecode, hopen⟩ := verifyAuth_opens h
    exact ⟨text, tag, nonce, plaintext, by rw [htag, htext], hdecode, hopen⟩
  · cases h

/-- The ciphertext of an envelope that decrypts opens. -/
lemma aeadDecrypt_opens {key aad plaintext : B} {m : JsonDict} {cls : ExcClass}
    (h : aeadDecrypt P key m aad cls = .ok plaintext) :
    ∃ text ciphertext nonce, m.field "ciphertext" = some (.str text) ∧
      P.b64decode text = some ciphertext ∧ P.decrypt key nonce ciphertext aad = some plaintext := by
  obtain ⟨nonce, -, h⟩ := bind_eq_ok.1 h
  obtain ⟨ciphertext, hc, h⟩ := bind_eq_ok.1 h
  split_ifs at h
  · cases h
  obtain ⟨_, -, h⟩ := bind_eq_ok.1 h
  unfold envelopeField at hc
  split at hc
  · next v hv =>
    obtain ⟨text, rfl, hdecode⟩ := b64d_eq_ok hc
    split at h
    · next p hp =>
      cases h
      exact ⟨text, ciphertext, nonce, hv, hdecode, hp⟩
    · cases h
  · cases hc

variable (P) in
lemma loadPublicKey_raises (data : B) : OnlyRaises (loadPublicKey P data) IsProtocolError :=
  .ite (fun _ => onlyRaises_ok _) fun _ => onlyRaises_raise rfl

variable (P) in
/-- What `read_message` raises. -/
lemma readOutcome_raises (o : ReadOutcome) :
    OnlyRaises o.result fun e =>
      IsProtocolError e ∨ e.cls = .connectionClosedError ∧ o = .closed ∨ e.cls = .osError := by
  cases o with
  | message m => exact onlyRaises_ok _
  | malformed msg => exact onlyRaises_raise (Or.inl rfl)
  | closed => exact onlyRaises_raise (Or.inr (Or.inl ⟨rfl, rfl⟩))
  | osError msg => exact onlyRaises_raise (Or.inr (Or.inr rfl))

lemma readOutcome_eq_ok {o : ReadOutcome} {m : JsonDict} (h : o.result = .ok m) :
    o = .message m := by
  cases o with
  | message m' =>
    cases h
    rfl
  | _ => cases h

/-! ### What opens in the symbolic model -/

open Symbolic in
/-- A ciphertext that decrypts is an encryption under that key, with that associated
data. -/
lemma Ideal.decrypt_eq_some {key nonce c aad p : Bytes}
    (h : Ideal.decrypt key nonce c aad = some p) : c = .aead key nonce p aad := by
  cases c with
  | aead k n p' a =>
    rw [Ideal.decrypt] at h
    split_ifs at h with heq
    obtain ⟨rfl, rfl, rfl⟩ := heq
    cases h
    rfl
  | _ => cases h

open Symbolic in
/-- The ciphertext of an envelope that decrypts. -/
lemma aeadDecrypt_ideal {table : ℕ → Option Json} {key aad b : Bytes} {m : JsonDict}
    {cls : ExcClass} (h : aeadDecrypt (ideal table) key m aad cls = .ok b) :
    (∃ nonce, envelopeField (ideal table) cls m "nonce" = .ok nonce) ∧
      ∃ nonce, envelopeField (ideal table) cls m "ciphertext" = .ok (.aead key nonce b aad) := by
  obtain ⟨nonce, hnonce, h⟩ := bind_eq_ok.1 h
  obtain ⟨c, hc, h⟩ := bind_eq_ok.1 h
  refine ⟨⟨nonce, hnonce⟩, nonce, ?_⟩
  split_ifs at h
  · cases h
  obtain ⟨_, -, h⟩ := bind_eq_ok.1 h
  split at h
  · next p hp =>
    cases h
    rw [hc, Ideal.decrypt_eq_some hp]
  · cases h

open Symbolic in
/-- What opens is what the message carries. -/
lemma opens_of_ciphertext {table : ℕ → Option Json} {m : JsonDict} {key nonce b aad : Bytes}
    (hc : m.field "ciphertext" = some (.str (Ideal.code (.aead key nonce b aad))))
    {cls : ExcClass} {key' aad' b' : Bytes}
    (h : aeadDecrypt (ideal table) key' m aad' cls = .ok b') :
    key' = key ∧ aad' = aad ∧ b' = b := by
  obtain ⟨-, n, hopen⟩ := aeadDecrypt_ideal h
  have hfield : envelopeField (ideal table) cls m "ciphertext" = .ok (.aead key nonce b aad) := by
    have hdecode : (ideal table).b64decode (Ideal.code (.aead key nonce b aad))
        = some (.aead key nonce b aad) := Ideal.decode_code _
    simp only [envelopeField, hc, b64d, hdecode]
  rw [hfield] at hopen
  cases hopen
  exact ⟨rfl, rfl, rfl⟩

end PqcBridge
