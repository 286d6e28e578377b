/-
The size limit on the two hops.

`read_message` takes lines of at most `MAX_MESSAGE_BYTES`, on both hops, and
`encode_message` does not look at the length of what it writes.  A reading is wrapped in
one envelope by its device and in another one by the gateway.

* `length_protected`, `length_legacy`: how long the two lines are;
* `fits_cloud_iff`: the line of the gateway is within the limit exactly where the reading
  has at most 49058 bytes;
* `fits_cloud_of_legacy`: this is so wherever the line of the device is within the limit
  and its device id and its sequence take ten characters or more.
-/
import PqcBridge.Common.Octets
import PqcBridge.System.Isolation

namespace PqcBridge.SizeLimit

open Python Protocol Crypto

/-! ### Text that `json.dumps` leaves alone -/

/-- The character is written as it is. -/
def IsPlain (c : PyChar) : Prop := escapeChar c = [c]

lemma isPlain_of_isBase64 {x : Char} (h : Base64.IsBase64 x) : IsPlain (.char x) := by
  have hne : x.toNat ≠ 34 ∧ x.toNat ≠ 92 ∧ 32 ≤ x.toNat ∧ x.toNat ≤ 126 := by
    unfold Base64.IsBase64 at h
    omega
  obtain ⟨h₁, h₂, h₃, h₄⟩ := hne
  have hcontrol : x.toNat ≠ 10 ∧ x.toNat ≠ 13 ∧ x.toNat ≠ 9 ∧ x.toNat ≠ 8 ∧ x.toNat ≠ 12 := by
    omega
  simp [IsPlain, escapeChar, h₁, h₂, hcontrol, h₃, h₄]

lemma isPlain_hexDigit : ∀ n < 16, IsPlain (hexDigit n) := by
  have h : ∀ n < 16, escapeChar (hexDigit n) = [hexDigit n] := by decide
  exact h

lemma length_flatMap_escapeChar {s : PyStr} (h : ∀ c ∈ s, IsPlain c) :
    (s.flatMap escapeChar).length = s.length := by
  induction s with
  | nil => rfl
  | cons c s ih =>
    have hc : escapeChar c = [c] := h c List.mem_cons_self
    rw [List.flatMap_cons, hc, List.length_append, ih fun d hd => h d (List.mem_cons_of_mem c hd)]
    simp [Nat.add_comm]

lemma length_dumpsStr {s : PyStr} (h : ∀ c ∈ s, IsPlain c) :
    (dumpsStr s).length = s.length + 2 := by
  rw [dumpsStr, List.length_cons, List.length_append, length_flatMap_escapeChar h]
  rfl

/-! ### The two envelopes -/

variable {B : Type} {P : Primitives B}

/-- The documented sizes: ChaCha20-Poly1305 adds a tag of 16 bytes, and base64 writes three
bytes with four characters of its alphabet. -/
structure Sizes (P : Primitives B) : Prop where
  encrypt_len : ∀ k n p a, P.len (P.encrypt k n p a) = P.len p + 16
  b64_length : ∀ b, (P.b64encode b).length = 4 * ((P.len b + 2) / 3)
  b64_alphabet : ∀ b, ∀ c ∈ P.b64encode b, ∃ x, c = .char x ∧ Base64.IsBase64 x

lemma Sizes.length_dumpsStr (hP : Sizes P) (b : B) :
    (dumpsStr (P.b64encode b)).length = 4 * ((P.len b + 2) / 3) + 2 := by
  rw [SizeLimit.length_dumpsStr, hP.b64_length]
  intro c hc
  obtain ⟨x, rfl, hx⟩ := hP.b64_alphabet b c hc
  exact isPlain_of_isBase64 hx

/-- `secrets.token_hex(8)`: 16 hexadecimal digits. -/
def IsSessionId (sid : PyStr) : Prop := sid.length = 16 ∧ ∀ c ∈ sid, ∃ n < 16, c = hexDigit n

lemma IsSessionId.length_dumpsStr {sid : PyStr} (h : IsSessionId sid) :
    (dumpsStr sid).length = 18 := by
  rw [SizeLimit.length_dumpsStr, h.1]
  intro c hc
  obtain ⟨n, hn, rfl⟩ := h.2 c hc
  exact isPlain_hexDigit n hn

lemma IsSessionId.validUnicode {sid : PyStr} (h : IsSessionId sid) : validUnicode sid = true := by
  refine List.all_eq_true.2 fun c hc => ?_
  obtain ⟨n, -, rfl⟩ := h.2 c hc
  rfl

/-- The line of the gateway. -/
lemma length_protected (hP : Sizes P) {sid : PyStr} (hsid : IsSessionId sid) {nonce : B}
    (hnonce : P.len nonce = nonceLength) (c : B) :
    (encodeMessage P [(lit "type", .str msgProtectedReading), (lit "session_id", .str sid),
      (lit "nonce", .str (P.b64encode nonce)), (lit "ciphertext", .str (P.b64encode c))]).length
      = 104 + 4 * ((P.len c + 2) / 3) := by
  have hlits : (dumpsStr (lit "type")).length = 6 ∧ (dumpsStr msgProtectedReading).length = 19 ∧
      (dumpsStr (lit "session_id")).length = 12 ∧ (dumpsStr (lit "nonce")).length = 7 ∧
      (dumpsStr (lit "ciphertext")).length = 12 := by decide
  obtain ⟨h₁, h₂, h₃, h₄, h₅⟩ := hlits
  have hn : (dumpsStr (P.b64encode nonce)).length = 18 := by
    rw [hP.length_dumpsStr, hnonce]
    rfl
  have hpunct : (lit ":").length = 1 ∧ (lit ",").length = 1 ∧ (lit "\x7b").length = 1 ∧
      (lit "\x7d").length = 1 := by decide
  obtain ⟨hcolon, hcomma, hopen, hclose⟩ := hpunct
  simp only [encodeMessage, dumps, dumpsFields, List.length_append, List.length_cons,
    List.length_nil, h₁, h₂, h₃, h₄, h₅, hn, hsid.length_dumpsStr, hP.length_dumpsStr, hcolon,
    hcomma, hopen, hclose]
  omega

/-- The line of the device. -/
lemma length_legacy (hP : Sizes P) (d : PyStr) (n : ℤ) {nonce : B}
    (hnonce : P.len nonce = nonceLength) (c : B) :
    (encodeMessage P [(lit "type", .str msgLegacyReading), (lit "device_id", .str d),
      (lit "seq", .int n), (lit "nonce", .str (P.b64encode nonce)),
      (lit "ciphertext", .str (P.b64encode c))]).length
      = 89 + (dumpsStr d).length + (decimal n).length + 4 * ((P.len c + 2) / 3) := by
  have hlits : (dumpsStr (lit "type")).length = 6 ∧ (dumpsStr msgLegacyReading).length = 16 ∧
      (dumpsStr (lit "device_id")).length = 11 ∧ (dumpsStr (lit "seq")).length = 5 ∧
      (dumpsStr (lit "nonce")).length = 7 ∧ (dumpsStr (lit "ciphertext")).length = 12 := by decide
  obtain ⟨h₁, h₂, h₃, h₄, h₅, h₆⟩ := hlits
  have hn : (dumpsStr (P.b64encode nonce)).length = 18 := by
    rw [hP.length_dumpsStr, hnonce]
    rfl
  have hpunct : (lit ":").length = 1 ∧ (lit ",").length = 1 ∧ (lit "\x7b").length = 1 ∧
      (lit "\x7d").length = 1 := by decide
  obtain ⟨hcolon, hcomma, hopen, hclose⟩ := hpunct
  simp only [encodeMessage, dumps, dumpsFields, List.length_append, List.length_cons,
    List.length_nil, h₁, h₂, h₃, h₄, h₅, h₆, hn, hP.length_dumpsStr, hcolon, hcomma, hopen, hclose]
  omega

/-! ### The limit -/

/-- The protected message of a reading is within the limit, so that the cloud reads it. -/
def FitsCloud (P : Primitives B) (readingBytes sessionKey : B) (sid : PyStr) (nonce : B) : Prop :=
  ∃ message, Gateway.buildProtectedReading P readingBytes sessionKey sid nonce = .ok message ∧
    (encodeMessage P message).length ≤ maxMessageBytes ∧
      Isolation.delivered P message = .message message

/-- **The limit on the second hop.**  Whatever message it came in, the line of the gateway
is within the limit exactly where the reading has at most 49058 bytes. -/
theorem fits_cloud_iff (hP : Sizes P) (readingBytes : B) {sessionKey : B}
    (hkey : P.len sessionKey = keyLength) {sid : PyStr} (hsid : IsSessionId sid) {nonce : B}
    (hnonce : P.len nonce = nonceLength) :
    FitsCloud P readingBytes sessionKey sid nonce ↔ P.len readingBytes ≤ 49058 := by
  have hbuild : Gateway.buildProtectedReading P readingBytes sessionKey sid nonce = .ok
      [(lit "type", .str msgProtectedReading), (lit "session_id", .str sid),
        (lit "nonce", .str (P.b64encode nonce)),
        (lit "ciphertext", .str (P.b64encode
          (P.encrypt sessionKey nonce readingBytes (P.utf8 sid))))] := by
    simp [Gateway.buildProtectedReading, sessionMessageAad, encodeUtf8, hsid.validUnicode,
      encryptSessionPayload, aeadEncrypt, chacha_eq_ok hkey]
  have hlen := length_protected hP hsid hnonce
    (P.encrypt sessionKey nonce readingBytes (P.utf8 sid))
  rw [hP.encrypt_len] at hlen
  unfold FitsCloud
  rw [hbuild]
  generalize ([(lit "type", .str msgProtectedReading), (lit "session_id", .str sid),
    (lit "nonce", .str (P.b64encode nonce)), (lit "ciphertext", .str (P.b64encode
      (P.encrypt sessionKey nonce readingBytes (P.utf8 sid))))] : JsonDict) = message at hlen ⊢
  -- base64 makes 4 characters out of 3 bytes; the rest of the line is 104 characters
  have hfits : (encodeMessage P message).length ≤ maxMessageBytes ↔ P.len readingBytes ≤ 49058 := by
    rw [hlen, maxMessageBytes]
    omega
  constructor
  · rintro ⟨message', hmessage, hle, -⟩
    obtain rfl := Except.ok.inj hmessage
    exact hfits.1 hle
  · intro h
    exact ⟨message, rfl, hfits.2 h, if_pos (hfits.2 h)⟩

/-- Where the line of a device is within the limit, and its device id, in quotes, and its
sequence take 12 characters or more, the line of the gateway is within the limit as well. -/
theorem fits_cloud_of_legacy (hP : Sizes P) {d : PyStr} {key : B} {n : ℤ} {readingBytes : B}
    {nonce : B} {m : JsonDict} (hd : validUnicode d = true) (hkey : P.len key = keyLength)
    (hnonce : P.len nonce = nonceLength)
    (hm : Device.legacyReading P d key n readingBytes nonce = .ok m)
    (hline : (encodeMessage P m).length ≤ maxMessageBytes)
    (hhead : 12 ≤ (dumpsStr d).length + (decimal n).length) {sessionKey : B}
    (hsession : P.len sessionKey = keyLength) {sid : PyStr} (hsid : IsSessionId sid) {nonce' : B}
    (hnonce' : P.len nonce' = nonceLength) : FitsCloud P readingBytes sessionKey sid nonce' := by
  rw [Device.legacyReading_eq hkey hd, Except.ok.injEq] at hm
  rw [← hm, length_legacy hP d n hnonce, hP.encrypt_len, maxMessageBytes] at hline
  refine (fits_cloud_iff hP readingBytes hsession hsid hnonce').2 ?_
  omega

/-- Every reading that is read and accepted on the first hop fits on the second one. -/
def LimitsAgree (deviceKeys : KeyRegistry P) : Prop :=
  ∀ d key m readingBytes n sid sessionKey nonce, deviceKeys.keys d = some key →
    Isolation.delivered P m = .message m →
      Gateway.decryptLegacyMessage P m key d = .ok (readingBytes, n) → 1 ≤ n → IsSessionId sid →
        P.len sessionKey = keyLength → P.len nonce = nonceLength →
          FitsCloud P readingBytes sessionKey sid nonce

/-! ### The demo -/

section Demo

open Octets

lemma sizes_octets (loads : Octets → Except LoadsError Json) : Sizes (octets loads) where
  encrypt_len := (octets_lawful loads).encrypt_len
  b64_length b := by
    show ((Base64.encode b).map PyChar.char).length = _
    rw [List.length_map, Base64.length_encode]
    rfl
  b64_alphabet b c hc := by
    obtain ⟨x, hx, rfl⟩ := List.mem_map.1 (show c ∈ (Base64.encode b).map PyChar.char from hc)
    exact ⟨x, rfl, Base64.encode_mem hx⟩

/-- The session id of the demo. -/
lemma isSessionId_demo : IsSessionId Handshake.demoSessionId := by
  have h : ∀ c ∈ Handshake.demoSessionId, ∃ n < 16, c = hexDigit n := by decide +kernel
  exact ⟨rfl, h⟩

/-- A reading of the first device, with `k` characters in its time stamp. -/
def paddedReading (k : ℕ) : JsonDict :=
  [(lit "device_id", .str (lit "dev-01")), (lit "timestamp", .str (List.replicate k (.char 'x'))),
    (lit "temperature_c", .float (.finite 21)), (lit "sequence", .int 1)]

/-- Its text. -/
def paddedText (k : ℕ) : PyStr := dumps (fun _ => lit "21.0") (.obj (paddedReading k))

/-- Its bytes. -/
def paddedBytes (k : ℕ) : Octets := (paddedText k).flatMap utf8Char

/-- The primitives over lists of bytes, where `json.loads` reads the bytes of this reading. -/
def padded (k : ℕ) : Primitives Octets :=
  octets fun b => if b = paddedBytes k then .ok (.obj (paddedReading k)) else .error .valueError

/-- The padding is written as it is. -/
lemma dumpsStr_replicate (k : ℕ) : dumpsStr (List.replicate k (.char 'x'))
    = lit "\"" ++ (List.replicate k (.char 'x') ++ lit "\"") := by
  have hpad : (List.replicate k (PyChar.char 'x')).flatMap escapeChar
      = List.replicate k (.char 'x') := by
    induction k with
    | zero => rfl
    | succ k ih =>
      rw [List.replicate_succ, List.flatMap_cons, ih]
      rfl
  rw [dumpsStr, hpad]
  rfl

lemma length_paddedBytes (k : ℕ) : (paddedBytes k).length = 71 + k := by
  have hascii : isAscii (List.replicate k (PyChar.char 'x')) = true := by
    simp [isAscii, PyChar.isAscii]
  have hpieces : isAscii (lit "\"") = true ∧ isAscii (lit ":") = true ∧ isAscii (lit ",") = true ∧
      isAscii (lit "\x7b") = true ∧ isAscii (lit "\x7d") = true ∧ isAscii (lit "21.0") = true ∧
      isAscii (decimal 1) = true := by decide
  have hstrs : isAscii (dumpsStr (lit "device_id")) = true
      ∧ isAscii (dumpsStr (lit "dev-01")) = true
      ∧ isAscii (dumpsStr (lit "timestamp")) = true
      ∧ isAscii (dumpsStr (lit "temperature_c")) = true
      ∧ isAscii (dumpsStr (lit "sequence")) = true := by decide
  have htext : isAscii (paddedText k) = true := by
    simp only [paddedText, paddedReading, dumps, dumpsFields, dumpsStr_replicate, isAscii_append,
      hascii, hpieces, hstrs, Bool.and_self]
  rw [paddedBytes, length_utf8 htext]
  -- the pieces of the text are counted one by one
  have hlengths : (lit "\"").length = 1 ∧ (lit ":").length = 1 ∧ (lit ",").length = 1 ∧
      (lit "\x7b").length = 1 ∧ (lit "\x7d").length = 1 ∧ (lit "21.0").length = 4 ∧
      (decimal 1).length = 1 := by decide
  have hstrlengths : (dumpsStr (lit "device_id")).length = 11 ∧
      (dumpsStr (lit "dev-01")).length = 8 ∧ (dumpsStr (lit "timestamp")).length = 11 ∧
      (dumpsStr (lit "temperature_c")).length = 15 ∧ (dumpsStr (lit "sequence")).length = 10 := by
    decide
  simp only [paddedText, paddedReading, dumps, dumpsFields, dumpsStr_replicate, List.length_append,
    List.length_replicate, hlengths, hstrlengths]
  omega

lemma padded_lawful (k : ℕ) : (padded k).Lawful := octets_lawful _

/-- The devices of the demo. -/
def paddedKeys (k : ℕ) : KeyRegistry (padded k) where
  keys id := if id = lit "dev-01" then some (zeros 32) else none
  key_len {id key} h := by
    split_ifs at h
    obtain rfl := Option.some.inj h
    exact length_zeros 32

lemma paddedKeys_keys (k : ℕ) : (paddedKeys k).keys (lit "dev-01") = some (zeros 32) := by
  simp only [paddedKeys, if_true]

/-- The first device sends the reading in a line that the gateway reads, and the gateway
accepts it. -/
lemma padded_accepted {k : ℕ} (hk : 4 * ((k + 89) / 3) ≤ 65438) :
    ∃ m, Isolation.delivered (padded k) m = .message m ∧
      Gateway.decryptLegacyMessage (padded k) m (zeros 32) (lit "dev-01")
        = .ok (paddedBytes k, 1) := by
  have hkey : (padded k).len (zeros 32) = keyLength := length_zeros 32
  have hnonce : (padded k).len (zeros 12) = nonceLength := length_zeros 12
  have hd : validUnicode (lit "dev-01") = true := validUnicode_lit _
  have hm : Device.legacyReading (padded k) (lit "dev-01") (zeros 32) 1 (paddedBytes k) (zeros 12)
      = .ok _ := Device.legacyReading_eq hkey hd 1 (paddedBytes k)
  have hline := length_legacy (sizes_octets _) (P := padded k) (lit "dev-01") 1 hnonce
    ((padded k).encrypt (zeros 32) (zeros 12) (paddedBytes k)
      ((padded k).utf8 (lit "dev-01" ++ lit ":" ++ decimal 1)))
  generalize ([(lit "type", .str msgLegacyReading), (lit "device_id", .str (lit "dev-01")),
    (lit "seq", .int 1), (lit "nonce", .str ((padded k).b64encode (zeros 12))),
    (lit "ciphertext", .str ((padded k).b64encode ((padded k).encrypt (zeros 32) (zeros 12)
      (paddedBytes k) ((padded k).utf8 (lit "dev-01" ++ lit ":" ++ decimal 1)))))] : JsonDict) = m
    at hm hline
  refine ⟨m, if_pos ?_, ?_⟩
  · have hlen : (padded k).len (paddedBytes k) = 71 + k := length_paddedBytes k
    have hhead : (dumpsStr (lit "dev-01")).length = 8 ∧ (decimal 1).length = 1 := by decide
    rw [hline, (padded_lawful k).encrypt_len, hlen, hhead.1, hhead.2, maxMessageBytes]
    omega
  · have hloads : (padded k).loads (paddedBytes k) = .ok (.obj (paddedReading k)) := if_pos rfl
    have hparse : parseReadingBytes (padded k) (paddedBytes k) = .ok (paddedReading k) := by
      rw [parseReadingBytes, hloads]
      rfl
    exact Device.decryptLegacyMessage_legacyReading (padded_lawful k) hkey hnonce hd hparse hm

/-- A reading without padding. -/
theorem fits_cloud_demo :
    FitsCloud (padded 0) (paddedBytes 0) (zeros 32) Handshake.demoSessionId (zeros 12) := by
  have hlen : (padded 0).len (paddedBytes 0) = 71 + 0 := length_paddedBytes 0
  refine (fits_cloud_iff (sizes_octets _) (P := padded 0) _ (length_zeros 32) isSessionId_demo
    (length_zeros 12)).2 ?_
  rw [hlen]
  decide

/-- A reading of 49059 bytes is accepted in a line of 65534 bytes, and would take a line of
65540 bytes to the cloud. -/
theorem limits_disagree : ¬ LimitsAgree (paddedKeys 48988) := by
  intro h
  obtain ⟨m, hread, hdecrypt⟩ := padded_accepted (k := 48988) (by decide)
  have hfits := h (lit "dev-01") (zeros 32) m _ 1 _ (zeros 32) (zeros 12)
    (paddedKeys_keys 48988) hread hdecrypt le_rfl isSessionId_demo (length_zeros 32)
    (length_zeros 12)
  have hle := (fits_cloud_iff (sizes_octets _) (P := padded 48988) _ (length_zeros 32)
    isSessionId_demo (length_zeros 12)).1 hfits
  have hlen : (padded 48988).len (paddedBytes 48988) = 71 + 48988 := length_paddedBytes 48988
  rw [hlen] at hle
  exact absurd hle (by decide)

end Demo

end PqcBridge.SizeLimit
