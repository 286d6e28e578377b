/-
The authenticated contexts do not collide.

The same device key authenticates hellos and readings, and the gateway key the requests of the
gateway, each over bytes that are built from a text.

* `contexts_unambiguous`: each of the three encodings is injective on valid Unicode, and no
  output of one is an output of another.
-/
import PqcBridge.Common.Encoding
import PqcBridge.Common.Octets

namespace PqcBridge

open Python Protocol

/-! ### The claim of a gateway -/

section

variable (floatText : PyFloat → PyStr)

/-- The text of the identity claim of a gateway. -/
def gatewayClaims (gatewayId : PyStr) : PyStr :=
  dumps floatText (.obj
    [(lit "gateway_id", .str gatewayId), (lit "scope", .str (lit "gateway-cloud-handshake"))])

lemma gatewayClaims_eq (gatewayId : PyStr) :
    gatewayClaims floatText gatewayId
      = lit "\x7b\"gateway_id\":" ++ (dumpsStr gatewayId
        ++ lit ",\"scope\":\"gateway-cloud-handshake\"\x7d") := by
  have hkey : dumpsStr (lit "gateway_id") = lit "\"gateway_id\"" := by decide
  have hkey' : dumpsStr (lit "scope") = lit "\"scope\"" := by decide
  have hscope : dumpsStr (lit "gateway-cloud-handshake") = lit "\"gateway-cloud-handshake\"" := by
    decide
  simp only [gatewayClaims, dumps, dumpsFields, hkey, hkey', hscope]
  simp [lit]

theorem gatewayClaims_injective {g g' : PyStr} (hg : Loadable g) (hg' : Loadable g')
    (h : gatewayClaims floatText g = gatewayClaims floatText g') : g = g' := by
  rw [gatewayClaims_eq, gatewayClaims_eq] at h
  exact (dumpsStr_append_cancel hg hg' (List.append_cancel_left h)).1

lemma validUnicode_gatewayClaims (g : PyStr) :
    validUnicode (gatewayClaims floatText g) = true := by
  rw [gatewayClaims_eq]
  simp only [validUnicode_append, validUnicode_lit, validUnicode_dumpsStr, Bool.and_self]

lemma gatewayClaims_getLast? (g : PyStr) :
    (gatewayClaims floatText g).getLast? = some (.char (Char.ofNat 125)) := by
  rw [gatewayClaims_eq, List.getLast?_append, List.getLast?_append]
  rfl

/-- The two claims differ in the first letter of their first key. -/
theorem helloClaims_ne_gatewayClaims (d : PyStr) (caps : List PyStr) (g : PyStr) :
    helloClaims floatText d caps ≠ gatewayClaims floatText g := by
  intro h
  rw [helloClaims_eq, gatewayClaims_eq] at h
  have hthird := congrArg (fun t : PyStr => t[2]?) h
  simp [lit] at hthird

/-- The claim of a gateway ends with a brace, the associated data of a reading with a digit. -/
theorem gatewayClaims_ne_legacyAad (g d : PyStr) (n : ℤ) :
    gatewayClaims floatText g ≠ legacyAad d n :=
  ne_legacyAad (gatewayClaims_getLast? floatText g) d n

end

/-! ### Bytes -/

variable {B : Type} {P : Primitives B}

variable (P) in
/-- The claims of a hello, as bytes. -/
lemma helloClaimsBytes_eq (d : PyStr) (caps : List PyStr) :
    helloClaimsBytes P (.str d) (.arr (caps.map .str)) = P.utf8 (helloClaims P.floatText d caps) :=
  rfl

variable (P) in
lemma gatewayAuthClaimsBytes_eq (g : PyStr) :
    gatewayAuthClaimsBytes P (.str g) = P.utf8 (gatewayClaims P.floatText g) := rfl

/-- **The authenticated contexts are unambiguous.** -/
theorem contexts_unambiguous (hutf8 : Utf8Injective P) :
    (∀ d d' n n' aad, legacyMessageAad P d n = .ok aad → legacyMessageAad P d' n' = .ok aad →
      d = d' ∧ n = n') ∧
    (∀ d d' (caps caps' : List PyStr), validUnicode d = true → validUnicode d' = true →
      (∀ s ∈ caps, validUnicode s = true) → (∀ s ∈ caps', validUnicode s = true) →
      helloClaimsBytes P (.str d) (.arr (caps.map .str))
        = helloClaimsBytes P (.str d') (.arr (caps'.map .str)) → d = d' ∧ caps = caps') ∧
    (∀ g g', validUnicode g = true → validUnicode g' = true →
      gatewayAuthClaimsBytes P (.str g) = gatewayAuthClaimsBytes P (.str g') → g = g') ∧
    (∀ d n aad, legacyMessageAad P d n = .ok aad → ∀ d' (caps : List PyStr),
      aad ≠ helloClaimsBytes P (.str d') (.arr (caps.map .str))) ∧
    (∀ d n aad, legacyMessageAad P d n = .ok aad → ∀ g, aad ≠ gatewayAuthClaimsBytes P (.str g)) ∧
    ∀ d (caps : List PyStr) g,
      helloClaimsBytes P (.str d) (.arr (caps.map .str)) ≠ gatewayAuthClaimsBytes P (.str g) := by
  -- equal bytes are equal texts, since UTF-8 is injective on what is encoded
  refine ⟨?_, ?_, ?_, ?_, ?_, ?_⟩
  · intro d d' n n' aad h h'
    obtain ⟨hd, rfl⟩ := legacyMessageAad_eq_ok h
    obtain ⟨hd', haad⟩ := legacyMessageAad_eq_ok h'
    exact legacyAad_injective (hutf8 _ _ (by simpa using hd) (by simpa using hd') haad)
  · intro d d' caps caps' hd hd' hcaps hcaps' h
    rw [helloClaimsBytes_eq, helloClaimsBytes_eq] at h
    have htext := hutf8 _ _ (validUnicode_helloClaims _ _ _) (validUnicode_helloClaims _ _ _) h
    exact helloClaims_injective P.floatText (loadable_of_validUnicode hd)
      (loadable_of_validUnicode hd') (fun s hs => loadable_of_validUnicode (hcaps s hs))
      (fun s hs => loadable_of_validUnicode (hcaps' s hs)) htext
  · intro g g' hg hg' h
    rw [gatewayAuthClaimsBytes_eq, gatewayAuthClaimsBytes_eq] at h
    have htext := hutf8 _ _ (validUnicode_gatewayClaims _ _) (validUnicode_gatewayClaims _ _) h
    exact gatewayClaims_injective P.floatText (loadable_of_validUnicode hg)
      (loadable_of_validUnicode hg') htext
  -- two contexts of different kinds
  · intro d n aad h d' caps heq
    obtain ⟨hd, rfl⟩ := legacyMessageAad_eq_ok h
    rw [helloClaimsBytes_eq] at heq
    have htext := hutf8 _ _ (by simpa using hd) (validUnicode_helloClaims _ _ _) heq
    exact helloClaims_ne_legacyAad P.floatText d' caps d n htext.symm
  · intro d n aad h g heq
    obtain ⟨hd, rfl⟩ := legacyMessageAad_eq_ok h
    rw [gatewayAuthClaimsBytes_eq] at heq
    have htext := hutf8 _ _ (by simpa using hd) (validUnicode_gatewayClaims _ _) heq
    exact gatewayClaims_ne_legacyAad P.floatText g d n htext.symm
  · intro d caps g h
    rw [helloClaimsBytes_eq, gatewayAuthClaimsBytes_eq] at h
    have htext := hutf8 _ _ (validUnicode_helloClaims _ _ _) (validUnicode_gatewayClaims _ _) h
    exact helloClaims_ne_gatewayClaims P.floatText d caps g htext

/-- UTF-8 is injective: encoded text is decoded. -/
lemma utf8Injective_octets (loads : Octets → Except LoadsError Json) :
    Utf8Injective (octets loads) := by
  intro s t hs ht h
  have hdecode := congrArg Octets.decodeUtf8 (show s.flatMap Octets.utf8Char = t.flatMap _ from h)
  rw [Octets.decodeUtf8_flatMap_utf8Char hs, Octets.decodeUtf8_flatMap_utf8Char ht] at hdecode
  exact Option.some.inj hdecode

/-- A device whose id looks like the claim of a gateway. -/
theorem contexts_unambiguous_demo :
    helloClaimsBytes (octets fun _ => .error .valueError)
        (.str (lit "\",\"scope\":\"gateway-cloud-handshake")) (.arr [])
      ≠ gatewayAuthClaimsBytes (octets fun _ => .error .valueError) (.str (lit "gw:01\n")) :=
  (contexts_unambiguous (utf8Injective_octets _)).2.2.2.2.2 _ [] _

end PqcBridge
