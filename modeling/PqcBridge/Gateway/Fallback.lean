/-
The fallback policy of the gateway.

A hello whose tag verifies is to be admitted to the legacy path if the legacy capability is
all that it claims.  `determine_path` looks for two names in the list and passes over every
other one.

* `evaluateHello_allows_iff`: what the code admits;
* `policy_iff`: it follows the policy unless an unknown capability stands next to the legacy
  one, and no modern one does;
* `unknown_capability_allowed`: such a hello.
-/
import PqcBridge.Handshake.Honest

namespace PqcBridge.Gateway

open Python Protocol Crypto

variable {B : Type} (P : Primitives B)

/-- The legacy capability is claimed, and nothing else. -/
def LegacyOnly (capabilities : List PyStr) : Prop :=
  capabilities ≠ [] ∧ ∀ c ∈ capabilities, c = capChacha20Poly1305

/-- The tag of the hello verifies under the key of the device. -/
def Authentic (hello : Hello) (deviceKey : Option B) : Prop :=
  ∃ key, deviceKey = some key ∧ verifyHelloAuth P key hello.message = .ok ()

/-- The decision table: fallback for authentic hellos with a legacy-only claim, and a
rejection for every other authentic one. -/
structure FallbackPolicy (hello : Hello) (deviceKey : Option B) : Prop where
  allows : Authentic P hello deviceKey →
    (evaluateHello P hello deviceKey = .ok .allowFallback ↔ LegacyOnly hello.capabilities)
  rejects : Authentic P hello deviceKey → ¬ LegacyOnly hello.capabilities →
    ∃ d, d ≠ .allowFallback ∧ evaluateHello P hello deviceKey = .ok d
  unauthentic : ¬ Authentic P hello deviceKey →
    evaluateHello P hello deviceKey ≠ .ok .allowFallback

/-- An unknown capability stands next to the legacy one, and no modern one does. -/
def UnknownBesideLegacy (capabilities : List PyStr) : Prop :=
  capChacha20Poly1305 ∈ capabilities ∧ capMlkem768 ∉ capabilities ∧
    ∃ c ∈ capabilities, c ≠ capChacha20Poly1305

variable {P} {hello : Hello} {deviceKey : Option B}

/-! ### What the code admits -/

lemma decision_determinePath_iff (capabilities : List PyStr) :
    (determinePath capabilities).decision = .allowFallback ↔
      capChacha20Poly1305 ∈ capabilities ∧ capMlkem768 ∉ capabilities := by
  simp only [determinePath]
  split_ifs with hboth hmodern hlegacy
  · simp [Path.decision, hboth.1]
  · simp [Path.decision, hmodern]
  · simp [Path.decision, hlegacy, hmodern]
  · simp [Path.decision, hlegacy]

/-- An authentic hello is decided by its path. -/
lemma evaluateHello_of_authentic (h : Authentic P hello deviceKey) :
    evaluateHello P hello deviceKey = .ok (determinePath hello.capabilities).decision := by
  obtain ⟨key, rfl, hverify⟩ := h
  simp only [evaluateHello, hverify]

/-- The code admits the authentic hellos that claim the legacy capability and not the
modern one. -/
lemma evaluateHello_allows_iff : evaluateHello P hello deviceKey = .ok .allowFallback ↔
    Authentic P hello deviceKey ∧ capChacha20Poly1305 ∈ hello.capabilities ∧
      capMlkem768 ∉ hello.capabilities := by
  constructor
  · intro h
    have hauth : Authentic P hello deviceKey := by
      cases deviceKey with
      | none => cases h
      | some key =>
        refine ⟨key, rfl, ?_⟩
        rw [evaluateHello] at h
        split at h
        · split_ifs at h
          cases h
        · next hverify => exact hverify
    rw [evaluateHello_of_authentic hauth, Except.ok.injEq, decision_determinePath_iff] at h
    exact ⟨hauth, h⟩
  · rintro ⟨hauth, hclaims⟩
    rw [evaluateHello_of_authentic hauth, (decision_determinePath_iff _).2 hclaims]

/-! ### The policy -/

/-- A legacy-only claim is one of those that the code admits. -/
lemma LegacyOnly.admitted {capabilities : List PyStr} (h : LegacyOnly capabilities) :
    capChacha20Poly1305 ∈ capabilities ∧ capMlkem768 ∉ capabilities := by
  obtain ⟨hne, hall⟩ := h
  constructor
  · obtain ⟨c, hc⟩ := List.exists_mem_of_ne_nil capabilities hne
    rw [← hall c hc]
    exact hc
  · intro hmodern
    exact absurd (hall _ hmodern) (by decide)

/-- The others that it admits have an unknown capability beside the legacy one. -/
lemma legacyOnly_or_unknownBesideLegacy {capabilities : List PyStr}
    (hlegacy : capChacha20Poly1305 ∈ capabilities) (hmodern : capMlkem768 ∉ capabilities) :
    LegacyOnly capabilities ∨ UnknownBesideLegacy capabilities := by
  by_cases hall : ∀ c ∈ capabilities, c = capChacha20Poly1305
  · exact Or.inl ⟨List.ne_nil_of_mem hlegacy, hall⟩
  · push Not at hall
    exact Or.inr ⟨hlegacy, hmodern, hall⟩

variable (P) in
/-- **Fallback is for legacy-only claims**, unless an unknown capability stands next to the
legacy one in an authentic hello, and no modern one does. -/
theorem policy_iff (hello : Hello) (deviceKey : Option B) :
    FallbackPolicy P hello deviceKey ↔
      ¬ (Authentic P hello deviceKey ∧ UnknownBesideLegacy hello.capabilities) := by
  constructor
  · rintro h ⟨hauth, hlegacy, hmodern, c, hc, hne⟩
    -- the code admits it
    have hallow := evaluateHello_allows_iff.2 ⟨hauth, hlegacy, hmodern⟩
    exact hne (((h.allows hauth).1 hallow).2 c hc)
  · intro h
    refine ⟨fun hauth => ?_, fun hauth hnot => ?_, fun hnot hallow => ?_⟩
    · rw [evaluateHello_allows_iff]
      constructor
      · rintro ⟨-, hlegacy, hmodern⟩
        rcases legacyOnly_or_unknownBesideLegacy hlegacy hmodern with honly | hunknown
        · exact honly
        · exact absurd ⟨hauth, hunknown⟩ h
      · exact fun honly => ⟨hauth, honly.admitted⟩
    · refine ⟨_, fun hallow => ?_, evaluateHello_of_authentic hauth⟩
      obtain ⟨hlegacy, hmodern⟩ := (decision_determinePath_iff _).1 hallow
      rcases legacyOnly_or_unknownBesideLegacy hlegacy hmodern with honly | hunknown
      · exact hnot honly
      · exact h ⟨hauth, hunknown⟩
    · exact hnot (evaluateHello_allows_iff.1 hallow).1

/-! ### The demo -/

/-- The tag of a hello that a device builds verifies under its key. -/
lemma verifyHelloAuth_buildHello (hP : P.Lawful) {key nonce : B} (hkey : P.len key = keyLength)
    (hnonce : P.len nonce = nonceLength) {deviceId : PyStr} {capabilities : List Json}
    {m : JsonDict} (h : buildHello P deviceId capabilities key nonce = .ok m) :
    verifyHelloAuth P key m = .ok () := by
  simp only [buildHello, authFields, chacha_eq_ok hkey, ok_bind, pure_eq_ok,
    Except.ok.injEq] at h
  rw [← h]
  exact Handshake.verifyAuth_encrypt hP hkey hnonce _ _

/-- The hello of a device that claims the legacy capability and an unknown one. -/
def unknownHello : JsonDict :=
  [(lit "type", .str msgHello), (lit "device_id", .str (lit "dev-01")),
    (lit "capabilities", .arr [.str capChacha20Poly1305, .str (lit "frodokem-976")])]
  ++ [(lit "auth_nonce", .str (Ideal.code (Demo.nonce 0))),
    (lit "auth_tag", .str (Ideal.code (.aead (Demo.deviceKey 1) (Demo.nonce 0) (.data (.text []))
      (helloClaimsBytes (ideal fun _ => none) (.str (lit "dev-01"))
        (.arr [.str capChacha20Poly1305, .str (lit "frodokem-976")])))))]

/-- The device makes this hello, the gateway parses it, its tag verifies, and the gateway
allows the fallback. -/
theorem unknown_capability_allowed :
    buildHello (ideal fun _ => none) (lit "dev-01")
        [.str capChacha20Poly1305, .str (lit "frodokem-976")] (Demo.deviceKey 1) (Demo.nonce 0)
      = .ok unknownHello ∧
    ∃ hello, parseHello unknownHello = .ok hello ∧
      verifyHelloAuth (ideal fun _ => none) (Demo.deviceKey 1) hello.message = .ok () ∧
      evaluateHello (ideal fun _ => none) hello (some (Demo.deviceKey 1)) = .ok .allowFallback ∧
      ¬ FallbackPolicy (ideal fun _ => none) hello (some (Demo.deviceKey 1)) := by
  have hbuild : buildHello (ideal fun _ => none) (lit "dev-01")
      [.str capChacha20Poly1305, .str (lit "frodokem-976")] (Demo.deviceKey 1) (Demo.nonce 0)
        = .ok unknownHello := rfl
  have hverify : verifyHelloAuth (ideal fun _ => none) (Demo.deviceKey 1) unknownHello = .ok () :=
    verifyHelloAuth_buildHello (ideal_lawful fun _ => none) rfl rfl hbuild
  have hauth : Authentic (ideal fun _ => none) ⟨unknownHello, lit "dev-01",
      [capChacha20Poly1305, lit "frodokem-976"]⟩ (some (Demo.deviceKey 1)) := ⟨_, rfl, hverify⟩
  have hallow := evaluateHello_allows_iff.2 ⟨hauth, by decide, by decide⟩
  refine ⟨hbuild, _, rfl, hverify, hallow, fun h => ?_⟩
  have honly := (h.allows hauth).1 hallow
  exact absurd (honly.2 (lit "frodokem-976") (by decide)) (by decide)

end PqcBridge.Gateway
