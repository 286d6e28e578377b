/-
The provisioning of the trust anchor: what the script reads from the log of the cloud.

The script takes the last label in the log for the one of the last start.  The log lines
quote what clients send, unescaped, before any client has authenticated: a client that
sends the label inside a gateway id, followed by 64 digits of its choice, decides what
the script provisions.

* `hostStep_ok`: the invariant that carries the result; the start is cut into the part
  before the label, the two lines of the fingerprint, and the rest;
* `provisioned_fingerprint`: as long as no quoted string contains the label, and no start
  dies between its label and its fingerprint, the script finds the fingerprint of the
  keypair in the key file;
* `forged_fingerprint_provisioned`: one request of an unknown gateway is enough to make
  it find another one.
-/
import PqcBridge.Cloud.LogText
import PqcBridge.Cloud.Main
import PqcBridge.Handshake.Honest

namespace PqcBridge.TrustAnchor

open Python Protocol Crypto TextSearch DockerBootstrap Cloud Runs Handshake

variable {B : Type} {P : Primitives B} {args : CloudArgs P} {loadKey : B → Except PyStr B}
  {addr : ℕ → Addr} {f : LogFormat}

variable (args loadKey addr) in
/-- The condition on one event.  No string that a log line quotes contains the label, be
it supplied by a client, by the operating system or on the command line; and a start is
not killed after its label and before its fingerprint. -/
def Quiet (h : Host B) : HostEvent B → Prop
  | .start fresh n | .startCut fresh n _ =>
    Avoids label args.keyFile ∧ Avoids label args.listenHost ∧
      n ≠ (loadOrGenerateKeypair loadKey args.keyFile h.keyFile fresh).2.length + 1
  | .conn c ev =>
    ∀ privateKey, h.running = some privateKey → Avoids label (addr c).host ∧
      ∀ q ∈ quotes (args.config privateKey) (h.server.phase c) ev, Avoids label q
  | _ => True

variable (loadKey) in
/-- A generated key is loaded from the file that it was saved to. -/
def Generated : HostEvent B → Prop
  | .start fresh _ | .startCut fresh _ _ => loadKey fresh = .ok fresh
  | _ => True

variable (loadKey) in
/-- The invariant: once a fingerprint has been logged, the script finds that of the
keypair in the key file, which can be loaded. -/
def Ok (f : LogFormat) (P : Primitives B) (h : Host B) : Prop :=
  h.announced = true → ∃ privateKey, h.keyFile = some privateKey ∧
    loadKey privateKey = .ok privateKey ∧
    Announces f h.log (publicKeyFingerprint P (P.publicKey privateKey))

/-! ### A start -/

/-- What a start does without harm at any time. -/
def Harmless : StartAction B → Prop
  | .write text => Avoids label text
  | .serve _ => True
  | _ => False

lemma Ok.write {h : Host B} (hok : Ok loadKey f P h) {t : PyStr} (ht : Avoids label t) :
    Ok loadKey f P (h.write t) := by
  intro hann
  obtain ⟨key, hkey, hloads, hlog⟩ := hok hann
  exact ⟨key, hkey, hloads, hlog.append (by simpa using ht)⟩

lemma Ok.act {h : Host B} (hok : Ok loadKey f P h) {a : StartAction B} (ha : Harmless a) :
    Ok loadKey f P (h.act a) := by
  cases a with
  | write text => exact hok.write ha
  | serve key => exact hok
  | save key => exact ha.elim
  | fingerprint text => exact ha.elim

lemma Ok.foldl_act {as : List (StartAction B)} (has : ∀ a ∈ as, Harmless a) {h : Host B}
    (hok : Ok loadKey f P h) : Ok loadKey f P (as.foldl Host.act h) := by
  induction as generalizing h with
  | nil => exact hok
  | cons a as ih => exact ih (fun b hb => has b (by simp [hb])) (hok.act (has a (by simp)))

/-- Where the key file cannot be loaded, no fingerprint has been logged. -/
lemma Ok.announced_eq_false {h : Host B} (hok : Ok loadKey f P h)
    (hfile : ∀ data, h.keyFile = some data → loadKey data ≠ .ok data) : h.announced = false := by
  by_contra hann
  obtain ⟨key, hkey, hloads, -⟩ := hok (by simpa using hann)
  exact hfile key hkey hloads

lemma foldl_act_announced_eq {as : List (StartAction B)} (has : ∀ a ∈ as, ∀ t, a ≠ .fingerprint t)
    (h : Host B) : (as.foldl Host.act h).announced = h.announced := by
  induction as generalizing h with
  | nil => rfl
  | cons a as ih =>
    rw [List.foldl_cons, ih fun b hb => has b (List.mem_cons_of_mem _ hb)]
    have ha := has a List.mem_cons_self
    cases a with
    | fingerprint t => exact absurd rfl (ha t)
    | _ => rfl

variable (args loadKey) in
/-- `load_or_generate_keypair` logs no fingerprint. -/
lemma loadOrGenerateKeypair_ne_fingerprint (saved : Option B) (fresh : B) :
    ∀ a ∈ (loadOrGenerateKeypair loadKey args.keyFile saved fresh).2, ∀ t, a ≠ .fingerprint t := by
  unfold loadOrGenerateKeypair
  split
  · split <;> simp
  · simp

/-- A prefix of what `load_or_generate_keypair` does, and the key file after all of
it. -/
lemma Ok.loadOrGenerate (hload : ∀ data k, loadKey data = .ok k → k = data)
    (hpath : Avoids label args.keyFile) {h : Host B} (hok : Ok loadKey f P h) {fresh : B}
    (hfresh : loadKey fresh = .ok fresh) (n : ℕ) :
    Ok loadKey f P (((loadOrGenerateKeypair loadKey args.keyFile h.keyFile fresh).2.take n).foldl
      Host.act h) ∧
    ((loadOrGenerateKeypair loadKey args.keyFile h.keyFile fresh).2.foldl Host.act h).keyFile
      = some (loadOrGenerateKeypair loadKey args.keyFile h.keyFile fresh).1 ∧
    loadKey (loadOrGenerateKeypair loadKey args.keyFile h.keyFile fresh).1
      = .ok (loadOrGenerateKeypair loadKey args.keyFile h.keyFile fresh).1 := by
  -- where a keypair is generated, no fingerprint has been logged
  have hsilent : h.announced = false → Ok loadKey f P
      (((loadOrGenerateKeypair loadKey args.keyFile h.keyFile fresh).2.take n).foldl
        Host.act h) := by
    intro hann hann'
    rw [foldl_act_announced_eq fun a ha => loadOrGenerateKeypair_ne_fingerprint args loadKey _ _ a
      (List.mem_of_mem_take ha), hann] at hann'
    cases hann'
  rcases hsaved : h.keyFile with _ | data
  · rw [hsaved] at hsilent
    refine ⟨hsilent (hok.announced_eq_false fun data hdata => ?_), rfl, hfresh⟩
    rw [hsaved] at hdata
    cases hdata
  rcases hdata : loadKey data with e | key
  · have hgenerated : loadOrGenerateKeypair loadKey args.keyFile (some data) fresh
        = (fresh, [.write (lit "could not load keypair from " ++ args.keyFile ++ lit " (" ++ e
            ++ lit "); generating a new one"),
          .save fresh,
          .write (lit "generated new ML-KEM keypair; persisted to " ++ args.keyFile)]) := by
      simp only [loadOrGenerateKeypair, hdata]
    rw [hsaved] at hsilent
    refine ⟨hsilent (hok.announced_eq_false fun data' hdata' => ?_), ?_, ?_⟩
    · rw [hsaved] at hdata'
      cases hdata'
      simp [hdata]
    · rw [hgenerated]
      rfl
    · rw [hgenerated]
      exact hfresh
  · -- the saved keypair is loaded
    obtain rfl := hload data key hdata
    have hloaded : loadOrGenerateKeypair loadKey args.keyFile (some key) fresh
        = (key, [.write (lit "loaded existing ML-KEM keypair from " ++ args.keyFile)]) := by
      simp only [loadOrGenerateKeypair, hdata]
    have hbefore : Separates label (lit "loaded existing ML-KEM keypair from ") := by decide
    have htext : Avoids label (lit "loaded existing ML-KEM keypair from " ++ args.keyFile) :=
      hpath.sep_append hbefore label_ne_nil
    rw [hloaded]
    refine ⟨hok.foldl_act fun a ha => ?_, hsaved, hdata⟩
    have hmem := List.mem_of_mem_take ha
    rw [List.mem_singleton] at hmem
    rw [hmem]
    exact htext

/-- The digits of SHA-256. -/
def HexDigest (P : Primitives B) : Prop :=
  ∀ b, (P.sha256hex b).length = 64 ∧ ∀ a ∈ P.sha256hex b, isHex a = true

variable (args f) in
/-- The label and the fingerprint are logged for the keypair in the key file. -/
lemma Ok.announce (hhex : HexDigest P) {h : Host B} {privateKey : B}
    (hkey : h.keyFile = some privateKey) (hloads : loadKey privateKey = .ok privateKey) :
    Ok loadKey f P ((h.act (.write (labelLine args))).act
      (.fingerprint (fingerprintLine P privateKey))) := by
  intro _
  refine ⟨privateKey, hkey, hloads, ?_⟩
  have hlabel : labelLine args = lit "cloud " ++ args.cloudId ++ lit " " ++ (label ++ lit ":") := by
    have hsplit :
        lit " ML-KEM public key SHA-256 fingerprint:" = lit " " ++ (label ++ lit ":") := by
      decide
    rw [labelLine, hsplit]
    simp only [List.append_assoc]
  have hlog : ((h.act (.write (labelLine args))).act
      (.fingerprint (fingerprintLine P privateKey))).log
        = h.log ++ [labelLine args, fingerprintLine P privateKey] := by
    show h.log ++ [labelLine args] ++ [fingerprintLine P privateKey] = _
    simp
  rw [hlog, hlabel]
  exact announces_of_label (hhex _).1 (hhex _).2 f _ _

/-- What follows the fingerprint. -/
lemma harmless_of_mem_announce (hhost : Avoids label args.listenHost) {privateKey : B}
    {a : StartAction B} (ha : a ∈ (Cloud.announce args privateKey).drop 2) : Harmless a := by
  simp only [Cloud.announce, List.drop_succ_cons, List.drop_zero, List.mem_cons,
    List.not_mem_nil, or_false] at ha
  rcases ha with rfl | rfl | rfl
  · exact avoids_of_notMem (c := .char 'M') (by decide) (by decide)
  · have hbefore : Separates label (lit "cloud listening for gateways on ") := by decide
    have hcolon : Separates label (lit ":") := by decide
    have hport : Avoids label (decimal args.listenPort) :=
      avoids_of_plain (notMem_decimal (by decide) (by decide) _)
    exact (hhost.sep_append hbefore label_ne_nil).append_sep hcolon hport
  · trivial

lemma Ok.start (hload : ∀ data k, loadKey data = .ok k → k = data) (hhex : HexDigest P)
    {h : Host B} (hok : Ok loadKey f P h) (hpath : Avoids label args.keyFile)
    (hhost : Avoids label args.listenHost) {fresh : B} (hfresh : loadKey fresh = .ok fresh) {n : ℕ}
    (hcut : n ≠ (loadOrGenerateKeypair loadKey args.keyFile h.keyFile fresh).2.length + 1) :
    Ok loadKey f P (((startup args loadKey h.keyFile fresh).take n).foldl Host.act h) := by
  obtain ⟨hfirst, hkey, hloads⟩ := hok.loadOrGenerate hload hpath hfresh n
  unfold startup
  generalize (loadOrGenerateKeypair loadKey args.keyFile h.keyFile fresh).1 = key at hkey hloads
  generalize (loadOrGenerateKeypair loadKey args.keyFile h.keyFile fresh).2 = as at *
  rcases Nat.lt_or_ge as.length n with hlt | hge
  · -- the start has logged the label, and so it has logged the fingerprint
    obtain ⟨m, rfl⟩ : ∃ m, n = as.length + (m + 2) := ⟨n - as.length - 2, by omega⟩
    have htake : (as ++ Cloud.announce args key).take (as.length + (m + 2))
        = as ++ ([.write (labelLine args), .fingerprint (fingerprintLine P key)]
          ++ ((Cloud.announce args key).drop 2).take m) := by
      rw [List.take_length_add_append]
      rfl
    have hannounced := Ok.announce args f hhex hkey hloads
    rw [htake, List.foldl_append, List.foldl_append]
    refine Ok.foldl_act (fun a ha => ?_) hannounced
    exact harmless_of_mem_announce hhost (List.mem_of_mem_take ha)
  · rw [List.take_append_of_le_length hge]
    exact hfirst

/-- A start that is killed while it writes the key file has logged no fingerprint. -/
lemma Ok.startCut {h : Host B} (hok : Ok loadKey f P h) {fresh : B} {n : ℕ}
    (hstart : Ok loadKey f P
      (((startup args loadKey h.keyFile fresh).take n).foldl Host.act h)) (part : B) :
    Ok loadKey f P ((((startup args loadKey h.keyFile fresh).take n).foldl Host.act h).begin part
      (startup args loadKey h.keyFile fresh)[n]?) := by
  rcases hentry : (startup args loadKey h.keyFile fresh)[n]? with _ | a
  · exact hstart
  cases a with
  | save key =>
    -- it is an entry of `load_or_generate_keypair`
    have hlt : n < (loadOrGenerateKeypair loadKey args.keyFile h.keyFile fresh).2.length := by
      by_contra hge
      rw [startup, List.getElem?_append_right (not_lt.1 hge)] at hentry
      have hmem := List.mem_of_getElem? hentry
      simp [Cloud.announce] at hmem
    have hsaves : StartAction.save key
        ∈ (loadOrGenerateKeypair loadKey args.keyFile h.keyFile fresh).2 := by
      rw [startup, List.getElem?_append_left hlt] at hentry
      exact List.mem_of_getElem? hentry
    have hfile : ∀ data, h.keyFile = some data → loadKey data ≠ .ok data := by
      intro data hdata hloads
      simp [loadOrGenerateKeypair, hdata, hloads] at hsaves
    have hann : (((startup args loadKey h.keyFile fresh).take n).foldl Host.act h).announced
        = false := by
      rw [startup, List.take_append_of_le_length hlt.le]
      rw [foldl_act_announced_eq fun a ha => loadOrGenerateKeypair_ne_fingerprint args loadKey _ _ a
        (List.mem_of_mem_take ha)]
      exact hok.announced_eq_false hfile
    intro hann'
    rw [Host.begin] at hann'
    rw [hann] at hann'
    cases hann'
  | _ => exact hstart

/-! ### Any event -/

lemma hostStep_ok (hload : ∀ data k, loadKey data = .ok k → k = data) (hhex : HexDigest P)
    (h : Host B) (ev : HostEvent B) (hok : Ok loadKey f P h)
    (hq : Generated loadKey ev ∧ Quiet args loadKey addr h ev) :
    Ok loadKey f P (hostStep args loadKey addr h ev) := by
  have hdown : Ok loadKey f P { h with running := none } := hok
  obtain ⟨hgen, hq⟩ := hq
  cases ev with
  | start fresh n =>
    obtain ⟨hpath, hhost, hcut⟩ := hq
    exact hdown.start hload hhex hpath hhost hgen hcut
  | startCut fresh n part =>
    obtain ⟨hpath, hhost, hcut⟩ := hq
    exact hdown.startCut (hdown.start hload hhex hpath hhost hgen hcut) part
  | conn c ev =>
    rcases hrunning : h.running with _ | key
    · simpa only [hostStep, hrunning] using hok
    · obtain ⟨haddr, hquotes⟩ := hq key hrunning
      obtain ⟨texts, hlog, htexts⟩ :=
        handlerStep_logsClean (c := c) haddr hquotes h.server.shared
      -- the log has grown by texts that hold no label
      intro hann
      simp only [hostStep, hrunning] at hann ⊢
      obtain ⟨key', hkey', hloads, hlast⟩ := hok hann
      refine ⟨key', hkey', hloads, ?_⟩
      have hafter := hlast.append htexts
      rw [Host.log, ← hlog] at hafter
      exact hafter
  | interrupt =>
    simp only [hostStep]
    split
    · exact hok.write (avoids_of_plain (by decide))
    · exact hok
  | exit => exact hok

/-- **Provisioning.**  In every run of the cloud, with any number of starts, of client
connections and of key files that are left half written, in which no quoted string contains
the label and no start is killed between its label and its fingerprint: once a fingerprint
has been logged, the script finds the fingerprint of the keypair in the key file. -/
theorem provisioned_fingerprint (f : LogFormat)
    (hload : ∀ data k, loadKey data = .ok k → k = data) (hhex : HexDigest P)
    (keyFile : Option B) (τ : List (HostEvent B)) (hgen : ∀ ev ∈ τ, Generated loadKey ev)
    (hτ : Along (hostStep args loadKey addr) (Quiet args loadKey addr) (initialHost keyFile) τ)
    (hann : (run (hostStep args loadKey addr) (initialHost keyFile) τ).announced = true) :
    ∃ privateKey,
      (run (hostStep args loadKey addr) (initialHost keyFile) τ).keyFile = some privateKey ∧
      extractFingerprint (f.logs (run (hostStep args loadKey addr) (initialHost keyFile) τ).log)
        = some (publicKeyFingerprint P (P.publicKey privateKey)) := by
  have hinit : Ok loadKey f P (initialHost keyFile) := by
    intro hann
    cases hann
  obtain ⟨key, hkey, -, hlog⟩ := inv_run (fun h ev => hostStep_ok hload hhex h ev) hinit
    (along_and.2 ⟨along_of_forall fun _ ev hev => hgen ev hev, hτ⟩) hann
  exact ⟨key, hkey, hlog.extractFingerprint⟩

/-! ### A forged fingerprint -/

/-- The one reading of the demo. -/
def demoTable (r : ℕ) : Option Json :=
  if r = 0 then some (demoRecord (.str (lit "dev-01")) 1) else none

/-- The symbolic calls, with a digest of 64 digits that tells the key of the demo from all
others. -/
def demoPrimitives : Primitives Bytes where
  __ := ideal demoTable
  sha256hex b := List.replicate 64 (.char (if b = .pub Demo.cloudKey then 'a' else 'b'))
  sha256hex_ascii b := by
    split_ifs <;> decide

/-- A cloud that knows one gateway. -/
def demoArgs : CloudArgs demoPrimitives where
  cloudId := lit "cloud-01"
  listenHost := lit "0.0.0.0"
  listenPort := 5002
  keyFile := lit "/app/cloud_state/cloud.key"
  gatewayKeys := ⟨fun id => if id = lit "gw-01" then some Demo.gatewayKey else none, by
    intro id k h
    split_ifs at h
    cases h
    rfl⟩

def demoAddr : ℕ → Addr := fun c => ⟨lit "172.18.0.1", 40000 + c⟩

/-- What `docker compose logs` and `logging` put before a line. -/
def demoFormat : LogFormat where
  tag _ _ := lit "cloud-1  "
  stamp _ := lit "2026-01-05 09:30:00,000 INFO    cloud"
  tag_avoids _ _ := by decide
  tag_noRun _ _ := by decide
  stamp_avoids _ := by decide
  stamp_noRun _ := by decide
  stamp_line _ := by decide

/-- A request of a gateway that is not registered. -/
def unknownRequest (gatewayId : PyStr) : JsonDict :=
  [(lit "type", .str msgMlkemRequestPubkey), (lit "gateway_id", .str gatewayId),
    (lit "auth_nonce", .str (lit "AAAA")), (lit "auth_tag", .str (lit "AAAA"))]

/-- A key is a seed, and a part of one is not. -/
def demoLoad : Bytes → Except PyStr Bytes
  | .name n => .ok (.name n)
  | _ => .error (lit "An ML-KEM-768 seed must be 64 bytes long")

lemma eq_of_demoLoad : ∀ data k, demoLoad data = .ok k → k = data := by
  intro data k h
  cases data with
  | name n => exact (Except.ok.inj h).symm
  | _ => cases h

/-- A start that leaves a part of a key, one that makes another key, and the rejection of an
unknown gateway. -/
def demoEvents (gatewayId : PyStr) : List (HostEvent Bytes) :=
  [.startCut (Demo.coins 1) 0 (.data (.text [])), .start Demo.cloudKey 8, .conn 0 .accept,
    .conn 0 (.recv (.message (unknownRequest gatewayId)))]

abbrev demoStep : Host Bytes → HostEvent Bytes → Host Bytes :=
  hostStep demoArgs demoLoad demoAddr

lemma demo_hexDigest : HexDigest demoPrimitives := by
  have hdigits : (∀ a ∈ List.replicate 64 (PyChar.char 'a'), isHex a = true) ∧
      ∀ a ∈ List.replicate 64 (PyChar.char 'b'), isHex a = true := by decide
  intro b
  show (List.replicate 64 _).length = 64 ∧ ∀ a ∈ List.replicate 64 _, isHex a = true
  split_ifs
  · exact ⟨rfl, hdigits.1⟩
  · exact ⟨rfl, hdigits.2⟩

/-- An ordinary id of an unknown gateway, and a third start, killed after its
fingerprint, with the saved keypair. -/
def demoRestart : List (HostEvent Bytes) :=
  demoEvents (lit "gw-07") ++ [.exit, .start (Demo.coins 0) 3]

theorem provisioned_fingerprint_demo :
    (∃ privateKey, (run demoStep (initialHost none) demoRestart).keyFile = some privateKey ∧
      extractFingerprint (demoFormat.logs (run demoStep (initialHost none) demoRestart).log)
        = some (publicKeyFingerprint demoPrimitives (demoPrimitives.publicKey privateKey))) ∧
    extractFingerprint (demoFormat.logs (run demoStep (initialHost none) demoRestart).log)
      = some (List.replicate 64 (.char 'a')) := by
  have hquiet : Along demoStep (Quiet demoArgs demoLoad demoAddr) (initialHost none)
      demoRestart := by
    refine ⟨⟨by decide, by decide, by decide⟩, ⟨by decide, by decide, by decide⟩,
      fun key hkey => ⟨by decide, nofun⟩, fun key hkey => ⟨by decide, ?_⟩, trivial,
      ⟨by decide, by decide, by decide⟩, trivial⟩
    have hcloud : Demo.cloudKey = key := Option.some.inj hkey
    subst hcloud
    decide
  have hgen : ∀ ev ∈ demoRestart, Generated demoLoad ev := by
    simp only [demoRestart, demoEvents, List.cons_append, List.nil_append, List.forall_mem_cons]
    exact ⟨rfl, rfl, trivial, trivial, trivial, rfl, List.forall_mem_nil _⟩
  unfold demoStep at hquiet ⊢
  exact ⟨provisioned_fingerprint demoFormat eq_of_demoLoad demo_hexDigest none _ hgen hquiet rfl,
    by decide +kernel⟩

/-- The label, and a fingerprint of the client's choice. -/
def forgedId : PyStr := label ++ lit ": " ++ List.replicate 64 (.char '0')

theorem forged_fingerprint_provisioned :
    (run demoStep (initialHost none) (demoEvents forgedId)).announced = true ∧
      extractFingerprint
          (demoFormat.logs (run demoStep (initialHost none) (demoEvents forgedId)).log)
        = some (List.replicate 64 (.char '0')) ∧
      ¬ ∃ privateKey,
        (run demoStep (initialHost none) (demoEvents forgedId)).keyFile = some privateKey ∧
        extractFingerprint
            (demoFormat.logs (run demoStep (initialHost none) (demoEvents forgedId)).log)
          = some (publicKeyFingerprint demoPrimitives (demoPrimitives.publicKey privateKey)) := by
  have hextract : extractFingerprint
      (demoFormat.logs (run demoStep (initialHost none) (demoEvents forgedId)).log)
        = some (List.replicate 64 (.char '0')) := by decide +kernel
  refine ⟨rfl, hextract, ?_⟩
  rintro ⟨key, -, hkey⟩
  have hne : List.replicate 64 (PyChar.char '0') ≠ List.replicate 64 (.char 'a') ∧
      List.replicate 64 (PyChar.char '0') ≠ List.replicate 64 (.char 'b') := by decide
  rw [hextract] at hkey
  replace hkey : List.replicate 64 (PyChar.char '0') = List.replicate 64 (.char
      (if demoPrimitives.publicKey key = .pub Demo.cloudKey then 'a' else 'b')) :=
    Option.some.inj hkey
  split_ifs at hkey
  · exact hne.1 hkey
  · exact hne.2 hkey

end PqcBridge.TrustAnchor
