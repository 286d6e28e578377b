/-
The retry loop of `connect_and_establish`.

An attempt of the loop has three ends: it succeeds, it raises an exception that the
`except` clause catches, or the peer closes the stream between two messages.  The third
one is `ConnectionClosedError`, which is not in the catch set: it leaves the loop, and
with it the gateway's start-up or its reconnect thread.

* `exchange_raises`: nothing else comes out of an attempt;
* `connectAndEstablish_survives_iff`: the loop keeps its promise to the caller exactly
  when no attempt that is made ends in the third way.
-/
import PqcBridge.Common.Ideal
import PqcBridge.Common.Validation
import PqcBridge.Gateway.CloudChannel

namespace PqcBridge.Gateway

open Python Protocol Crypto

variable {B : Type} {P : Primitives B} {cfg : GatewayConfig B}

/-! ### What one attempt raises -/

variable (P) in
lemma parseMlkemPubkeyReply_raises (m : JsonDict) :
    OnlyRaises (parseMlkemPubkeyReply P m) IsProtocolError := by
  refine .ite (fun _ => onlyRaises_raise rfl) fun _ => ?_
  refine (requireStr_raises m _).bind fun _ _ => ?_
  refine (requireStr_raises m _).bind fun _ _ => ?_
  refine (b64d_raises P _).bind fun _ _ => ?_
  exact .ite (fun _ => onlyRaises_raise rfl) fun _ => onlyRaises_ok _

lemma parseMlkemEstablishedReply_raises (m : JsonDict) (sid : PyStr) :
    OnlyRaises (parseMlkemEstablishedReply m sid) IsProtocolError := by
  refine .ite (fun _ => onlyRaises_raise rfl) fun _ => ?_
  refine (requireStr_raises m _).bind fun _ _ => ?_
  exact .ite (fun _ => onlyRaises_raise rfl) fun _ => onlyRaises_ok _

/-- With an ASCII pin, the comparison itself does not raise. -/
lemma verifyCloudPublicKey_raises {pin : PyStr} (hpin : isAscii pin = true) (raw : B) :
    OnlyRaises (verifyCloudPublicKey P raw pin) fun e => e.cls = .cryptoError := by
  refine .ite (fun _ => onlyRaises_raise rfl) fun _ => ?_
  have hcmp : ∃ b, compareDigest (publicKeyFingerprint P raw) pin = .ok b := by
    simp [compareDigest, publicKeyFingerprint, P.sha256hex_ascii, hpin]
  obtain ⟨b, hb⟩ := hcmp
  rw [hb, ok_bind]
  exact .ite (fun _ => onlyRaises_ok _) fun _ => onlyRaises_raise rfl

lemma retried_of_protocolError {e : PyExc} (h : IsProtocolError e) : retried e = true := by
  have hcls : e.cls = .protocolError := h
  simp [retried, PyExc.isA, hcls]

lemma retried_of_cls {e : PyExc} (h : e.cls = .osError ∨ e.cls = .cryptoError) :
    retried e = true := by
  rcases h with h | h <;> simp [retried, PyExc.isA, h]

lemma not_retried_of_closed {e : PyExc} (h : e.cls = .connectionClosedError) :
    retried e = false := by
  simp [retried, PyExc.isA, h, ExcClass.base]

lemma acceptPubkeyReply_raises (hpin : isAscii cfg.pin = true) (m : JsonDict) :
    OnlyRaises (acceptPubkeyReply P cfg m) fun e => retried e = true := by
  refine ((parseMlkemPubkeyReply_raises P m).mono fun _ => retried_of_protocolError).bind
    fun raw _ => ?_
  refine ((verifyCloudPublicKey_raises hpin raw).mono fun _ h => retried_of_cls (Or.inr h)).bind
    fun _ _ => ?_
  exact (loadPublicKey_raises P raw).mono fun _ => retried_of_protocolError

lemma ioOutcome_raises (o : IoOutcome) : OnlyRaises o.result fun e => retried e = true := by
  cases o with
  | ok => exact onlyRaises_ok _
  | osError msg => exact onlyRaises_raise (retried_of_cls (Or.inl rfl))

/-- With a 32-byte key the request can be built. -/
lemma requestMessage_eq_ok (hkey : P.len cfg.gatewayKey = keyLength) (nonce : B) :
    ∃ m, requestMessage P cfg nonce = .ok m := by
  simp [requestMessage, buildGatewayAuth, authFields, chacha_eq_ok hkey]

/-- The peer closes the stream where the gateway waits for a message, after everything
before that point has succeeded. -/
def ClosedInExchange (P : Primitives B) (cfg : GatewayConfig B) (a : Attempt B) : Prop :=
  a.sendRequest = .ok ∧
    (a.pubkeyReply = .closed ∨
      ∃ reply publicKey, a.pubkeyReply = .message reply ∧
        acceptPubkeyReply P cfg reply = .ok publicKey ∧ a.sendEncaps = .ok ∧
        a.establishedReply = .closed)

lemma ioOutcome_eq_ok {o : IoOutcome} {u : Unit} (h : o.result = .ok u) : o = .ok := by
  cases o with
  | ok => rfl
  | osError msg => cases h

/-- The reads of the handshake raise what is retried, or the stream was closed. -/
lemma readOutcome_retried (o : ReadOutcome) :
    OnlyRaises o.result fun e =>
      retried e = true ∨ e.cls = .connectionClosedError ∧ o = .closed :=
  (readOutcome_raises o).mono fun e he => by
    rcases he with h | h | h
    · exact Or.inl (retried_of_protocolError h)
    · exact Or.inr h
    · exact Or.inl (retried_of_cls (Or.inl h))

/-- **What one attempt raises**: an exception that is retried, or
`ConnectionClosedError` because the peer closed the stream. -/
theorem exchange_raises (hkey : P.len cfg.gatewayKey = keyLength) (hpin : isAscii cfg.pin = true)
    (a : Attempt B) :
    OnlyRaises (exchange P cfg a) fun e =>
      retried e = true ∨ e.cls = .connectionClosedError ∧ ClosedInExchange P cfg a := by
  obtain ⟨request, hrequest⟩ := requestMessage_eq_ok hkey a.nonce
  unfold exchange
  rw [hrequest, ok_bind]
  refine ((ioOutcome_raises _).mono fun _ => Or.inl).bind fun _ hsend => ?_
  have hsend := ioOutcome_eq_ok hsend
  refine ((readOutcome_retried _).mono ?_).bind fun reply hreply => ?_
  · rintro e (h | ⟨h, hclosed⟩)
    · exact Or.inl h
    · exact Or.inr ⟨h, hsend, Or.inl hclosed⟩
  have hreply := readOutcome_eq_ok hreply
  refine ((acceptPubkeyReply_raises hpin reply).mono fun _ => Or.inl).bind fun pk hpk => ?_
  refine ((ioOutcome_raises _).mono fun _ => Or.inl).bind fun _ hencaps => ?_
  have hencaps := ioOutcome_eq_ok hencaps
  refine ((readOutcome_retried _).mono ?_).bind fun reply' hreply' => ?_
  · rintro e (h | ⟨h, hclosed⟩)
    · exact Or.inl h
    · exact Or.inr ⟨h, hsend, Or.inr ⟨reply, pk, hreply, hpk, hencaps, hclosed⟩⟩
  exact ((parseMlkemEstablishedReply_raises _ _).bind fun _ _ => onlyRaises_ok _).mono
    fun _ h => Or.inl (retried_of_protocolError h)

/-- Conversely, an attempt whose peer closes the stream there raises
`ConnectionClosedError`. -/
lemma exchange_of_closed (hkey : P.len cfg.gatewayKey = keyLength) {a : Attempt B}
    (h : ClosedInExchange P cfg a) :
    exchange P cfg a
      = raise .connectionClosedError (lit "peer closed the connection") := by
  obtain ⟨request, hrequest⟩ := requestMessage_eq_ok hkey a.nonce
  obtain ⟨hsend, hclosed | ⟨reply, pk, hreply, hpk, hencaps, hclosed⟩⟩ := h
  · simp only [exchange, hrequest, ok_bind, hsend, hclosed, IoOutcome.result, ReadOutcome.result,
      raise_bind]
  · simp only [exchange, hrequest, ok_bind, hsend, hreply, hpk, hencaps, hclosed,
      IoOutcome.result, ReadOutcome.result, raise_bind]

/-! ### The three ends of an attempt -/

/-- The attempt ends because the peer closes the stream between two messages. -/
def EndsClosed (P : Primitives B) (cfg : GatewayConfig B) (a : Attempt B) : Prop :=
  a.connect = .ok ∧ ClosedInExchange P cfg a

/-- Every call of the attempt succeeds and every message of the peer is accepted. -/
def Succeeds (P : Primitives B) (cfg : GatewayConfig B) (a : Attempt B) : Prop :=
  a.connect = .ok ∧ a.sendRequest = .ok ∧ a.sendEncaps = .ok ∧
    ∃ reply publicKey reply', a.pubkeyReply = .message reply ∧
      acceptPubkeyReply P cfg reply = .ok publicKey ∧ a.establishedReply = .message reply' ∧
      parseMlkemEstablishedReply reply' a.sessionId = .ok ()

lemma Succeeds.exchange_eq (hkey : P.len cfg.gatewayKey = keyLength) {a : Attempt B}
    (h : Succeeds P cfg a) : ∃ secret, exchange P cfg a = .ok secret := by
  obtain ⟨request, hrequest⟩ := requestMessage_eq_ok hkey a.nonce
  obtain ⟨-, hsend, hencaps, reply, pk, reply', hreply, hpk, hreply', hparse⟩ := h
  refine ⟨(mlkemEncapsulate P pk a.coins).1, ?_⟩
  simp only [exchange, hrequest, ok_bind, hsend, hreply, hpk, hencaps, hreply', hparse,
    IoOutcome.result, ReadOutcome.result, pure_eq_ok]

lemma succeeds_of_exchange {a : Attempt B} {secret : B} (hconnect : a.connect = .ok)
    (h : exchange P cfg a = .ok secret) : Succeeds P cfg a := by
  obtain ⟨_, -, h⟩ := bind_eq_ok.1 h
  obtain ⟨_, hsend, h⟩ := bind_eq_ok.1 h
  obtain ⟨reply, hreply, h⟩ := bind_eq_ok.1 h
  obtain ⟨pk, hpk, h⟩ := bind_eq_ok.1 h
  obtain ⟨_, hencaps, h⟩ := bind_eq_ok.1 h
  obtain ⟨reply', hreply', h⟩ := bind_eq_ok.1 h
  obtain ⟨_, hparse, -⟩ := bind_eq_ok.1 h
  exact ⟨hconnect, ioOutcome_eq_ok hsend, ioOutcome_eq_ok hencaps, reply, pk, reply',
    readOutcome_eq_ok hreply, hpk, readOutcome_eq_ok hreply', hparse⟩

lemma EndsClosed.not_succeeds {a : Attempt B} (h : EndsClosed P cfg a) : ¬ Succeeds P cfg a := by
  rintro ⟨-, -, -, reply, pk, reply', hreply, -, hreply', -⟩
  obtain ⟨-, -, hclosed | ⟨_, _, -, -, -, hclosed⟩⟩ := h
  · rw [hreply] at hclosed
    cases hclosed
  · rw [hreply'] at hclosed
    cases hclosed

/-- An attempt that does not succeed changes the state of the channel and nothing
else. -/
lemma establishOnce_cases (hkey : P.len cfg.gatewayKey = keyLength)
    (hpin : isAscii cfg.pin = true) (ch : CloudChannel B) (a : Attempt B) :
    (Succeeds P cfg a ∧ ∃ key, establishOnce P cfg ch a
        = (publish { ch with state := .establishing } a.sessionId key a.sock, .ok ())) ∨
    (EndsClosed P cfg a ∧ ∃ st e, establishOnce P cfg ch a = ({ ch with state := st }, .error e) ∧
      retried e = false) ∨
    (¬ Succeeds P cfg a ∧ ¬ EndsClosed P cfg a ∧ ∃ st e,
      establishOnce P cfg ch a = ({ ch with state := st }, .error e) ∧ retried e = true) := by
  rcases hc : a.connect with _ | msg
  · rcases hx : exchange P cfg a with e | secret
    · have hnot : ¬ Succeeds P cfg a := fun h => by
        obtain ⟨secret, hs⟩ := h.exchange_eq hkey
        rw [hx] at hs
        cases hs
      have hrun : establishOnce P cfg ch a = ({ ch with state := .establishing }, .error e) := by
        simp only [establishOnce, hc, IoOutcome.result, hx]
      -- a peer that closes is the one failure that is not retried
      by_cases hclosed : ClosedInExchange P cfg a
      · refine Or.inr (Or.inl ⟨⟨hc, hclosed⟩, _, e, hrun, not_retried_of_closed ?_⟩)
        have := exchange_of_closed hkey hclosed
        rw [hx] at this
        cases this
        rfl
      · refine Or.inr (Or.inr ⟨hnot, fun h => hclosed h.2, _, e, hrun, ?_⟩)
        rcases exchange_raises hkey hpin a e hx with h | ⟨-, h⟩
        · exact h
        · exact absurd h hclosed
    · refine Or.inl ⟨succeeds_of_exchange hc hx, deriveSessionKey P secret, ?_⟩
      simp only [establishOnce, hc, IoOutcome.result, hx]
  -- there is no connection
  · refine Or.inr (Or.inr ⟨?_, ?_, ch.state, ⟨.osError, msg⟩, ?_, retried_of_cls (Or.inl rfl)⟩)
    · rintro ⟨h, -⟩
      rw [hc] at h
      cases h
    · rintro ⟨h, -⟩
      rw [hc] at h
      cases h
    · simp only [establishOnce, hc, IoOutcome.result, raise]

/-! ### The loop -/

/-- After `k` passes, an attempt that the loop still makes will end with the stream
closed. -/
def WillClose (P : Primitives B) (cfg : GatewayConfig B) (n : ℕ) (peer : ℕ → Attempt B)
    (k : ℕ) : Prop :=
  ∃ i, k < i ∧ i ≤ n ∧ EndsClosed P cfg (peer i) ∧ ∀ j, k < j → j < i → ¬ Succeeds P cfg (peer j)

lemma WillClose.of_succ {n k : ℕ} {peer : ℕ → Attempt B} (hs : ¬ Succeeds P cfg (peer (k + 1)))
    (h : WillClose P cfg n peer (k + 1)) : WillClose P cfg n peer k := by
  obtain ⟨i, hki, hin, hclosed, hfail⟩ := h
  refine ⟨i, by omega, hin, hclosed, fun j hkj hji => ?_⟩
  rcases Nat.lt_or_ge (k + 1) j with hj | hj
  · exact hfail j hj hji
  · have : j = k + 1 := by omega
    rw [this]
    exact hs

lemma WillClose.succ {n k : ℕ} {peer : ℕ → Attempt B} (h : WillClose P cfg n peer k)
    (hclosed : ¬ EndsClosed P cfg (peer (k + 1))) : WillClose P cfg n peer (k + 1) := by
  obtain ⟨i, hki, hin, hi, hfail⟩ := h
  refine ⟨i, ?_, hin, hi, fun j hkj hji => hfail j (by omega) hji⟩
  rcases Nat.lt_or_ge (k + 1) i with hi' | hi'
  · exact hi'
  · have : i = k + 1 := by omega
    rw [this] at hi
    exact absurd hi hclosed

/-- The result that `connect_and_establish(max_attempts=n)` promises when it is called
on `ch`, with `k` attempts already made. -/
def Promised (n k : ℕ) (ch ch' : CloudChannel B) (attempts : ℕ) (result : Bool) : Prop :=
  if result then
    attempts ≤ n ∧ ch'.metrics .errors + k + 1 = ch.metrics .errors + attempts ∧
      ch'.isEstablished = true
  else
    attempts = n ∧ ch'.metrics .errors + k = ch.metrics .errors + n ∧ ch'.state = .disconnected ∧
      ch'.sock = ch.sock ∧ ch'.sessionKey = ch.sessionKey ∧ ch'.sessionId = ch.sessionId

section Loop

variable (hkey : P.len cfg.gatewayKey = keyLength) (hpin : isAscii cfg.pin = true)
  (peer : ℕ → Attempt B)

include hkey hpin

/-- One pass of the loop, whatever the fuel that is left for the next ones. -/
lemma pass_cases (maxAttempts : Option ℕ) (k : ℕ) (ch : CloudChannel B) :
    (Succeeds P cfg (peer (k + 1)) ∧ ∃ ch', ch'.isEstablished = true ∧
      ch'.metrics .errors = ch.metrics .errors ∧ ∀ fuel,
        connectAndEstablish P cfg maxAttempts peer (fuel + 1) k ch
          = some (ch', k + 1, .ok true)) ∨
    (EndsClosed P cfg (peer (k + 1)) ∧ ∃ ch' e, ∀ fuel,
      connectAndEstablish P cfg maxAttempts peer (fuel + 1) k ch = some (ch', k + 1, .error e)) ∨
    (¬ Succeeds P cfg (peer (k + 1)) ∧ ¬ EndsClosed P cfg (peer (k + 1)) ∧ ∀ fuel,
      connectAndEstablish P cfg maxAttempts peer (fuel + 1) k ch =
        if exhausted maxAttempts (k + 1) then some (attemptFailed ch, k + 1, .ok false)
        else connectAndEstablish P cfg maxAttempts peer fuel (k + 1) (attemptFailed ch)) := by
  rcases establishOnce_cases hkey hpin { ch with state := .connecting } (peer (k + 1)) with
    ⟨hs, key, hrun⟩ | ⟨hclosed, st, e, hrun, he⟩ | ⟨hs, hclosed, st, e, hrun, he⟩
  · refine Or.inl ⟨hs, { publish { ch with state := .establishing } (peer (k + 1)).sessionId key
      (peer (k + 1)).sock with state := .established }, rfl, ?_, fun fuel => ?_⟩
    · simp [publish]
    · simp only [connectAndEstablish, hrun]
  · refine Or.inr (Or.inl ⟨hclosed, { ch with state := st }, e, fun fuel => ?_⟩)
    simp only [connectAndEstablish, hrun, he]
    rfl
  · refine Or.inr (Or.inr ⟨hs, hclosed, fun fuel => ?_⟩)
    simp only [connectAndEstablish, hrun, he]
    rfl

/-- While no attempt will end with the stream closed, the loop returns what it
promises. -/
lemma connectAndEstablish_of_not_willClose {n : ℕ} (d : ℕ) :
    ∀ (k : ℕ) (ch : CloudChannel B), k + (d + 1) = n → ¬ WillClose P cfg n peer k →
      ∃ ch' attempts result, Promised n k ch ch' attempts result ∧ ∀ fuel, d ≤ fuel →
        connectAndEstablish P cfg (some n) peer (fuel + 1) k ch
          = some (ch', attempts, .ok result) := by
  -- on the number `d` of attempts that are left after the next one
  induction d with
  | zero =>
    intro k ch hn hw
    rcases pass_cases hkey hpin peer (some n) k ch with
      ⟨-, ch', hest, herr, hrun⟩ | ⟨hclosed, -⟩ | ⟨-, -, hrun⟩
    · exact ⟨ch', k + 1, true, ⟨by omega, by omega, hest⟩, fun fuel _ => hrun fuel⟩
    · exact absurd ⟨k + 1, by omega, by omega, hclosed, fun j _ _ => by omega⟩ hw
    · refine ⟨attemptFailed ch, k + 1, false, ?_, fun fuel _ => ?_⟩
      · refine ⟨by omega, ?_, rfl, rfl, rfl, rfl⟩
        simp only [attemptFailed, Metrics.inc_self]
        omega
      · rw [hrun, if_pos]
        simp only [exhausted, decide_eq_true_eq]
        omega
  | succ d ih =>
    intro k ch hn hw
    rcases pass_cases hkey hpin peer (some n) k ch with
      ⟨-, ch', hest, herr, hrun⟩ | ⟨hclosed, -⟩ | ⟨hs, hclosed, hrun⟩
    · exact ⟨ch', k + 1, true, ⟨by omega, by omega, hest⟩, fun fuel _ => hrun fuel⟩
    · exact absurd ⟨k + 1, by omega, by omega, hclosed, fun j _ _ => by omega⟩ hw
    obtain ⟨ch', attempts, result, hp, hrest⟩ :=
      ih (k + 1) (attemptFailed ch) (by omega) fun h => hw (h.of_succ hs)
    refine ⟨ch', attempts, result, ?_, fun fuel hfuel => ?_⟩
    · have herr : (attemptFailed ch).metrics .errors = ch.metrics .errors + 1 := by
        simp [attemptFailed]
      cases result with
      | true =>
        obtain ⟨hle, he, hest⟩ := hp
        exact ⟨hle, by omega, hest⟩
      | false =>
        obtain ⟨hle, he, hfields⟩ := hp
        exact ⟨hle, by omega, hfields⟩
    · obtain ⟨f, rfl⟩ : ∃ f, fuel = f + 1 := ⟨fuel - 1, by omega⟩
      rw [hrun, if_neg, hrest f (by omega)]
      simp only [exhausted, decide_eq_true_eq]
      omega

/-- Once an attempt will end with the stream closed, an exception leaves the loop. -/
lemma connectAndEstablish_of_willClose {n : ℕ} (d : ℕ) :
    ∀ (k : ℕ) (ch : CloudChannel B), k + (d + 1) = n → WillClose P cfg n peer k →
      ∃ ch' attempts e, ∀ fuel, d ≤ fuel →
        connectAndEstablish P cfg (some n) peer (fuel + 1) k ch
          = some (ch', attempts, .error e) := by
  induction d with
  | zero =>
    rintro k ch hn ⟨i, hki, hin, hi, -⟩
    have hik : i = k + 1 := by omega
    rw [hik] at hi
    rcases pass_cases hkey hpin peer (some n) k ch with
      ⟨hs, -⟩ | ⟨-, ch', e, hrun⟩ | ⟨-, hclosed, -⟩
    · exact absurd hs hi.not_succeeds
    · exact ⟨ch', k + 1, e, fun fuel _ => hrun fuel⟩
    · exact absurd hi hclosed
  | succ d ih =>
    intro k ch hn hw
    rcases pass_cases hkey hpin peer (some n) k ch with
      ⟨hs, -⟩ | ⟨-, ch', e, hrun⟩ | ⟨hs, hclosed, hrun⟩
    · -- a success before the bad attempt, or the bad attempt itself
      obtain ⟨i, hki, -, hi, hfail⟩ := hw
      rcases Nat.lt_or_ge (k + 1) i with h | h
      · exact absurd hs (hfail (k + 1) (by omega) h)
      · have hik : i = k + 1 := by omega
        rw [hik] at hi
        exact absurd hs hi.not_succeeds
    · exact ⟨ch', k + 1, e, fun fuel _ => hrun fuel⟩
    obtain ⟨ch', attempts, e, hrest⟩ :=
      ih (k + 1) (attemptFailed ch) (by omega) (hw.succ hclosed)
    refine ⟨ch', attempts, e, fun fuel hfuel => ?_⟩
    obtain ⟨f, rfl⟩ : ∃ f, fuel = f + 1 := ⟨fuel - 1, by omega⟩
    rw [hrun, if_neg, hrest f (by omega)]
    simp only [exhausted, decide_eq_true_eq]
    omega

end Loop

/-- A call of `connect_and_establish(max_attempts=n)` on `ch` returns, lets no exception
escape, and leaves what it promises. -/
def Survives (P : Primitives B) (cfg : GatewayConfig B) (n : ℕ) (peer : ℕ → Attempt B)
    (ch : CloudChannel B) : Prop :=
  ∃ ch' attempts result, Promised n 0 ch ch' attempts result ∧ ∀ fuel, n ≤ fuel →
    connectAndEstablish P cfg (some n) peer fuel 0 ch = some (ch', attempts, .ok result)

/-- **Establishment survives a peer exactly when that peer never closes the stream
between two messages** in an attempt that the loop makes. -/
theorem connectAndEstablish_survives_iff (hkey : P.len cfg.gatewayKey = keyLength)
    (hpin : isAscii cfg.pin = true) {n : ℕ} (hn : 1 ≤ n) (peer : ℕ → Attempt B)
    (ch : CloudChannel B) :
    Survives P cfg n peer ch ↔
      ¬ ∃ i, 1 ≤ i ∧ i ≤ n ∧ EndsClosed P cfg (peer i) ∧
        ∀ j, 1 ≤ j → j < i → ¬ Succeeds P cfg (peer j) := by
  obtain ⟨d, rfl⟩ : ∃ d, n = d + 1 := ⟨n - 1, by omega⟩
  have hwill : (∃ i, 1 ≤ i ∧ i ≤ d + 1 ∧ EndsClosed P cfg (peer i) ∧
      ∀ j, 1 ≤ j → j < i → ¬ Succeeds P cfg (peer j)) ↔ WillClose P cfg (d + 1) peer 0 := Iff.rfl
  rw [hwill]
  constructor
  · rintro ⟨ch', attempts, result, -, hrun⟩ hw
    obtain ⟨ch'', attempts', e, hrun'⟩ :=
      connectAndEstablish_of_willClose hkey hpin peer d 0 ch (by omega) hw
    have h := hrun (d + 1) le_rfl
    rw [hrun' d le_rfl] at h
    simp at h
  · intro hw
    obtain ⟨ch', attempts, result, hp, hrun⟩ :=
      connectAndEstablish_of_not_willClose hkey hpin peer d 0 ch (by omega) hw
    refine ⟨ch', attempts, result, hp, fun fuel hfuel => ?_⟩
    obtain ⟨f, rfl⟩ : ∃ f, fuel = f + 1 := ⟨fuel - 1, by omega⟩
    exact hrun f (by omega)

/-! ### The demo gateway -/

/-- The gateway of the demo, with the fingerprint of the cloud as its pin. -/
def demoGateway : GatewayConfig Bytes :=
  ⟨lit "gw-01", Demo.gatewayKey, Ideal.code (.pub Demo.cloudKey), true⟩

/-- An attempt whose peer answers the request as given. -/
def answeredAttempt (connect : IoOutcome) (pubkeyReply : ReadOutcome) : Attempt Bytes where
  sessionId := lit "00112233aabbccdd"
  nonce := Demo.nonce 0
  coins := Demo.coins 0
  sock := 0
  connect := connect
  sendRequest := .ok
  pubkeyReply := pubkeyReply
  sendEncaps := .ok
  establishedReply := .osError (lit "timed out")

/-- Three attempts are made, and none of them is fatal, where the first connection is
refused and the cloud then sends garbage. -/
theorem connectAndEstablish_survives_refused :
    Survives (ideal fun _ => none) demoGateway 3
      (fun i => if i = 1 then answeredAttempt (.osError (lit "Connection refused")) .closed
        else answeredAttempt .ok (.malformed (lit "message is not valid JSON"))) .new := by
  refine (connectAndEstablish_survives_iff rfl (Ideal.isAscii_code _) (by decide) _ _).2 ?_
  rintro ⟨i, -, -, ⟨hconnect, -, hclosed⟩, -⟩
  split_ifs at hconnect hclosed
  · cases hconnect
  · obtain h | ⟨_, _, h, -⟩ := hclosed <;> cases h

/-- A cloud that hangs up on the request ends the loop with an exception. -/
theorem connectAndEstablish_hangup :
    ¬ Survives (ideal fun _ => none) demoGateway 3
      (fun _ => answeredAttempt .ok .closed) .new := by
  rintro ⟨ch', attempts, result, -, hrun⟩
  have hexc : connectAndEstablish (ideal fun _ => none) demoGateway (some 3)
      (fun _ => answeredAttempt .ok .closed) 3 0 .new
        = some ({ CloudChannel.new with state := .establishing }, 1,
          raise .connectionClosedError (lit "peer closed the connection")) := rfl
  rw [hrun 3 le_rfl] at hexc
  cases hexc

end PqcBridge.Gateway
