/-
The gateway at one end of its sockets, the cloud at the other.

What the threads of the gateway write on a socket is what an honest peer of the cloud sends:
a request, an encapsulation to the key of the cloud, and readings.  A reading may have been
sealed for an earlier session, where a reconnect came between the steps of its call; the
cloud drops it and goes on.

* `Supply`: what the devices and the random generator hand to the gateway in a run;
* `Linked`: every key, session id and message of the gateway comes from the supply;
* `exists_peer`: what is on a socket is the stream of a peer;
* `sockets_served`: the cloud reads it to its end, and settles the readings of the session.
-/
import PqcBridge.System.Service

namespace PqcBridge.Sockets

open Python Protocol Crypto Cloud Framing Runs Frames Admission Gateway Service
open PqcBridge.Gateway.Wire (Token IsText Conn CallPc ThreadPc ThreadEvent Invalidation)

variable {P : Primitives Octets}

/-! ### The supply -/

/-- The reading that the bytes are to the cloud. -/
def IsItem (P : Primitives Octets) (readingBytes : Octets) (item : Item HashKey) : Prop :=
  ∃ reading, parseReadingBytes P readingBytes = .ok reading ∧
    (reading.item "device_id" >>= Json.hashKey) = .ok item.key ∧
    reading.field "sequence" = some (.int item.number) ∧ 0 < item.number

/-- What the devices, the random generator and the encapsulations hand to the gateway. -/
structure Supply where
  readings : Set Octets
  nonces : Set Octets
  tokens : Set Token
  coins : Set Octets

variable (cfg : GatewayConfig Octets) (cloud : CloudConfig P) (W : Supply)

/-- The event takes its values from the supply, and no key but that of the cloud passes the
check of the fingerprint. -/
def Supplies : Wire.Event → Prop
  | .call _ readingBytes => readingBytes ∈ W.readings
  | .build _ nonce => nonce ∈ W.nonces
  | .thread _ (.connect _ token nonce) => token ∈ W.tokens ∧ nonce ∈ W.nonces
  | .thread _ (.reply o coins) =>
    coins ∈ W.coins ∧
      ∀ raw, (o.result >>= acceptPubkeyReply P cfg) = .ok raw → raw = cloud.publicKeyRaw
  | _ => True

/-- The key of a session that the gateway makes with the cloud. -/
def IsKey (key : Octets) : Prop := ∃ coins ∈ W.coins, key = sessionKey cloud coins

variable (P) in
/-- The request of the gateway. -/
def IsRequest (m : JsonDict) : Prop :=
  ∃ nonce ∈ W.nonces, requestMessage P cfg nonce = .ok m

/-- The encapsulation of the gateway. -/
def encaps (token : Token) (coins : Octets) : JsonDict :=
  encapsMessage P cfg token.text (mlkemEncapsulate P cloud.publicKeyRaw coins).2

/-- A reading, sealed under the key of some session and with the id of some session. -/
def IsReading (m : JsonDict) : Prop :=
  ∃ readingBytes ∈ W.readings, ∃ key, IsKey cloud W key ∧ ∃ token ∈ W.tokens, ∃ nonce ∈ W.nonces,
    buildProtectedReading P readingBytes key token.text nonce = .ok m

/-- What can have been sent on a socket. -/
def Conversation (ms : List JsonDict) : Prop :=
  ms = [] ∨ (∃ request, IsRequest P cfg W request ∧ ms = [request]) ∨
    ∃ request token coins readings, IsRequest P cfg W request ∧ token ∈ W.tokens ∧
      coins ∈ W.coins ∧ (∀ m ∈ readings, IsReading cloud W m) ∧
      ms = request :: encaps cfg cloud token coins :: readings

/-! ### The invariant -/

/-- What a call carries comes from the supply. -/
def CallLinked : CallPc → Prop
  | .checking readingBytes _ => readingBytes ∈ W.readings
  | .checked readingBytes => readingBytes ∈ W.readings
  | .keyed readingBytes key => readingBytes ∈ W.readings ∧ ∀ k, key = some k → IsKey cloud W k
  | .built m => IsReading cloud W m
  | .locked m => IsReading cloud W m
  | .sending _ m _ => IsReading cloud W m
  | _ => True

/-- What a thread carries comes from the supply, and belongs to what it has sent. -/
def ThreadLinked (s : Wire.State) : ThreadPc → Prop
  | .sendRequest a m _ => a.sessionId ∈ W.tokens ∧ IsRequest P cfg W m
  | .pubkey a => a.sessionId ∈ W.tokens
  | .sendEncaps a secret m _ =>
    a.sessionId ∈ W.tokens ∧ ∃ coins ∈ W.coins, m = encaps cfg cloud a.sessionId coins ∧
      secret = (mlkemEncapsulate P cloud.publicKeyRaw coins).1
  | .established a secret =>
    a.sessionId ∈ W.tokens ∧ ∃ request, ∃ coins ∈ W.coins,
      (s.streams a.sock).finished = [request, encaps cfg cloud a.sessionId coins] ∧
        secret = (mlkemEncapsulate P cloud.publicKeyRaw coins).1
  | .publishKey a key => a.sessionId ∈ W.tokens ∧ IsKey cloud W key
  | .publishId a => a.sessionId ∈ W.tokens
  | _ => True

/-- What the threads share comes from the supply. -/
structure Shared (s : Wire.State) : Prop where
  key : ∀ key, s.channel.sessionKey = some key → IsKey cloud W key
  id : ∀ sid, s.channel.sessionId = some sid → ∃ token ∈ W.tokens, sid = token.text
  calls : ∀ t, CallLinked cloud W (s.calls t)
  streams : ∀ k, Conversation cfg cloud W (s.streams k).finished
  /-- a session was negotiated with the encapsulation that is on its socket -/
  sessions : ∀ k sid key, s.sessions k = some (sid, key) → ∃ request token coins,
    sid = token.text ∧ key = sessionKey cloud coins ∧
      [request, encaps cfg cloud token coins] <+: (s.streams k).finished

/-- The invariant. -/
structure Linked (s : Wire.State) : Prop extends Shared cfg cloud W s where
  threads : ∀ i, ThreadLinked cfg cloud W s (s.threads i)

variable {cfg cloud W} {s s' : Wire.State}

/-- Only a thread in a handshake looks at a stream. -/
lemma ThreadLinked.of_late {pc : ThreadPc} (hpc : pc.late = true) :
    ThreadLinked cfg cloud W s pc := by
  cases pc with
  | publishState | finishing | stopped => trivial
  | _ => cases hpc

lemma ThreadLinked.congr {pc : ThreadPc} (h : ThreadLinked cfg cloud W s pc)
    (hstreams : s'.streams = s.streams) : ThreadLinked cfg cloud W s' pc := by
  cases pc with
  | established a secret =>
    simp only [ThreadLinked, hstreams] at h ⊢
    exact h
  | _ => exact h

/-- The channel changes, and shows no other key and no other session id. -/
lemma Shared.setChannel (h : Shared cfg cloud W s) {ch : CloudChannel Octets}
    (hkey : ∀ key, ch.sessionKey = some key → IsKey cloud W key)
    (hid : ∀ sid, ch.sessionId = some sid → ∃ token ∈ W.tokens, sid = token.text) :
    Shared cfg cloud W (s.setChannel ch) :=
  ⟨hkey, hid, h.calls, h.streams, h.sessions⟩

lemma Shared.setCall (h : Shared cfg cloud W s) {t : ℕ} {pc : CallPc}
    (hpc : CallLinked cloud W pc) : Shared cfg cloud W (s.setCall t pc) :=
  ⟨h.key, h.id, (Function.forall_update_iff s.calls fun _ pc => CallLinked cloud W pc).2
    ⟨hpc, fun t' _ => h.calls t'⟩, h.streams, h.sessions⟩

lemma Linked.setCall (h : Linked cfg cloud W s) {t : ℕ} {pc : CallPc}
    (hpc : CallLinked cloud W pc) : Linked cfg cloud W (s.setCall t pc) :=
  ⟨h.toShared.setCall hpc, fun i => (h.threads i).congr rfl⟩

/-- What has been finished on a socket after a piece of a `sendall`. -/
lemma finished_write (s : Wire.State) (k : ℕ) (m : JsonDict) (rest : Octets) (n k' : ℕ) :
    ((s.write k m rest n).streams k').finished
      = if k' = k ∧ rest.drop n = [] then (s.streams k').finished ++ [m]
        else (s.streams k').finished := by
  by_cases hk : k' = k
  · subst hk
    by_cases hrest : rest.drop n = [] <;> simp [Wire.State.write, Wire.State.setStream, hrest]
  · rw [Wire.write_streams_of_ne hk, if_neg fun h => hk h.1]

/-- A piece of a `sendall`. -/
lemma Shared.write (h : Shared cfg cloud W s) {k : ℕ} {m : JsonDict} (rest : Octets) (n : ℕ)
    (hm : Conversation cfg cloud W ((s.streams k).finished ++ [m])) :
    Shared cfg cloud W (s.write k m rest n) := by
  refine ⟨by rw [Wire.write_channel]; exact h.key, by rw [Wire.write_channel]; exact h.id,
    by rw [Wire.write_calls]; exact h.calls, fun k' => ?_, fun k' sid key hs => ?_⟩
  · rw [finished_write]
    split_ifs with hk
    · rw [hk.1]
      exact hm
    · exact h.streams k'
  · rw [Wire.write_sessions] at hs
    obtain ⟨request, token, coins, hsid, hkey, hprefix⟩ := h.sessions k' sid key hs
    refine ⟨request, token, coins, hsid, hkey, hprefix.trans ?_⟩
    rw [finished_write]
    split_ifs
    · exact List.prefix_append _ _
    · exact List.prefix_rfl

/-! ### The calls -/

lemma Conversation.reading {ms : List JsonDict} (h : Conversation cfg cloud W ms)
    (hlen : 2 ≤ ms.length) {m : JsonDict} (hm : IsReading cloud W m) :
    Conversation cfg cloud W (ms ++ [m]) := by
  rcases h with rfl | ⟨_, -, rfl⟩ | ⟨request, token, coins, readings, hr, ht, hc, hrs, rfl⟩
  · cases hlen
  · exact absurd hlen (by simp)
  · refine Or.inr (Or.inr ⟨request, token, coins, readings ++ [m], hr, ht, hc, ?_, by simp⟩)
    intro m' hm'
    rcases List.mem_append.1 hm' with hm' | hm'
    · exact hrs m' hm'
    · rw [List.mem_singleton.1 hm']
      exact hm

/-- `_start_reconnect`. -/
lemma Linked.restart (h : Linked cfg cloud W s) : Linked cfg cloud W s.restart := by
  rcases Bool.eq_false_or_eq_true s.channel.reconnecting with hrec | hrec
  · rw [Wire.restart_of_reconnecting hrec]
    exact h
  · rw [Wire.restart_of_not_reconnecting hrec]
    refine ⟨⟨h.key, h.id, h.calls, h.streams, h.sessions⟩, ?_⟩
    exact (Function.forall_update_iff s.threads fun _ pc => ThreadLinked cfg cloud W _ pc).2
      ⟨trivial, fun i _ => (h.threads i).congr rfl⟩

lemma Linked.callMove (h : Linked cfg cloud W s) (t : ℕ) :
    Linked cfg cloud W ((Wire.callMove P cfg s t (s.calls t)).1.setCall t
      (Wire.callMove P cfg s t (s.calls t)).2) := by
  have hcall := h.calls t
  -- `_invalidate` shows nothing new
  have hchannel : ∀ (ch : CloudChannel Octets) (next : Invalidation),
      (∀ key, ch.sessionKey = some key → s.channel.sessionKey = some key) →
      ch.sessionId = s.channel.sessionId →
      Linked cfg cloud W ((s.setChannel ch).setCall t (.invalidating next)) := by
    intro ch next hkey hid
    have hlinked : Linked cfg cloud W (s.setChannel ch) :=
      ⟨h.toShared.setChannel (fun key hk => h.key key (hkey key hk)) (hid ▸ h.id),
        fun i => (h.threads i).congr rfl⟩
    exact hlinked.setCall trivial
  have hlock : ∀ lock, Linked cfg cloud W { s with lock := lock } := fun _ =>
    ⟨⟨h.key, h.id, h.calls, h.streams, h.sessions⟩, fun i => (h.threads i).congr rfl⟩
  cases hpc : s.calls t with
  | checking b next =>
    rw [hpc] at hcall
    simp only [Wire.callMove]
    rcases next.read s.channel with next' | _ | _
    · exact h.setCall hcall
    · exact h.setCall trivial
    · exact h.setCall hcall
  | checked b =>
    rw [hpc] at hcall
    exact h.setCall ⟨hcall, h.key⟩
  | built m =>
    rw [hpc] at hcall
    rcases hfree : s.lock with _ | t'
    · simp only [Wire.callMove, hfree]
      exact (hlock _).setCall hcall
    · simp only [Wire.callMove, hfree]
      exact h.setCall hcall
  | locked m =>
    rw [hpc] at hcall
    rcases hsock : s.channel.sock with _ | k
    · simp only [Wire.callMove, hsock]
      exact h.setCall trivial
    · simp only [Wire.callMove, hsock]
      exact h.setCall hcall
  | invalidating next =>
    cases next with
    | sock => exact hchannel _ _ (fun _ hk => hk) rfl
    | key => exact hchannel _ _ (fun _ hk => absurd hk (by simp)) rfl
    | state => exact hchannel _ _ (fun _ hk => hk) rfl
    | restart =>
      simp only [Wire.callMove]
      split_ifs
      · exact h.restart.setCall trivial
      · exact h.setCall trivial
  | unlocking => exact (hlock _).setCall trivial
  | idle | keyed | sending =>
    rw [hpc] at hcall
    exact h.setCall hcall

/-- A step of a call. -/
lemma Linked.callStep (h : Linked cfg cloud W s) (hok : Wire.Ok P cfg s) {ev : Wire.Event}
    (hev : Supplies cfg cloud W ev) (hcaller : ∀ i x, ev ≠ .thread i x) :
    Linked cfg cloud W (Wire.step P cfg s ev) := by
  cases ev with
  | call t b =>
    simp only [Wire.step]
    split
    · exact h.setCall hev
    · exact h
  | move t => exact h.callMove t
  | build t nonce =>
    simp only [Wire.step]
    split
    · next b key hpc =>
      have hcall := h.calls t
      rw [hpc] at hcall
      split
      · next payload hbuild =>
        -- the key was read before the session id, and may belong to another session
        have hreading : IsReading cloud W payload := by
          unfold buildPayload at hbuild
          split at hbuild
          · next sid key' hid hkey =>
            obtain ⟨token, htoken, rfl⟩ := h.id sid hid
            exact ⟨b, hcall.1, key', hcall.2 key' hkey, token, htoken, nonce, hev, hbuild⟩
          · cases hbuild
          · cases hbuild
        exact h.setCall hreading
      · exact h.setCall trivial
    · exact h
  | write t n =>
    simp only [Wire.step]
    split
    · next k m rest hpc =>
      have hcall := h.calls t
      have hown := hok.calls t
      rw [hpc] at hcall hown
      have hsock : s.channel.sock = some k := hown.2.1
      have hlen : 2 ≤ (s.streams k).finished.length := by
        obtain ⟨_, _, readings, ⟨_, _, -, rfl⟩, -, hfinished⟩ := (hok.session k hsock).serving
        rw [hfinished]
        simp
      have hshared := h.toShared.write rest n ((h.streams k).reading hlen hcall)
      have hlinked : Linked cfg cloud W (s.write k m rest n) := by
        refine ⟨hshared, fun i => ?_⟩
        rw [Wire.write_threads]
        exact .of_late (hok.late_of_sock hsock i)
      split_ifs
      · exact hlinked.setCall trivial
      · exact hlinked.setCall hcall
    · exact h
  | fail t =>
    simp only [Wire.step]
    split
    · exact h.setCall trivial
    · exact h
  | thread i x => exact absurd rfl (hcaller i x)

/-! ### The threads -/

/-- A thread moves on, and no stream changes. -/
lemma Linked.setThread (h : Linked cfg cloud W s) {i : ℕ} {pc : ThreadPc}
    (hshared : Shared cfg cloud W s') (hthreads : s'.threads = s.threads)
    (hstreams : s'.streams = s.streams) (hpc : ThreadLinked cfg cloud W s' pc) :
    Linked cfg cloud W (s'.setThread i pc) := by
  refine ⟨⟨hshared.key, hshared.id, hshared.calls, hshared.streams, hshared.sessions⟩, ?_⟩
  refine (Function.forall_update_iff s'.threads fun _ pc => ThreadLinked cfg cloud W _ pc).2
    ⟨hpc.congr rfl, fun j _ => ?_⟩
  rw [hthreads]
  exact (h.threads j).congr hstreams

/-- A piece of a `sendall` of a thread, which is the only one that runs. -/
lemma Linked.threadWrite (h : Linked cfg cloud W s) (hok : Wire.Ok P cfg s) {i k n : ℕ}
    {m : JsonDict} {rest : Octets} {pc : ThreadPc} (hlate : (s.threads i).late = false)
    (hm : Conversation cfg cloud W ((s.streams k).finished ++ [m]))
    (hpc : ThreadLinked cfg cloud W (s.write k m rest n) pc) :
    Linked cfg cloud W ((s.write k m rest n).setThread i pc) := by
  have hshared := h.toShared.write rest n hm
  refine ⟨⟨hshared.key, hshared.id, hshared.calls, hshared.streams, hshared.sessions⟩, ?_⟩
  refine (Function.forall_update_iff _ fun _ pc => ThreadLinked cfg cloud W _ pc).2
    ⟨hpc.congr rfl, fun j hj => ?_⟩
  rw [Wire.write_threads, (hok.others_stopped hlate).2 j hj]
  trivial

/-- The first `sendall`. -/
lemma Linked.writeRequest (h : Linked cfg cloud W s) (hok : Wire.Ok P cfg s) {i : ℕ} {a : Conn}
    {m : JsonDict} {rest : Octets} (hpc : s.threads i = .sendRequest a m rest) (n : ℕ) :
    Linked cfg cloud W ((s.write a.sock m rest n).setThread i
      (if rest.drop n = [] then .pubkey a else .sendRequest a m (rest.drop n))) := by
  have hlate : (s.threads i).late = false := hpc ▸ rfl
  have hworks := (hok.others_stopped hlate).1
  have hthread := h.threads i
  rw [hpc] at hworks hthread
  obtain ⟨-, -, -, -, hnothing⟩ := hworks
  refine h.threadWrite hok hlate ?_ ?_
  · rw [hnothing]
    exact Or.inr (Or.inl ⟨m, hthread.2, rfl⟩)
  · split_ifs
    · exact hthread.1
    · exact hthread

/-- The second `sendall`. -/
lemma Linked.writeEncaps (h : Linked cfg cloud W s) (hok : Wire.Ok P cfg s) {i : ℕ} {a : Conn}
    {secret : Octets} {m : JsonDict} {rest : Octets}
    (hpc : s.threads i = .sendEncaps a secret m rest) (n : ℕ) :
    Linked cfg cloud W ((s.write a.sock m rest n).setThread i
      (if rest.drop n = [] then .established a secret
        else .sendEncaps a secret m (rest.drop n))) := by
  have hlate : (s.threads i).late = false := hpc ▸ rfl
  have hworks := (hok.others_stopped hlate).1
  have hthread := h.threads i
  rw [hpc] at hworks hthread
  obtain ⟨-, -, -, -, request, -, hfinished⟩ := hworks
  obtain ⟨htoken, coins, hcoins, hm, hsecret⟩ := hthread
  -- the request was drawn from the supply
  have hrequest : IsRequest P cfg W request := by
    have hconversation := h.streams a.sock
    rw [hfinished] at hconversation
    rcases hconversation with hnil | ⟨_, hr, heq⟩ | ⟨_, _, _, _, -, -, -, -, heq⟩
    · cases hnil
    · cases heq
      exact hr
    · cases heq
  refine h.threadWrite hok hlate ?_ ?_
  · rw [hfinished, hm]
    exact Or.inr (Or.inr ⟨request, a.sessionId, coins, [], hrequest, htoken, hcoins, by simp, rfl⟩)
  · split_ifs with hrest
    · refine ⟨htoken, request, coins, hcoins, ?_, hsecret⟩
      rw [finished_write, if_pos ⟨rfl, hrest⟩, hfinished, hm]
      rfl
    · exact ⟨htoken, coins, hcoins, hm, hsecret⟩

/-- The cloud has answered the encapsulation. -/
lemma Linked.negotiate (h : Linked cfg cloud W s) {i : ℕ} {a : Conn} {secret : Octets}
    (hpc : s.threads i = .established a secret) :
    Linked cfg cloud W
      ({ s with
          sessions := Function.update s.sessions a.sock
            (some (a.sessionId.text, deriveSessionKey P secret)) }.setThread i
        (.publishKey a (deriveSessionKey P secret))) := by
  have hthread := h.threads i
  rw [hpc] at hthread
  obtain ⟨htoken, request, coins, hcoins, hfinished, rfl⟩ := hthread
  refine h.setThread ⟨h.key, h.id, h.calls, h.streams, ?_⟩ rfl rfl ⟨htoken, coins, hcoins, rfl⟩
  refine (Function.forall_update_iff s.sessions fun k session => ∀ sid key,
    session = some (sid, key) → ∃ request token coins, sid = token.text ∧
      key = sessionKey cloud coins ∧
        [request, encaps cfg cloud token coins] <+: (s.streams k).finished).2
    ⟨?_, fun k _ => h.sessions k⟩
  rintro _ _ ⟨⟩
  exact ⟨request, a.sessionId, coins, rfl, rfl, hfinished ▸ List.prefix_rfl⟩

/-- A step of a thread. -/
lemma Linked.threadStep (h : Linked cfg cloud W s) (hok : Wire.Ok P cfg s) {i : ℕ}
    {ev : ThreadEvent} (hev : Supplies cfg cloud W (.thread i ev)) :
    Linked cfg cloud W ((Wire.threadStep P cfg s i (s.threads i) ev).1.setThread i
      (Wire.threadStep P cfg s i (s.threads i) ev).2) := by
  have hself : ∀ pc, s.threads i = pc → Linked cfg cloud W (s.setThread i pc) := fun pc hpc =>
    (Wire.setThread_self s hpc).symm ▸ h
  -- the thread moves on, and the channel shows what it showed
  have hmove : ∀ (ch : CloudChannel Octets) (pc : ThreadPc),
      ch.sessionKey = s.channel.sessionKey → ch.sessionId = s.channel.sessionId →
      ThreadLinked cfg cloud W (s.setChannel ch) pc →
      Linked cfg cloud W ((s.setChannel ch).setThread i pc) := fun ch pc hkey hid hpc =>
    h.setThread (h.toShared.setChannel (hkey ▸ h.key) (hid ▸ h.id)) rfl rfl hpc
  have hthread := h.threads i
  cases hpc : s.threads i with
  | stopped => cases ev <;> exact hself _ hpc
  | loop =>
    cases ev with
    | move => exact hmove _ _ rfl rfl trivial
    | _ => exact hself _ hpc
  | connect =>
    cases ev with
    | connect io token nonce =>
      simp only [Wire.threadStep]
      rcases io.result with e | _
      · exact h.setThread h.toShared rfl rfl trivial
      · have hshared : Shared cfg cloud W ({ s with opened := s.opened + 1 }.setChannel
            { s.channel with state := .establishing }) :=
          ⟨h.key, h.id, h.calls, h.streams, h.sessions⟩
        rcases hm : requestMessage P cfg nonce with e | m
        · exact h.setThread hshared rfl rfl trivial
        · exact h.setThread hshared rfl rfl ⟨hev.1, nonce, hev.2, hm⟩
    | _ => exact hself _ hpc
  | sendRequest a m rest =>
    cases ev with
    | write n => exact h.writeRequest hok hpc n
    | fail msg => exact h.setThread h.toShared rfl rfl trivial
    | _ => exact hself _ hpc
  | sendEncaps a secret m rest =>
    cases ev with
    | write n => exact h.writeEncaps hok hpc n
    | fail msg => exact h.setThread h.toShared rfl rfl trivial
    | _ => exact hself _ hpc
  | pubkey a =>
    cases ev with
    | reply o coins =>
      rw [hpc] at hthread
      simp only [Wire.threadStep]
      rcases haccept : o.result >>= acceptPubkeyReply P cfg with e | publicKey
      · exact h.setThread h.toShared rfl rfl trivial
      · -- the key of the cloud
        obtain rfl := hev.2 publicKey haccept
        exact h.setThread h.toShared rfl rfl ⟨hthread, coins, hev.1, rfl, rfl⟩
    | _ => exact hself _ hpc
  | established a secret =>
    cases ev with
    | reply o coins =>
      simp only [Wire.threadStep]
      rcases o.result >>= fun reply => parseMlkemEstablishedReply reply a.sessionId.text
          with e | _
      · exact h.setThread h.toShared rfl rfl trivial
      · exact h.negotiate hpc
    | _ => exact hself _ hpc
  | publishKey a key =>
    cases ev with
    | move =>
      rw [hpc] at hthread
      refine h.setThread (h.toShared.setChannel ?_ h.id) rfl rfl hthread.1
      rintro _ ⟨⟩
      exact hthread.2
    | _ => exact hself _ hpc
  | publishId a =>
    cases ev with
    | move =>
      rw [hpc] at hthread
      refine h.setThread (h.toShared.setChannel h.key ?_) rfl rfl trivial
      rintro _ ⟨⟩
      exact ⟨a.sessionId, hthread, rfl⟩
    | _ => exact hself _ hpc
  | countSession | publishSock | publishState | publishFailed | disconnecting =>
    cases ev with
    | move => exact hmove _ _ rfl rfl trivial
    | _ => exact hself _ hpc
  | failing e =>
    cases ev with
    | move =>
      simp only [Wire.threadStep]
      split_ifs
      · exact hmove _ _ rfl rfl trivial
      · exact h.setThread h.toShared rfl rfl trivial
    | _ => exact hself _ hpc
  | finishing =>
    cases ev with
    | move =>
      simp only [Wire.threadStep]
      split_ifs
      · exact h.setThread h.toShared rfl rfl trivial
      · exact hmove _ _ rfl rfl trivial
    | _ => exact hself _ hpc

/-- The step lemma. -/
lemma Linked.step (h : Linked cfg cloud W s) (hok : Wire.Ok P cfg s) {ev : Wire.Event}
    (hev : Supplies cfg cloud W ev) : Linked cfg cloud W (Wire.step P cfg s ev) := by
  cases ev with
  | thread i x => exact h.threadStep hok hev
  | _ => exact h.callStep hok hev (by simp)

lemma linked_initial : Linked cfg cloud W Wire.initial := by
  refine ⟨⟨fun _ hk => absurd hk (by simp [Wire.initial, CloudChannel.new]),
    fun _ hs => absurd hs (by simp [Wire.initial, CloudChannel.new]), fun _ => trivial,
    fun _ => Or.inl rfl, fun _ _ _ hs => absurd hs (by simp [Wire.initial])⟩, ?_⟩
  exact (Function.forall_update_iff _ fun _ pc => ThreadLinked cfg cloud W _ pc).2
    ⟨trivial, fun _ _ => trivial⟩

/-- The run lemma. -/
lemma linked_run {τ : List Wire.Event} (hτ : ∀ ev ∈ τ, Supplies cfg cloud W ev) :
    Linked cfg cloud W (run (Wire.step P cfg) Wire.initial τ) := by
  have hboth : Wire.Ok P cfg (run (Wire.step P cfg) Wire.initial τ) ∧
      Linked cfg cloud W (run (Wire.step P cfg) Wire.initial τ) :=
    inv_run (J := fun s => Wire.Ok P cfg s ∧ Linked cfg cloud W s)
      (P := fun _ ev => Supplies cfg cloud W ev)
      (fun _ ev h hev => ⟨h.1.step ev, h.2.step h.1 hev⟩)
      ⟨Wire.ok_initial P cfg, linked_initial⟩ (along_of_forall fun _ => hτ)
  exact hboth.2

/-! ### What the cloud does with a reading -/

variable (cfg cloud W) in
/-- What is assumed of the supply: the devices hand over readings, every message is within the
limit, and what is sealed under the key of one session does not open under that of another. -/
structure Sound : Prop where
  reading : ∀ readingBytes ∈ W.readings, ∃ item, IsItem P readingBytes item
  nonce_len : ∀ nonce ∈ W.nonces, P.len nonce = nonceLength
  request_size : ∀ m, IsRequest P cfg W m → (encodeBytes P m).length ≤ maxMessageBytes
  encaps_size : ∀ token ∈ W.tokens, ∀ coins ∈ W.coins,
    (encodeBytes P (encaps cfg cloud token coins)).length ≤ maxMessageBytes
  reading_size : ∀ m, IsReading cloud W m → (encodeBytes P m).length ≤ maxMessageBytes
  foreign : ∀ coins ∈ W.coins, ∀ coins' ∈ W.coins,
    sessionKey cloud coins ≠ sessionKey cloud coins' → ∀ nonce ∈ W.nonces,
    ∀ readingBytes ∈ W.readings, ∀ token ∈ W.tokens,
      P.decrypt (sessionKey cloud coins) nonce
        (P.encrypt (sessionKey cloud coins') nonce readingBytes (P.utf8 token.text))
        (P.utf8 token.text) = none

/-- The cloud knows the gateway. -/
structure Knows (cloud : CloudConfig P) (cfg : GatewayConfig Octets) : Prop where
  registered : cloud.gatewayKeys.keys cfg.gatewayId = some cfg.gatewayKey
  named : cfg.gatewayId ≠ []
  valid : validUnicode cfg.gatewayId = true

lemma acceptReading_of_error {m : JsonDict} {key : Octets} {sid : PyStr} {cls : ExcClass}
    {msg : PyStr} (h : decryptProtectedReading P m key sid = raise cls msg)
    (hcls : cls = .cloudProcessingError ∨ cls = .cryptoError) (st : CloudState Octets) :
    (acceptReading P st m key sid).2 = .ok none := by
  rcases hcls with rfl | rfl <;> simp only [acceptReading, h, raise] <;> rfl

lemma buildProtectedReading_eq {key : Octets} (hkey : P.len key = keyLength) (token : Token)
    {readingBytes nonce : Octets} {m : JsonDict}
    (h : buildProtectedReading P readingBytes key token.text nonce = .ok m) :
    m = [(lit "type", .str msgProtectedReading), (lit "session_id", .str token.text),
      (lit "nonce", .str (P.b64encode nonce)),
      (lit "ciphertext", .str (P.b64encode
        (P.encrypt key nonce readingBytes (P.utf8 token.text))))] := by
  simp only [buildProtectedReading, sessionMessageAad, encodeUtf8, token.validUnicode, if_true,
    encryptSessionPayload, aeadEncrypt, chacha_eq_ok hkey, ok_bind, pure_eq_ok,
    Except.ok.injEq] at h
  exact h.symm

/-- The cloud takes such a message for a reading, on the session that it names. -/
lemma named_of_buildProtectedReading {key : Octets} (hkey : P.len key = keyLength) (token : Token)
    {readingBytes nonce : Octets} {m : JsonDict}
    (h : buildProtectedReading P readingBytes key token.text nonce = .ok m) :
    isStr (m.field "type") msgProtectedReading = true ∧
      requireStr m "session_id" = .ok token.text := by
  rw [buildProtectedReading_eq hkey token h]
  exact ⟨rfl, requireStr_eq_ok.2 ⟨rfl, token_ne_nil token⟩⟩

/-- A reading with the id of another session. -/
lemma decryptProtectedReading_of_ne {key : Octets} (hkey : P.len key = keyLength)
    {token token' : Token} (htext : token'.text ≠ token.text) {readingBytes nonce : Octets}
    {m : JsonDict} (h : buildProtectedReading P readingBytes key token'.text nonce = .ok m)
    (key' : Octets) : decryptProtectedReading P m key' token.text
      = raise .cloudProcessingError (lit "session_id mismatch") := by
  obtain ⟨htype, hnamed⟩ := named_of_buildProtectedReading hkey token' h
  simp [decryptProtectedReading, htype, hnamed, htext]

/-- A reading that was sealed under another key. -/
lemma decryptProtectedReading_of_foreign (hP : P.Lawful) {key key' : Octets}
    (hkey : P.len key = keyLength) (hkey' : P.len key' = keyLength) {token : Token}
    {readingBytes nonce : Octets} (hnonce : P.len nonce = nonceLength) {m : JsonDict}
    (h : buildProtectedReading P readingBytes key' token.text nonce = .ok m)
    (hforeign : P.decrypt key nonce (P.encrypt key' nonce readingBytes (P.utf8 token.text))
      (P.utf8 token.text) = none) :
    decryptProtectedReading P m key token.text
      = raise .cryptoError (lit "authentication failed (wrong key or tampered data)") := by
  obtain ⟨htype, hnamed⟩ := named_of_buildProtectedReading hkey' token h
  have hm := buildProtectedReading_eq hkey' token h
  have haad : sessionMessageAad P token.text = .ok (P.utf8 token.text) := by
    simp [sessionMessageAad, encodeUtf8, token.validUnicode]
  have hn : envelopeField P .cryptoError m "nonce" = .ok nonce := by
    rw [hm]
    exact (show _ = b64d P (.str (P.b64encode nonce)) from rfl).trans
      (by simp [b64d, hP.b64_roundtrip])
  have hc : envelopeField P .cryptoError m "ciphertext"
      = .ok (P.encrypt key' nonce readingBytes (P.utf8 token.text)) := by
    rw [hm]
    exact (show _ = b64d P (.str (P.b64encode
      (P.encrypt key' nonce readingBytes (P.utf8 token.text)))) from rfl).trans
      (by simp [b64d, hP.b64_roundtrip])
  have hdecrypt : decryptSessionPayload P key m (P.utf8 token.text)
      = raise .cryptoError (lit "authentication failed (wrong key or tampered data)") := by
    simp [decryptSessionPayload, aeadDecrypt, hn, hc, hnonce, chacha_eq_ok hkey, hforeign]
  simp [decryptProtectedReading, htype, hnamed, haad, hdecrypt, raise]

/-- Every reading of the gateway is one that the cloud takes on the session, or one that it
drops. -/
lemma IsReading.mem_range (hP : P.Lawful) (hcodec : Codec P) (hW : Sound cfg cloud W)
    {token : Token} {coins : Octets} (hcoins : coins ∈ W.coins) {m : JsonDict}
    (hm : IsReading cloud W m) :
    m ∈ Set.range fun f : Sent P (sessionKey cloud coins) token.text => f.message := by
  have hsize := hW.reading_size m hm
  obtain ⟨b, hb, _, ⟨coins', hcoins', rfl⟩, token', htoken', nonce, hnonce, hbuild⟩ := hm
  have htext : IsText m := Wire.IsReading.isText hcodec.b64 ⟨_, _, _, _, hbuild⟩
  have hkey : ∀ coins, P.len (sessionKey cloud coins) = keyLength := fun _ => P.hkdf_len _
  by_cases hsid : token'.text = token.text
  · rw [hsid] at hbuild
    by_cases hsame : sessionKey cloud coins = sessionKey cloud coins'
    · obtain ⟨item, reading, hparse, hdevice, hsequence, hpos⟩ := hW.reading b hb
      exact ⟨.reading ⟨m, b, nonce, reading, item, hW.nonce_len nonce hnonce,
        by rw [hsame]; exact hbuild, hparse, hdevice, hsequence, hpos, hsize⟩, rfl⟩
    · -- the session was replaced between the reads of its key and of its id
      have hforeign := hW.foreign coins hcoins coins' hcoins' hsame nonce hnonce b hb token'
        htoken'
      rw [hsid] at hforeign
      have hdrop := decryptProtectedReading_of_foreign hP (hkey coins) (hkey coins')
        (hW.nonce_len nonce hnonce) hbuild hforeign
      exact ⟨.refused ⟨m, htext, acceptReading_of_error hdrop (Or.inr rfl), hsize⟩, rfl⟩
  · have hdrop := decryptProtectedReading_of_ne (hkey coins') hsid hbuild (sessionKey cloud coins)
    exact ⟨.refused ⟨m, htext, acceptReading_of_error hdrop (Or.inl rfl), hsize⟩, rfl⟩

/-- What is sealed for the session is a reading to the cloud. -/
lemma Sent.eq_reading (hP : P.Lawful) {coins : Octets} {token : Token}
    (f : Sent P (sessionKey cloud coins) token.text) {readingBytes nonce : Octets}
    (hnonce : P.len nonce = nonceLength) (hbuild : buildProtectedReading P readingBytes
      (sessionKey cloud coins) token.text nonce = .ok f.message)
    {item : Item HashKey} (hitem : IsItem P readingBytes item) :
    ∃ g, f = .reading g ∧ g.item = item := by
  have hkey : P.len (sessionKey cloud coins) = keyLength := P.hkdf_len _
  obtain ⟨reading, hparse, hdevice, hsequence, hpos⟩ := hitem
  cases f with
  | reading g =>
    refine ⟨g, rfl, ?_⟩
    -- both are what the cloud decrypts
    have hopen : ∀ {b n : Octets}, P.len n = nonceLength → buildProtectedReading P b
        (sessionKey cloud coins) token.text n = .ok g.message →
        ∀ {r}, parseReadingBytes P b = .ok r →
          decryptProtectedReading P g.message (sessionKey cloud coins) token.text = .ok r := by
      intro b n hn hb r hr
      rw [Handshake.decryptProtectedReading_buildProtectedReading hP n hkey hn (token_ne_nil token)
        token.validUnicode hb, parseDecrypted, hr]
    have hsame := (hopen g.nonce_len g.built g.parsed).symm.trans (hopen hnonce hbuild hparse)
    have hreading : g.reading = reading := Except.ok.inj hsame
    have hkeys := g.device
    have hnumbers := g.sequence
    rw [hreading, hdevice] at hkeys
    rw [hreading, hsequence] at hnumbers
    exact congrArg₂ Item.mk (Except.ok.inj hkeys).symm
      (Json.int.inj (Option.some.inj hnumbers)).symm
  | refused r =>
    -- a cloud that has just started would take it
    have hrefused := r.refused (Cloud.initial 0 []).shared
    let g : Frame P (sessionKey cloud coins) token.text := ⟨r.message, readingBytes, nonce, reading,
      item, hnonce, hbuild, hparse, hdevice, hsequence, hpos, r.size⟩
    rcases acceptReading_frame hP hkey g (Cloud.initial 0 []).shared with ⟨hle, -⟩ |
      ⟨st', haccept, -⟩
    · exact absurd hpos (not_lt.2 hle)
    · have hmessage : g.message = r.message := rfl
      rw [hmessage] at haccept
      rw [haccept] at hrefused
      cases hrefused

/-! ### The peer on a socket -/

/-- The encapsulation determines the session. -/
lemma encaps_inj (hP : P.Lawful) {token token' : Token} {coins coins' : Octets}
    (h : encaps cfg cloud token coins = encaps cfg cloud token' coins') :
    token.text = token'.text ∧ sessionKey cloud coins = sessionKey cloud coins' := by
  simp only [encaps, encapsMessage, List.cons.injEq, Prod.mk.injEq, Json.str.injEq, true_and,
    and_true] at h
  obtain ⟨htext, hciphertext⟩ := h
  refine ⟨htext, ?_⟩
  -- the cloud finds the shared secret in the ciphertext
  have hopens : ∀ coins,
      (P.b64decode (P.b64encode (mlkemEncapsulate P cloud.publicKeyRaw coins).2)).bind
        (P.decapsulate cloud.privateKey)
          = some (mlkemEncapsulate P cloud.publicKeyRaw coins).1 := by
    intro coins
    rw [hP.b64_roundtrip]
    exact hP.decapsulate_encapsulate cloud.privateKey coins
  have hsecret := hopens coins
  rw [hciphertext, hopens coins'] at hsecret
  exact congrArg (deriveSessionKey P) (Option.some.inj hsecret).symm

variable (cfg) in
/-- The peer is what the socket shows. -/
structure Shows (s : Wire.State) (k : ℕ) (peer : Peer cloud) : Prop where
  gateway : peer.gateway = cfg
  stream : peer.stream = (s.streams k).content
  finished : (s.streams k).finished = peer.request :: peer.encaps :: peer.frames.map Sent.message
  /-- both sides have made the same session -/
  session : ∀ sid key, s.sessions k = some (sid, key) →
    sid = peer.token.text ∧ key = sessionKey cloud peer.coins

/-- **After the handshake** a socket shows the stream of an honest peer. -/
lemma exists_peer (hP : P.Lawful) (hcodec : Codec P) (hknows : Knows cloud cfg)
    (hW : Sound cfg cloud W) (h : Linked cfg cloud W s) (hok : Wire.Ok P cfg s) {k : ℕ}
    (hlen : 2 ≤ (s.streams k).finished.length) : ∃ peer : Peer cloud, Shows cfg s k peer := by
  obtain ⟨written, m, rest, hcontent, hframe, hrest⟩ := (hok.streams k).torn
  have htail := Wire.newline_notMem_of_torn hcodec.float hframe hrest
  rcases h.streams k with hnil | ⟨_, -, hone⟩ |
    ⟨request, token, coins, readings, hrequest, htoken, hcoins, hreadings, hfinished⟩
  · rw [hnil] at hlen
    cases hlen
  · rw [hone] at hlen
    exact absurd hlen (by simp)
  obtain ⟨nonce, hnonce, hrequest'⟩ := hrequest
  have hrange : readings ∈ Set.range
      (List.map fun f : Sent P (sessionKey cloud coins) token.text => f.message) := by
    rw [Set.range_list_map]
    exact fun m hm => (hreadings m hm).mem_range hP hcodec hW hcoins
  obtain ⟨frames, rfl⟩ := hrange
  refine ⟨⟨cfg, hknows.registered, hknows.named, hknows.valid, nonce, hW.nonce_len nonce hnonce,
    request, hrequest', hW.request_size request ⟨nonce, hnonce, hrequest'⟩, token, coins,
    hW.encaps_size token htoken coins hcoins, frames, written, htail⟩, rfl, ?_, hfinished, ?_⟩
  · -- behind the frames is what the last writer has written of its own
    rw [hcontent, hfinished]
    simp [Peer.stream, Peer.bytes, Peer.encaps, encaps, List.flatMap_map]
  · intro sid key hs
    obtain ⟨request', token', coins', rfl, rfl, hprefix⟩ := h.sessions k sid key hs
    rw [hfinished] at hprefix
    have hencaps : encaps cfg cloud token' coins' = encaps cfg cloud token coins := by
      obtain ⟨tail, htail⟩ := hprefix
      simp only [List.cons_append, List.cons.injEq] at htail
      exact htail.2.1
    exact encaps_inj hP hencaps

/-! ### The gateway and the cloud -/

variable (P W) in
/-- The readings whose `sendall` has returned, and that were sealed for the session that was
negotiated on their socket. -/
def sentItems (s : Wire.State) (k : ℕ) : Set (Item HashKey) :=
  {item | ∃ m ∈ (s.streams k).finished.drop 2, ∃ sid key, s.sessions k = some (sid, key) ∧
    ∃ readingBytes, ∃ nonce ∈ W.nonces,
      buildProtectedReading P readingBytes key sid nonce = .ok m ∧ IsItem P readingBytes item}

/-- The cloud at the other end of the stream of the peer: in every run it serves the peer, and from
every state its handler comes to the end of the stream by itself, with the items settled. -/
def ServedBy (peer : Peer cloud) (items : Set (Item HashKey)) : Prop :=
  ∀ (addr : ℕ → Addr) (c maxReadings : ℕ) (log : List PyStr) (σ : List Service.Event),
    (∃ done rest, Served peer c (run (Service.step cloud addr c)
      (Service.initial peer maxReadings log) σ) done rest) ∧
    ∃ n, ∃ last, last = run (Service.step cloud addr c) (Service.initial peer maxReadings log)
        (σ ++ List.replicate n .move) ∧
      last.server.phase c = .closed none ∧
      (last.failed = false → ∀ item ∈ items, Settled last.server item)

/-- **Every socket of the gateway is served by the cloud.**  Whatever the threads of the gateway do
and wherever they are interrupted, a socket on which the handshake has been sent is the stream of an
honest peer; so the cloud, whatever its other peers do, reads it to its end, and every reading whose
`sendall` has returned on its own session is settled there. -/
theorem sockets_served (hP : P.Lawful) (hcodec : Codec P) (hknows : Knows cloud cfg)
    (hW : Sound cfg cloud W) (τ : List Wire.Event) (hτ : ∀ ev ∈ τ, Supplies cfg cloud W ev)
    (k : ℕ) (hlen : 2 ≤ ((run (Wire.step P cfg) Wire.initial τ).streams k).finished.length) :
    ∃ peer : Peer cloud, Shows cfg (run (Wire.step P cfg) Wire.initial τ) k peer ∧
      ServedBy peer (sentItems P W (run (Wire.step P cfg) Wire.initial τ) k) := by
  have hlinked := linked_run hτ
  have hok := Wire.ok_run P cfg τ
  generalize run (Wire.step P cfg) Wire.initial τ = s at hlen hlinked hok ⊢
  obtain ⟨peer, hshows⟩ := exists_peer hP hcodec hknows hW hlinked hok hlen
  refine ⟨peer, hshows, fun addr c maxReadings log σ => ?_⟩
  obtain ⟨done, rest, hserves⟩ := serves_run addr c peer hP hcodec maxReadings log σ
  obtain ⟨n, done', rest', hend, hphase, -⟩ := hserves.completes addr hP hcodec
  rw [← run_append] at hend hphase
  refine ⟨⟨done, rest, hserves.served⟩, n, _, rfl, hphase, fun hfailed item hitem => ?_⟩
  obtain ⟨m, hm, sid, key, hs, b, nonce, hnonce, hbuild, hb⟩ := hitem
  obtain ⟨rfl, rfl⟩ := hshows.session sid key hs
  -- the message is one of the frames of the peer
  rw [hshows.finished] at hm
  obtain ⟨f, hf, rfl⟩ := List.mem_map.1 hm
  obtain ⟨g, rfl, rfl⟩ := Sent.eq_reading hP f (hW.nonce_len nonce hnonce) hbuild hb
  exact hend.settled hphase hfailed g hf

/-! ### The demo -/

/-- The id of the second session of the demo. -/
def demoNext : Token where
  text := List.replicate 16 (.char '1')
  hex := ⟨rfl, fun c hc => ⟨1, by decide, List.eq_of_mem_replicate hc⟩⟩

/-- What the gateway of the demo is handed. -/
def demoSupply : Supply :=
  ⟨{encodeBytes demoPrimitives demoRecord}, {demoNonce}, {Wire.demoToken, demoNext}, {[]}⟩

/-- A thread makes a session. -/
def demoSession (i : ℕ) (token : Token) : List Wire.Event :=
  [.thread i .move, .thread i (.connect .ok token demoNonce), .thread i (.write 10000),
    .thread i (.reply (.message (pubkeyMessage demoCloud)) []), .thread i (.write 10000),
    .thread i (.reply (.message (establishedMessage token.text)) []), .thread i .move,
    .thread i .move, .thread i .move, .thread i .move, .thread i .move, .thread i .move]

/-- A call builds its payload. -/
def demoBuilt (t : ℕ) : List Wire.Event :=
  [.call t (encodeBytes demoPrimitives demoRecord), .move t, .move t, .move t, .move t,
    .build t demoNonce]

/-- The `sendall` of a second call fails before the first one sends, so that the first payload
goes to the socket of the next session, followed by that of a third call. -/
def demoEvents : List Wire.Event :=
  demoSession 0 Wire.demoToken ++ demoBuilt 0 ++ demoBuilt 1
    ++ [.move 1, .move 1, .fail 1, .move 1, .move 1, .move 1, .move 1, .move 1]
    ++ demoSession 1 demoNext ++ [.move 0, .move 0, .write 0 10000, .move 0] ++ demoBuilt 2
    ++ [.move 2, .move 2, .write 2 10000]

lemma knows_demo : Knows demoCloud demoGateway := ⟨rfl, by decide, rfl⟩

lemma sound_demo : Sound demoGateway demoCloud demoSupply where
  reading := by
    rintro _ rfl
    exact ⟨⟨.str (lit "dev-01"), 7⟩, demoRecord, parse_demoRecord, rfl, rfl, by decide⟩
  nonce_len := by
    rintro _ rfl
    rfl
  request_size := by
    rintro m ⟨_, rfl, hm⟩
    have hrequest : demoPeer.request = m := Except.ok.inj (demoPeer.request_eq.symm.trans hm)
    rw [← hrequest]
    exact demoPeer.request_size
  encaps_size := by
    rintro _ (rfl | rfl) _ rfl
    · exact demoPeer.encaps_size
    · decide +kernel
  reading_size := by
    rintro m ⟨_, rfl, _, ⟨_, rfl, rfl⟩, _, rfl | rfl, _, rfl, hm⟩
    · have hmessage : returned (buildProtectedReading demoPrimitives
          (encodeBytes demoPrimitives demoRecord) (sessionKey demoCloud []) Wire.demoToken.text
          demoNonce) = m := by rw [hm]; rfl
      rw [← hmessage]
      decide +kernel
    · have hmessage : returned (buildProtectedReading demoPrimitives
          (encodeBytes demoPrimitives demoRecord) (sessionKey demoCloud []) demoNext.text
          demoNonce) = m := by rw [hm]; rfl
      rw [← hmessage]
      decide +kernel
  foreign := by
    rintro _ rfl _ rfl hne
    exact absurd rfl hne

lemma supplies_demoSession (i : ℕ) {token : Token} (htoken : token ∈ demoSupply.tokens) :
    ∀ ev ∈ demoSession i token, Supplies demoGateway demoCloud demoSupply ev := by
  have hpubkey : ∀ raw, (ReadOutcome.message (pubkeyMessage demoCloud)).result
      >>= acceptPubkeyReply demoPrimitives demoGateway = .ok raw →
        raw = demoCloud.publicKeyRaw := by
    intro raw hraw
    have haccept := Handshake.acceptPubkeyReply_pubkeyMessage Service.demoGateway demoCloud
      (octets_lawful _) (by decide) rfl (by decide)
    exact (Except.ok.inj (haccept.symm.trans hraw)).symm
  have hestablished : ∀ raw, (ReadOutcome.message (establishedMessage token.text)).result
      >>= acceptPubkeyReply demoPrimitives demoGateway = .ok raw →
        raw = demoCloud.publicKeyRaw := by
    intro raw hraw
    cases hraw
  simp only [demoSession, List.forall_mem_cons, List.not_mem_nil, false_imp_iff, implies_true,
    and_true]
  exact ⟨trivial, ⟨htoken, rfl⟩, trivial, ⟨rfl, hpubkey⟩, trivial, ⟨rfl, hestablished⟩, trivial,
    trivial, trivial, trivial, trivial, trivial⟩

lemma supplies_demoBuilt (t : ℕ) :
    ∀ ev ∈ demoBuilt t, Supplies demoGateway demoCloud demoSupply ev := by
  simp only [demoBuilt, List.forall_mem_cons, List.not_mem_nil, false_imp_iff, implies_true,
    and_true]
  exact ⟨rfl, trivial, trivial, trivial, trivial, rfl⟩

lemma supplies_demo : ∀ ev ∈ demoEvents, Supplies demoGateway demoCloud demoSupply ev := by
  have hmoves : ∀ {τ : List Wire.Event}, (∀ ev ∈ τ, ∃ t, ev = .move t ∨ ev = .fail t ∨
      ∃ n, ev = .write t n) → ∀ ev ∈ τ, Supplies demoGateway demoCloud demoSupply ev := by
    intro τ hτ ev hev
    obtain ⟨t, rfl | rfl | ⟨n, rfl⟩⟩ := hτ ev hev <;> exact trivial
  simp only [demoEvents, List.forall_mem_append]
  exact ⟨⟨⟨⟨⟨⟨⟨supplies_demoSession 0 (Or.inl rfl), supplies_demoBuilt 0⟩, supplies_demoBuilt 1⟩,
    hmoves (by simp)⟩, supplies_demoSession 1 (Or.inr rfl)⟩, hmoves (by simp)⟩,
    supplies_demoBuilt 2⟩, hmoves (by simp)⟩

/-- The gateway of the demo after these steps. -/
def demoEnd : Wire.State := run (Wire.step demoPrimitives demoGateway) Wire.initial demoEvents

/-- The sessions that the readings on a socket name. -/
def namedSessions (s : Wire.State) (k : ℕ) : List PyStr :=
  ((s.streams k).finished.drop 2).map fun m => (requireStr m "session_id").toOption.getD []

lemma demo_named : namedSessions demoEnd 1 = [Wire.demoToken.text, demoNext.text] ∧
    demoEnd.sessions 1 = some (demoNext.text, sessionKey demoCloud []) ∧
    2 ≤ (demoEnd.streams 1).finished.length := by
  decide +kernel

lemma demo_sent : (⟨.str (lit "dev-01"), 7⟩ : Item HashKey)
    ∈ sentItems demoPrimitives demoSupply demoEnd 1 := by
  obtain ⟨hnamed, hsession, -⟩ := demo_named
  rcases (linked_run supplies_demo).streams 1 with hnil | ⟨_, -, hone⟩ |
    ⟨request, token, coins, readings, -, -, -, hreadings, hfinished⟩
  · rw [namedSessions, demoEnd, hnil] at hnamed
    cases hnamed
  · rw [namedSessions, demoEnd, hone] at hnamed
    cases hnamed
  · -- the second reading is that of the session
    have hlist : readings.map (fun m => (requireStr m "session_id").toOption.getD [])
        = [Wire.demoToken.text, demoNext.text] := by
      rw [← hnamed, namedSessions, demoEnd, hfinished]
      rfl
    obtain ⟨m, hm, hid⟩ :
        ∃ m ∈ readings, (requireStr m "session_id").toOption.getD [] = demoNext.text :=
      List.mem_map.1 (by rw [hlist]; simp)
    obtain ⟨_, rfl, _, ⟨_, rfl, rfl⟩, token', -, _, rfl, hbuild⟩ := hreadings m hm
    have htext : token'.text = demoNext.text := by
      rw [(named_of_buildProtectedReading (demoPrimitives.hkdf_len _) token'
        hbuild).2] at hid
      exact hid
    rw [htext] at hbuild
    refine ⟨m, ?_, _, _, hsession, _, demoNonce, rfl, hbuild, demoRecord, parse_demoRecord, rfl,
      rfl, by decide⟩
    rw [demoEnd, hfinished]
    exact hm

/-- Of the two readings on the second socket, the first one is sealed for the first session, so
that the cloud drops it and goes on to the second one. -/
theorem sockets_served_demo :
    namedSessions demoEnd 1 = [Wire.demoToken.text, demoNext.text] ∧
    (⟨.str (lit "dev-01"), 7⟩ : Item HashKey) ∈ sentItems demoPrimitives demoSupply demoEnd 1 ∧
    ∃ peer : Peer demoCloud, Shows demoGateway demoEnd 1 peer ∧
      ServedBy peer (sentItems demoPrimitives demoSupply demoEnd 1) := by
  obtain ⟨hnamed, -, hlength⟩ := demo_named
  have hlawful : demoPrimitives.Lawful := octets_lawful _
  unfold demoEnd at hlength
  have hserved := sockets_served hlawful codec_demo knows_demo sound_demo demoEvents
    supplies_demo 1 hlength
  exact ⟨hnamed, demo_sent, hserved⟩

end PqcBridge.Sockets
