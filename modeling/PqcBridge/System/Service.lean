/-
The service of the cloud to one gateway, whatever its other peers do.

Behind one connection of the cloud is an honest gateway: the bytes that it sends are its request,
its encapsulation and readings of its devices, and it may stop in the middle of a frame.  Behind
every other connection is anybody, and the handlers run in any order.

* `Fed`: the server with the bytes that its handler has not read;
* `Stage`: where this handler stands, and what is then left to read;
* `Settled`: a reading is stored, or a newer one of its device is;
* `gateway_served`: the handler reads every message, refuses none but for the replay guard, and
  nobody can keep it from going on.
-/
import PqcBridge.Cloud.Readings
import PqcBridge.Gateway.WireFrames

namespace PqcBridge.Service

open Python Protocol Crypto Cloud Framing Runs Admission StoreOrder
open PqcBridge.Gateway.Wire (Token IsText)

variable {P : Primitives Octets}

/-! ### The gateway -/

/-- The key of the session that the gateway makes with these coins. -/
def sessionKey (cloud : CloudConfig P) (coins : Octets) : Octets :=
  deriveSessionKey P (mlkemEncapsulate P cloud.publicKeyRaw coins).1

/-- A reading of a device, as the gateway sends it on the session. -/
structure Frame (P : Primitives Octets) (key : Octets) (sid : PyStr) where
  message : JsonDict
  plaintext : Octets
  nonce : Octets
  reading : JsonDict
  item : Item HashKey
  nonce_len : P.len nonce = nonceLength
  built : Gateway.buildProtectedReading P plaintext key sid nonce = .ok message
  parsed : parseReadingBytes P plaintext = .ok reading
  device : (reading.item "device_id" >>= Json.hashKey) = .ok item.key
  sequence : reading.field "sequence" = some (.int item.number)
  positive : 0 < item.number
  size : (encodeBytes P message).length ≤ maxMessageBytes

/-- A message on the session that the cloud drops, whatever it has accepted before. -/
structure Refused (P : Primitives Octets) (key : Octets) (sid : PyStr) where
  message : JsonDict
  text : IsText message
  refused : ∀ st : CloudState Octets, (acceptReading P st message key sid).2 = .ok none
  size : (encodeBytes P message).length ≤ maxMessageBytes

/-- What the gateway sends on the session. -/
inductive Sent (P : Primitives Octets) (key : Octets) (sid : PyStr) where
  | reading (f : Frame P key sid)
  /-- such as a reading that was sealed for another session -/
  | refused (m : Refused P key sid)

def Sent.message {key : Octets} {sid : PyStr} : Sent P key sid → JsonDict
  | .reading f => f.message
  | .refused m => m.message

/-- A gateway that the cloud knows, what it sends whole, and the frame in which it stops. -/
structure Peer (cloud : CloudConfig P) where
  gateway : Gateway.GatewayConfig Octets
  registered : cloud.gatewayKeys.keys gateway.gatewayId = some gateway.gatewayKey
  named : gateway.gatewayId ≠ []
  valid : validUnicode gateway.gatewayId = true
  nonce : Octets
  nonce_len : P.len nonce = nonceLength
  request : JsonDict
  request_eq : Gateway.requestMessage P gateway nonce = .ok request
  request_size : (encodeBytes P request).length ≤ maxMessageBytes
  token : Token
  coins : Octets
  encaps_size : (encodeBytes P (Gateway.encapsMessage P gateway token.text
    (mlkemEncapsulate P cloud.publicKeyRaw coins).2)).length ≤ maxMessageBytes
  frames : List (Sent P (sessionKey cloud coins) token.text)
  tail : Octets
  tail_cut : newline ∉ tail

namespace Peer

variable {cloud : CloudConfig P} (peer : Peer cloud)

/-- The frames of the session. -/
abbrev SessionFrame : Type := Sent P (sessionKey cloud peer.coins) peer.token.text

/-- The `mlkem_encaps` of the gateway. -/
def encaps : JsonDict :=
  Gateway.encapsMessage P peer.gateway peer.token.text
    (mlkemEncapsulate P cloud.publicKeyRaw peer.coins).2

/-- The bytes of the last frames. -/
def bytes (rest : List peer.SessionFrame) : Octets :=
  rest.flatMap (fun f => encodeBytes P f.message) ++ peer.tail

/-- Everything that the gateway sends. -/
def stream : Octets :=
  encodeBytes P peer.request ++ (encodeBytes P peer.encaps ++ peer.bytes peer.frames)

end Peer

/-! ### The handler and its stream -/

/-- The server, what the handler of the connection has not read, and whether its socket has
failed. -/
structure Fed where
  server : ServerState Octets
  unread : Octets
  failed : Bool

/-- What happens. -/
inductive Event where
  /-- another handler makes a step -/
  | other (c' : ℕ) (ev : ConnEvent)
  /-- the handler goes on -/
  | move
  /-- the call of its socket at which it stands raises `OSError` -/
  | fail (msg : PyStr)

/-- What `read_message` did.  A line that is nested too deep, which no message is, is left out. -/
def outcome : Py JsonDict → Option ReadOutcome
  | .ok m => some (.message m)
  | .error e =>
    match e.cls with
    | .protocolError => some (.malformed e.msg)
    | .connectionClosedError => some .closed
    | _ => none

variable (cloud : CloudConfig P) (addr : ℕ → Addr) (c : ℕ)

/-- The handler reads a message. -/
def read (s : Fed) : Fed :=
  match outcome (readMessage P s.unread).1 with
  | some o =>
    { s with
      server := Cloud.step cloud addr s.server (c, .recv o)
      unread := (readMessage P s.unread).2 }
  | none => s

/-- One step. -/
def step (s : Fed) : Event → Fed
  | .other c' ev =>
    if c' = c then s else { s with server := Cloud.step cloud addr s.server (c', ev) }
  | .move =>
    match s.server.phase c with
    | .new => { s with server := Cloud.step cloud addr s.server (c, .accept) }
    | .request => read cloud addr c s
    | .encaps _ => read cloud addr c s
    | .receiving _ _ _ => read cloud addr c s
    | .sendPubkey _ => { s with server := Cloud.step cloud addr s.server (c, .sendOk) }
    | .sendEstablished _ _ _ => { s with server := Cloud.step cloud addr s.server (c, .sendOk) }
    | .storing _ _ _ _ => { s with server := Cloud.step cloud addr s.server (c, .store) }
    | .counting _ _ _ _ => { s with server := Cloud.step cloud addr s.server (c, .count) }
    | .reporting _ _ _ _ => { s with server := Cloud.step cloud addr s.server (c, .report) }
    | .leaving _ _ => { s with server := Cloud.step cloud addr s.server (c, .finish) }
    | .closed _ => s
  | .fail msg =>
    match s.server.phase c with
    | .request | .encaps _ | .receiving _ _ _ =>
      { s with server := Cloud.step cloud addr s.server (c, .recv (.osError msg)), failed := true }
    | .sendPubkey _ | .sendEstablished _ _ _ =>
      { s with server := Cloud.step cloud addr s.server (c, .sendError msg), failed := true }
    | _ => s

/-- A server that has just started, with the gateway about to connect. -/
def initial {cloud : CloudConfig P} (peer : Peer cloud) (maxReadings : ℕ) (log : List PyStr) :
    Fed :=
  ⟨Cloud.initial maxReadings log, peer.stream, false⟩

/-! ### Where the handler stands -/

variable {cloud} {addr} {c}

/-- Where the handler stands when it has read the frames `done`, and `rest` are left. -/
inductive Stage (peer : Peer cloud) (failed : Bool) (done rest : List peer.SessionFrame) :
    Phase Octets → Octets → Prop
  | new (h : done = []) : Stage peer failed done rest .new peer.stream
  | request (h : done = []) : Stage peer failed done rest .request peer.stream
  | sendPubkey (h : done = []) : Stage peer failed done rest (.sendPubkey peer.gateway.gatewayId)
      (encodeBytes P peer.encaps ++ peer.bytes peer.frames)
  | encaps (h : done = []) : Stage peer failed done rest (.encaps peer.gateway.gatewayId)
      (encodeBytes P peer.encaps ++ peer.bytes peer.frames)
  | sendEstablished (h : done = []) : Stage peer failed done rest
      (.sendEstablished peer.gateway.gatewayId peer.token.text (sessionKey cloud peer.coins))
      (peer.bytes rest)
  | receiving : Stage peer failed done rest
      (.receiving peer.gateway.gatewayId peer.token.text (sessionKey cloud peer.coins))
      (peer.bytes rest)
  | storing (f : Frame P (sessionKey cloud peer.coins) peer.token.text) (h : .reading f ∈ done) :
    Stage peer failed done rest
      (.storing peer.gateway.gatewayId peer.token.text (sessionKey cloud peer.coins) f.reading)
      (peer.bytes rest)
  | counting (r : JsonDict) : Stage peer failed done rest
      (.counting peer.gateway.gatewayId peer.token.text (sessionKey cloud peer.coins) r)
      (peer.bytes rest)
  | reporting (r : JsonDict) : Stage peer failed done rest
      (.reporting peer.gateway.gatewayId peer.token.text (sessionKey cloud peer.coins) r)
      (peer.bytes rest)
  /-- it leaves at the end of the stream, or because its socket has failed -/
  | leaving (sid : Option PyStr) (unread : Octets) (h : failed = true ∨ rest = []) :
    Stage peer failed done rest (.leaving sid none) unread
  | closed (unread : Octets) (h : failed = true ∨ rest = []) :
    Stage peer failed done rest (.closed none) unread

/-- What the replay guard has accepted is stored, or a handler is about to store it. -/
def Accepted (s : ServerState Octets) : Prop :=
  ∀ d, 0 < s.shared.replay.last d → ∃ r, itemOf r = some ⟨d, s.shared.replay.last d⟩ ∧
    (r ∈ s.shared.store.history ∨ ∃ c', pending (s.phase c') = some r)

/-- The reading is stored, or one of the same device that is newer; or a handler is about to store
it. -/
def Settled (s : ServerState Octets) (x : Item HashKey) : Prop :=
  ∃ r n, itemOf r = some ⟨x.key, n⟩ ∧ x.number ≤ n ∧
    (r ∈ s.shared.store.history ∨ ∃ c', pending (s.phase c') = some r)

lemma Accepted.settled {s : ServerState Octets} (h : Accepted s) {x : Item HashKey}
    (hpos : 0 < x.number) (hx : x.number ≤ s.shared.replay.last x.key) : Settled s x := by
  obtain ⟨r, hitem, hr⟩ := h x.key (hpos.trans_le hx)
  exact ⟨r, _, hitem, hx, hr⟩

lemma exists_storing_of_pending {p : Phase Octets} {r : JsonDict} (h : pending p = some r) :
    ∃ gid sid key, p = .storing gid sid key r := by
  cases p with
  | storing gid sid key r' =>
    cases h
    exact ⟨gid, sid, key, rfl⟩
  | _ => cases h

lemma handlerStep_storing {a : Addr} {st : CloudState Octets} {gid sid : PyStr} {key : Octets}
    {r : JsonDict} {ev : ConnEvent} (h : ev ≠ .store) :
    handlerStep cloud c a st (.storing gid sid key r) ev = (st, .storing gid sid key r) := by
  cases ev with
  | store => exact absurd rfl h
  | _ => rfl

variable (cloud addr) in
/-- The step lemma. -/
lemma Accepted.step {s : ServerState Octets} (h : Accepted s) (ev : ℕ × ConnEvent) :
    Accepted (Cloud.step cloud addr s ev) := by
  obtain ⟨c, ev⟩ := ev
  rcases handlerStep_reading_cases cloud c (addr c) s.shared (s.phase c) ev with
    ⟨gid, sid, key, m, r, n, d, hp, rfl, -, hs, hk, hlt, hres⟩ | ⟨gid, sid, key, r, hp, rfl, hres⟩ |
    ⟨hnostore, hreplay, hstore, -⟩
  · -- a reading is accepted: its handler is about to store it
    intro e hpos
    rw [step_shared, hres] at hpos ⊢
    dsimp only at hpos ⊢
    rw [ReplayGuard.last_update] at hpos ⊢
    split_ifs at hpos ⊢ with he
    · subst he
      refine ⟨r, itemOf_eq hs hk, Or.inr ⟨c, ?_⟩⟩
      rw [step_phase_self, hres]
      rfl
    · obtain ⟨r', hitem, hr'⟩ := h e hpos
      refine ⟨r', hitem, hr'.imp_right ?_⟩
      rintro ⟨c', hc'⟩
      have hne : c' ≠ c := by
        rintro rfl
        rw [hp] at hc'
        cases hc'
      exact ⟨c', by rw [pending_of_ne hne]; exact hc'⟩
  · -- a reading is stored
    intro e hpos
    have hreplay : (Cloud.step cloud addr s (c, .store)).shared.replay = s.shared.replay := by
      rw [step_shared, hres]
      rfl
    have hhistory : (Cloud.step cloud addr s (c, .store)).shared.store.history
        = s.shared.store.history ++ [r] := by
      rw [step_shared, hres]
      rfl
    rw [hreplay] at hpos ⊢
    rw [hhistory]
    obtain ⟨r', hitem, hr' | ⟨c', hc'⟩⟩ := h e hpos
    · exact ⟨r', hitem, Or.inl (List.mem_append_left _ hr')⟩
    · by_cases hne : c' = c
      · subst hne
        rw [hp] at hc'
        cases hc'
        exact ⟨r, hitem, Or.inl (by simp)⟩
      · exact ⟨r', hitem, Or.inr ⟨c', by rw [pending_of_ne hne]; exact hc'⟩⟩
  · -- nothing is accepted and nothing is stored
    intro e hpos
    rw [step_shared, hreplay] at hpos ⊢
    rw [hstore]
    obtain ⟨r', hitem, hr'⟩ := h e hpos
    refine ⟨r', hitem, hr'.imp_right ?_⟩
    rintro ⟨c', hc'⟩
    by_cases hne : c' = c
    · -- a handler that is about to store does nothing else
      subst hne
      obtain ⟨gid, sid, key, hp⟩ := exists_storing_of_pending hc'
      refine ⟨c', ?_⟩
      rw [step_phase_self, hp, handlerStep_storing (hnostore gid sid key r' hp)]
      rfl
    · exact ⟨c', by rw [pending_of_ne hne]; exact hc'⟩

/-- The replay guard forgets nothing. -/
lemma last_le_step (s : ServerState Octets) (ev : ℕ × ConnEvent) (d : HashKey) :
    s.shared.replay.last d ≤ (Cloud.step cloud addr s ev).shared.replay.last d := by
  obtain ⟨c, ev⟩ := ev
  rcases handlerStep_reading_cases cloud c (addr c) s.shared (s.phase c) ev with
    ⟨gid, sid, key, m, r, n, e, -, rfl, -, -, -, hlt, hres⟩ | ⟨gid, sid, key, r, -, rfl, hres⟩ |
    ⟨-, hreplay, -, -⟩
  · rw [step_shared, hres]
    exact ReplayGuard.le_last_update hlt d
  · rw [step_shared, hres]
    exact le_rfl
  · rw [step_shared, hreplay]

/-! ### The invariant -/

/-- The handler has read the frames `done`, and each of them is known to the replay guard. -/
structure Serves (peer : Peer cloud) (c : ℕ) (s : Fed) (done rest : List peer.SessionFrame) :
    Prop where
  split : done ++ rest = peer.frames
  stage : Stage peer s.failed done rest (s.server.phase c) s.unread
  seen : ∀ f, .reading f ∈ done → f.item.number ≤ s.server.shared.replay.last f.item.key
  accepted : Accepted s.server

variable {peer : Peer cloud} {s : Fed} {done rest : List peer.SessionFrame}

lemma Serves.seen_step (h : Serves peer c s done rest) (ev : ℕ × ConnEvent) :
    ∀ f, .reading f ∈ done →
      f.item.number ≤ (Cloud.step cloud addr s.server ev).shared.replay.last f.item.key :=
  fun f hf => (h.seen f hf).trans (last_le_step s.server ev f.item.key)

/-- Another handler moves. -/
lemma Serves.other (h : Serves peer c s done rest) {c' : ℕ} (hc : c' ≠ c) (ev : ConnEvent) :
    Serves peer c { s with server := Cloud.step cloud addr s.server (c', ev) } done rest := by
  refine ⟨h.split, ?_, h.seen_step (c', ev), h.accepted.step cloud addr (c', ev)⟩
  show Stage peer s.failed done rest ((Cloud.step cloud addr s.server (c', ev)).phase c) s.unread
  rw [step_phase_of_ne hc.symm]
  exact h.stage

/-- The handler moves, and reads no frame. -/
lemma Serves.own (h : Serves peer c s done rest) (ev : ConnEvent) {unread : Octets} {failed : Bool}
    (hstage : Stage peer failed done rest
      (handlerStep cloud c (addr c) s.server.shared (s.server.phase c) ev).2 unread) :
    Serves peer c ⟨Cloud.step cloud addr s.server (c, ev), unread, failed⟩ done rest := by
  refine ⟨h.split, ?_, h.seen_step (c, ev), h.accepted.step cloud addr (c, ev)⟩
  show Stage peer failed done rest ((Cloud.step cloud addr s.server (c, ev)).phase c) unread
  rw [step_phase_self]
  exact hstage

/-- The socket of the handler fails. -/
lemma Serves.fail (h : Serves peer c s done rest) (msg : PyStr) :
    Serves peer c (step cloud addr c s (.fail msg)) done rest := by
  have hleft : ∀ (sid : Option PyStr) (unread : Octets),
      Stage peer true done rest (.leaving sid none) unread := fun sid unread =>
    .leaving sid unread (Or.inl rfl)
  have hstage := h.stage
  cases hp : s.server.phase c with
  | request | encaps | sendPubkey | sendEstablished | receiving =>
    simp only [step, hp]
    refine h.own _ ?_
    rw [hp]
    exact hleft _ _
  | _ =>
    simp only [step, hp]
    exact h

/-! ### What the handler reads -/

/-- The messages can be written and read: base64 is text, and the parser is a parser. -/
structure Codec (P : Primitives Octets) : Prop where
  b64 : ∀ b, validUnicode (P.b64encode b) = true
  float : ∀ x, Printable (P.floatText x)
  loads : ∃ readFloat limit, 0 < limit ∧ P.loads = Loads.loads readFloat limit

lemma Codec.readMessage (hcodec : Codec P) {m : JsonDict} (htext : IsText m)
    (hsize : (encodeBytes P m).length ≤ maxMessageBytes) (rest : Octets) :
    Framing.readMessage P (encodeBytes P m ++ rest) = (.ok m, rest) := by
  obtain ⟨readFloat, limit, hlimit, hloads⟩ := hcodec.loads
  refine readMessage_encodeBytes hcodec.float ?_ hsize rest
  rw [hloads]
  exact loads_encodeBytes hcodec.float htext.readable (htext.depth_le.trans hlimit)

/-- A message that was written whole is read. -/
lemma read_message (hcodec : Codec P) {m : JsonDict} (htext : IsText m)
    (hsize : (encodeBytes P m).length ≤ maxMessageBytes) {rest : Octets}
    (hunread : s.unread = encodeBytes P m ++ rest) :
    read cloud addr c s
      = ⟨Cloud.step cloud addr s.server (c, .recv (.message m)), rest, s.failed⟩ := by
  have hread := hcodec.readMessage htext hsize rest
  rw [← hunread] at hread
  simp only [read, hread, outcome]

lemma token_ne_nil (token : Token) : token.text ≠ [] := by
  intro hnil
  have hlen := token.hex.1
  rw [hnil] at hlen
  cases hlen

/-- What the replay guard does with a frame. -/
lemma acceptReading_frame (hP : P.Lawful) {coins : Octets} {token : Token}
    (hkey : P.len (sessionKey cloud coins) = keyLength)
    (f : Frame P (sessionKey cloud coins) token.text) (st : CloudState Octets) :
    (f.item.number ≤ st.replay.last f.item.key ∧
      ∃ st', acceptReading P st f.message (sessionKey cloud coins) token.text = (st', .ok none) ∧
        st'.replay = st.replay) ∨
    ∃ st', acceptReading P st f.message (sessionKey cloud coins) token.text
        = (st', .ok (some f.reading)) ∧ st'.replay.last f.item.key = f.item.number := by
  have hdecrypt := Handshake.decryptProtectedReading_buildProtectedReading hP f.nonce hkey
    f.nonce_len (token_ne_nil token) token.validUnicode f.built
  rw [parseDecrypted, f.parsed] at hdecrypt
  rcases st.replay.checkAndUpdate_cases f.item.key f.item.number with ⟨hle, hcheck⟩ | ⟨hlt, hcheck⟩
  · simp only [acceptReading, hdecrypt, f.sequence, f.device, CloudState.inc_replay, hcheck]
    exact Or.inl ⟨hle, _, rfl, rfl⟩
  · simp only [acceptReading, hdecrypt, f.sequence, f.device, CloudState.inc_replay, hcheck]
    refine Or.inr ⟨_, rfl, ?_⟩
    show ReplayGuard.last ⟨Function.update _ _ _⟩ _ = _
    rw [ReplayGuard.last_update, if_pos rfl]

/-- How far the handler is from its end, apart from the frames that are left. -/
def weight : Phase Octets → ℕ
  | .new => 10
  | .request => 9
  | .sendPubkey _ => 8
  | .encaps _ => 7
  | .sendEstablished _ _ _ => 6
  | .storing _ _ _ _ => 5
  | .counting _ _ _ _ => 4
  | .reporting _ _ _ _ => 3
  | .receiving _ _ _ => 2
  | .leaving _ _ => 1
  | .closed _ => 0

/-- The handler comes nearer to its end. -/
def Advances (peer : Peer cloud) (c : ℕ) (s s' : Fed) (rest : List peer.SessionFrame) : Prop :=
  ∃ done' rest', Serves peer c s' done' rest' ∧ s'.failed = s.failed ∧
    weight (s'.server.phase c) + 4 * rest'.length < weight (s.server.phase c) + 4 * rest.length

lemma Serves.advances (h : Serves peer c s done rest) {p q : Phase Octets}
    (hp : s.server.phase c = p) {unread : Octets} (hstage : Stage peer s.failed done rest q unread)
    (hweight : weight q < weight p) {ev : ConnEvent}
    (hq : (handlerStep cloud c (addr c) s.server.shared p ev).2 = q) :
    Advances peer c s ⟨Cloud.step cloud addr s.server (c, ev), unread, s.failed⟩ rest := by
  rw [← hp] at hq
  refine ⟨done, rest, h.own ev (hq ▸ hstage), rfl, ?_⟩
  show weight ((Cloud.step cloud addr s.server (c, ev)).phase c) + _ < _
  rw [step_phase_self, hq, hp]
  omega

lemma Sent.isText (hcodec : Codec P) {key : Octets} {sid : PyStr} (m : Sent P key sid) :
    IsText m.message := by
  cases m with
  | reading f => exact Gateway.Wire.IsReading.isText hcodec.b64 ⟨_, _, _, _, f.built⟩
  | refused m => exact m.text

lemma Sent.size {key : Octets} {sid : PyStr} (m : Sent P key sid) :
    (encodeBytes P m.message).length ≤ maxMessageBytes := by
  cases m with
  | reading f => exact f.size
  | refused m => exact m.size

/-- The handler reads a frame. -/
lemma Serves.read_frame (hP : P.Lawful) (hcodec : Codec P) {m : peer.SessionFrame}
    (h : Serves peer c s done (m :: rest))
    (hphase : s.server.phase c
      = .receiving peer.gateway.gatewayId peer.token.text (sessionKey cloud peer.coins))
    (hunread : s.unread = peer.bytes (m :: rest)) :
    Advances peer c s (read cloud addr c s) (m :: rest) := by
  have hkey : P.len (sessionKey cloud peer.coins) = keyLength := P.hkdf_len _
  have hbytes : s.unread = encodeBytes P m.message ++ peer.bytes rest := by
    rw [hunread, Peer.bytes, List.flatMap_cons, List.append_assoc, Peer.bytes]
  rw [read_message hcodec (m.isText hcodec) m.size hbytes]
  have hsplit : done ++ [m] ++ rest = peer.frames := by
    rw [List.append_assoc]
    exact h.split
  have haccepted := h.accepted.step cloud addr (c, .recv (.message m.message))
  -- the frame is read, and the replay guard knows its reading
  have hnext : ∀ (st' : CloudState Octets) (p : Phase Octets),
      handlerStep cloud c (addr c) s.server.shared (s.server.phase c) (.recv (.message m.message))
        = (st', p) →
      (∀ f, m = .reading f → f.item.number ≤ st'.replay.last f.item.key) →
      Stage peer s.failed (done ++ [m]) rest p (peer.bytes rest) → weight p ≤ 5 →
      Advances peer c s ⟨Cloud.step cloud addr s.server (c, .recv (.message m.message)),
        peer.bytes rest, s.failed⟩ (m :: rest) := by
    intro st' p hstep hle hstage hweight
    have hself : (Cloud.step cloud addr s.server (c, .recv (.message m.message))).phase c = p := by
      rw [step_phase_self, hstep]
    refine ⟨done ++ [m], rest, ⟨hsplit, ?_, ?_, haccepted⟩, rfl, ?_⟩
    · rw [hself]
      exact hstage
    · intro f hf
      rcases List.mem_append.1 hf with hf | hf
      · exact h.seen_step _ f hf
      · rw [step_shared, hstep]
        exact hle f (List.mem_singleton.1 hf).symm
    · rw [hself, hphase, List.length_cons]
      show weight p + 4 * rest.length < 2 + 4 * (rest.length + 1)
      omega
  cases m with
  | reading f =>
    rcases acceptReading_frame hP hkey f s.server.shared with ⟨hle, st', haccept, hreplay⟩ |
      ⟨st', haccept, hlast⟩
    · refine hnext st' _ ?_ ?_ .receiving (by simp [weight])
      · rw [hphase]
        simp only [handlerStep, ReadOutcome.result, Sent.message, haccept]
      · rintro _ ⟨⟩
        exact hreplay ▸ hle
    · refine hnext st' _ ?_ ?_ (.storing f (by simp)) (by simp [weight])
      · rw [hphase]
        simp only [handlerStep, ReadOutcome.result, Sent.message, haccept]
      · rintro _ ⟨⟩
        exact hlast.ge
  | refused m =>
    have hrefused := m.refused s.server.shared
    rcases haccept : acceptReading P s.server.shared m.message (sessionKey cloud peer.coins)
      peer.token.text with ⟨st', r⟩
    rw [haccept] at hrefused
    replace hrefused : r = .ok none := hrefused
    refine hnext st' _ ?_ (fun f hf => by cases hf) .receiving (by simp [weight])
    rw [hphase]
    simp only [handlerStep, ReadOutcome.result, Sent.message, haccept, hrefused]

/-- The handler reads to the end of the stream. -/
lemma Serves.read_tail (h : Serves peer c s done [])
    (hphase : s.server.phase c
      = .receiving peer.gateway.gatewayId peer.token.text (sessionKey cloud peer.coins))
    (hunread : s.unread = peer.bytes []) : Advances peer c s (read cloud addr c s) [] := by
  have htail : newline ∉ s.unread := by
    rw [hunread]
    exact peer.tail_cut
  have hleaves : ∀ o : ReadOutcome, outcome (readMessage P s.unread).1 = some o →
      (handlerStep cloud c (addr c) s.server.shared (.receiving peer.gateway.gatewayId
        peer.token.text (sessionKey cloud peer.coins)) (.recv o)).2
          = .leaving (some peer.token.text) none →
      Advances peer c s (read cloud addr c s) [] := by
    intro o houtcome hleaving
    simp only [read, houtcome]
    exact h.advances hphase (.leaving _ _ (Or.inr rfl)) (by simp [weight]) hleaving
  rcases Gateway.Wire.readMessage_rest (P := P) htail with ⟨-, hread⟩ | ⟨-, msg, hread⟩
  · exact hleaves .closed (by rw [hread]; rfl) rfl
  · exact hleaves (.malformed msg) (by rw [hread]; rfl) rfl

variable (addr) in
/-- **The handler comes nearer to its end** with every step that it makes, as long as it has not
finished. -/
lemma Serves.move (hP : P.Lawful) (hcodec : Codec P) (h : Serves peer c s done rest)
    (hopen : s.server.phase c ≠ .closed none) :
    Advances peer c s (step cloud addr c s .move) rest := by
  have hstage := h.stage
  have hreceiving : s.unread = peer.bytes rest → Stage peer s.failed done rest (.receiving
      peer.gateway.gatewayId peer.token.text (sessionKey cloud peer.coins)) s.unread :=
    fun hunread => hunread ▸ .receiving
  generalize hp : s.server.phase c = p at hstage
  generalize hunread : s.unread = unread at hstage
  simp only [step, hp]
  cases hstage with
  | new hdone =>
    have hrequest : Stage peer s.failed done rest .request s.unread := hunread ▸ .request hdone
    exact h.advances hp hrequest (by simp [weight]) rfl
  | request hdone =>
    have htext : IsText peer.request :=
      Gateway.Wire.IsRequest.isText hcodec.b64 peer.valid ⟨_, peer.request_eq⟩
    have hauth := Handshake.authenticateRequest_requestMessage peer.gateway cloud hP peer.registered
      peer.named peer.nonce_len peer.request_eq
    rw [read_message hcodec htext peer.request_size hunread]
    refine h.advances hp (.sendPubkey hdone) (by simp [weight]) ?_
    simp [handlerStep, ReadOutcome.result, hauth]
  | sendPubkey hdone =>
    have hencaps : Stage peer s.failed done rest (.encaps peer.gateway.gatewayId) s.unread :=
      hunread ▸ .encaps hdone
    exact h.advances hp hencaps (by simp [weight]) rfl
  | encaps hdone =>
    have htext : IsText peer.encaps :=
      Gateway.Wire.isText_encapsMessage hcodec.b64 peer.valid peer.token _
    have hderive := Handshake.deriveSession_encapsMessage peer.gateway cloud hP
      (token_ne_nil peer.token) peer.coins
    -- the shared secret is the one that the gateway has encapsulated
    have hrest : peer.frames = rest := by
      rw [← h.split, hdone, List.nil_append]
    rw [read_message hcodec htext peer.encaps_size hunread, hrest]
    refine h.advances hp (.sendEstablished hdone) (by simp [weight]) ?_
    simp only [handlerStep, ReadOutcome.result, ok_bind, Peer.encaps, hderive]
    rfl
  | sendEstablished hdone => exact h.advances hp (hreceiving hunread) (by simp [weight]) rfl
  | receiving =>
    rcases rest with _ | ⟨f, rest⟩
    · exact h.read_tail hp hunread
    · exact h.read_frame hP hcodec hp hunread
  | storing f hf =>
    have hcounting : Stage peer s.failed done rest (.counting peer.gateway.gatewayId
        peer.token.text (sessionKey cloud peer.coins) f.reading) s.unread :=
      hunread ▸ .counting f.reading
    exact h.advances hp hcounting (by simp [weight]) rfl
  | counting r =>
    have hreporting : Stage peer s.failed done rest (.reporting peer.gateway.gatewayId
        peer.token.text (sessionKey cloud peer.coins) r) s.unread := hunread ▸ .reporting r
    exact h.advances hp hreporting (by simp [weight]) rfl
  | reporting r => exact h.advances hp (hreceiving hunread) (by simp [weight]) rfl
  | leaving sid _ hleft => exact h.advances hp (.closed _ hleft) (by simp [weight]) rfl
  | closed _ hleft => exact absurd hp hopen

/-! ### Every run -/

/-- The step lemma. -/
lemma Serves.step (hP : P.Lawful) (hcodec : Codec P) (h : Serves peer c s done rest) (ev : Event) :
    ∃ done' rest', Serves peer c (Service.step cloud addr c s ev) done' rest' := by
  cases ev with
  | other c' ev =>
    simp only [Service.step]
    split_ifs with hc
    · exact ⟨done, rest, h⟩
    · exact ⟨done, rest, h.other hc ev⟩
  | move =>
    by_cases hopen : s.server.phase c = .closed none
    · simp only [Service.step, hopen]
      exact ⟨done, rest, h⟩
    · obtain ⟨done', rest', hserves, -⟩ := h.move addr hP hcodec hopen
      exact ⟨done', rest', hserves⟩
  | fail msg => exact ⟨done, rest, h.fail msg⟩

variable (peer c addr) in
/-- The run lemma. -/
lemma serves_run (hP : P.Lawful) (hcodec : Codec P) (maxReadings : ℕ) (log : List PyStr)
    (τ : List Event) : ∃ done rest,
      Serves peer c (run (Service.step cloud addr c) (initial peer maxReadings log) τ) done
        rest := by
  refine inv_run (J := fun s => ∃ done rest, Serves peer c s done rest) (P := fun _ _ => True)
    (fun s ev h _ => ?_) ?_ (along_of_forall fun _ _ _ => trivial)
  · obtain ⟨done, rest, hserves⟩ := h
    exact hserves.step hP hcodec ev
  · refine ⟨[], peer.frames, rfl, .new rfl, by simp, fun d hpos => ?_⟩
    exact absurd hpos (lt_irrefl 0)

variable (addr) in
/-- Left alone, the handler comes to its end. -/
lemma Serves.completes (hP : P.Lawful) (hcodec : Codec P) (h : Serves peer c s done rest) :
    ∃ n done' rest', Serves peer c (run (Service.step cloud addr c) s (List.replicate n .move))
        done' rest' ∧
      (run (Service.step cloud addr c) s (List.replicate n .move)).server.phase c = .closed none ∧
      (run (Service.step cloud addr c) s (List.replicate n .move)).failed = s.failed := by
  -- the induction is on how far it is from its end
  induction hm : weight (s.server.phase c) + 4 * rest.length using Nat.strong_induction_on
    generalizing s done rest with
  | _ m ih =>
    by_cases hclosed : s.server.phase c = .closed none
    · exact ⟨0, done, rest, h, hclosed, rfl⟩
    · obtain ⟨done', rest', hserves, hfailed, hlt⟩ := h.move addr hP hcodec hclosed
      obtain ⟨n, done'', rest'', hend, hphase, hkept⟩ := ih _ (hm ▸ hlt) hserves rfl
      exact ⟨n + 1, done'', rest'', hend, hphase, hkept.trans hfailed⟩

/-- What the cloud has done for the gateway when its handler has read the frames `done`. -/
structure Served (peer : Peer cloud) (c : ℕ) (s : Fed) (done rest : List peer.SessionFrame) :
    Prop where
  split : done ++ rest = peer.frames
  /-- the handler is in the handshake or in the session of the gateway, with its key, or it has
  left at the end of the stream or because its socket failed, and with no exception -/
  stage : Stage peer s.failed done rest (s.server.phase c) s.unread
  /-- no reading has been refused but for a newer one -/
  settled : ∀ f, .reading f ∈ done → Settled s.server f.item

lemma Serves.served (h : Serves peer c s done rest) : Served peer c s done rest :=
  ⟨h.split, h.stage, fun f hf => h.accepted.settled f.positive (h.seen f hf)⟩

/-- A handler that has come to its end, and whose socket has not failed, has read everything. -/
lemma Serves.settled (h : Serves peer c s done rest) (hphase : s.server.phase c = .closed none)
    (hfailed : s.failed = false) : ∀ f, .reading f ∈ peer.frames → Settled s.server f.item := by
  intro f hf
  have hstage := h.stage
  rw [hphase, hfailed] at hstage
  cases hstage with
  | closed _ hleft =>
    obtain rfl := hleft.resolve_left (by simp)
    rw [← h.split, List.append_nil] at hf
    exact h.served.settled f hf

variable (peer c addr) in
/-- **An honest gateway is served**, whatever the peers of all other connections send and however
the handlers interleave: its handshake succeeds, every reading that is read is stored unless a newer
one of its device is, and from every state its handler comes to its end by steps of its own, having
read everything if its socket has not failed. -/
theorem gateway_served (hP : P.Lawful) (hcodec : Codec P) (maxReadings : ℕ) (log : List PyStr)
    (τ : List Event) :
    (∃ done rest,
      Served peer c (run (Service.step cloud addr c) (initial peer maxReadings log) τ) done rest) ∧
    ∃ n, ∃ s', s' = run (Service.step cloud addr c) (initial peer maxReadings log)
        (τ ++ List.replicate n .move) ∧
      s'.server.phase c = .closed none ∧
      (s'.failed = false → ∀ f, .reading f ∈ peer.frames → Settled s'.server f.item) := by
  obtain ⟨done, rest, hserves⟩ := serves_run addr c peer hP hcodec maxReadings log τ
  refine ⟨⟨done, rest, hserves.served⟩, ?_⟩
  obtain ⟨n, done', rest', hend, hphase, -⟩ := hserves.completes addr hP hcodec
  rw [← run_append] at hend hphase
  exact ⟨n, _, rfl, hphase, hend.settled hphase⟩

/-! ### The demo -/

/-- A gateway and its key. -/
def demoGateway : Gateway.GatewayConfig Octets := Gateway.Wire.demoConfig

/-- A cloud that knows the gateway. -/
def demoCloud : CloudConfig demoPrimitives where
  cloudId := lit "cloud-01"
  privateKey := []
  gatewayKeys := ⟨fun id => if id = lit "gw-01" then some (List.replicate 32 7) else none, by
    intro id k h
    split_ifs at h
    cases h
    rfl⟩

/-- What was returned. -/
def returned (m : Py JsonDict) : JsonDict := m.toOption.getD []

def demoNonce : Octets := List.replicate 12 3

def demoRecord : JsonDict :=
  [(lit "device_id", .str (lit "dev-01")), (lit "timestamp", .str (lit "2026-01-01T00:00:00")),
    (lit "temperature_c", .float (.finite 21)), (lit "sequence", .int 7)]

lemma parse_demoRecord :
    parseReadingBytes demoPrimitives (encodeBytes demoPrimitives demoRecord) = .ok demoRecord := by
  have hfloat : ∀ x, Printable (demoPrimitives.floatText x) := fun x =>
    show Printable (lit "21.0") by decide
  have hnum : Loads.scanNumber (fun _ => .finite 21) (lit "21.0")
      = some (.float (.finite 21), []) := rfl
  have hint : Loads.digits 7 ≤ Loads.maxStrDigits := by decide
  have hkeys : (demoRecord.map Prod.fst).Nodup := by decide
  have hdepth : Loads.depth (.obj demoRecord) ≤ 10000 := by decide
  have hloads : demoPrimitives.loads (encodeBytes demoPrimitives demoRecord)
      = .ok (.obj demoRecord) :=
    loads_encodeBytes hfloat ⟨hkeys, rfl, rfl, rfl, rfl, rfl, hnum, rfl, hint, trivial⟩ hdepth
  have hfields :
      (requiredReadingFields.all fun f => (JsonDict.field demoRecord f).isSome) = true := by
    decide
  simp only [parseReadingBytes, hloads, hfields, if_true]

/-- The record as a message on the session. -/
def demoMessage : Py JsonDict :=
  Gateway.buildProtectedReading demoPrimitives (encodeBytes demoPrimitives demoRecord)
    (sessionKey demoCloud []) Gateway.Wire.demoToken.text demoNonce

lemma demoMessage_eq : demoMessage = .ok (returned demoMessage) := by
  have hkey : demoPrimitives.len (sessionKey demoCloud []) = keyLength := demoPrimitives.hkdf_len _
  obtain ⟨m, hm⟩ : ∃ m, demoMessage = .ok m := by
    simp only [demoMessage, Gateway.buildProtectedReading, sessionMessageAad, encodeUtf8,
      Gateway.Wire.demoToken.validUnicode, if_true, ok_bind, encryptSessionPayload, aeadEncrypt,
      chacha_eq_ok hkey, pure_eq_ok]
    exact ⟨_, rfl⟩
  rw [hm]
  rfl

/-- One reading, and the beginning of another message. -/
def demoPeer : Peer demoCloud where
  gateway := demoGateway
  registered := rfl
  named := by decide
  valid := rfl
  nonce := demoNonce
  nonce_len := rfl
  request := returned (Gateway.requestMessage demoPrimitives demoGateway demoNonce)
  request_eq := rfl
  request_size := by decide +kernel
  token := Gateway.Wire.demoToken
  coins := []
  encaps_size := by decide +kernel
  frames := [.reading {
    message := returned demoMessage
    plaintext := encodeBytes demoPrimitives demoRecord
    nonce := demoNonce
    reading := demoRecord
    item := ⟨.str (lit "dev-01"), 7⟩
    nonce_len := rfl
    built := demoMessage_eq
    parsed := parse_demoRecord
    device := rfl
    sequence := rfl
    positive := by decide
    size := by decide +kernel }]
  tail := [123]
  tail_cut := by decide

lemma codec_demo : Codec demoPrimitives where
  b64 b := by simp [demoPrimitives, octets, Octets.b64encode, validUnicode, PyChar.isScalar]
  float x := show Printable (lit "21.0") by decide
  loads := ⟨_, 10000, by norm_num, rfl⟩

/-- A stranger connects and sends nonsense while the gateway is served. -/
def demoEvents : List Event :=
  [.move, .other 1 .accept, .move, .other 1 (.recv (.malformed [])), .move, .move, .other 1 .finish]

/-- The gateway is served all the same. -/
theorem gateway_served_demo :
    (∃ done rest, Served demoPeer 0
      (run (Service.step demoCloud Handshake.demoAddr 0) (initial demoPeer 100 []) demoEvents)
        done rest) ∧
    ∃ n, ∃ s', s' = run (Service.step demoCloud Handshake.demoAddr 0) (initial demoPeer 100 [])
        (demoEvents ++ List.replicate n .move) ∧
      s'.server.phase 0 = .closed none ∧
      (s'.failed = false → ∀ f, .reading f ∈ demoPeer.frames → Settled s'.server f.item) := by
  exact gateway_served Handshake.demoAddr 0 demoPeer (octets_lawful _) codec_demo 100 [] demoEvents

end PqcBridge.Service
