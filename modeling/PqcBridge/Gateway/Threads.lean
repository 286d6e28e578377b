/-
The threads of the gateway on one cloud channel, read by read and write by write.

`PqcBridge.Gateway.Reconnect` builds the payload of `send_reading` in one step.  Here a
call is taken apart further: it reads `session_key`, and later `session_id`, and between
any two of its steps the other threads may write what they like.  The main thread, which
makes the first session before any device is served, is the thread number 0.

`Record` is what the outside sees of a run: what was negotiated on which socket, what was
encrypted under which key, what was sent, and how every call ended.

* `coarse_build`: the two reads and the building, left alone, are the one step of
  `PqcBridge.Gateway.Reconnect`;
* `Ok`: what the channel, its threads and the record know of each other.
-/
import PqcBridge.Gateway.Reconnect

namespace PqcBridge.Gateway.Threads

open Python Protocol Crypto Runs Handshake

variable {B : Type}

/-! ### The threads -/

/-- Where a call of `send_reading` stands. -/
inductive CallPc (B : Type) where
  /-- no call is running -/
  | idle
  /-- the check has passed -/
  | checked (readingBytes : B)
  /-- `session_key` has been read -/
  | keyed (readingBytes : B) (sessionKey : Option B)
  /-- the payload is built, with the session id and the key that were read -/
  | built (payload : JsonDict) (sessionId : PyStr) (sessionKey : B)

/-- What is recorded of a run. -/
inductive Record (B : Type) where
  /-- `mlkem_encapsulate` to a public key -/
  | encapsulated (publicKey : B)
  /-- the exchange on a socket has succeeded -/
  | negotiated (sock : ℕ) (sessionId : PyStr) (sessionKey : B)
  /-- `session_key` is written -/
  | installed (sessionKey : B)
  /-- `send_reading` encrypts a reading -/
  | encrypted (sessionId : PyStr) (sessionKey readingBytes : B)
  /-- a message is handed to `sendall` -/
  | sent (m : JsonDict)
  /-- a call has written its payload to a socket -/
  | wrote (sock : ℕ) (payload : JsonDict) (sessionId : PyStr) (sessionKey : B)
  /-- a call has raised -/
  | raised (e : PyExc)

/-- The channel, its threads and the record, the latest entry first; `started` threads
have been started. -/
structure State (B : Type) where
  channel : CloudChannel B
  calls : ℕ → CallPc B
  threads : ℕ → ReconnectPc B
  started : ℕ
  log : List (Record B)

/-- Which thread moves, and what the environment does. -/
inductive Event (B : Type) where
  /-- thread `t` calls `send_reading`, up to the check -/
  | call (t : ℕ) (readingBytes : B)
  /-- its call reads `session_key` -/
  | readKey (t : ℕ)
  /-- its call reads `session_id` and builds the payload -/
  | build (t : ℕ) (nonce : B)
  /-- its call runs the section under `_send_lock` -/
  | send (t : ℕ) (io : IoOutcome)
  /-- thread `i` of `connect_and_establish` makes a step -/
  | thread (i : ℕ) (a : Attempt B)

variable (P : Primitives B) (cfg : GatewayConfig B)

/-- A step of a thread.  The main thread has no flag to clear at the end. -/
def threadStep (i : ℕ) (ch : CloudChannel B) (pc : ReconnectPc B) (a : Attempt B) :
    CloudChannel B × ReconnectPc B :=
  match i, pc with
  | 0, .finishing => (ch, .stopped)
  | _, pc => reconnectStep P cfg ch pc a

/-- What is recorded of the exchange of an attempt.  A `sendall` that fails may have sent
its message. -/
def exchangeLog (a : Attempt B) : List (Record B) :=
  match requestMessage P cfg a.nonce with
  | .error _ => []
  | .ok request =>
    .sent request ::
      match (do a.sendRequest.result; a.pubkeyReply.result) >>= acceptPubkeyReply P cfg with
      | .error _ => []
      | .ok publicKey =>
        .encapsulated publicKey ::
          .sent (encapsMessage P cfg a.sessionId (mlkemEncapsulate P publicKey a.coins).2) ::
            match exchange P cfg a with
            | .error _ => []
            | .ok sharedSecret => [.negotiated a.sock a.sessionId (deriveSessionKey P sharedSecret)]

/-- What is recorded of a step of a thread. -/
def threadLog : ReconnectPc B → List (Record B)
  | .exchanging a => exchangeLog P cfg a
  | .publishKey _ sessionKey _ => [.installed sessionKey]
  | _ => []

/-- Whether the thread is running. -/
def running : ReconnectPc B → Bool
  | .stopped => false
  | _ => true

/-- What is recorded of the section under `_send_lock`. -/
def sendLog (ch : CloudChannel B) (io : IoOutcome) (payload : JsonDict) (sessionId : PyStr)
    (sessionKey : B) : List (Record B) :=
  match ch.sock, (sendPayload cfg ch io).2 with
  | some sock, .ok () => [.wrote sock payload sessionId sessionKey, .sent payload]
  | some _, .error e => [.raised e, .sent payload]
  | none, .ok () => []
  | none, .error e => [.raised e]

/-- A call moves on, and something is recorded. -/
def State.setCall (s : State B) (t : ℕ) (pc : CallPc B) (log : List (Record B)) : State B :=
  { s with calls := Function.update s.calls t pc, log := log ++ s.log }

/-- The channel after the section under `_send_lock`, with the thread that was started in
it. -/
def State.afterSend (s : State B) (ch : CloudChannel B) (starts : Bool) : State B :=
  if starts then
    { s with
      channel := ch
      threads := Function.update s.threads s.started .loop
      started := s.started + 1 }
  else { s with channel := ch }

@[simp] lemma State.setCall_log (s : State B) (t : ℕ) (pc : CallPc B) (log : List (Record B)) :
    (s.setCall t pc log).log = log ++ s.log := rfl

@[simp] lemma State.afterSend_log (s : State B) (ch : CloudChannel B) (starts : Bool) :
    (s.afterSend ch starts).log = s.log := by
  unfold State.afterSend
  split_ifs <;> rfl

@[simp] lemma State.afterSend_calls (s : State B) (ch : CloudChannel B) (starts : Bool) :
    (s.afterSend ch starts).calls = s.calls := by
  unfold State.afterSend
  split_ifs <;> rfl

/-- One atomic step of one thread.  No device is served before the main thread has made
the first session. -/
def step (s : State B) : Event B → State B
  | .call t readingBytes =>
    match s.calls t, running (s.threads 0) with
    | .idle, false =>
      match checkEstablished s.channel with
      | .ok () => s.setCall t (.checked readingBytes) []
      | .error e => s.setCall t .idle [.raised e]
    | _, _ => s
  | .readKey t =>
    match s.calls t with
    | .checked readingBytes => s.setCall t (.keyed readingBytes s.channel.sessionKey) []
    | _ => s
  | .build t nonce =>
    match s.calls t with
    | .keyed readingBytes sessionKey =>
      -- the key is the one that was read before, the id is read now
      match buildPayload P { s.channel with sessionKey := sessionKey } readingBytes nonce,
        s.channel.sessionId, sessionKey with
      | .ok payload, some sid, some key =>
        s.setCall t (.built payload sid key) [.encrypted sid key readingBytes]
      | .ok _, _, _ => s
      | .error e, _, _ => s.setCall t .idle [.raised e]
    | _ => s
  | .send t io =>
    match s.calls t with
    | .built payload sid key =>
      (s.afterSend (sendPayload cfg s.channel io).1.1 (sendPayload cfg s.channel io).1.2).setCall
        t .idle (sendLog cfg s.channel io payload sid key)
    | _ => s
  | .thread i a =>
    { s with
      channel := (threadStep P cfg i s.channel (s.threads i) a).1
      threads := Function.update s.threads i (threadStep P cfg i s.channel (s.threads i) a).2
      log := threadLog P cfg (s.threads i) ++ s.log }

/-- A gateway that has just started: the main thread is about to make the first
session. -/
def initial : State B :=
  ⟨.new, fun _ => .idle, Function.update (fun _ => .stopped) 0 .loop, 1, []⟩

/-- What a step can record. -/
inductive Records (s : State B) : List (Record B) → Prop
  | quiet : Records s []
  | raised (e) : Records s [.raised e]
  | encrypted {t b key sid nonce payload} : s.calls t = .keyed b (some key) →
      buildProtectedReading P b key sid nonce = .ok payload → Records s [.encrypted sid key b]
  | sent {t payload sid key} (io) : s.calls t = .built payload sid key →
      Records s (sendLog cfg s.channel io payload sid key)
  | thread (i) : Records s (threadLog P cfg (s.threads i))

/-- A step records one of these, on top of what was recorded before. -/
lemma step_log (s : State B) (ev : Event B) :
    ∃ l, Records P cfg s l ∧ (step P cfg s ev).log = l ++ s.log := by
  cases ev with
  | call t b =>
    simp only [step]
    split
    · split
      · exact ⟨[], .quiet, rfl⟩
      · exact ⟨_, .raised _, rfl⟩
    · exact ⟨[], .quiet, rfl⟩
  | readKey t =>
    simp only [step]
    split
    · exact ⟨[], .quiet, rfl⟩
    · exact ⟨[], .quiet, rfl⟩
  | build t nonce =>
    simp only [step]
    split
    · next b key hb =>
      split
      · next payload sid key hsid hbuild =>
        have hbuilt : buildProtectedReading P b key sid nonce = .ok payload := by
          simpa only [buildPayload, hsid] using hbuild
        exact ⟨_, .encrypted hb hbuilt, rfl⟩
      · exact ⟨[], .quiet, rfl⟩
      · exact ⟨_, .raised _, rfl⟩
    · exact ⟨[], .quiet, rfl⟩
  | send t io =>
    simp only [step]
    split
    · next payload sid key hb =>
      refine ⟨_, .sent io hb, ?_⟩
      rw [State.setCall_log, State.afterSend_log]
    · exact ⟨[], .quiet, rfl⟩
  | thread i a => exact ⟨_, .thread i, rfl⟩

variable {P cfg} in
/-- What is recorded as encrypted was encrypted. -/
lemma Records.encrypted_mem {s : State B} {l : List (Record B)} (h : Records P cfg s l)
    {sid : PyStr} {key b : B} (hmem : .encrypted sid key b ∈ l) :
    ∃ nonce payload, buildProtectedReading P b key sid nonce = .ok payload := by
  cases h with
  | quiet => cases hmem
  | raised e => simp at hmem
  | encrypted hb hbuild =>
    rw [List.mem_singleton] at hmem
    cases hmem
    exact ⟨_, _, hbuild⟩
  | sent io hb =>
    unfold sendLog at hmem
    split at hmem <;> simp at hmem
  | thread i =>
    generalize s.threads i = pc at hmem
    cases pc with
    | exchanging a =>
      simp only [threadLog, exchangeLog] at hmem
      split at hmem
      · cases hmem
      · split at hmem
        · simp at hmem
        · split at hmem <;> simp at hmem
    | publishKey => simp [threadLog] at hmem
    | _ => cases hmem

/-! ### The invariant -/

/-- What the channel and a thread know of each other: while a thread works on a new session
there is no socket, and what it has published belongs to the session it has negotiated. -/
def Consistent (ch : CloudChannel B) (log : List (Record B)) : ReconnectPc B → Prop
  | .exchanging a => ch.sock = none ∧ validUnicode a.sessionId = true
  | .publishKey sid key sock =>
    ch.sock = none ∧ validUnicode sid = true ∧ P.len key = keyLength ∧
      .negotiated sock sid key ∈ log
  | .publishId sid sock =>
    ch.sock = none ∧ validUnicode sid = true ∧
      ∃ key, ch.sessionKey = some key ∧ .negotiated sock sid key ∈ log
  | .publishSock sock =>
    ch.sock = none ∧ ∃ sid key, ch.sessionId = some sid ∧ ch.sessionKey = some key ∧
      .negotiated sock sid key ∈ log
  | .publishState => True
  | .finishing => True
  | .stopped => True
  | _ => ch.sock = none

/-- What a call holds. -/
def CallOk (ch : CloudChannel B) : CallPc B → Prop
  | .idle => True
  | .checked _ => ch.sessionId ≠ none
  | .keyed _ key => ch.sessionId ≠ none ∧ ∀ k, key = some k → P.len k = keyLength
  | .built payload sid key => ∃ b nonce, buildProtectedReading P b key sid nonce = .ok payload

/-- The session of the channel: a socket is there only with the key and the id that were
negotiated on it. -/
structure SessionOk (ch : CloudChannel B) (log : List (Record B)) : Prop where
  session : ∀ k, ch.sock = some k → ∃ sid key, ch.sessionId = some sid ∧
    ch.sessionKey = some key ∧ .negotiated k sid key ∈ log
  key_len : ∀ key, ch.sessionKey = some key → P.len key = keyLength
  valid : ∀ sid, ch.sessionId = some sid → validUnicode sid = true

/-- The invariant.  One thread at most works on the channel. -/
structure Ok (s : State B) : Prop where
  started : 0 < s.started
  alone : ∃ i, Consistent P s.channel s.log (s.threads i) ∧ ∀ j, j ≠ i → s.threads j = .stopped
  flag : s.channel.reconnecting = false → ∀ i, i ≠ 0 → s.threads i = .stopped
  startup : s.threads 0 ≠ .stopped → ∀ t, s.calls t = .idle
  session : SessionOk P s.channel s.log
  calls : ∀ t, CallOk P s.channel (s.calls t)

/-- Session ids are made of hexadecimal digits. -/
def Admissible (ev : Event B) : Prop := ∀ i a, ev = .thread i a → validUnicode a.sessionId = true

variable {P cfg} {s : State B}

lemma Consistent.mono {ch : CloudChannel B} {log log' : List (Record B)} {pc : ReconnectPc B}
    (h : Consistent P ch log pc) (hlog : ∀ x ∈ log, x ∈ log') : Consistent P ch log' pc := by
  cases pc with
  | publishKey sid key sock =>
    obtain ⟨h₁, h₂, h₃, h₄⟩ := h
    exact ⟨h₁, h₂, h₃, hlog _ h₄⟩
  | publishId sid sock =>
    obtain ⟨h₁, h₂, key, h₃, h₄⟩ := h
    exact ⟨h₁, h₂, key, h₃, hlog _ h₄⟩
  | publishSock sock =>
    obtain ⟨h₁, sid, key, h₂, h₃, h₄⟩ := h
    exact ⟨h₁, sid, key, h₂, h₃, hlog _ h₄⟩
  | _ => exact h

lemma SessionOk.mono {ch : CloudChannel B} {log log' : List (Record B)}
    (h : SessionOk P ch log) (hlog : ∀ x ∈ log, x ∈ log') : SessionOk P ch log' := by
  refine ⟨fun k hk => ?_, h.key_len, h.valid⟩
  obtain ⟨sid, key, hsid, hkey, hneg⟩ := h.session k hk
  exact ⟨sid, key, hsid, hkey, hlog _ hneg⟩

lemma CallOk.of_sessionId {ch ch' : CloudChannel B} {pc : CallPc B} (h : CallOk P ch pc)
    (hsid : ch.sessionId ≠ none → ch'.sessionId ≠ none) : CallOk P ch' pc := by
  cases pc with
  | checked b => exact hsid h
  | keyed b key => exact ⟨hsid h.1, h.2⟩
  | _ => exact h

/-- A step of a running thread, which keeps the flag or ends. -/
lemma Ok.of_thread (h : Ok P s) {i : ℕ} {ch : CloudChannel B} {pc : ReconnectPc B}
    {log : List (Record B)} (hrunning : s.threads i ≠ .stopped)
    (hothers : ∀ j, j ≠ i → s.threads j = .stopped) (hpc : Consistent P ch (log ++ s.log) pc)
    (hflag : ch.reconnecting = s.channel.reconnecting ∨ pc = .stopped)
    (hsession : SessionOk P ch (log ++ s.log))
    (hsid : s.channel.sessionId ≠ none → ch.sessionId ≠ none) :
    Ok P { s with
      channel := ch, threads := Function.update s.threads i pc, log := log ++ s.log } := by
  have hstopped : ∀ j, j ≠ i → Function.update s.threads i pc j = .stopped := by
    intro j hj
    rw [Function.update_of_ne hj]
    exact hothers j hj
  refine ⟨h.started, ⟨i, ?_, hstopped⟩, fun hrec j hj => ?_, fun h0 => ?_, hsession,
    fun t => (h.calls t).of_sessionId hsid⟩
  · show Consistent P ch (log ++ s.log) (Function.update s.threads i pc i)
    rw [Function.update_self]
    exact hpc
  · by_cases hji : j = i
    · subst hji
      rcases hflag with hflag | hflag
      · exact absurd (h.flag (hflag.symm.trans hrec) j hj) hrunning
      · exact (Function.update_self _ _ _).trans hflag
    · exact hstopped j hji
  · -- the main thread still runs only if it ran before
    refine h.startup fun h0' => h0 ?_
    by_cases hi : (0 : ℕ) = i
    · rw [hi] at h0'
      exact absurd h0' hrunning
    · exact hstopped 0 hi

lemma exchangeLog_negotiated {a : Attempt B} {secret : B} (h : exchange P cfg a = .ok secret) :
    .negotiated a.sock a.sessionId (deriveSessionKey P secret) ∈ exchangeLog P cfg a := by
  have hx := h
  obtain ⟨request, hrequest, h⟩ := bind_eq_ok.1 h
  obtain ⟨_, hsend, h⟩ := bind_eq_ok.1 h
  obtain ⟨reply, hreply, h⟩ := bind_eq_ok.1 h
  obtain ⟨publicKey, haccept, -⟩ := bind_eq_ok.1 h
  have hkey : (do a.sendRequest.result; a.pubkeyReply.result) >>= acceptPubkeyReply P cfg
      = .ok publicKey := by
    rw [hsend, ok_bind, hreply, ok_bind, haccept]
  simp only [exchangeLog, hrequest, hkey, hx, List.mem_cons, reduceCtorEq, List.not_mem_nil,
    or_false, false_or]

/-- A thread that goes on: the flag stays, the session of the channel is sound, and it is not
taken away. -/
structure Continues (P : Primitives B) (ch : CloudChannel B) (log : List (Record B))
    (r : CloudChannel B × ReconnectPc B) : Prop where
  consistent : Consistent P r.1 log r.2
  flag : r.1.reconnecting = ch.reconnecting
  session : SessionOk P r.1 log
  sessionId : ch.sessionId ≠ none → r.1.sessionId ≠ none

/-- A thread that publishes a session has no socket to lose. -/
lemma SessionOk.of_no_sock {ch : CloudChannel B} {log : List (Record B)} (hsock : ch.sock = none)
    (hlen : ∀ key, ch.sessionKey = some key → P.len key = keyLength)
    (hvalid : ∀ sid, ch.sessionId = some sid → validUnicode sid = true) : SessionOk P ch log := by
  refine ⟨fun k hk => ?_, hlen, hvalid⟩
  rw [hsock] at hk
  cases hk

variable (cfg) in
/-- A step of `_reconnect_loop` before the flag is taken back. -/
lemma reconnectStep_continues {ch : CloudChannel B} {log : List (Record B)} {pc : ReconnectPc B}
    {a : Attempt B} (hpc : Consistent P ch log pc) (h : SessionOk P ch log)
    (ha : validUnicode a.sessionId = true) (hne : pc ≠ .finishing) :
    Continues P ch (threadLog P cfg pc ++ log) (reconnectStep P cfg ch pc a) := by
  have hlog : ∀ {l : List (Record B)}, ∀ x ∈ log, x ∈ l ++ log := fun x hx =>
    List.mem_append_right _ hx
  cases pc with
  | finishing => exact absurd rfl hne
  | stopped => exact ⟨trivial, rfl, h, id⟩
  | loop => exact ⟨hpc, rfl, ⟨h.session, h.key_len, h.valid⟩, id⟩
  | connect =>
    rcases hc : a.connect with _ | msg
    · simp only [reconnectStep, hc, IoOutcome.result]
      exact ⟨⟨hpc, ha⟩, rfl, ⟨h.session, h.key_len, h.valid⟩, id⟩
    · simp only [reconnectStep, hc, IoOutcome.result, raise]
      exact ⟨hpc, rfl, h, id⟩
  | exchanging a' =>
    obtain ⟨hsock, hvalid⟩ := hpc
    rcases hx : exchange P cfg a' with e | secret
    · simp only [reconnectStep, hx]
      exact ⟨hsock, rfl, h.mono hlog, id⟩
    · simp only [reconnectStep, hx]
      refine ⟨⟨hsock, hvalid, P.hkdf_len _, ?_⟩, rfl, h.mono hlog, id⟩
      exact List.mem_append_left _ (exchangeLog_negotiated hx)
  -- the three writes of `_publish`, the socket last
  | publishKey sid key sock =>
    obtain ⟨hsock, hvalid, hlen, hneg⟩ := hpc
    refine ⟨⟨hsock, hvalid, key, rfl, hlog _ hneg⟩, rfl, .of_no_sock hsock ?_ h.valid, id⟩
    rintro _ ⟨⟩
    exact hlen
  | publishId sid sock =>
    obtain ⟨hsock, hvalid, key, hkey, hneg⟩ := hpc
    refine ⟨⟨hsock, sid, key, rfl, hkey, hlog _ hneg⟩, rfl, .of_no_sock hsock h.key_len ?_,
      fun _ => Option.some_ne_none sid⟩
    rintro _ ⟨⟩
    exact hvalid
  | publishSock sock =>
    obtain ⟨-, sid, key, hsid, hkey, hneg⟩ := hpc
    refine ⟨trivial, rfl, ⟨?_, h.key_len, h.valid⟩, id⟩
    rintro _ ⟨⟩
    exact ⟨sid, key, hsid, hkey, hlog _ hneg⟩
  | publishState => exact ⟨trivial, rfl, ⟨h.session, h.key_len, h.valid⟩, id⟩
  | failing e =>
    by_cases he : retried e = true
    · simp only [reconnectStep, he, if_true]
      exact ⟨hpc, rfl, ⟨h.session, h.key_len, h.valid⟩, id⟩
    · rw [reconnectStep, if_neg he]
      exact ⟨trivial, rfl, h, id⟩
  | disconnecting => exact ⟨hpc, rfl, ⟨h.session, h.key_len, h.valid⟩, id⟩

/-- A thread that has stopped does not move. -/
lemma step_of_stopped {i : ℕ} (h : s.threads i = .stopped) (a : Attempt B) :
    step P cfg s (.thread i a) = s := by
  have hmove : threadStep P cfg i s.channel .stopped a = (s.channel, .stopped) := by
    cases i <;> rfl
  have hupdate : Function.update s.threads i .stopped = s.threads := by
    rw [← h, Function.update_eq_self]
  simp only [step, h, hmove, hupdate, threadLog, List.nil_append]

/-- The main thread is a reconnect thread, up to the end. -/
lemma threadStep_of_ne {i : ℕ} {ch : CloudChannel B} {pc : ReconnectPc B} {a : Attempt B}
    (hne : pc ≠ .finishing) : threadStep P cfg i ch pc a = reconnectStep P cfg ch pc a := by
  unfold threadStep
  split
  · exact absurd rfl hne
  · rfl

/-- The step lemma, for a thread. -/
lemma Ok.step_thread (h : Ok P s) (i : ℕ) {a : Attempt B} (ha : validUnicode a.sessionId = true) :
    Ok P (step P cfg s (.thread i a)) := by
  obtain ⟨k, hk, hothers⟩ := h.alone
  by_cases hstop : s.threads i = .stopped
  · rw [step_of_stopped hstop]
    exact h
  obtain rfl : i = k := by
    by_contra hne
    exact hstop (hothers i hne)
  by_cases hfin : s.threads i = .finishing
  · -- the main thread ends; a reconnect thread takes the flag back and ends
    cases i with
    | zero =>
      have hnone : Consistent P s.channel ([] ++ s.log) .stopped := trivial
      have := h.of_thread hstop hothers hnone (Or.inr rfl) h.session id
      simpa only [step, hfin, threadStep, threadLog] using this
    | succ i =>
      have hnone : Consistent P { s.channel with reconnecting := false } ([] ++ s.log) .stopped :=
        trivial
      have := h.of_thread hstop hothers hnone (Or.inr rfl)
        ⟨h.session.session, h.session.key_len, h.session.valid⟩ id
      simpa only [step, hfin, threadStep, threadLog, reconnectStep] using this
  · have hc := reconnectStep_continues cfg hk h.session ha hfin
    have := h.of_thread hstop hothers hc.consistent (Or.inl hc.flag) hc.session hc.sessionId
    simpa only [step, threadStep_of_ne hfin] using this

/-- A call that moves on, with nothing else moving. -/
lemma Ok.setCall (h : Ok P s) {t : ℕ} {pc : CallPc B} {log : List (Record B)}
    (h0 : s.threads 0 = .stopped) (hpc : CallOk P s.channel pc) : Ok P (s.setCall t pc log) := by
  have hlog : ∀ x ∈ s.log, x ∈ log ++ s.log := fun x hx => List.mem_append_right _ hx
  obtain ⟨i, hi, hothers⟩ := h.alone
  refine ⟨h.started, ⟨i, hi.mono hlog, hothers⟩, h.flag, fun hne => absurd h0 hne,
    h.session.mono hlog, ?_⟩
  exact (Function.forall_update_iff s.calls fun _ pc => CallOk P s.channel pc).2
    ⟨hpc, fun t' _ => h.calls t'⟩

/-- Calls are made after the main thread has made the first session. -/
lemma Ok.main_stopped (h : Ok P s) {t : ℕ} (ht : s.calls t ≠ .idle) : s.threads 0 = .stopped := by
  by_contra h0
  exact ht (h.startup h0 t)

/-- While there is a socket, no thread is in the middle of publishing a session, and a thread
is consistent with any channel. -/
lemma Consistent.of_sock {ch : CloudChannel B} {log : List (Record B)} {pc : ReconnectPc B}
    (h : Consistent P ch log pc) (hsock : ch.sock ≠ none) (ch' : CloudChannel B) :
    Consistent P ch' log pc := by
  cases pc with
  | stopped | publishState | finishing => trivial
  | publishKey | publishId | publishSock | exchanging => exact absurd h.1 hsock
  | loop | connect | failing | disconnecting => exact absurd h hsock

/-- The channel after `_invalidate`, with the flag. -/
def down (ch : CloudChannel B) (reconnecting : Bool) : CloudChannel B :=
  { ch with sock := none, sessionKey := none, state := .failed, reconnecting := reconnecting }

lemma SessionOk.down {ch : CloudChannel B} {log : List (Record B)} (h : SessionOk P ch log)
    (reconnecting : Bool) : SessionOk P (down ch reconnecting) log :=
  ⟨by simp [Threads.down], by simp [Threads.down], h.valid⟩

/-- The session is taken down, and no thread is started. -/
lemma Ok.down (h : Ok P s) (hsock : s.channel.sock ≠ none) {reconnecting : Bool}
    (hflag : reconnecting = false → s.channel.reconnecting = false) :
    Ok P { s with channel := down s.channel reconnecting } := by
  obtain ⟨i, hi, hothers⟩ := h.alone
  exact ⟨h.started, ⟨i, hi.of_sock hsock _, hothers⟩, fun hfalse => h.flag (hflag hfalse),
    h.startup, h.session.down reconnecting, fun t => (h.calls t).of_sessionId id⟩

/-- The session is taken down, and a thread is started; no other one is running. -/
lemma Ok.restart (h : Ok P s) (h0 : s.threads 0 = .stopped)
    (hflag : s.channel.reconnecting = false) :
    Ok P (s.afterSend (Threads.down s.channel true) true) ∧
      (s.afterSend (Threads.down s.channel true) true).threads 0 = .stopped := by
  have hall : ∀ j, s.threads j = .stopped := by
    intro j
    by_cases hj : j = 0
    · rw [hj]
      exact h0
    · exact h.flag hflag j hj
  have hne : (0 : ℕ) ≠ s.started := Nat.ne_of_lt h.started
  have hmain : Function.update s.threads s.started .loop 0 = .stopped := by
    rw [Function.update_of_ne hne]
    exact h0
  refine ⟨⟨Nat.succ_pos _, ⟨s.started, ?_, fun j hj => ?_⟩, by simp [State.afterSend, Threads.down],
    fun hrunning => absurd hmain hrunning, h.session.down true,
    fun t => (h.calls t).of_sessionId id⟩, hmain⟩
  · show Consistent P _ s.log (Function.update s.threads s.started .loop s.started)
    rw [Function.update_self]
    rfl
  · show Function.update s.threads s.started .loop j = .stopped
    rw [Function.update_of_ne hj]
    exact hall j

lemma invalidate_eq (ch : CloudChannel B) : invalidate cfg ch =
    if cfg.autoReconnect then (down ch true, !ch.reconnecting)
    else (down ch ch.reconnecting, false) := by
  rcases hauto : cfg.autoReconnect
  · simp [invalidate, hauto, down]
  · rcases hrec : ch.reconnecting <;> simp [invalidate, hauto, startReconnect, hrec, down]

variable (cfg) in
/-- The section under `_send_lock` leaves the invariant alone: where it takes the session
down, no thread is in the middle of publishing one. -/
lemma Ok.afterSend (h : Ok P s) (h0 : s.threads 0 = .stopped) (io : IoOutcome) :
    Ok P (s.afterSend (sendPayload cfg s.channel io).1.1 (sendPayload cfg s.channel io).1.2) ∧
      (s.afterSend (sendPayload cfg s.channel io).1.1
        (sendPayload cfg s.channel io).1.2).threads 0 = .stopped := by
  have hsame : s.afterSend s.channel false = s := rfl
  rcases hsock : s.channel.sock with _ | k
  · have hsend : (sendPayload cfg s.channel io).1 = (s.channel, false) := by
      simp only [sendPayload, hsock]
    rw [hsend, hsame]
    exact ⟨h, h0⟩
  rcases io with _ | msg
  · have hsend : (sendPayload cfg s.channel .ok).1 = (s.channel, false) := by
      simp only [sendPayload, hsock]
    rw [hsend, hsame]
    exact ⟨h, h0⟩
  have hsend : (sendPayload cfg s.channel (.osError msg)).1 = invalidate cfg s.channel := by
    simp only [sendPayload, hsock]
  have hne : s.channel.sock ≠ none := by
    rw [hsock]
    exact Option.some_ne_none k
  rw [hsend, invalidate_eq]
  split_ifs
  · rcases hflag : s.channel.reconnecting
    · exact h.restart h0 hflag
    · -- the thread that is running reconnects
      exact ⟨h.down hne (by simp), h0⟩
  · exact ⟨h.down hne id, h0⟩

/-- The step lemma. -/
lemma Ok.step (h : Ok P s) {ev : Event B} (ha : Admissible ev) : Ok P (step P cfg s ev) := by
  cases ev with
  | call t b =>
    simp only [Threads.step]
    split
    · next hidle hrunning =>
      have h0 : s.threads 0 = .stopped := by
        generalize s.threads 0 = pc at hrunning
        cases pc with
        | stopped => rfl
        | _ => cases hrunning
      split
      · next hcheck =>
        refine h.setCall h0 ?_
        -- an established channel has a session
        unfold checkEstablished at hcheck
        split_ifs at hcheck with hest
        · obtain ⟨k, hk⟩ : ∃ k, s.channel.sock = some k := by
            rw [CloudChannel.isEstablished, Bool.and_eq_true, Bool.and_eq_true] at hest
            exact Option.isSome_iff_exists.1 hest.1.2
          obtain ⟨sid, key, hsid, -, -⟩ := h.session.session k hk
          show s.channel.sessionId ≠ none
          rw [hsid]
          exact Option.some_ne_none sid
        · cases hcheck
      · exact h.setCall h0 trivial
    · exact h
  | readKey t =>
    simp only [Threads.step]
    split
    · next b hb =>
      have hcall := h.calls t
      rw [hb] at hcall
      exact h.setCall (h.main_stopped (by rw [hb]; simp)) ⟨hcall, h.session.key_len⟩
    · exact h
  | build t nonce =>
    simp only [Threads.step]
    split
    · next b key hb =>
      have h0 := h.main_stopped (t := t) (by rw [hb]; simp)
      split
      · next payload sid key hsid hbuild =>
        refine h.setCall h0 ⟨b, nonce, ?_⟩
        simpa only [buildPayload, hsid] using hbuild
      · exact h
      · exact h.setCall h0 trivial
    · exact h
  | send t io =>
    simp only [Threads.step]
    split
    · next payload sid key hb =>
      obtain ⟨hok, h0⟩ := h.afterSend cfg (h.main_stopped (t := t) (by rw [hb]; simp)) io
      exact hok.setCall h0 trivial
    · exact h
  | thread i a => exact h.step_thread i (ha i a rfl)

lemma ok_initial : Ok P (initial : State B) := by
  refine ⟨Nat.one_pos, ⟨0, rfl, fun j hj => ?_⟩, fun _ i hi => ?_, fun _ _ => rfl,
    ⟨by simp [initial, CloudChannel.new], by simp [initial, CloudChannel.new],
      by simp [initial, CloudChannel.new]⟩, fun _ => trivial⟩
  · show Function.update (fun _ => ReconnectPc.stopped) 0 .loop j = .stopped
    rw [Function.update_of_ne hj]
  · show Function.update (fun _ => ReconnectPc.stopped) 0 .loop i = .stopped
    rw [Function.update_of_ne hi]

/-- With a key of the right length and an id that can be encoded, the payload is built. -/
lemma buildPayload_returns {ch : CloudChannel B} {sid : PyStr} {key : B}
    (hsid : ch.sessionId = some sid) (hvalid : validUnicode sid = true)
    (hlen : P.len key = keyLength) (b nonce : B) :
    ∃ payload, buildPayload P { ch with sessionKey := some key } b nonce = .ok payload := by
  simp [buildPayload, hsid, buildProtectedReading, sessionMessageAad, encodeUtf8, hvalid,
    encryptSessionPayload, aeadEncrypt, chacha_eq_ok hlen]

/-! ### One step in `PqcBridge.Gateway.Reconnect` -/

/-- The call, where the two reads and the building are one step. -/
def CallPc.sender : CallPc B → SenderPc B
  | .idle => .idle
  | .checked readingBytes => .checked readingBytes
  | .keyed readingBytes _ => .checked readingBytes
  | .built payload _ _ => .built payload

/-- The system in which they are one step, and nothing is recorded. -/
def State.coarse (s : State B) : ChannelSystem B :=
  ⟨s.channel, fun t => (s.calls t).sender, s.threads, s.started⟩

lemma coarse_setCall (t : ℕ) (pc : CallPc B) (log : List (Record B)) :
    (s.setCall t pc log).coarse = s.coarse.setSender t pc.sender := by
  refine congrArg (fun f => ChannelSystem.mk s.channel f s.threads s.started) ?_
  funext t'
  show (Function.update s.calls t pc t').sender = Function.update s.coarse.senders t pc.sender t'
  by_cases ht : t' = t
  · rw [ht, Function.update_self, Function.update_self]
  · rw [Function.update_of_ne ht, Function.update_of_ne ht]
    rfl

/-- A payload that is built has a session id and a key. -/
lemma buildPayload_fields {ch : CloudChannel B} {b nonce : B} {payload : JsonDict}
    (h : buildPayload P ch b nonce = .ok payload) :
    ∃ sid key, ch.sessionId = some sid ∧ ch.sessionKey = some key := by
  unfold buildPayload at h
  split at h
  · next sid key hsid hkey => exact ⟨sid, key, hsid, hkey⟩
  · cases h
  · cases h

/-- **The two reads and the building**, left alone, are the one step that
`PqcBridge.Gateway.Reconnect` makes of them. -/
theorem coarse_build {t : ℕ} {b : B} (ht : s.calls t = .checked b) (nonce : B) :
    (run (step P cfg) s [.readKey t, .build t nonce]).coarse
      = s.coarse.step P cfg (.build t nonce) := by
  have hread : step P cfg s (.readKey t) = s.setCall t (.keyed b s.channel.sessionKey) [] := by
    simp only [step, ht]
  have hkeyed : (s.setCall t (.keyed b s.channel.sessionKey) []).calls t
      = .keyed b s.channel.sessionKey := Function.update_self _ _ _
  have hchannel : { (s.setCall t (.keyed b s.channel.sessionKey) []).channel with
      sessionKey := s.channel.sessionKey } = s.channel := rfl
  have hsid : (s.setCall t (.keyed b s.channel.sessionKey) []).channel.sessionId
      = s.channel.sessionId := rfl
  -- of the two steps only the last stop of the call is left
  have htwice : ∀ pc pc' log, ((s.setCall t pc []).setCall t pc' log).coarse
      = s.coarse.setSender t pc'.sender := by
    intro pc pc' log
    rw [coarse_setCall, coarse_setCall]
    simp only [ChannelSystem.setSender, Function.update_idem]
  have hsender : s.coarse.senders t = .checked b := by
    simp only [State.coarse, ht, CallPc.sender]
  have hcoarse : s.coarse.channel = s.channel := rfl
  rw [run_cons, run_cons, run_nil, hread]
  simp only [step, hkeyed, ChannelSystem.step, hsender, hcoarse]
  rw [hchannel, hsid]
  rcases hb : buildPayload P s.channel b nonce with e | payload
  · exact htwice _ _ _
  · obtain ⟨sid, key, hsid, hkey⟩ := buildPayload_fields hb
    rw [hsid]
    simp only [hkey]
    exact htwice _ _ _

/-! ### The demo -/

/-- Thread `i` makes session `sid` on socket `n`. -/
def demoSession (i : ℕ) (sid : PyStr) (n : ℕ) : List (Event Bytes) :=
  List.replicate 8
    (.thread i (honestAttempt (demoCloud fun _ => none) sid (Demo.nonce 0) (Demo.coins n) n))

/-- Thread `t` calls `send_reading`, up to the section under `_send_lock`. -/
def demoBuilt (t : ℕ) : List (Event Bytes) :=
  [.call t (.data (.record t)), .readKey t, .build t (Demo.nonce (t + 1))]

/-- A `sendall` that fails. -/
def demoFailure : IoOutcome := .osError (lit "[Errno 32] Broken pipe")

/-- A second session, after the first one has failed. -/
def demoReconnect : List (Event Bytes) :=
  demoSession 1 (lit "00112233aabbccdd") 1

lemma admissible_demoSession (i n : ℕ) {sid : PyStr} (hsid : validUnicode sid = true) :
    ∀ ev ∈ demoSession i sid n, Admissible ev := by
  rintro ev hev j a rfl
  cases List.eq_of_mem_replicate hev
  exact hsid

/-- Only a thread that makes a session has a condition to meet. -/
lemma admissible_of_calls {τ : List (Event Bytes)} (h : ∀ i a, .thread i a ∉ τ) :
    ∀ ev ∈ τ, Admissible ev := by
  rintro ev hev i a rfl
  exact absurd hev (h i a)

end PqcBridge.Gateway.Threads
