/-
Who may write on which socket.

* `Works`, `CallOk`: what the channel and its sockets are to a thread of
  `connect_and_establish` and to a call of `send_reading`, at every point of their code;
* `Ok`: the invariant of the threads, the lock, the session and the streams;
* `Ok.callStep`, `Ok.threadStep`: the steps keep it;
* `ok_run`: it holds in every run.
-/
import PqcBridge.Gateway.Wire

namespace PqcBridge.Gateway.Wire

open Python Protocol Crypto Runs Frames Framing

variable (P : Primitives Octets) (cfg : GatewayConfig Octets)

/-! ### What is on the sockets -/

/-- The request of the handshake. -/
def IsRequest (m : JsonDict) : Prop := ∃ nonce, requestMessage P cfg nonce = .ok m

/-- A protected reading. -/
def IsReading (m : JsonDict) : Prop :=
  ∃ readingBytes sessionKey sessionId nonce,
    buildProtectedReading P readingBytes sessionKey sessionId nonce = .ok m

/-- The messages of a handshake that has been sent, for the session id. -/
def Handshake (sessionId : Token) (ms : List JsonDict) : Prop :=
  ∃ request ciphertext, IsRequest P cfg request ∧
    ms = [request, encapsMessage P cfg sessionId.text ciphertext]

/-- A handshake, and protected readings after it. -/
def Serving (ms : List JsonDict) : Prop :=
  ∃ sessionId handshake readings, Handshake P cfg sessionId handshake ∧
    (∀ m ∈ readings, IsReading P m) ∧ ms = handshake ++ readings

/-- What can have been sent on a socket: a beginning of a handshake, or more. -/
def Transcript (ms : List JsonDict) : Prop :=
  ms = [] ∨ (∃ request, IsRequest P cfg request ∧ ms = [request]) ∨ Serving P cfg ms

variable {P cfg}

lemma Handshake.serving {sid : Token} {ms : List JsonDict} (h : Handshake P cfg sid ms) :
    Serving P cfg ms :=
  ⟨sid, ms, [], h, by simp, by simp⟩

lemma Serving.reading {ms : List JsonDict} (h : Serving P cfg ms) {m : JsonDict}
    (hm : IsReading P m) : Serving P cfg (ms ++ [m]) := by
  obtain ⟨sid, hs, rs, hhs, hrs, rfl⟩ := h
  refine ⟨sid, hs, rs ++ [m], hhs, ?_, by simp⟩
  intro r hr
  rcases List.mem_append.1 hr with hr | hr
  · exact hrs r hr
  · rw [List.mem_singleton.1 hr]
    exact hm

variable (P cfg)

/-! ### The invariant -/

/-- The call is in the section under `_send_lock`. -/
def CallPc.holds : CallPc → Bool
  | .locked _ => true
  | .sending _ _ _ => true
  | .invalidating _ => true
  | .unlocking => true
  | _ => false

/-- The call has a frame on the socket of the channel that is not finished. -/
def CallPc.unfinished : CallPc → Bool
  | .sending _ _ _ => true
  | .invalidating .sock => true
  | _ => false

/-- The socket that the thread works on and that is not yet that of the channel. -/
def ThreadPc.sock : ThreadPc → Option ℕ
  | .sendRequest a _ _ => some a.sock
  | .pubkey a => some a.sock
  | .sendEncaps a _ _ _ => some a.sock
  | .established a _ => some a.sock
  | .publishKey a _ => some a.sock
  | .publishId a => some a.sock
  | .countSession a => some a.sock
  | .publishSock a => some a.sock
  | _ => none

/-- The thread has nothing more to write to the session. -/
def ThreadPc.late : ThreadPc → Bool
  | .publishState => true
  | .finishing => true
  | .stopped => true
  | _ => false

/-- What a thread knows of its socket. -/
structure OnSocket (s : State) (a : Conn) : Prop where
  unpublished : s.channel.sock = none
  opened : a.sock < s.opened

/-- What the state and a thread know of each other. -/
def Works (s : State) : ThreadPc → Prop
  | .stopped => True
  | .publishState => True
  | .finishing => True
  | .sendRequest a m rest =>
    OnSocket s a ∧ Writing (encodeBytes P) (s.streams a.sock) m rest ∧ rest ≠ [] ∧
      IsRequest P cfg m ∧ (s.streams a.sock).finished = []
  | .pubkey a =>
    OnSocket s a ∧ Clean (encodeBytes P) (s.streams a.sock) ∧
      ∃ request, IsRequest P cfg request ∧ (s.streams a.sock).finished = [request]
  | .sendEncaps a _ m rest =>
    OnSocket s a ∧ Writing (encodeBytes P) (s.streams a.sock) m rest ∧ rest ≠ [] ∧
      (∃ ciphertext, m = encapsMessage P cfg a.sessionId.text ciphertext) ∧
      ∃ request, IsRequest P cfg request ∧ (s.streams a.sock).finished = [request]
  | .established a _ =>
    OnSocket s a ∧ Clean (encodeBytes P) (s.streams a.sock) ∧
      Handshake P cfg a.sessionId (s.streams a.sock).finished
  | .publishKey a key =>
    OnSocket s a ∧ Clean (encodeBytes P) (s.streams a.sock) ∧
      Handshake P cfg a.sessionId (s.streams a.sock).finished ∧
      s.sessions a.sock = some (a.sessionId.text, key)
  | .publishId a =>
    OnSocket s a ∧ Clean (encodeBytes P) (s.streams a.sock) ∧
      Handshake P cfg a.sessionId (s.streams a.sock).finished ∧
      ∃ key, s.sessions a.sock = some (a.sessionId.text, key) ∧ s.channel.sessionKey = some key
  | .countSession a | .publishSock a =>
    OnSocket s a ∧ Clean (encodeBytes P) (s.streams a.sock) ∧
      Handshake P cfg a.sessionId (s.streams a.sock).finished ∧
      ∃ key, s.sessions a.sock = some (a.sessionId.text, key) ∧ s.channel.sessionKey = some key ∧
        s.channel.sessionId = some a.sessionId.text
  | _ => s.channel.sock = none

/-- What the state and a call know of each other. -/
def CallOk (s : State) : CallPc → Prop
  | .built m => IsReading P m
  | .locked m => IsReading P m
  | .sending k m rest =>
    IsReading P m ∧ s.channel.sock = some k ∧ Writing (encodeBytes P) (s.streams k) m rest ∧
      rest ≠ []
  | .invalidating .sock => s.channel.sock.isSome = true
  | .invalidating _ => s.channel.sock = none ∧ ∀ i, (s.threads i).late = true
  | _ => True

/-- The session of the channel, where it has a socket. -/
structure SessionOk (s : State) (k : ℕ) : Prop where
  opened : k < s.opened
  serving : Serving P cfg (s.streams k).finished
  session : ∃ sid key, s.sessions k = some (sid, key) ∧ s.channel.sessionId = some sid ∧
    s.channel.sessionKey = some key
  clean : (∀ t, (s.calls t).unfinished = false) → Clean (encodeBytes P) (s.streams k)

/-- A stream. -/
structure StreamOk (opened k : ℕ) (stream : Pipe JsonDict UInt8) : Prop where
  torn : Torn (encodeBytes P) stream
  transcript : Transcript P cfg stream.finished
  unopened : opened ≤ k → stream = .empty

/-- The invariant.  One thread at most works on the channel, and the lock is with the call in
the section. -/
structure Ok (s : State) : Prop where
  started : 0 < s.started
  alone : ∃ i, Works P cfg s (s.threads i) ∧ ∀ j, j ≠ i → s.threads j = .stopped
  flag : s.channel.reconnecting = false → ∀ i, i ≠ 0 → s.threads i = .stopped
  startup : s.threads 0 ≠ .stopped → ∀ t, s.calls t = .idle
  lock : ∀ t, (s.calls t).holds = true ↔ s.lock = some t
  calls : ∀ t, CallOk P s (s.calls t)
  session : ∀ k, s.channel.sock = some k → SessionOk P cfg s k
  streams : ∀ k, StreamOk P cfg s.opened k (s.streams k)

variable {P cfg} {s s' : State}

lemma encodeBytes_ne_nil (P : Primitives Octets) (m : JsonDict) : encodeBytes P m ≠ [] := by
  have hline : Octets.utf8Char (.char '\n') ≠ [] := by decide
  simp [encodeBytes, encodeMessage, hline]

/-- A thread looks at the channel, the sockets and what was negotiated on them. -/
lemma Works.congr {pc : ThreadPc} (h : Works P cfg s pc) (hchannel : s'.channel = s.channel)
    (hopened : s'.opened = s.opened) (hstreams : s'.streams = s.streams)
    (hsessions : s'.sessions = s.sessions) : Works P cfg s' pc := by
  have hon : ∀ {a}, OnSocket s a → OnSocket s' a := fun ha =>
    ⟨hchannel ▸ ha.unpublished, hopened ▸ ha.opened⟩
  cases pc with
  | stopped | publishState | finishing => trivial
  | sendRequest | pubkey | sendEncaps | established | publishKey | publishId | countSession
  | publishSock =>
    simp only [Works, hchannel, hstreams, hsessions] at h ⊢
    exact ⟨hon h.1, h.2⟩
  | loop | connect | failing | publishFailed | disconnecting =>
    show s'.channel.sock = none
    rw [hchannel]
    exact h

/-- A call looks at the channel, the threads and the sockets. -/
lemma CallOk.congr {pc : CallPc} (h : CallOk P s pc) (hchannel : s'.channel = s.channel)
    (hthreads : s'.threads = s.threads) (hstreams : s'.streams = s.streams) : CallOk P s' pc := by
  cases pc with
  | sending k m rest =>
    simp only [CallOk, hchannel, hstreams] at h ⊢
    exact h
  | invalidating next =>
    cases next <;> simp only [CallOk, hchannel, hthreads] at h ⊢ <;> exact h
  | _ => exact h

lemma works_of_late {pc : ThreadPc} (h : pc.late = true) : Works P cfg s pc := by
  cases pc with
  | stopped | publishState | finishing => trivial
  | _ => cases h

/-- A thread that is not late has taken the socket away. -/
lemma Works.sock_eq_none {pc : ThreadPc} (h : Works P cfg s pc) (hpc : pc.late = false) :
    s.channel.sock = none := by
  cases pc with
  | stopped | publishState | finishing => cases hpc
  | sendRequest | pubkey | sendEncaps | established | publishKey | publishId | countSession
  | publishSock =>
    exact h.1.unpublished
  | _ => exact h

/-- A thread that is not late is alone. -/
lemma Ok.others_stopped (h : Ok P cfg s) {i : ℕ} (hi : (s.threads i).late = false) :
    Works P cfg s (s.threads i) ∧ ∀ j, j ≠ i → s.threads j = .stopped := by
  obtain ⟨i', hworks, hothers⟩ := h.alone
  have hii : i = i' := by
    by_contra hne
    rw [hothers i hne] at hi
    cases hi
  exact hii ▸ ⟨hworks, hothers⟩

/-- While there is a socket, no thread works on a new session. -/
lemma Ok.late_of_sock (h : Ok P cfg s) {k : ℕ} (hk : s.channel.sock = some k) (i : ℕ) :
    (s.threads i).late = true := by
  by_contra hi
  rw [Bool.not_eq_true] at hi
  have hnone := (h.others_stopped hi).1.sock_eq_none hi
  rw [hnone] at hk
  cases hk

/-- A call outside the section depends on nothing. -/
lemma CallOk.of_not_holds {pc : CallPc} (h : CallOk P s pc) (hpc : pc.holds = false) :
    CallOk P s' pc := by
  cases pc with
  | sending | invalidating => cases hpc
  | _ => exact h

/-- While a thread works on a new session, a call depends on nothing. -/
lemma Ok.callOk_of_not_late (h : Ok P cfg s) {i : ℕ} (hi : (s.threads i).late = false) (t : ℕ) :
    CallOk P s' (s.calls t) := by
  have hcall := h.calls t
  have hsock := (h.others_stopped hi).1.sock_eq_none hi
  cases hpc : s.calls t with
  | sending k m rest =>
    rw [hpc] at hcall
    have hk : s.channel.sock = some k := hcall.2.1
    rw [hsock] at hk
    cases hk
  | invalidating next =>
    rw [hpc] at hcall
    cases next with
    | sock => exact absurd hcall (by simp [CallOk, hsock])
    | key | state | restart => exact absurd (hcall.2 i) (by simp [hi])
  | _ => rw [hpc] at hcall; exact hcall

/-! ### The steps of the calls -/

/-- The call that holds the lock is the only one in the section. -/
lemma Ok.holds_eq_false (h : Ok P cfg s) {t t' : ℕ} (ht : (s.calls t).holds = true)
    (hne : t' ≠ t) : (s.calls t').holds = false := by
  by_contra ht'
  rw [Bool.not_eq_false] at ht'
  have heq := ((h.lock t).1 ht).symm.trans ((h.lock t').1 ht')
  exact hne (Option.some.inj heq).symm

/-- A call moves on, and nothing but the lock changes. -/
lemma Ok.setCall (h : Ok P cfg s) {t : ℕ} (pc : CallPc) (lock : Option ℕ)
    (hstart : s.calls t ≠ .idle ∨ s.threads 0 = .stopped) (hpc : CallOk P s pc)
    (hfinish : pc.unfinished = false → (s.calls t).unfinished = false)
    (hlock : pc.holds = true ↔ lock = some t)
    (hothers : ∀ t', t' ≠ t → (lock = some t' ↔ s.lock = some t')) :
    Ok P cfg ({ s with lock := lock }.setCall t pc) := by
  obtain ⟨i, hworks, hothers'⟩ := h.alone
  refine ⟨h.started, ⟨i, hworks.congr rfl rfl rfl rfl, hothers'⟩, h.flag, ?_, ?_, ?_, ?_, h.streams⟩
  · intro h0
    rcases hstart with hstart | hstart
    · exact absurd (h.startup h0 t) hstart
    · exact absurd hstart h0
  · intro t'
    show (Function.update s.calls t pc t').holds = true ↔ lock = some t'
    by_cases ht : t' = t
    · subst ht
      rw [Function.update_self]
      exact hlock
    · rw [Function.update_of_ne ht, hothers t' ht]
      exact h.lock t'
  · intro t'
    refine CallOk.congr (s := s) ?_ rfl rfl rfl
    show CallOk P s (Function.update s.calls t pc t')
    by_cases ht : t' = t
    · subst ht
      rw [Function.update_self]
      exact hpc
    · rw [Function.update_of_ne ht]
      exact h.calls t'
  · intro k hk
    obtain ⟨hopened, hserving, hsession, hclean⟩ := h.session k hk
    refine ⟨hopened, hserving, hsession, fun hunf => hclean fun t' => ?_⟩
    have ht' : (Function.update s.calls t pc t').unfinished = false := hunf t'
    by_cases ht : t' = t
    · subst ht
      rw [Function.update_self] at ht'
      exact hfinish ht'
    · rwa [Function.update_of_ne ht] at ht'

/-- A call moves on outside the section. -/
lemma Ok.setCall_outside (h : Ok P cfg s) {t : ℕ} (pc : CallPc)
    (hstart : s.calls t ≠ .idle ∨ s.threads 0 = .stopped) (hpc : CallOk P s pc)
    (hout : (s.calls t).holds = false) (hout' : pc.holds = false) : Ok P cfg (s.setCall t pc) := by
  have hunf : (s.calls t).unfinished = false := by
    revert hout
    cases s.calls t with
    | invalidating next => exact fun h => by cases h
    | _ => simp [CallPc.holds, CallPc.unfinished]
  refine h.setCall pc s.lock hstart hpc (fun _ => hunf) ?_ fun _ _ => Iff.rfl
  rw [hout', ← h.lock t, hout]

/-- A call moves on inside the section. -/
lemma Ok.setCall_inside (h : Ok P cfg s) {t : ℕ} (pc : CallPc) (hpc : CallOk P s pc)
    (hin : (s.calls t).holds = true) (hin' : pc.holds = true)
    (hfinish : pc.unfinished = false → (s.calls t).unfinished = false) :
    Ok P cfg (s.setCall t pc) := by
  refine h.setCall pc s.lock (Or.inl fun hidle => ?_) hpc hfinish ?_ fun _ _ => Iff.rfl
  · rw [hidle] at hin
    cases hin
  · rw [hin', ← h.lock t, hin]

/-- A write of `_invalidate`, by the call that holds the lock: the socket is gone, and no
thread works on a new session. -/
lemma Ok.invalidate (h : Ok P cfg s) {t : ℕ} {next : Invalidation} {ch : CloudChannel Octets}
    (hin : (s.calls t).holds = true) (hlate : ∀ i, (s.threads i).late = true)
    (hnext : next ≠ .sock) (hsock : ch.sock = none)
    (hrec : ch.reconnecting = s.channel.reconnecting) :
    Ok P cfg ((s.setChannel ch).setCall t (.invalidating next)) := by
  have hcall : CallOk P (s.setChannel ch) (.invalidating next) := by
    cases next with
    | sock => exact absurd rfl hnext
    | _ => exact ⟨hsock, hlate⟩
  obtain ⟨i, -, hothers⟩ := h.alone
  refine ⟨h.started, ⟨i, works_of_late (hlate i), hothers⟩, fun hr => h.flag (hrec ▸ hr), ?_, ?_,
    ?_, ?_, h.streams⟩
  · intro h0
    rw [h.startup h0 t] at hin
    cases hin
  · intro t'
    show (Function.update s.calls t _ t').holds = true ↔ s.lock = some t'
    by_cases ht : t' = t
    · subst ht
      rw [Function.update_self, ← h.lock t', hin]
      rfl
    · rw [Function.update_of_ne ht]
      exact h.lock t'
  · intro t'
    show CallOk P (s.setChannel ch) (Function.update s.calls t _ t')
    by_cases ht : t' = t
    · subst ht
      rw [Function.update_self]
      exact hcall
    · rw [Function.update_of_ne ht]
      exact (h.calls t').of_not_holds (h.holds_eq_false hin ht)
  · intro k hk
    exact absurd (hsock.symm.trans hk) (by simp)

lemma restart_of_reconnecting (h : s.channel.reconnecting = true) : s.restart = s := by
  simp [State.restart, startReconnect, h]

lemma restart_of_not_reconnecting (h : s.channel.reconnecting = false) :
    s.restart = { s with
      channel := { s.channel with reconnecting := true }
      threads := Function.update s.threads s.started .loop
      started := s.started + 1 } := by
  simp [State.restart, startReconnect, h]

/-- `_start_reconnect`: the new thread is the only one that runs. -/
lemma Ok.restart (h : Ok P cfg s) {t : ℕ} (hpc : s.calls t = .invalidating .restart) :
    Ok P cfg (s.restart.setCall t .unlocking) := by
  have hin : (s.calls t).holds = true := by rw [hpc]; rfl
  have hcall := h.calls t
  rw [hpc] at hcall
  rcases Bool.eq_false_or_eq_true s.channel.reconnecting with hrec | hrec
  · rw [restart_of_reconnecting hrec]
    exact h.setCall_inside .unlocking trivial hin rfl fun _ => by rw [hpc]; rfl
  rw [restart_of_not_reconnecting hrec]
  -- the flag was not set, so that no thread is running
  have hstopped : ∀ i, s.threads i = .stopped := by
    intro i
    rcases eq_or_ne i 0 with rfl | hi
    · by_contra h0
      rw [h.startup h0 t] at hpc
      cases hpc
    · exact h.flag hrec i hi
  have hnew : s.started ≠ 0 := Nat.pos_iff_ne_zero.1 h.started
  refine ⟨Nat.succ_pos _, ⟨s.started, ?_, fun j hj => ?_⟩,
    fun hr => absurd hr.symm Bool.false_ne_true, fun h0 => ?_, ?_, ?_, ?_, h.streams⟩
  · show Works P cfg _ (Function.update s.threads s.started .loop s.started)
    rw [Function.update_self]
    exact hcall.1
  · show Function.update s.threads s.started .loop j = .stopped
    rw [Function.update_of_ne hj]
    exact hstopped j
  · refine absurd ?_ h0
    show Function.update s.threads s.started .loop 0 = .stopped
    rw [Function.update_of_ne hnew.symm]
    exact hstopped 0
  · intro t'
    show (Function.update s.calls t .unlocking t').holds = true ↔ s.lock = some t'
    by_cases ht : t' = t
    · subst ht
      rw [Function.update_self, ← h.lock t', hin]
      rfl
    · rw [Function.update_of_ne ht]
      exact h.lock t'
  · intro t'
    show CallOk P _ (Function.update s.calls t .unlocking t')
    by_cases ht : t' = t
    · subst ht
      rw [Function.update_self]
      trivial
    · rw [Function.update_of_ne ht]
      exact (h.calls t').of_not_holds (h.holds_eq_false hin ht)
  · intro k hk
    exact absurd (hcall.1.symm.trans hk) (by simp)

/-! ### A `sendall` -/

section Write

variable (s) (k : ℕ) (m : JsonDict) (rest : Octets) (n : ℕ)

@[simp] lemma write_channel : (s.write k m rest n).channel = s.channel := by
  unfold State.write
  split_ifs <;> rfl

@[simp] lemma write_lock : (s.write k m rest n).lock = s.lock := by
  unfold State.write
  split_ifs <;> rfl

@[simp] lemma write_calls : (s.write k m rest n).calls = s.calls := by
  unfold State.write
  split_ifs <;> rfl

@[simp] lemma write_threads : (s.write k m rest n).threads = s.threads := by
  unfold State.write
  split_ifs <;> rfl

@[simp] lemma write_started : (s.write k m rest n).started = s.started := by
  unfold State.write
  split_ifs <;> rfl

@[simp] lemma write_opened : (s.write k m rest n).opened = s.opened := by
  unfold State.write
  split_ifs <;> rfl

@[simp] lemma write_sessions : (s.write k m rest n).sessions = s.sessions := by
  unfold State.write
  split_ifs <;> rfl

variable {s k m rest n}

lemma write_streams_of_ne {k' : ℕ} (hk : k' ≠ k) :
    (s.write k m rest n).streams k' = s.streams k' := by
  unfold State.write
  split_ifs <;> exact Function.update_of_ne hk _ _

/-- With its last piece a frame is finished; before that it is still being written. -/
lemma write_cases (h : Writing (encodeBytes P) (s.streams k) m rest) :
    (rest.drop n = [] ∧ Clean (encodeBytes P) ((s.write k m rest n).streams k) ∧
      ((s.write k m rest n).streams k).finished = (s.streams k).finished ++ [m]) ∨
    (rest.drop n ≠ [] ∧ Writing (encodeBytes P) ((s.write k m rest n).streams k) m (rest.drop n) ∧
      ((s.write k m rest n).streams k).finished = (s.streams k).finished) := by
  have hput := h.put n
  by_cases hrest : rest.drop n = []
  · have hstream : (s.write k m rest n).streams k
        = ((s.streams k).put (rest.take n)).finish m := by
      rw [State.write, if_pos hrest]
      exact Function.update_self _ _ _
    rw [hrest] at hput
    rw [hstream]
    exact Or.inl ⟨hrest, hput.finish, rfl⟩
  · have hstream : (s.write k m rest n).streams k = (s.streams k).put (rest.take n) := by
      rw [State.write, if_neg hrest]
      exact Function.update_self _ _ _
    rw [hstream]
    exact Or.inr ⟨hrest, hput, rfl⟩

/-- A write to an open socket keeps all streams sound. -/
lemma StreamOk.write (h : ∀ k, StreamOk P cfg s.opened k (s.streams k)) (hopened : k < s.opened)
    (hw : Writing (encodeBytes P) (s.streams k) m rest)
    (htranscript : Transcript P cfg ((s.streams k).finished ++ [m])) (k' : ℕ) :
    StreamOk P cfg (s.write k m rest n).opened k' ((s.write k m rest n).streams k') := by
  rw [write_opened]
  by_cases hk : k' = k
  · subst hk
    rcases write_cases (n := n) hw with ⟨-, hclean, hfin⟩ | ⟨hrest, hwriting, hfin⟩
    · refine ⟨?_, hfin ▸ htranscript, fun hle => absurd hle (by omega)⟩
      exact (hclean.begin m).torn (encodeBytes_ne_nil P m)
    · exact ⟨hwriting.torn hrest, hfin ▸ (h k').transcript, fun hle => absurd hle (by omega)⟩
  · rw [write_streams_of_ne hk]
    exact h k'

end Write

/-- The call in the section writes to the socket of the channel. -/
lemma Ok.callWrite (h : Ok P cfg s) {t k : ℕ} {m : JsonDict} {rest : Octets} (n : ℕ)
    (hpc : s.calls t = .sending k m rest) :
    Ok P cfg ((s.write k m rest n).setCall t
      (if rest.drop n = [] then .unlocking else .sending k m (rest.drop n))) := by
  have hin : (s.calls t).holds = true := by rw [hpc]; rfl
  have hcall := h.calls t
  rw [hpc] at hcall
  obtain ⟨hm, hsock, hwriting, -⟩ := hcall
  obtain ⟨hopened, hserving, hsession, -⟩ := h.session k hsock
  have hlate := h.late_of_sock hsock
  have hcases := write_cases (n := n) hwriting
  obtain ⟨i, -, hothers⟩ := h.alone
  refine ⟨by rw [State.setCall, write_started]; exact h.started, ⟨i, ?_, ?_⟩, ?_, ?_, ?_, ?_, ?_,
    StreamOk.write h.streams hopened hwriting (Or.inr (Or.inr (hserving.reading hm)))⟩
  · exact works_of_late (by rw [State.setCall, write_threads]; exact hlate i)
  · intro j hj
    rw [State.setCall, write_threads]
    exact hothers j hj
  · rw [State.setCall, write_channel, write_threads]
    exact h.flag
  · intro h0
    rw [State.setCall, write_threads] at h0
    rw [h.startup h0 t] at hpc
    cases hpc
  · intro t'
    rw [State.setCall, write_lock, write_calls]
    show (Function.update s.calls t _ t').holds = true ↔ s.lock = some t'
    by_cases ht : t' = t
    · subst ht
      rw [Function.update_self, ← h.lock t', hin]
      split_ifs <;> rfl
    · rw [Function.update_of_ne ht]
      exact h.lock t'
  · intro t'
    show CallOk P _ (Function.update (s.write k m rest n).calls t _ t')
    by_cases ht : t' = t
    · subst ht
      rw [Function.update_self]
      rcases hcases with ⟨hrest, -, -⟩ | ⟨hrest, hw, -⟩
      · rw [if_pos hrest]
        trivial
      · rw [if_neg hrest]
        exact ⟨hm, (write_channel s k m rest n).symm ▸ hsock, hw, hrest⟩
    · rw [Function.update_of_ne ht, write_calls]
      exact (h.calls t').of_not_holds (h.holds_eq_false hin ht)
  · intro k' hk'
    have hk : k' = k := by
      have hch : (s.write k m rest n).channel.sock = some k' := hk'
      rw [write_channel, hsock] at hch
      exact (Option.some.inj hch).symm
    subst hk
    refine ⟨?_, ?_, ?_, fun hunf => ?_⟩
    · show k' < (s.write k' m rest n).opened
      rw [write_opened]
      exact hopened
    · show Serving P cfg ((s.write k' m rest n).streams k').finished
      rcases hcases with ⟨-, -, hfin⟩ | ⟨-, -, hfin⟩
      · rw [hfin]
        exact hserving.reading hm
      · rw [hfin]
        exact hserving
    · show ∃ sid key, (s.write k' m rest n).sessions k' = _ ∧
        (s.write k' m rest n).channel.sessionId = _ ∧ (s.write k' m rest n).channel.sessionKey = _
      rw [write_sessions, write_channel]
      exact hsession
    · -- the frame is finished, or the call is still writing
      rcases hcases with ⟨-, hclean, -⟩ | ⟨hrest, -, -⟩
      · exact hclean
      · have hself : (Function.update (s.write k' m rest n).calls t
            (if rest.drop n = [] then .unlocking else .sending k' m (rest.drop n)) t).unfinished
              = false := hunf t
        rw [Function.update_self, if_neg hrest] at hself
        cases hself

/-- A step of a call that needs nothing from outside. -/
lemma Ok.callMove (h : Ok P cfg s) (t : ℕ) :
    Ok P cfg ((callMove P cfg s t (s.calls t)).1.setCall t (callMove P cfg s t (s.calls t)).2) := by
  have hcall := h.calls t
  cases hpc : s.calls t with
  | idle =>
    have hself : s.setCall t .idle = s := by
      rw [State.setCall, ← hpc, Function.update_eq_self]
    exact hself.symm ▸ h
  | checking b next =>
    have hout : (s.calls t).holds = false := by rw [hpc]; rfl
    have hne : s.calls t ≠ .idle := by rw [hpc]; simp
    simp only [Wire.callMove]
    rcases next.read s.channel with next' | _ | _
    · exact h.setCall_outside (.checking b next') (Or.inl hne) trivial hout rfl
    · exact h.setCall_outside .idle (Or.inl hne) trivial hout rfl
    · exact h.setCall_outside (.checked b) (Or.inl hne) trivial hout rfl
  | checked b =>
    have hne : s.calls t ≠ .idle := by rw [hpc]; simp
    exact h.setCall_outside (.keyed b _) (Or.inl hne) trivial (by rw [hpc]; rfl) rfl
  | keyed b key =>
    have hne : s.calls t ≠ .idle := by rw [hpc]; simp
    exact h.setCall_outside (.keyed b key) (Or.inl hne) trivial (by rw [hpc]; rfl) rfl
  | built m =>
    have hne : s.calls t ≠ .idle := by rw [hpc]; simp
    rw [hpc] at hcall
    rcases hlock : s.lock with _ | t'
    · -- the lock is free
      simp only [Wire.callMove, hlock]
      refine h.setCall (.locked m) (some t) (Or.inl hne) hcall (fun _ => by rw [hpc]; rfl)
        (by simp [CallPc.holds]) fun t' ht' => ?_
      simp [hlock, Ne.symm ht']
    · simp only [Wire.callMove, hlock]
      exact h.setCall_outside (.built m) (Or.inl hne) hcall (by rw [hpc]; rfl) rfl
  | locked m =>
    have hin : (s.calls t).holds = true := by rw [hpc]; rfl
    have hfree : (s.calls t).unfinished = false := by rw [hpc]; rfl
    rw [hpc] at hcall
    rcases hsock : s.channel.sock with _ | k
    · simp only [Wire.callMove, hsock]
      exact h.setCall_inside .unlocking trivial hin rfl fun _ => hfree
    · -- no other call has a frame on the socket
      have hclean : Clean (encodeBytes P) (s.streams k) := by
        refine (h.session k hsock).clean fun t' => ?_
        by_cases ht : t' = t
        · rw [ht]
          exact hfree
        · have hout := h.holds_eq_false hin ht
          cases hpc' : s.calls t' with
          | sending | invalidating =>
            rw [hpc'] at hout
            cases hout
          | _ => rfl
      simp only [Wire.callMove, hsock]
      exact h.setCall_inside (.sending k m (encodeBytes P m))
        ⟨hcall, hsock, hclean.begin m, encodeBytes_ne_nil P m⟩ hin rfl fun _ => hfree
  | sending k m rest =>
    rw [hpc] at hcall
    exact h.setCall_inside (.sending k m rest) hcall (by rw [hpc]; rfl) rfl
      fun hf => by cases hf
  | invalidating next =>
    have hin : (s.calls t).holds = true := by rw [hpc]; rfl
    rw [hpc] at hcall
    cases next with
    | sock =>
      obtain ⟨k, hk⟩ := Option.isSome_iff_exists.1 hcall
      exact h.invalidate hin (h.late_of_sock hk) (by simp) rfl rfl
    | key => exact h.invalidate hin hcall.2 (by simp) hcall.1 rfl
    | state => exact h.invalidate hin hcall.2 (by simp) hcall.1 rfl
    | restart =>
      simp only [Wire.callMove]
      split_ifs
      · exact h.restart hpc
      · exact h.setCall_inside .unlocking trivial hin rfl fun _ => by rw [hpc]; rfl
  | unlocking =>
    have hne : s.calls t ≠ .idle := by rw [hpc]; simp
    have hlock : s.lock = some t := (h.lock t).1 (by rw [hpc]; rfl)
    refine h.setCall .idle none (Or.inl hne) trivial (fun _ => by rw [hpc]; rfl)
      (by simp [CallPc.holds]) fun t' ht' => ?_
    simp [hlock, Ne.symm ht']

/-- A step of a call. -/
lemma Ok.callStep (h : Ok P cfg s) {ev : Event} (hev : ∀ i x, ev ≠ .thread i x) :
    Ok P cfg (step P cfg s ev) := by
  cases ev with
  | call t b =>
    simp only [step]
    split
    · next hidle h0 =>
      exact h.setCall_outside (.checking b .state) (Or.inr h0) trivial (by rw [hidle]; rfl) rfl
    · exact h
  | move t => exact h.callMove t
  | build t nonce =>
    simp only [step]
    split
    · next b key hpc =>
      have hne : s.calls t ≠ .idle := by rw [hpc]; simp
      have hout : (s.calls t).holds = false := by rw [hpc]; rfl
      split
      · next payload hbuild =>
        -- the payload is a protected reading, whatever the id and the key are
        have hreading : IsReading P payload := by
          unfold buildPayload at hbuild
          split at hbuild
          · exact ⟨_, _, _, _, hbuild⟩
          · cases hbuild
          · cases hbuild
        exact h.setCall_outside (.built payload) (Or.inl hne) hreading hout rfl
      · exact h.setCall_outside .idle (Or.inl hne) trivial hout rfl
    · exact h
  | write t n =>
    simp only [step]
    split
    · next k m rest hpc => exact h.callWrite n hpc
    · exact h
  | fail t =>
    simp only [step]
    split
    · next k m rest hpc =>
      have hcall := h.calls t
      rw [hpc] at hcall
      have hsock : s.channel.sock.isSome = true := by rw [hcall.2.1]; rfl
      exact h.setCall_inside (.invalidating .sock) hsock (by rw [hpc]; rfl) rfl
        fun hf => by cases hf
    · exact h
  | thread i x => exact absurd rfl (hev i x)

/-! ### The steps of the threads -/

/-- What a thread leaves alone: the lock, the calls and the other threads. -/
structure Apart (s s' : State) : Prop where
  lock : s'.lock = s.lock
  calls : s'.calls = s.calls
  threads : s'.threads = s.threads
  started : s'.started = s.started
  reconnecting : s'.channel.reconnecting = s.channel.reconnecting

/-- A thread that works on a new session moves on. -/
lemma Ok.setThread (h : Ok P cfg s) {i : ℕ} {pc : ThreadPc} (hi : (s.threads i).late = false)
    (hapart : Apart s s') (hpc : Works P cfg s' pc)
    (hsession : ∀ k, s'.channel.sock = some k → SessionOk P cfg s' k)
    (hstreams : ∀ k, StreamOk P cfg s'.opened k (s'.streams k)) : Ok P cfg (s'.setThread i pc) := by
  obtain ⟨-, hothers⟩ := h.others_stopped hi
  have hstopped : ∀ j, j ≠ i → Function.update s'.threads i pc j = .stopped := by
    intro j hj
    rw [Function.update_of_ne hj, hapart.threads]
    exact hothers j hj
  refine ⟨?_, ⟨i, ?_, hstopped⟩, fun hrec j hj => ?_, fun h0 t => ?_, fun t => ?_, fun t => ?_,
    fun k hk => ?_, hstreams⟩
  · show 0 < s'.started
    rw [hapart.started]
    exact h.started
  · refine Works.congr (s := s') ?_ rfl rfl rfl rfl
    show Works P cfg s' (Function.update s'.threads i pc i)
    rw [Function.update_self]
    exact hpc
  · by_cases hji : j = i
    · -- a thread other than the main thread runs with the flag
      subst hji
      have hflag : s.channel.reconnecting = false := hapart.reconnecting ▸ hrec
      rw [h.flag hflag j hj] at hi
      cases hi
    · exact hstopped j hji
  · show s'.calls t = .idle
    rw [hapart.calls]
    refine h.startup (fun h0' => h0 ?_) t
    by_cases hi0 : i = 0
    · subst hi0
      rw [h0'] at hi
      cases hi
    · exact hstopped 0 (Ne.symm hi0)
  · show (s'.calls t).holds = true ↔ s'.lock = some t
    rw [hapart.calls, hapart.lock]
    exact h.lock t
  · show CallOk P _ (s'.calls t)
    rw [hapart.calls]
    exact h.callOk_of_not_late hi t
  · obtain ⟨hopened, hserving, hsession', hclean⟩ := hsession k hk
    exact ⟨hopened, hserving, hsession', hclean⟩

/-- A thread that has published its socket moves on. -/
lemma Ok.setThread_late (h : Ok P cfg s) {i : ℕ} {pc : ThreadPc} {ch : CloudChannel Octets}
    (hi : (s.threads i).late = true) (hrunning : s.threads i ≠ .stopped) (hpc : pc.late = true)
    (hsession : ch.sock = s.channel.sock ∧ ch.sessionId = s.channel.sessionId ∧
      ch.sessionKey = s.channel.sessionKey)
    (hflag : ch.reconnecting = s.channel.reconnecting ∨ pc = .stopped) :
    Ok P cfg ((s.setChannel ch).setThread i pc) := by
  obtain ⟨hsock, hid, hkey⟩ := hsession
  obtain ⟨i', -, hothers⟩ := h.alone
  have hii : i' = i := by
    by_contra hne
    exact hrunning (hothers i (Ne.symm hne))
  subst hii
  have hlate : ∀ j, (((s.setChannel ch).setThread i' pc).threads j).late = true := by
    intro j
    show (Function.update s.threads i' pc j).late = true
    by_cases hj : j = i'
    · rw [hj, Function.update_self]
      exact hpc
    · rw [Function.update_of_ne hj, hothers j hj]
      rfl
  have hstopped : ∀ j, j ≠ i' → Function.update s.threads i' pc j = .stopped := by
    intro j hj
    rw [Function.update_of_ne hj]
    exact hothers j hj
  refine ⟨h.started, ⟨i', works_of_late (hlate i'), hstopped⟩, fun hrec j hj => ?_, fun h0 => ?_,
    h.lock, fun t => ?_, fun k hk => ?_, h.streams⟩
  · by_cases hji : j = i'
    · subst hji
      rcases hflag with hflag | hflag
      · exact absurd (h.flag (hflag.symm.trans hrec) j hj) hrunning
      · exact (Function.update_self j pc s.threads).trans hflag
    · exact hstopped j hji
  · refine h.startup fun h0' => h0 ?_
    by_cases hi0 : i' = 0
    · subst hi0
      exact absurd h0' hrunning
    · exact hstopped 0 (Ne.symm hi0)
  · have hcall := h.calls t
    show CallOk P _ (s.calls t)
    cases hpc' : s.calls t with
    | sending k m rest =>
      rw [hpc'] at hcall
      exact ⟨hcall.1, hsock.trans hcall.2.1, hcall.2.2⟩
    | invalidating next =>
      rw [hpc'] at hcall
      cases next with
      | sock =>
        show ch.sock.isSome = true
        rw [hsock]
        exact hcall
      | key | state | restart => exact ⟨hsock.trans hcall.1, hlate⟩
    | _ =>
      rw [hpc'] at hcall
      exact hcall
  · obtain ⟨hopened, hserving, ⟨sid, key, hs, hsid, hk'⟩, hclean⟩ :=
      h.session k (hsock.symm.trans hk)
    exact ⟨hopened, hserving, ⟨sid, key, hs, hid.trans hsid, hkey.trans hk'⟩, hclean⟩

/-- A thread that works on a new session leaves the channel without a socket. -/
lemma sessionOk_of_none (h : s.channel.sock = none) (k : ℕ) (hk : s.channel.sock = some k) :
    SessionOk P cfg s k := by
  rw [h] at hk
  cases hk

lemma setThread_self (s : State) {i : ℕ} {pc : ThreadPc} (hpc : s.threads i = pc) :
    s.setThread i pc = s := by
  rw [State.setThread, ← hpc, Function.update_eq_self]

/-- A `sendall` of an attempt. -/
lemma Ok.threadWrite (h : Ok P cfg s) (i n : ℕ) :
    Ok P cfg ((threadWrite s n (s.threads i)).1.setThread i
      (threadWrite s n (s.threads i)).2) := by
  have hapart : ∀ k m rest, Apart s (s.write k m rest n) := fun k m rest =>
    ⟨by simp, by simp, by simp, by simp, by simp⟩
  cases hpc : s.threads i with
  | sendRequest a m rest =>
    have hlate : (s.threads i).late = false := by rw [hpc]; rfl
    have hworks := (h.others_stopped hlate).1
    rw [hpc] at hworks
    obtain ⟨hon, hwriting, -, hm, hfin⟩ := hworks
    have hsock : (s.write a.sock m rest n).channel.sock = none := by
      rw [write_channel]
      exact hon.unpublished
    have hon' : OnSocket (s.write a.sock m rest n) a :=
      ⟨hsock, by rw [write_opened]; exact hon.opened⟩
    refine h.setThread hlate (hapart _ _ _) ?_ (sessionOk_of_none hsock)
      (StreamOk.write h.streams hon.opened hwriting (Or.inr (Or.inl ⟨m, hm, by rw [hfin]; rfl⟩)))
    rcases write_cases (n := n) hwriting with ⟨hrest, hclean, hfin'⟩ | ⟨hrest, hw, hfin'⟩
    · simp only [Wire.threadWrite, hrest, if_true]
      exact ⟨hon', hclean, m, hm, by rw [hfin', hfin]; rfl⟩
    · simp only [Wire.threadWrite, hrest, if_false]
      exact ⟨hon', hw, hrest, hm, hfin'.trans hfin⟩
  | sendEncaps a secret m rest =>
    have hlate : (s.threads i).late = false := by rw [hpc]; rfl
    have hworks := (h.others_stopped hlate).1
    rw [hpc] at hworks
    obtain ⟨hon, hwriting, -, ⟨c, hm⟩, r, hr, hfin⟩ := hworks
    have hhandshake : Handshake P cfg a.sessionId ((s.streams a.sock).finished ++ [m]) :=
      ⟨r, c, hr, by rw [hfin, hm]; rfl⟩
    have hsock : (s.write a.sock m rest n).channel.sock = none := by
      rw [write_channel]
      exact hon.unpublished
    have hon' : OnSocket (s.write a.sock m rest n) a :=
      ⟨hsock, by rw [write_opened]; exact hon.opened⟩
    refine h.setThread hlate (hapart _ _ _) ?_ (sessionOk_of_none hsock)
      (StreamOk.write h.streams hon.opened hwriting (Or.inr (Or.inr hhandshake.serving)))
    rcases write_cases (n := n) hwriting with ⟨hrest, hclean, hfin'⟩ | ⟨hrest, hw, hfin'⟩
    · simp only [Wire.threadWrite, hrest, if_true]
      exact ⟨hon', hclean, hfin' ▸ hhandshake⟩
    · simp only [Wire.threadWrite, hrest, if_false]
      exact ⟨hon', hw, hrest, ⟨c, hm⟩, r, hr, hfin'.trans hfin⟩
  | _ => exact (setThread_self s hpc).symm ▸ h

/-- `create_connection` opens a new socket. -/
lemma Ok.connect (h : Ok P cfg s) {i : ℕ} (hpc : s.threads i = .connect) {sid : Token}
    {nonce : Octets} {m : JsonDict} (hm : requestMessage P cfg nonce = .ok m) :
    Ok P cfg (({ s with opened := s.opened + 1 }.setChannel
      { s.channel with state := .establishing }).setThread i
        (.sendRequest ⟨s.opened, sid⟩ m (encodeBytes P m))) := by
  have hlate : (s.threads i).late = false := by rw [hpc]; rfl
  have hworks := (h.others_stopped hlate).1
  rw [hpc] at hworks
  have hempty : s.streams s.opened = .empty := (h.streams s.opened).unopened le_rfl
  have hclean : Clean (encodeBytes P) (s.streams s.opened) := by
    rw [hempty]
    exact clean_empty
  refine h.setThread hlate ⟨rfl, rfl, rfl, rfl, rfl⟩ ?_ (sessionOk_of_none hworks) fun k => ?_
  · exact ⟨⟨hworks, Nat.lt_succ_self _⟩, hclean.begin m, encodeBytes_ne_nil P m, ⟨nonce, hm⟩,
      by show (s.streams s.opened).finished = []; rw [hempty]; rfl⟩
  · exact ⟨(h.streams k).torn, (h.streams k).transcript, fun hle =>
      (h.streams k).unopened (Nat.le_of_succ_le hle)⟩

/-- A thread that works on a new session, and changes the channel or the record only. -/
lemma Ok.setThread_channel (h : Ok P cfg s) {i : ℕ} {pc : ThreadPc} {ch : CloudChannel Octets}
    {opened : ℕ} (hi : (s.threads i).late = false) (hopened : s.opened ≤ opened)
    (hsock : ch.sock = none) (hrec : ch.reconnecting = s.channel.reconnecting)
    (hpc : Works P cfg ({ s with opened := opened }.setChannel ch) pc) :
    Ok P cfg (({ s with opened := opened }.setChannel ch).setThread i pc) := by
  refine h.setThread hi ⟨rfl, rfl, rfl, rfl, hrec⟩ hpc (sessionOk_of_none hsock) fun k => ?_
  exact ⟨(h.streams k).torn, (h.streams k).transcript, fun hle =>
    (h.streams k).unopened (hopened.trans hle)⟩

/-- A step of a thread. -/
lemma Ok.threadStep (h : Ok P cfg s) (i : ℕ) (ev : ThreadEvent) :
    Ok P cfg ((threadStep P cfg s i (s.threads i) ev).1.setThread i
      (threadStep P cfg s i (s.threads i) ev).2) := by
  have hself : ∀ pc, s.threads i = pc → Ok P cfg (s.setThread i pc) := fun pc hpc =>
    (setThread_self s hpc).symm ▸ h
  have hworks : ∀ pc, s.threads i = pc → pc.late = false → Works P cfg s pc := fun pc hpc hlate =>
    hpc ▸ (h.others_stopped (hpc ▸ hlate)).1
  -- a piece of a `sendall`
  have hwrite : ∀ n, Ok P cfg ((Wire.threadWrite s n (s.threads i)).1.setThread i
      (Wire.threadWrite s n (s.threads i)).2) := h.threadWrite i
  cases hpc : s.threads i with
  | stopped => cases ev <;> exact hself _ hpc
  | loop =>
    cases ev with
    | move =>
      exact h.setThread_channel (hpc ▸ rfl) le_rfl (hworks _ hpc rfl) rfl (hworks _ hpc rfl)
    | _ => exact hself _ hpc
  | connect =>
    cases ev with
    | connect io sid nonce =>
      have hsock : s.channel.sock = none := hworks .connect hpc rfl
      simp only [Wire.threadStep]
      rcases io.result with e | _
      · exact h.setThread_channel (hpc ▸ rfl) le_rfl hsock rfl hsock
      · rcases hm : requestMessage P cfg nonce with e | m
        · exact h.setThread_channel (hpc ▸ rfl) (Nat.le_succ _) hsock rfl hsock
        · exact h.connect hpc hm
    | _ => exact hself _ hpc
  | sendRequest a m rest =>
    cases ev with
    | write n =>
      have := hwrite n
      rw [hpc] at this
      exact this
    | fail msg =>
      have hw := hworks _ hpc rfl
      exact h.setThread_channel (hpc ▸ rfl) le_rfl hw.1.unpublished rfl hw.1.unpublished
    | _ => exact hself _ hpc
  | sendEncaps a secret m rest =>
    cases ev with
    | write n =>
      have := hwrite n
      rw [hpc] at this
      exact this
    | fail msg =>
      have hw := hworks _ hpc rfl
      exact h.setThread_channel (hpc ▸ rfl) le_rfl hw.1.unpublished rfl hw.1.unpublished
    | _ => exact hself _ hpc
  | pubkey a =>
    cases ev with
    | reply o coins =>
      obtain ⟨hon, hclean, r, hr, hfin⟩ := hworks _ hpc rfl
      simp only [Wire.threadStep]
      rcases o.result >>= acceptPubkeyReply P cfg with e | publicKey
      · exact h.setThread_channel (hpc ▸ rfl) le_rfl hon.unpublished rfl hon.unpublished
      · exact h.setThread_channel (hpc ▸ rfl) le_rfl hon.unpublished rfl
          ⟨⟨hon.unpublished, hon.opened⟩, hclean.begin _, encodeBytes_ne_nil P _, ⟨_, rfl⟩, r, hr,
            hfin⟩
    | _ => exact hself _ hpc
  | established a secret =>
    cases ev with
    | reply o coins =>
      obtain ⟨hon, hclean, hhs⟩ := hworks _ hpc rfl
      simp only [Wire.threadStep]
      rcases o.result >>= fun reply => parseMlkemEstablishedReply reply a.sessionId.text with e | _
      · exact h.setThread_channel (hpc ▸ rfl) le_rfl hon.unpublished rfl hon.unpublished
      · refine h.setThread (hpc ▸ rfl) ⟨rfl, rfl, rfl, rfl, rfl⟩ ?_
          (sessionOk_of_none hon.unpublished) h.streams
        exact ⟨⟨hon.unpublished, hon.opened⟩, hclean, hhs, Function.update_self _ _ _⟩
    | _ => exact hself _ hpc
  | publishKey a key =>
    cases ev with
    | move =>
      obtain ⟨hon, hclean, hhs, hs⟩ := hworks _ hpc rfl
      exact h.setThread_channel (hpc ▸ rfl) le_rfl hon.unpublished rfl
        ⟨⟨hon.unpublished, hon.opened⟩, hclean, hhs, key, hs, rfl⟩
    | _ => exact hself _ hpc
  | publishId a =>
    cases ev with
    | move =>
      obtain ⟨hon, hclean, hhs, key, hs, hkey⟩ := hworks _ hpc rfl
      exact h.setThread_channel (hpc ▸ rfl) le_rfl hon.unpublished rfl
        ⟨⟨hon.unpublished, hon.opened⟩, hclean, hhs, key, hs, hkey, rfl⟩
    | _ => exact hself _ hpc
  | countSession a =>
    cases ev with
    | move =>
      obtain ⟨hon, hclean, hhs, key, hs, hkey, hsid⟩ := hworks _ hpc rfl
      exact h.setThread_channel (hpc ▸ rfl) le_rfl hon.unpublished rfl
        ⟨⟨hon.unpublished, hon.opened⟩, hclean, hhs, key, hs, hkey, hsid⟩
    | _ => exact hself _ hpc
  | publishSock a =>
    cases ev with
    | move =>
      obtain ⟨hon, hclean, hhs, key, hs, hkey, hsid⟩ := hworks _ hpc rfl
      refine h.setThread (hpc ▸ rfl) ⟨rfl, rfl, rfl, rfl, rfl⟩ trivial (fun k hk => ?_) h.streams
      -- the socket appears with everything that belongs to it
      obtain rfl : a.sock = k := Option.some.inj hk
      exact ⟨hon.opened, hhs.serving, ⟨_, _, hs, hsid, hkey⟩, fun _ => hclean⟩
    | _ => exact hself _ hpc
  | publishState =>
    cases ev with
    | move =>
      exact h.setThread_late (hpc ▸ rfl) (by rw [hpc]; simp) rfl ⟨rfl, rfl, rfl⟩ (Or.inl rfl)
    | _ => exact hself _ hpc
  | failing e =>
    cases ev with
    | move =>
      simp only [Wire.threadStep]
      split_ifs
      · exact h.setThread_channel (hpc ▸ rfl) le_rfl (hworks _ hpc rfl) rfl (hworks _ hpc rfl)
      · exact h.setThread_channel (hpc ▸ rfl) le_rfl (hworks _ hpc rfl) rfl trivial
    | _ => exact hself _ hpc
  | publishFailed | disconnecting =>
    cases ev with
    | move =>
      exact h.setThread_channel (hpc ▸ rfl) le_rfl (hworks _ hpc rfl) rfl (hworks _ hpc rfl)
    | _ => exact hself _ hpc
  | finishing =>
    cases ev with
    | move =>
      simp only [Wire.threadStep]
      split_ifs
      · exact h.setThread_late (hpc ▸ rfl) (by rw [hpc]; simp) rfl ⟨rfl, rfl, rfl⟩ (Or.inl rfl)
      · exact h.setThread_late (hpc ▸ rfl) (by rw [hpc]; simp) rfl ⟨rfl, rfl, rfl⟩ (Or.inr rfl)
    | _ => exact hself _ hpc

/-- The step lemma. -/
lemma Ok.step (h : Ok P cfg s) (ev : Event) : Ok P cfg (step P cfg s ev) := by
  cases ev with
  | thread i x => exact h.threadStep i x
  | _ => exact h.callStep (by simp)

variable (P cfg) in
lemma ok_initial : Ok P cfg initial := by
  have hstopped : ∀ j, j ≠ 0 → initial.threads j = .stopped := fun j hj => by
    simp [initial, hj]
  have hloop : initial.threads 0 = .loop := by simp [initial]
  refine ⟨Nat.one_pos, ⟨0, hloop ▸ rfl, hstopped⟩, fun _ => hstopped, fun _ _ => rfl, ?_,
    fun _ => trivial, fun k hk => (by cases hk), fun k => ⟨?_, Or.inl rfl, fun _ => rfl⟩⟩
  · simp [initial, CallPc.holds]
  · exact (clean_empty.begin []).torn (encodeBytes_ne_nil P [])

variable (P cfg) in
/-- The run lemma. -/
lemma ok_run (τ : List Event) : Ok P cfg (run (Wire.step P cfg) initial τ) :=
  inv_run (J := Ok P cfg) (P := fun _ _ => True) (fun _ ev h _ => h.step ev) (ok_initial P cfg)
    (along_of_forall fun _ _ _ => trivial)

end PqcBridge.Gateway.Wire
