/-
What is on the sockets of the gateway, byte by byte.

* `frames_never_mixed`: on every socket there is a handshake and then one protected reading
  after the other, each of them whole; a frame that was broken off is the last thing that is
  ever written there;
* `cloud_reads_frames`: the cloud reads from the socket the messages whose `sendall` has
  returned, and after them the end of the stream or a broken line.
-/
import PqcBridge.Gateway.WireInvariant

namespace PqcBridge.Gateway.Wire

open Python Protocol Crypto Runs Frames Framing

/-! ### Sockets that are given up -/

/-- No thread and no call has the socket any more. -/
structure Dead (s : State) (k : ℕ) : Prop where
  opened : k < s.opened
  unpublished : s.channel.sock ≠ some k
  threads : ∀ i, (s.threads i).sock ≠ some k

variable {P : Primitives Octets} {cfg : GatewayConfig Octets} {s s' : State} {k : ℕ}

/-- A step after which nobody else has the socket. -/
lemma Dead.of_step (h : Dead s k) (hopened : s.opened ≤ s'.opened)
    (hsock : s'.channel.sock ≠ some k) {i : ℕ} {pc : ThreadPc}
    (hthreads : s'.threads = Function.update s.threads i pc) (hpc : pc.sock ≠ some k) :
    Dead s' k := by
  refine ⟨h.opened.trans_le hopened, hsock, fun j => ?_⟩
  rw [hthreads]
  by_cases hj : j = i
  · rw [hj, Function.update_self]
    exact hpc
  · rw [Function.update_of_ne hj]
    exact h.threads j

/-- A step that leaves the threads alone. -/
lemma Dead.of_eq (h : Dead s k) (hopened : s'.opened = s.opened)
    (hsock : s'.channel.sock = s.channel.sock ∨ s'.channel.sock = none)
    (hthreads : s'.threads = s.threads) : Dead s' k := by
  refine ⟨hopened ▸ h.opened, ?_, hthreads ▸ h.threads⟩
  rcases hsock with hsock | hsock
  · rw [hsock]
    exact h.unpublished
  · rw [hsock]
    simp

lemma Dead.restart (h : Dead s k) : Dead s.restart k ∧ s.restart.streams k = s.streams k := by
  rcases Bool.eq_false_or_eq_true s.channel.reconnecting with hrec | hrec
  · rw [restart_of_reconnecting hrec]
    exact ⟨h, rfl⟩
  · rw [restart_of_not_reconnecting hrec]
    exact ⟨h.of_step le_rfl h.unpublished rfl (by simp [ThreadPc.sock]), rfl⟩

/-- A call moves on. -/
lemma Dead.setCall (h : Dead s k) (t : ℕ) (pc : CallPc) : Dead (s.setCall t pc) k :=
  h.of_eq rfl (Or.inl rfl) rfl

variable (P cfg) in
/-- A step of a call neither revives the socket nor writes to it. -/
lemma Dead.callMove (h : Dead s k) (t : ℕ) (pc : CallPc) :
    Dead (callMove P cfg s t pc).1 k ∧ (callMove P cfg s t pc).1.streams k = s.streams k := by
  cases pc with
  | checking b next =>
    simp only [Wire.callMove]
    rcases next.read s.channel with next' | _ | _ <;> exact ⟨h, rfl⟩
  | built m =>
    simp only [Wire.callMove]
    rcases s.lock with _ | t'
    · exact ⟨h.of_eq rfl (Or.inl rfl) rfl, rfl⟩
    · exact ⟨h, rfl⟩
  | locked m =>
    simp only [Wire.callMove]
    rcases s.channel.sock with _ | k' <;> exact ⟨h, rfl⟩
  | invalidating next =>
    cases next with
    | sock => exact ⟨h.of_eq rfl (Or.inr rfl) rfl, rfl⟩
    | key | state => exact ⟨h.of_eq rfl (Or.inl rfl) rfl, rfl⟩
    | restart =>
      simp only [Wire.callMove]
      split_ifs
      · exact h.restart
      · exact ⟨h, rfl⟩
  | unlocking => exact ⟨h.of_eq rfl (Or.inl rfl) rfl, rfl⟩
  | _ => exact ⟨h, rfl⟩

/-- Another socket is written to. -/
lemma Dead.write (h : Dead s k) {k' : ℕ} (hk : k ≠ k') (m : JsonDict) (rest : Octets) (n : ℕ) :
    Dead (s.write k' m rest n) k ∧ (s.write k' m rest n).streams k = s.streams k :=
  ⟨h.of_eq (write_opened ..) (Or.inl (by rw [write_channel])) (write_threads ..),
    write_streams_of_ne hk⟩

/-- A thread moves on, and has no socket or the one that it had. -/
lemma Dead.setThread (h : Dead s k) (h' : Dead s' k) {i : ℕ} {pc : ThreadPc}
    (hpc : pc.sock = none ∨ pc.sock = (s.threads i).sock) : Dead (s'.setThread i pc) k := by
  refine h'.of_step le_rfl h'.unpublished rfl ?_
  rcases hpc with hpc | hpc
  · rw [hpc]
    simp
  · rw [hpc]
    exact h.threads i

/-- A `sendall` keeps its socket. -/
lemma threadWrite_sock (s : State) (n : ℕ) (pc : ThreadPc) :
    (threadWrite s n pc).2.sock = pc.sock := by
  cases pc with
  | sendRequest | sendEncaps =>
    simp only [threadWrite]
    split_ifs
    · rfl
    · rfl
  | _ => rfl

/-- A step of a thread neither revives the socket nor writes to it. -/
lemma Dead.threadStep (h : Dead s k) (i : ℕ) (ev : ThreadEvent) :
    Dead ((threadStep P cfg s i (s.threads i) ev).1.setThread i
      (threadStep P cfg s i (s.threads i) ev).2) k ∧
    (threadStep P cfg s i (s.threads i) ev).1.streams k = s.streams k := by
  have hself : ∀ pc, s.threads i = pc → Dead (s.setThread i pc) k ∧ s.streams k = s.streams k :=
    fun pc hpc => ⟨(setThread_self s hpc).symm ▸ h, rfl⟩
  have hthread := h.threads i
  cases hpc : s.threads i with
  | stopped => cases ev <;> exact hself _ hpc
  | loop | publishFailed | disconnecting | publishState =>
    cases ev with
    | move =>
      exact ⟨h.setThread (h.of_eq (by rfl) (Or.inl (by rfl)) (by rfl)) (Or.inl (by rfl)), rfl⟩
    | _ => exact hself _ hpc
  | connect =>
    cases ev with
    | connect io sid nonce =>
      -- the new socket has another number
      have hnew : s.opened ≠ k := Nat.ne_of_gt h.opened
      simp only [Wire.threadStep]
      rcases io.result with e | _
      · exact ⟨h.setThread h (Or.inl (by rfl)), rfl⟩
      · rcases requestMessage P cfg nonce with e | m
        · exact ⟨h.of_step (Nat.le_succ _) h.unpublished rfl (by simp [ThreadPc.sock]), rfl⟩
        · exact ⟨h.of_step (Nat.le_succ _) h.unpublished rfl (by simp [ThreadPc.sock, hnew]), rfl⟩
    | _ => exact hself _ hpc
  | sendRequest a m rest =>
    rw [hpc] at hthread
    have hk : k ≠ a.sock := fun hk => hthread (congrArg some hk.symm)
    cases ev with
    | write n =>
      obtain ⟨hdead, hstream⟩ := h.write hk m rest n
      refine ⟨hdead.setThread hdead (Or.inr ?_), hstream⟩
      rw [write_threads, hpc]
      exact threadWrite_sock s n _
    | fail msg => exact ⟨h.setThread h (Or.inl (by rfl)), rfl⟩
    | _ => exact hself _ hpc
  | sendEncaps a secret m rest =>
    rw [hpc] at hthread
    have hk : k ≠ a.sock := fun hk => hthread (congrArg some hk.symm)
    cases ev with
    | write n =>
      obtain ⟨hdead, hstream⟩ := h.write hk m rest n
      refine ⟨hdead.setThread hdead (Or.inr ?_), hstream⟩
      rw [write_threads, hpc]
      exact threadWrite_sock s n _
    | fail msg => exact ⟨h.setThread h (Or.inl (by rfl)), rfl⟩
    | _ => exact hself _ hpc
  | pubkey a =>
    cases ev with
    | reply o coins =>
      simp only [Wire.threadStep]
      rcases o.result >>= acceptPubkeyReply P cfg with e | publicKey
      · exact ⟨h.setThread h (Or.inl (by rfl)), rfl⟩
      · exact ⟨h.setThread h (Or.inr (by rw [hpc]; rfl)), rfl⟩
    | _ => exact hself _ hpc
  | established a secret =>
    cases ev with
    | reply o coins =>
      simp only [Wire.threadStep]
      rcases o.result >>= fun reply => parseMlkemEstablishedReply reply a.sessionId.text with e | _
      · exact ⟨h.setThread h (Or.inl (by rfl)), rfl⟩
      · exact ⟨h.setThread (h.of_eq (by rfl) (Or.inl (by rfl)) (by rfl))
          (Or.inr (by rw [hpc]; rfl)), rfl⟩
    | _ => exact hself _ hpc
  | publishKey a key =>
    cases ev with
    | move =>
      exact ⟨h.setThread (h.of_eq (by rfl) (Or.inl (by rfl)) (by rfl))
        (Or.inr (by rw [hpc]; rfl)), rfl⟩
    | _ => exact hself _ hpc
  | publishId a | countSession a =>
    cases ev with
    | move =>
      exact ⟨h.setThread (h.of_eq (by rfl) (Or.inl (by rfl)) (by rfl))
        (Or.inr (by rw [hpc]; rfl)), rfl⟩
    | _ => exact hself _ hpc
  | publishSock a =>
    rw [hpc] at hthread
    cases ev with
    | move => exact ⟨h.of_step le_rfl hthread rfl (by simp [Wire.threadStep, ThreadPc.sock]), rfl⟩
    | _ => exact hself _ hpc
  | failing e =>
    cases ev with
    | move =>
      simp only [Wire.threadStep]
      split_ifs
      · exact ⟨h.setThread (h.of_eq (by rfl) (Or.inl (by rfl)) (by rfl)) (Or.inl (by rfl)), rfl⟩
      · exact ⟨h.setThread h (Or.inl (by rfl)), rfl⟩
    | _ => exact hself _ hpc
  | finishing =>
    cases ev with
    | move =>
      simp only [Wire.threadStep]
      split_ifs
      · exact ⟨h.setThread h (Or.inl (by rfl)), rfl⟩
      · exact ⟨h.setThread (h.of_eq (by rfl) (Or.inl (by rfl)) (by rfl)) (Or.inl (by rfl)), rfl⟩
    | _ => exact hself _ hpc

/-- The step lemma: a socket that was given up stays as it is. -/
lemma Dead.step (h : Dead s k) (hok : Ok P cfg s) (ev : Event) :
    Dead (step P cfg s ev) k ∧ (step P cfg s ev).streams k = s.streams k := by
  cases ev with
  | call t b =>
    simp only [Wire.step]
    split
    · exact ⟨h.setCall _ _, rfl⟩
    · exact ⟨h, rfl⟩
  | move t =>
    obtain ⟨hdead, hstream⟩ := h.callMove P cfg t (s.calls t)
    exact ⟨hdead.setCall _ _, hstream⟩
  | build t nonce =>
    simp only [Wire.step]
    split
    · split
      · exact ⟨h.setCall _ _, rfl⟩
      · exact ⟨h.setCall _ _, rfl⟩
    · exact ⟨h, rfl⟩
  | write t n =>
    simp only [Wire.step]
    split
    · next k' m rest hpc =>
      -- a call writes to the socket of the channel
      have hcall := hok.calls t
      rw [hpc] at hcall
      have hk : k ≠ k' := fun hk => h.unpublished (hk ▸ hcall.2.1)
      obtain ⟨hdead, hstream⟩ := h.write hk m rest n
      exact ⟨hdead.setCall _ _, hstream⟩
    · exact ⟨h, rfl⟩
  | fail t =>
    simp only [Wire.step]
    split
    · exact ⟨h.setCall _ _, rfl⟩
    · exact ⟨h, rfl⟩
  | thread i x => exact h.threadStep i x

/-- The run lemma. -/
lemma Dead.run (h : Dead s k) (hok : Ok P cfg s) (τ : List Event) :
    (run (Wire.step P cfg) s τ).streams k = s.streams k := by
  induction τ generalizing s with
  | nil => rfl
  | cons ev τ ih =>
    obtain ⟨hdead, hstream⟩ := h.step hok ev
    exact (ih hdead (hok.step ev)).trans hstream

/-! ### Whole frames -/

/-- The socket on which the thread has a frame that is not finished. -/
def ThreadPc.writes : ThreadPc → Option ℕ
  | .sendRequest a _ _ => some a.sock
  | .sendEncaps a _ _ _ => some a.sock
  | _ => none

/-- A call or a thread is inside a `sendall` on the socket. -/
def Unfinished (s : State) (k : ℕ) : Prop :=
  (s.channel.sock = some k ∧ ∃ t, (s.calls t).unfinished = true) ∨
    ∃ i, (s.threads i).writes = some k

variable (P cfg) in
/-- What a socket shows: a handshake or a beginning of one, protected readings after it, and
at most a beginning of one more frame.  If that one is neither finished nor being written,
then nothing is ever written behind it. -/
structure Whole (s : State) (k : ℕ) : Prop where
  transcript : Transcript P cfg (s.streams k).finished
  torn : Torn (encodeBytes P) (s.streams k)
  last : Clean (encodeBytes P) (s.streams k) ∨ Unfinished s k ∨
    ∀ τ, (run (Wire.step P cfg) s τ).streams k = s.streams k

/-- A thread that has a socket is inside a `sendall`, or there are whole frames on it. -/
lemma Works.clean_or_writes {pc : ThreadPc} (h : Works P cfg s pc) (hk : pc.sock = some k) :
    Clean (encodeBytes P) (s.streams k) ∨ pc.writes = some k := by
  cases pc with
  | sendRequest | sendEncaps => exact Or.inr hk
  | pubkey a | established a | publishKey a | publishId a | countSession a | publishSock a =>
    obtain rfl : a.sock = k := Option.some.inj hk
    exact Or.inl h.2.1
  | _ => cases hk

lemma Ok.whole (h : Ok P cfg s) (k : ℕ) : Whole P cfg s k := by
  refine ⟨(h.streams k).transcript, (h.streams k).torn, ?_⟩
  rcases Nat.lt_or_ge k s.opened with hopened | hopened
  · by_cases hsock : s.channel.sock = some k
    · -- the socket of the channel: a call may be writing to it
      by_cases hcall : ∃ t, (s.calls t).unfinished = true
      · exact Or.inr (Or.inl (Or.inl ⟨hsock, hcall⟩))
      · exact Or.inl ((h.session k hsock).clean fun t => by
          simpa using not_exists.1 hcall t)
    · by_cases hthread : ∃ i, (s.threads i).sock = some k
      · obtain ⟨i, hi⟩ := hthread
        have hlate : (s.threads i).late = false := by
          revert hi
          cases s.threads i with
          | stopped | publishState | finishing => exact fun hi => by cases hi
          | _ => exact fun _ => rfl
        rcases (h.others_stopped hlate).1.clean_or_writes hi with hclean | hwrites
        · exact Or.inl hclean
        · exact Or.inr (Or.inl (Or.inr ⟨i, hwrites⟩))
      · exact Or.inr (Or.inr (Dead.run ⟨hopened, hsock, not_exists.1 hthread⟩ h))
  · refine Or.inl ?_
    rw [(h.streams k).unopened hopened]
    exact clean_empty

variable (P cfg) in
/-- **Frames are never mixed.**  Whatever the threads and the sockets do, every socket shows the
handshake and then one protected reading after the other; a frame that was broken off is the
last thing on it. -/
theorem frames_never_mixed (τ : List Event) (k : ℕ) :
    Whole P cfg (run (Wire.step P cfg) initial τ) k :=
  (ok_run P cfg τ).whole k

/-! ### What the cloud reads -/

/-- A message that is not finished has no newline. -/
lemma newline_notMem_of_torn (hfloat : ∀ x, Printable (P.floatText x)) {m : JsonDict}
    {written rest : Octets} (h : written ++ rest = encodeBytes P m) (hrest : rest ≠ []) :
    newline ∉ written := by
  obtain ⟨line, hline, hbytes⟩ := exists_line hfloat m
  obtain ⟨rest', b, rfl⟩ := List.eq_nil_or_concat rest |>.resolve_left hrest
  rw [hbytes, List.concat_eq_append, ← List.append_assoc] at h
  have hstart : written ++ rest' = line := List.append_inj_left' h rfl
  intro hmem
  exact hline (hstart ▸ List.mem_append_left rest' hmem)

/-- What comes after the whole messages is read as the end of the stream, or as an error of
the protocol. -/
lemma readMessage_rest {rest : Octets} (hnewline : newline ∉ rest) :
    (rest = [] ∧ (readMessage P rest).1
      = raise .connectionClosedError (lit "peer closed the connection")) ∨
    (rest ≠ [] ∧ ∃ msg, (readMessage P rest).1 = raise .protocolError msg) := by
  by_cases hne : rest = []
  · subst hne
    exact Or.inl ⟨rfl, rfl⟩
  · refine Or.inr ⟨hne, ?_⟩
    rcases Nat.lt_or_ge maxMessageBytes rest.length with hlen | hlen
    · have hfirst : maxMessageBytes < (firstLine rest).length := by
        rw [firstLine_of_notMem hnewline]
        exact hlen
      obtain ⟨_, _, -, -, hread⟩ := readMessage_oversize P hfirst
      exact ⟨_, by rw [hread]⟩
    · exact ⟨_, by rw [readMessage_truncated P hne hlen hnewline]⟩

lemma Token.validUnicode (x : Token) : validUnicode x.text = true := by
  refine List.all_eq_true.2 fun c hc => ?_
  obtain ⟨n, -, rfl⟩ := x.hex.2 c hc
  rfl

/-- The names and values of the message are texts that can be encoded. -/
def IsText (m : JsonDict) : Prop :=
  (m.map Prod.fst).Nodup ∧
    ∀ x ∈ m, validUnicode x.1 = true ∧ ∃ s, x.2 = .str s ∧ validUnicode s = true

section Texts

variable {floatText : PyFloat → PyStr} {readFloat : PyStr → PyFloat} {m : JsonDict}

lemma readableFields_of_texts
    (h : ∀ x ∈ m, validUnicode x.1 = true ∧ ∃ s, x.2 = .str s ∧ validUnicode s = true) :
    Loads.ReadableFields floatText readFloat m := by
  induction m with
  | nil => trivial
  | cons x m ih =>
    obtain ⟨k, v⟩ := x
    obtain ⟨hk, s, hv, hs⟩ := h _ List.mem_cons_self
    replace hv : v = .str s := hv
    subst hv
    exact ⟨hk, hs, ih fun y hy => h y (List.mem_cons_of_mem _ hy)⟩

lemma depthFields_of_texts (h : ∀ x ∈ m, ∃ s, x.2 = .str s) : Loads.depthFields m = 0 := by
  induction m with
  | nil => rfl
  | cons x m ih =>
    obtain ⟨k, v⟩ := x
    obtain ⟨s, hv⟩ := h _ List.mem_cons_self
    replace hv : v = .str s := hv
    subst hv
    have hrest := ih fun y hy => h y (List.mem_cons_of_mem _ hy)
    simp [Loads.depthFields, Loads.depth, hrest]

lemma IsText.readable (h : IsText m) : Loads.Readable floatText readFloat (.obj m) :=
  ⟨h.1, readableFields_of_texts h.2⟩

lemma IsText.depth_le (h : IsText m) : Loads.depth (.obj m) ≤ 1 := by
  have hzero := depthFields_of_texts (m := m) fun x hx => (h.2 x hx).2.imp fun _ hs => hs.1
  rw [Loads.depth, hzero]

end Texts

variable (hb64 : ∀ b, validUnicode (P.b64encode b) = true)

include hb64

lemma IsRequest.isText (hid : validUnicode cfg.gatewayId = true) {m : JsonDict}
    (h : IsRequest P cfg m) : IsText m := by
  obtain ⟨nonce, h⟩ := h
  obtain ⟨auth, hauth, h⟩ := bind_eq_ok.1 h
  obtain ⟨_, -, hauth⟩ := bind_eq_ok.1 hauth
  cases hauth
  cases h
  have hkeys : [lit "type", lit "gateway_id", lit "auth_nonce", lit "auth_tag"].Nodup := by decide
  refine ⟨hkeys, ?_⟩
  simp only [List.cons_append, List.nil_append, List.forall_mem_cons, List.not_mem_nil,
    false_imp_iff, implies_true, and_true]
  exact ⟨⟨rfl, _, rfl, rfl⟩, ⟨rfl, _, rfl, hid⟩, ⟨rfl, _, rfl, hb64 _⟩, rfl, _, rfl, hb64 _⟩

lemma IsReading.isText {m : JsonDict} (h : IsReading P m) : IsText m := by
  obtain ⟨b, key, sid, nonce, h⟩ := h
  obtain ⟨aad, haad, h⟩ := bind_eq_ok.1 h
  obtain ⟨envelope, henvelope, h⟩ := bind_eq_ok.1 h
  obtain ⟨_, -, henvelope⟩ := bind_eq_ok.1 henvelope
  cases henvelope
  cases h
  -- the session id was encoded for the associated data
  have hsid : validUnicode sid = true := by
    by_contra hsid
    rw [sessionMessageAad, encodeUtf8, if_neg hsid] at haad
    cases haad
  have hkeys : [lit "type", lit "session_id", lit "nonce", lit "ciphertext"].Nodup := by decide
  refine ⟨hkeys, ?_⟩
  simp only [List.cons_append, List.nil_append, List.forall_mem_cons, List.not_mem_nil,
    false_imp_iff, implies_true, and_true]
  exact ⟨⟨rfl, _, rfl, rfl⟩, ⟨rfl, _, rfl, hsid⟩, ⟨rfl, _, rfl, hb64 _⟩, rfl, _, rfl, hb64 _⟩

lemma isText_encapsMessage (hid : validUnicode cfg.gatewayId = true) (sid : Token) (c : Octets) :
    IsText (encapsMessage P cfg sid.text c) := by
  have hkeys : [lit "type", lit "gateway_id", lit "session_id", lit "ciphertext"].Nodup := by decide
  refine ⟨hkeys, ?_⟩
  simp only [encapsMessage, List.forall_mem_cons, List.not_mem_nil, false_imp_iff, implies_true,
    and_true]
  exact ⟨⟨rfl, _, rfl, rfl⟩, ⟨rfl, _, rfl, hid⟩, ⟨rfl, _, rfl, sid.validUnicode⟩, rfl, _, rfl,
    hb64 _⟩

lemma Transcript.isText (hid : validUnicode cfg.gatewayId = true) {ms : List JsonDict}
    (h : Transcript P cfg ms) : ∀ m ∈ ms, IsText m := by
  rcases h with rfl | ⟨r, hr, rfl⟩ | ⟨sid, hs, rs, ⟨r, c, hr, rfl⟩, hrs, rfl⟩
  · simp
  · simpa using hr.isText hb64 hid
  · intro m hm
    simp only [List.cons_append, List.nil_append, List.mem_cons] at hm
    rcases hm with rfl | rfl | hm
    · exact hr.isText hb64 hid
    · exact isText_encapsMessage hb64 hid sid c
    · exact (hrs m hm).isText hb64

/-- **The cloud reads whole messages.**  On every socket, whatever the threads do, repeated
`read_message` calls return the messages whose `sendall` has returned, in their order, as far as
they are within the limit; what comes after them is read as the end of the stream or as an error
of the protocol. -/
theorem cloud_reads_frames {readFloat : PyStr → PyFloat} {limit : ℕ} (hlimit : 0 < limit)
    (hloads : P.loads = Loads.loads readFloat limit) (hfloat : ∀ x, Printable (P.floatText x))
    (hid : validUnicode cfg.gatewayId = true) (τ : List Event) (k : ℕ)
    (hsize : ∀ m ∈ ((run (Wire.step P cfg) initial τ).streams k).finished,
      (encodeBytes P m).length ≤ maxMessageBytes) :
    ∃ rest, readMessages P ((run (Wire.step P cfg) initial τ).streams k).finished.length
        ((run (Wire.step P cfg) initial τ).streams k).content
          = (((run (Wire.step P cfg) initial τ).streams k).finished.map .ok, rest) ∧
      ((rest = [] ∧ (readMessage P rest).1
          = raise .connectionClosedError (lit "peer closed the connection")) ∨
        (rest ≠ [] ∧ ∃ msg, (readMessage P rest).1 = raise .protocolError msg)) := by
  obtain ⟨htranscript, ⟨written, m, rest, hcontent, hframe, hrest⟩, -⟩ :=
    (ok_run P cfg τ).whole k
  have htext := htranscript.isText hb64 hid
  refine ⟨written, ?_, readMessage_rest (newline_notMem_of_torn hfloat hframe hrest)⟩
  rw [hcontent]
  refine readMessages_flatMap hfloat (fun m' hm' => ?_) hsize written
  rw [hloads]
  exact loads_encodeBytes hfloat (htext m' hm').readable ((htext m' hm').depth_le.trans hlimit)

omit hb64

/-! ### The demo -/

def demoToken : Token where
  text := List.replicate 16 (hexDigit 10)
  hex := ⟨List.length_replicate, fun _ hc => ⟨10, by decide, List.eq_of_mem_replicate hc⟩⟩

def demoConfig : GatewayConfig Octets where
  gatewayId := lit "gw-01"
  gatewayKey := List.replicate 32 7
  pin := Octets.digest
  autoReconnect := true

/-- The main thread sends its request and loses the connection; of the request of its second
attempt it sends five bytes. -/
def demoEvents : List Event :=
  [.thread 0 .move, .thread 0 (.connect .ok demoToken []), .thread 0 (.write 7),
    .thread 0 (.write 1000), .thread 0 (.reply (.osError []) []), .thread 0 .move, .thread 0 .move,
    .thread 0 .move, .thread 0 .move, .thread 0 (.connect .ok demoToken []), .thread 0 (.write 5),
    .thread 0 (.fail [])]

def demoEnd : State := run (Wire.step demoPrimitives demoConfig) initial demoEvents

/-- One message on the first socket, and a broken one on the second. -/
theorem cloud_reads_frames_demo :
    (∃ rest, readMessages demoPrimitives (demoEnd.streams 0).finished.length
        (demoEnd.streams 0).content = ((demoEnd.streams 0).finished.map .ok, rest) ∧
      ((rest = [] ∧ (readMessage demoPrimitives rest).1
          = raise .connectionClosedError (lit "peer closed the connection")) ∨
        (rest ≠ [] ∧ ∃ msg, (readMessage demoPrimitives rest).1 = raise .protocolError msg))) ∧
    (demoEnd.streams 0).finished.length = 1 ∧ (demoEnd.streams 1).content.length = 5 := by
  have hb64 : ∀ b, validUnicode (demoPrimitives.b64encode b) = true := fun b => by
    simp [demoPrimitives, octets, Octets.b64encode, validUnicode, PyChar.isScalar]
  have hfloat : ∀ x, Printable (demoPrimitives.floatText x) := fun x =>
    show Printable (lit "21.0") by decide
  have hid : validUnicode demoConfig.gatewayId = true := rfl
  have hsize : ∀ m ∈ (demoEnd.streams 0).finished,
      (encodeBytes demoPrimitives m).length ≤ maxMessageBytes := by decide +kernel
  have hlengths : (demoEnd.streams 0).finished.length = 1 ∧
      (demoEnd.streams 1).content.length = 5 := by decide +kernel
  exact ⟨cloud_reads_frames hb64 (by norm_num) rfl hfloat hid demoEvents 0 hsize,
    hlengths⟩

end PqcBridge.Gateway.Wire
