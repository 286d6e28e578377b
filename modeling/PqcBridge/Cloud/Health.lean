/-
What the cloud says of itself (`status_provider` and `extra_routes` in `cloud/cloud.py`).

The provider asks the store, the registry and the counters one after the other, each under a
lock of its own, while the handlers go on.  `len(self._sessions)` needs the registry as a
dictionary: `Sessions` is built by the same calls as the registry of the handlers.

* `status`, `readingsRoute`: the two demo endpoints;
* `Tallied`: the dictionary, the registry, the store and the counters belong together;
* `health_consistent`: what an answer says of the run, whatever happens between its reads;
* `active_sessions_exact`: the number of sessions is that of the handlers that own one.
-/
import PqcBridge.Cloud.Accounting
import PqcBridge.Common.Observations
import PqcBridge.Lib.Counting
import PqcBridge.Lib.Moments

namespace PqcBridge.Cloud

open Python Protocol Crypto Runs Handshake Counting

variable {B : Type} {P : Primitives B} (cfg : CloudConfig P) (addr : ℕ → Addr)

/-! ### The store and the registry, as they are asked -/

namespace ReadingStore

/-- `count`. -/
def count (s : ReadingStore) : ℕ := s.readings.length

/-- `recent`: the slice `items[-n:]`. -/
def recent (s : ReadingStore) (n : ℤ) : List JsonDict :=
  if -n < 0 then s.readings.drop (s.readings.length - n.toNat) else s.readings.drop (-n).toNat

lemma count_eq (s : ReadingStore) : s.count = min s.maxReadings s.history.length := by
  rw [count, s.held, List.length_drop]
  omega

/-- The last readings, as far as the deque goes. -/
lemma recent_eq (s : ReadingStore) {n : ℕ} (hn : 0 < n) :
    s.recent n = s.history.drop (s.history.length - min n s.maxReadings) := by
  have hneg : -(n : ℤ) < 0 := by omega
  rw [recent, if_pos hneg, s.held, List.drop_drop, List.length_drop]
  congr 1
  omega

end ReadingStore

/-- The dictionary of the registry. -/
abbrev Sessions (B : Type) : Type := AList fun _ : PyStr => Session B

/-- What a step of connection `c` does to the dictionary: `add` and `remove`. -/
def sessionsStep (c : ℕ) : Phase B → ConnEvent → Sessions B → Sessions B
  | .encaps gatewayId, .recv o, d =>
    match o.result >>= deriveSession cfg with
    | .ok (sessionId, sessionKey) => d.insert sessionId ⟨sessionKey, gatewayId, c⟩
    | .error _ => d
  | .leaving (some sessionId) _, .finish, d => d.erase sessionId
  | _, _, d => d

/-- The server with the dictionary of its registry. -/
abbrev Tracked (B : Type) : Type := ServerState B × Sessions B

/-- A step of both. -/
def trackedStep (s : Tracked B) (ev : ℕ × ConnEvent) : Tracked B :=
  (step cfg addr s.1 ev, sessionsStep cfg ev.1 (s.1.phase ev.1) ev.2 s.2)

/-- Before the first connection. -/
def trackedInitial (maxReadings : ℕ) (log : List PyStr) : Tracked B := (initial maxReadings log, ∅)

/-! ### The endpoints -/

/-- `SessionRegistry.count`. -/
def Sessions.count (d : Sessions B) : ℕ := d.entries.length

/-- The dictionary of the provider, where `view 0`, `view 1` and `view 2` are the server when the
store, the registry and the counters are asked. -/
def status (view : ℕ → Tracked B) (timings : JsonDict) : JsonDict :=
  [(lit "mlkem_ready", .bool true),
    (lit "stored_readings", .int (view 0).1.shared.store.count),
    (lit "active_sessions", .int (Sessions.count (view 1).2)),
    (lit "counters", .obj (view 2).1.shared.metrics.counts), (lit "timings", .obj timings)]

/-- `/readings`. -/
def readingsRoute (s : ServerState B) : Json := .arr ((s.shared.store.recent 10).map .obj)

/-! ### What belongs together -/

/-- The dictionary is that of the registry, and every session has been counted. -/
structure Tallied (maxReadings : ℕ) (st : CloudState B) (d : Sessions B) : Prop where
  registry : ∀ sid, d.lookup sid = st.registry sid
  active : Sessions.count d ≤ st.metrics .mlkemSessionsEstablished
  bound : st.store.maxReadings = maxReadings

variable {cfg addr} {maxReadings : ℕ} {st : CloudState B} {d : Sessions B}

lemma Sessions.count_eq (d : Sessions B) : Sessions.count d = d.keys.length :=
  (List.length_map _).symm

lemma length_erase_le {α : Type*} [DecidableEq α] (l : List α) (a : α) :
    (l.erase a).length ≤ l.length := List.erase_sublist.length_le

lemma count_insert_le (d : Sessions B) (sid : PyStr) (x : Session B) :
    Sessions.count (d.insert sid x) ≤ Sessions.count d + 1 := by
  rw [Sessions.count_eq, Sessions.count_eq, AList.keys_insert, List.length_cons]
  exact Nat.succ_le_succ (length_erase_le _ _)

lemma count_erase_le (d : Sessions B) (sid : PyStr) :
    Sessions.count (d.erase sid) ≤ Sessions.count d := by
  rw [Sessions.count_eq, Sessions.count_eq, AList.keys_erase]
  exact length_erase_le _ _

lemma lookup_insert_eq (d : Sessions B) (r : SessionRegistry B) (h : ∀ sid, d.lookup sid = r sid)
    (sid : PyStr) (x : Session B) (name : PyStr) :
    (d.insert sid x).lookup name = SessionRegistry.add r sid x name := by
  rw [SessionRegistry.add]
  rcases eq_or_ne name sid with rfl | hne
  · rw [AList.lookup_insert, Function.update_self]
  · rw [AList.lookup_insert_ne hne, Function.update_of_ne hne, h]

lemma lookup_erase_eq (d : Sessions B) (r : SessionRegistry B) (h : ∀ sid, d.lookup sid = r sid)
    (sid name : PyStr) : (d.erase sid).lookup name = SessionRegistry.remove r sid name := by
  rw [SessionRegistry.remove]
  rcases eq_or_ne name sid with rfl | hne
  · rw [AList.lookup_erase, Function.update_self]
  · rw [AList.lookup_erase_ne hne, Function.update_of_ne hne, h]

lemma Tallied.write (h : Tallied maxReadings st d) (t : PyStr) :
    Tallied maxReadings (st.write t) d := ⟨h.registry, h.active, h.bound⟩

/-- A counter other than that of the sessions goes up. -/
lemma Tallied.inc (h : Tallied maxReadings st d) {c : Counter}
    (hs : c ≠ .mlkemSessionsEstablished) : Tallied maxReadings (st.inc c) d := by
  refine ⟨h.registry, ?_, h.bound⟩
  rw [CloudState.inc_metrics, Metrics.inc_of_ne hs.symm]
  exact h.active

lemma Tallied.onException (h : Tallied maxReadings st d) (a : Addr) (sid : Option PyStr)
    (e : PyExc) : Tallied maxReadings (onException st a sid e).1 d := by
  obtain ⟨t, hfst | hfst | hfst⟩ := onException_fst st a sid e
  · rw [hfst]
    exact h.write t
  · rw [hfst]
    exact (h.write t).inc (by decide)
  · rw [hfst]
    exact (h.write t).inc (by decide)

/-- The loop body of `_receive_readings`. -/
lemma Tallied.acceptReading (h : Tallied maxReadings st d) (m : JsonDict) (key : B) (sid : PyStr) :
    Tallied maxReadings (acceptReading P st m key sid).1 d := by
  have hreceived : Tallied maxReadings (st.inc .messagesReceived) d := h.inc (by decide)
  rcases acceptReading_cases (P := P) st m key sid with
    ⟨text, hm⟩ | ⟨e, hm, -⟩ | ⟨reading, sequence, deviceId, -, -, -, -, hm⟩
  · rw [hm]
    exact (hreceived.write text).inc (by decide)
  · rw [hm]
    exact hreceived
  · rw [hm]
    exact ⟨hreceived.registry, hreceived.active, hreceived.bound⟩

lemma Tallied.register (h : Tallied maxReadings st d) (c : ℕ) (gid sid : PyStr) (key : B) :
    Tallied maxReadings (register st c gid sid key) (d.insert sid ⟨key, gid, c⟩) := by
  refine ⟨lookup_insert_eq d st.registry h.registry sid ⟨key, gid, c⟩, ?_, h.bound⟩
  show _ ≤ (st.metrics.inc .mlkemSessionsEstablished) .mlkemSessionsEstablished
  rw [Metrics.inc_self]
  exact (count_insert_le d sid _).trans (Nat.succ_le_succ h.active)

/-- The step lemma. -/
lemma Tallied.handlerStep (h : Tallied maxReadings st d) (c : ℕ) (a : Addr) (p : Phase B)
    (ev : ConnEvent) :
    Tallied maxReadings (handlerStep cfg c a st p ev).1 (sessionsStep cfg c p ev d) := by
  cases p with
  | new =>
    cases ev with
    | accept => exact (h.write _).inc (by decide)
    | _ => exact h
  | request =>
    cases ev with
    | recv o =>
      simp only [Cloud.handlerStep, sessionsStep]
      rcases o.result >>= authenticateRequest cfg with e | gid
      · exact h.onException a none e
      · exact h
    | _ => exact h
  | sendPubkey gid =>
    cases ev with
    | sendError msg => exact h.onException a none _
    | _ => exact h
  | encaps gid =>
    cases ev with
    | recv o =>
      simp only [Cloud.handlerStep, sessionsStep]
      rcases o.result >>= deriveSession cfg with e | ⟨sid, key⟩
      · exact h.onException a none e
      · exact h.register c gid sid key
    | _ => exact h
  | sendEstablished gid sid key =>
    cases ev with
    | sendError msg => exact h.onException a none _
    | _ => exact h
  | receiving gid sid key =>
    cases ev with
    | recv o =>
      simp only [Cloud.handlerStep, sessionsStep]
      rcases o.result with e | m
      · exact h.onException a (some sid) e
      · have haccept := h.acceptReading (P := P) m key sid
        rcases hm : Cloud.acceptReading P st m key sid with ⟨st', e | _ | reading⟩
        all_goals rw [hm] at haccept; simp only [hm]
        · exact haccept.onException a (some sid) e
        · exact haccept
        · exact haccept
    | _ => exact h
  | storing gid sid key reading =>
    cases ev with
    | store => exact ⟨h.registry, h.active, h.bound⟩
    | _ => exact h
  | counting gid sid key reading =>
    cases ev with
    | count => exact h.inc (by decide)
    | _ => exact h
  | reporting gid sid key reading =>
    cases ev with
    | report => exact h.write _
    | _ => exact h
  | leaving sid escaped =>
    cases ev with
    | finish =>
      cases sid with
      | none => exact h
      | some sid =>
        exact ⟨lookup_erase_eq d st.registry h.registry sid, (count_erase_le d sid).trans h.active,
          h.bound⟩
    | _ => cases sid <;> exact h
  | closed escaped => cases ev <;> exact h

variable (cfg addr) in
/-- The run lemma. -/
lemma tallied_run (maxReadings : ℕ) (log : List PyStr) (τ : List (ℕ × ConnEvent)) :
    Tallied maxReadings (run (trackedStep cfg addr) (trackedInitial maxReadings log) τ).1.shared
      (run (trackedStep cfg addr) (trackedInitial maxReadings log) τ).2 :=
  inv_run (J := fun s : Tracked B => Tallied maxReadings s.1.shared s.2) (P := fun _ _ => True)
    (fun s ev h _ => h.handlerStep ev.1 (addr ev.1) (s.1.phase ev.1) ev.2)
    ⟨fun _ => rfl, le_rfl, rfl⟩ (along_of_forall fun _ _ _ => trivial)

/-- The dictionary does not disturb the server. -/
lemma run_tracked (s : Tracked B) (τ : List (ℕ × ConnEvent)) :
    (run (trackedStep cfg addr) s τ).1 = run (step cfg addr) s.1 τ :=
  run_view (fun _ _ => rfl) s τ

/-! ### Readings that are stored and not counted -/

/-- What a move does to the readings that are stored and those that are counted. -/
lemma Moves.uncounted_cases {c : ℕ} {a : Addr} {st st' : CloudState B} {p p' : Phase B}
    {ev : ConnEvent} (hm : Moves cfg c a st p ev st' p') :
    (st'.store = st.store ∧ st'.metrics .messagesProcessed = st.metrics .messagesProcessed ∧
      uncounted p' = uncounted p) ∨
    (∃ r, st'.store = st.store.add r ∧
      st'.metrics .messagesProcessed = st.metrics .messagesProcessed ∧
      uncounted p = 0 ∧ uncounted p' = 1) ∨
    (st'.store = st.store ∧ st'.metrics .messagesProcessed = st.metrics .messagesProcessed + 1 ∧
      uncounted p = 1 ∧ uncounted p' = 0) := by
  have hexception : ∀ (st : CloudState B) (sid : Option PyStr) (e : PyExc),
      (onException st a sid e).1.metrics .messagesProcessed = st.metrics .messagesProcessed ∧
        uncounted (onException st a sid e).2 = 0 := by
    intro st sid e
    obtain ⟨t, h⟩ := onException_fst st a sid e
    refine ⟨?_, by rw [onException_snd]; rfl⟩
    rcases h with h | h | h <;> rw [h] <;> simp
  cases hm with
  | stored => exact Or.inr (Or.inl ⟨_, rfl, rfl, rfl, rfl⟩)
  | counted => exact Or.inr (Or.inr ⟨rfl, by simp, rfl, rfl⟩)
  | refuse | pubkeyLost | unregistered | establishedLost | readFailed =>
    exact Or.inl ⟨onException_store _ _ _ _, (hexception _ _ _).1, (hexception _ _ _).2⟩
  | raised =>
    exact Or.inl ⟨onException_store _ _ _ _, (hexception _ _ _).1.trans (by simp),
      (hexception _ _ _).2⟩
  | left => exact Or.inl ⟨evict_store _ _, by rw [evict_metrics], rfl⟩
  | dropped => exact Or.inl ⟨rfl, by simp [drop], rfl⟩
  | accepted => exact Or.inl ⟨rfl, by simp, rfl⟩
  | registered => exact Or.inl ⟨rfl, by simp [register], rfl⟩
  | accept => exact Or.inl ⟨rfl, by simp, rfl⟩
  | _ => exact Or.inl ⟨rfl, rfl, rfl⟩

/-- The history of the store has been counted, but for the readings of the handlers that stand
between `store.add` and the counter. -/
def Counted (s : ServerState B) : Prop :=
  ∃ n, Counts s.phase (fun p => uncounted p = 1) n ∧
    s.shared.store.history.length = s.shared.metrics .messagesProcessed + n

/-- The step lemma. -/
lemma Counted.step {s : ServerState B} (h : Counted s) (ev : ℕ × ConnEvent) :
    Counted (step cfg addr s ev) := by
  obtain ⟨c, ev⟩ := ev
  obtain ⟨n, hcounts, hlength⟩ := h
  obtain ⟨st, p, hm, hstep⟩ := step_moves cfg addr s c ev
  rw [hstep]
  rcases hm.uncounted_cases with ⟨hstore, hprocessed, hp⟩ | ⟨r, hstore, hprocessed, hp, hp'⟩ |
    ⟨hstore, hprocessed, hp, hp'⟩
  · refine ⟨n, hcounts.keep (by rw [hp]), ?_⟩
    rw [hstore, hprocessed, hlength]
  -- the handler comes to stand between the two statements, or it counts its reading
  · refine ⟨n + 1, hcounts.enter (by omega) hp', ?_⟩
    rw [hstore, hprocessed, ReadingStore.add_history, List.length_append, List.length_singleton,
      hlength, add_assoc]
  · obtain ⟨m, rfl, hleft⟩ := hcounts.leave hp (by omega : ¬ uncounted p = 1)
    refine ⟨m, hleft, ?_⟩
    rw [hstore, hprocessed, hlength]
    omega

variable (cfg addr) in
/-- The run lemma. -/
lemma counted_run (maxReadings : ℕ) (log : List PyStr) (τ : List (ℕ × ConnEvent)) :
    Counted (run (step cfg addr) (initial maxReadings log) τ) :=
  inv_run (J := Counted) (P := fun _ _ => True) (fun _ ev h _ => h.step ev)
    ⟨0, counts_zero fun _ => by simp [initial, uncounted], rfl⟩
    (along_of_forall fun _ _ _ => trivial)

/-! ### Counters go up -/

lemma le_inc (m : Metrics) (c k : Counter) : m k ≤ m.inc c k := by
  rw [Metrics.inc_apply]
  exact Nat.le_add_right _ _

lemma metrics_le_onException (st : CloudState B) (a : Addr) (sid : Option PyStr) (e : PyExc)
    (k : Counter) : st.metrics k ≤ (onException st a sid e).1.metrics k := by
  obtain ⟨t, h | h | h⟩ := onException_fst st a sid e <;> rw [h]
  · exact le_rfl
  · exact le_inc _ _ _
  · exact le_inc _ _ _

/-- No move takes anything from a counter. -/
lemma Moves.metrics_le {c : ℕ} {a : Addr} {st st' : CloudState B} {p p' : Phase B} {ev : ConnEvent}
    (hm : Moves cfg c a st p ev st' p') (k : Counter) : st.metrics k ≤ st'.metrics k := by
  cases hm with
  | idle | authenticated | pubkeySent | establishedSent => exact le_rfl
  | accept => exact le_inc _ _ _
  | registered => exact le_inc _ _ _
  | refuse | pubkeyLost | unregistered | establishedLost | readFailed =>
    exact metrics_le_onException _ _ _ _ k
  | dropped => exact (le_inc _ _ _).trans (le_inc _ _ _)
  | raised =>
    exact (le_inc st.metrics _ k).trans (metrics_le_onException (st.inc .messagesReceived) _ _ _ k)
  | accepted => exact le_inc _ _ _
  | stored | reported => exact le_rfl
  | counted => exact le_inc _ _ _
  | @left sid => cases sid <;> exact le_rfl

lemma metrics_le_step (k : Counter) (s : Tracked B) (ev : ℕ × ConnEvent) :
    s.1.shared.metrics k ≤ (trackedStep cfg addr s ev).1.shared.metrics k :=
  (handlerStep_moves cfg ev.1 (addr ev.1) s.1.shared (s.1.phase ev.1) ev.2).metrics_le k

/-! ### An answer -/

/-- The numbers of an answer. -/
structure Consistent (maxReadings : ℕ) (view : ℕ → Tracked B) (d : JsonDict) : Prop where
  /-- the store holds all readings, or as many as it can -/
  stored : d.field "stored_readings"
    = some (.int (min maxReadings (view 0).1.shared.store.history.length : ℕ))
  /-- the dictionary is the registry of the handlers -/
  sessions : ∃ n : ℕ, d.field "active_sessions" = some (.int n) ∧ (view 1).2.keys.length = n ∧
    ∀ sid, sid ∈ (view 1).2.keys ↔ ((view 1).1.shared.registry sid).isSome = true
  /-- the counters are those of the third read -/
  counters : ∃ counts, d.field "counters" = some (.obj counts) ∧ ∀ c : Counter,
    counts.lookup c.name = (if (view 2).1.shared.metrics c = 0 then none
      else some (.int ((view 2).1.shared.metrics c : ℕ)))
  /-- no more sessions are active than were established -/
  established : Sessions.count (view 1).2 ≤ (view 2).1.shared.metrics .mlkemSessionsEstablished
  /-- at each read, the readings of the history are counted but for those of the handlers that
  stand between `store.add` and the counter -/
  counted : ∀ i, Counted (view i).1
  /-- the counters are read after the store, so that what is stored and not shown as processed is
  with those handlers -/
  processed : ∃ n, Counts (view 0).1.phase (fun p => uncounted p = 1) n ∧
    (view 0).1.shared.store.history.length
      ≤ (view 2).1.shared.metrics .messagesProcessed + n

variable (cfg addr) in
/-- **The numbers of the health endpoint are consistent**, in every run and whatever the handlers
do between the reads of a request. -/
theorem health_consistent (maxReadings : ℕ) (log : List PyStr) (τ : List (ℕ × ConnEvent))
    (m : Moments) (timings : JsonDict) :
    Consistent maxReadings (seen (trackedStep cfg addr) (trackedInitial maxReadings log) τ m)
      (status (seen (trackedStep cfg addr) (trackedInitial maxReadings log) τ m) timings) := by
  have htallied : ∀ i,
      Tallied maxReadings
        (seen (trackedStep cfg addr) (trackedInitial maxReadings log) τ m i).1.shared
        (seen (trackedStep cfg addr) (trackedInitial maxReadings log) τ m i).2 :=
    fun i => tallied_run cfg addr maxReadings log _
  have hcounted : ∀ i,
      Counted (seen (trackedStep cfg addr) (trackedInitial maxReadings log) τ m i).1 := by
    intro i
    rw [seen, run_tracked]
    exact counted_run cfg addr maxReadings log _
  refine ⟨?_, ⟨_, rfl, List.length_map _, fun sid => ?_⟩, ⟨_, rfl, Metrics.lookup_counts _⟩, ?_,
    hcounted, ?_⟩
  · show some (Json.int (ReadingStore.count _)) = _
    rw [ReadingStore.count_eq, (htallied 0).bound]
  · rw [← (htallied 1).registry, AList.lookup_isSome]
    exact Iff.rfl
  · exact (htallied 1).active.trans (le_seen (metrics_le_step .mlkemSessionsEstablished) (by omega))
  -- what was processed at the first read is still counted at the third
  · obtain ⟨between, hmem, hlength⟩ := hcounted 0
    refine ⟨between, hmem, ?_⟩
    rw [hlength]
    exact Nat.add_le_add_right (le_seen (metrics_le_step .messagesProcessed) (by omega)) _

/-! ### The number of sessions -/

/-- Every id that a handler owns has the entry that it added, and every entry has its owner. -/
structure OwnersMatch (s : ServerState B) : Prop where
  entry : ∀ c sid, (s.phase c).owned = some sid →
    ∃ e, s.shared.registry sid = some e ∧ e.addedBy = c
  owner : EntriesOwned s

/-- Ids are free when they are registered, and `mlkem_established` is sent. -/
def Orderly (cfg : CloudConfig P) (s : ServerState B) (ev : ℕ × ConnEvent) : Prop :=
  FreshSessionId cfg s ev ∧ EstablishedDelivered s ev

/-- The step lemma. -/
lemma OwnersMatch.step {s : ServerState B} (h : OwnersMatch s) {ev : ℕ × ConnEvent}
    (hev : Orderly cfg s ev) : OwnersMatch (step cfg addr s ev) := by
  refine ⟨?_, h.owner.step hev.2⟩
  obtain ⟨c, ev⟩ := ev
  obtain ⟨st, p, hm, hstep⟩ := step_moves cfg addr s c ev
  rw [hstep]
  intro c' sid' howned
  replace howned : (Function.update s.phase c p c').owned = some sid' := howned
  show ∃ e, st.registry sid' = some e ∧ e.addedBy = c'
  rcases hm.registry_cases with ⟨hreg, hown, -⟩ | ⟨o, gid, sid, key, hp, ho, hkey, hp', hreg⟩ |
    ⟨gid, sid, key, msg, hp, hmsg, -, -, -⟩ | ⟨sid, escaped, hp, hp', hreg⟩
  · rw [hreg]
    by_cases hc : c' = c
    · rw [hc, Function.update_self, hown] at howned
      rw [hc]
      exact h.entry c sid' howned
    · rw [Function.update_of_ne hc] at howned
      exact h.entry c' sid' howned
  · rw [hreg, SessionRegistry.add]
    by_cases hc : c' = c
    · rw [hc, Function.update_self, hp'] at howned
      cases howned
      rw [hc, Function.update_self]
      exact ⟨_, rfl, rfl⟩
    · -- the new id is not the one of another handler
      rw [Function.update_of_ne hc] at howned
      have hne : sid' ≠ sid := by
        rintro rfl
        exact hev.1 gid o sid' key hp ho hkey c' hc howned
      rw [Function.update_of_ne hne]
      exact h.entry c' sid' howned
  · -- the entry of the handler is there, so that its message is sent
    obtain ⟨e, he, hadded⟩ := h.entry c sid (by rw [hp]; rfl)
    exact absurd hadded (hev.2 gid sid key msg hp hmsg e he)
  · by_cases hc : c' = c
    · rw [hc, Function.update_self, hp'] at howned
      cases howned
    · rw [Function.update_of_ne hc] at howned
      obtain ⟨e, he, hadded⟩ := h.entry c' sid' howned
      have hne : sid ≠ some sid' := by
        intro hsid
        obtain ⟨e', he', hadded'⟩ := h.entry c sid' (by rw [hp]; exact hsid)
        rw [he] at he'
        cases he'
        exact hc (hadded.symm.trans hadded')
      rw [hreg, if_neg hne]
      exact ⟨e, he, hadded⟩

/-- The entries are as many as the handlers that own one. -/
lemma OwnersMatch.card {s : ServerState B} (h : OwnersMatch s)
    (hd : ∀ sid, d.lookup sid = s.shared.registry sid) :
    ∃ owners : Finset ℕ, (∀ c, c ∈ owners ↔ (s.phase c).owned ≠ none) ∧
      Sessions.count d = owners.card := by
  have hentry : ∀ e ∈ d.entries, s.shared.registry e.1 = some e.2 := fun e he =>
    (hd e.1).symm.trans (AList.mem_lookup_iff.2 he)
  have hinj : ∀ e ∈ d.entries, ∀ e' ∈ d.entries, e.2.addedBy = e'.2.addedBy → e = e' := by
    intro e he e' he' hadded
    have howned := h.owner e.1 e.2 (hentry e he)
    rw [hadded, h.owner e'.1 e'.2 (hentry e' he')] at howned
    have hkey : e.1 = e'.1 := (Option.some.inj howned).symm
    have hvalue := hentry e he
    rw [hkey, hentry e' he'] at hvalue
    exact Sigma.ext hkey (heq_of_eq (Option.some.inj hvalue).symm)
  have hnodup : (d.entries.map fun e => e.2.addedBy).Nodup :=
    (List.Nodup.of_map Sigma.fst d.keys_nodup).map_on hinj
  refine ⟨(d.entries.map fun e => e.2.addedBy).toFinset, fun c => ?_, ?_⟩
  · rw [List.mem_toFinset, List.mem_map]
    constructor
    · rintro ⟨e, he, rfl⟩
      rw [h.owner e.1 e.2 (hentry e he)]
      simp
    · intro hc
      obtain ⟨sid, hsid⟩ := Option.ne_none_iff_exists'.1 hc
      obtain ⟨e, he, hadded⟩ := h.entry c sid hsid
      exact ⟨⟨sid, e⟩, AList.mem_lookup_iff.1 ((hd sid).trans he), hadded⟩
  · rw [List.toFinset_card_of_nodup hnodup, List.length_map]
    rfl

/-- **`active_sessions` is exact**: in every run in which the ids are free when they are registered
and no answer is lost, it is the number of handlers between registration and eviction. -/
theorem active_sessions_exact {maxReadings : ℕ} {log : List PyStr} {τ : List (ℕ × ConnEvent)}
    (hτ : Along (step cfg addr) (Orderly cfg) (initial maxReadings log) τ) :
    ∃ owners : Finset ℕ, (∀ c, c ∈ owners ↔
        ((run (step cfg addr) (initial maxReadings log) τ).phase c).owned ≠ none) ∧
      Sessions.count (run (trackedStep cfg addr) (trackedInitial maxReadings log) τ).2
        = owners.card := by
  have hmatch : OwnersMatch (run (step cfg addr) (initial maxReadings log) τ) :=
    inv_run (fun _ _ h hev => h.step hev) ⟨fun _ _ h => (by cases h), fun _ _ h => (by cases h)⟩ hτ
  refine hmatch.card fun sid => ?_
  rw [(tallied_run cfg addr maxReadings log τ).registry, run_tracked]
  rfl

/-- Two gateways with session ids of their own. -/
theorem active_sessions_of_two :
    ∃ owners : Finset ℕ, (∀ c, c ∈ owners ↔
        ((run (step (demoCloud fun _ => none) demoAddr) (initial 100 [])
          (handshakeEvents 0 demoRequest (demoEncaps 0 (lit "a1"))
            ++ handshakeEvents 1 demoRequest (demoEncaps 1 (lit "b2")))).phase c).owned ≠ none) ∧
      Sessions.count (run (trackedStep (demoCloud fun _ => none) demoAddr) (trackedInitial 100 [])
        (handshakeEvents 0 demoRequest (demoEncaps 0 (lit "a1"))
          ++ handshakeEvents 1 demoRequest (demoEncaps 1 (lit "b2")))).2 = owners.card := by
  refine active_sessions_exact (along_and.2 ⟨along_append.2 ⟨?_, ?_⟩, ?_⟩)
  · exact along_freshSessionId _ (by decide) rfl fun c' _ => nofun
  · rw [run_demoHandshake _ (by decide) rfl]
    refine along_freshSessionId _ (by decide) rfl fun c' _ => ?_
    by_cases h : c' = 0
    · rw [h]
      decide
    · dsimp only
      rw [Function.update_of_ne h]
      nofun
  · refine along_of_forall fun s ev hev => ?_
    intro gid sid key msg _ hmsg
    simp [handshakeEvents, registrationEvents] at hev
    rcases hev with rfl | rfl | rfl | rfl | rfl | rfl | rfl | rfl | rfl | rfl <;> cases hmsg

end PqcBridge.Cloud
