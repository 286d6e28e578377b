/-
The session registry over the life of the server.

An entry of the registry is added by the handler of one connection, in the middle of the
handshake, and is evicted by the `finally` block of the same handler, if that block knows
the session id.  Between the two, `Phase.owned` is the id that the handler still has to
evict.

* `no_orphaned_session_keys`: while `mlkem_established` can be sent, no entry outlives
  the handler that added it.  A failure of that `sendall` leaves the entry behind: the
  session id was not yet returned to `_handle`.
* `registry_tracks_live_sessions`: while no handler registers an id that another one
  holds, the entry of a session stays what it was for as long as the session is served.
  The peers choose the ids, and nothing checks that they differ.
-/
import PqcBridge.Handshake.Honest

namespace PqcBridge.Cloud

open Python Protocol Crypto Runs Handshake

variable {B : Type} {P : Primitives B} {cfg : CloudConfig P} {addr : ℕ → Addr}

/-! ### What a step does to the registry -/

/-- The session id that the handler has registered and not yet evicted. -/
def Phase.owned : Phase B → Option PyStr
  | .sendEstablished _ sid _ => some sid
  | .receiving _ sid _ => some sid
  | .storing _ sid _ _ => some sid
  | .counting _ sid _ _ => some sid
  | .reporting _ sid _ _ => some sid
  | .leaving sid _ => sid
  | _ => none

/-- The session that the handler serves inside `_receive_readings`: the gateway, the session id
and the key. -/
def Phase.served : Phase B → Option (PyStr × PyStr × B)
  | .receiving gid sid key => some (gid, sid, key)
  | .storing gid sid key _ => some (gid, sid, key)
  | .counting gid sid key _ => some (gid, sid, key)
  | .reporting gid sid key _ => some (gid, sid, key)
  | _ => none

/-- The session that the handler has registered and can still serve. -/
def Phase.live : Phase B → Option (PyStr × PyStr × B)
  | .sendEstablished gid sid key => some (gid, sid, key)
  | p => p.served

lemma Phase.live_of_served {p : Phase B} {x : PyStr × PyStr × B} (h : p.served = some x) :
    p.live = some x := by
  cases p with
  | sendEstablished => cases h
  | _ => exact h

lemma onException_owned (st : CloudState B) (a : Addr) (sid : Option PyStr) (e : PyExc) :
    (onException st a sid e).2.owned = sid := by
  rw [onException_snd]
  rfl

lemma onException_live (st : CloudState B) (a : Addr) (sid : Option PyStr) (e : PyExc) :
    (onException st a sid e).2.live = none := by
  rw [onException_snd]
  rfl

/-- What a move does to the registry: nothing, and then the handler owns what it owned
before; or it registers a session; or it forgets the session that it has registered,
because `mlkem_established` was not sent; or it evicts what it owns. -/
lemma Moves.registry_cases {c : ℕ} {a : Addr} {st st' : CloudState B} {p p' : Phase B}
    {ev : ConnEvent} (hm : Moves cfg c a st p ev st' p') :
    (st'.registry = st.registry ∧ p'.owned = p.owned ∧
      ∀ x, p'.live = some x → p.live = some x) ∨
    (∃ o gid sid key, p = .encaps gid ∧ ev = .recv o ∧
      o.result >>= deriveSession cfg = .ok (sid, key) ∧ p' = .sendEstablished gid sid key ∧
      st'.registry = SessionRegistry.add st.registry sid ⟨key, gid, c⟩) ∨
    (∃ gid sid key msg, p = .sendEstablished gid sid key ∧ ev = .sendError msg ∧
      st'.registry = st.registry ∧ p'.owned = none ∧ p'.live = none) ∨
    (∃ sid escaped, p = .leaving sid escaped ∧ p' = .closed escaped ∧
      ∀ sid', st'.registry sid' = if sid = some sid' then none else st.registry sid') := by
  cases hm with
  | registered h => exact Or.inr (Or.inl ⟨_, _, _, _, rfl, rfl, h, rfl, rfl⟩)
  | establishedLost =>
    exact Or.inr (Or.inr (Or.inl ⟨_, _, _, _, rfl, rfl, onException_registry _ _ _ _,
      onException_owned _ _ _ _, onException_live _ _ _ _⟩))
  -- `finally` removes the entry, if there is a session id
  | @left sid =>
    refine Or.inr (Or.inr (Or.inr ⟨_, _, rfl, rfl, fun sid' => ?_⟩))
    cases sid with
    | none => simp [evict]
    | some sid =>
      by_cases h : sid' = sid
      · simp [evict, SessionRegistry.remove, h]
      · simp [evict, SessionRegistry.remove, h, Ne.symm h]
  -- an exception leaves the registry to the `finally` block
  | refuse | pubkeyLost | unregistered | readFailed | raised =>
    refine Or.inl ⟨onException_registry _ _ _ _, onException_owned _ _ _ _, fun x h => ?_⟩
    rw [onException_live] at h
    cases h
  | accept | authenticated | pubkeySent => exact Or.inl ⟨rfl, rfl, nofun⟩
  | idle | establishedSent | dropped | accepted | stored | counted | reported =>
    exact Or.inl ⟨rfl, rfl, fun _ h => h⟩

variable (cfg addr) in
/-- A step is a move of one handler. -/
lemma step_moves (s : ServerState B) (c : ℕ) (ev : ConnEvent) :
    ∃ st p, Moves cfg c (addr c) s.shared (s.phase c) ev st p ∧
      step cfg addr s (c, ev) = ⟨st, Function.update s.phase c p⟩ :=
  ⟨_, _, handlerStep_moves cfg c (addr c) s.shared (s.phase c) ev, rfl⟩

/-! ### Orphaned entries -/

/-- No entry of the registry was added by a handler that has finished. -/
def NoOrphans (s : ServerState B) : Prop :=
  ∀ c escaped, s.phase c = .closed escaped →
    ∀ sid e, SessionRegistry.get s.shared.registry sid = some e → e.addedBy ≠ c

/-- If `mlkem_established` cannot be sent, then the entry of the connection is already
gone. -/
def EstablishedDelivered (s : ServerState B) (ev : ℕ × ConnEvent) : Prop :=
  ∀ gid sid key msg, s.phase ev.1 = .sendEstablished gid sid key → ev.2 = .sendError msg →
    ∀ e, SessionRegistry.get s.shared.registry sid = some e → e.addedBy ≠ ev.1

/-- Every entry is one that the handler which added it still has to evict. -/
def EntriesOwned (s : ServerState B) : Prop :=
  ∀ sid e, s.shared.registry sid = some e → (s.phase e.addedBy).owned = some sid

/-- The step lemma. -/
lemma EntriesOwned.step {s : ServerState B} (h : EntriesOwned s) {ev : ℕ × ConnEvent}
    (hev : EstablishedDelivered s ev) : EntriesOwned (step cfg addr s ev) := by
  obtain ⟨c, ev⟩ := ev
  obtain ⟨st, p, hm, hstep⟩ := step_moves cfg addr s c ev
  rw [hstep]
  intro sid e he
  show (Function.update s.phase c p e.addedBy).owned = some sid
  replace he : st.registry sid = some e := he
  rcases hm.registry_cases with ⟨hreg, howned, -⟩ | ⟨o, gid, sid', key, hp, -, -, hp', hreg⟩ |
    ⟨gid, sid', key, msg, hp, hmsg, hreg, -, -⟩ | ⟨sid', escaped, hp, -, hreg⟩
  · rw [hreg] at he
    by_cases hc : e.addedBy = c
    · rw [hc, Function.update_self, howned, ← hc]
      exact h sid e he
    · rw [Function.update_of_ne hc]
      exact h sid e he
  · -- the new entry is owned by `c`, and `c` owned no other one
    rw [hreg, SessionRegistry.add] at he
    by_cases hsid : sid = sid'
    · rw [hsid, Function.update_self, Option.some.injEq] at he
      rw [← he, Function.update_self, hp', hsid]
      rfl
    · rw [Function.update_of_ne hsid] at he
      have howned := h sid e he
      rw [Function.update_of_ne]
      · exact howned
      · intro hc
        rw [hc, hp] at howned
        cases howned
  -- where `mlkem_established` is lost the handler owns the id no longer
  · rw [hreg] at he
    have howned := h sid e he
    rw [Function.update_of_ne]
    · exact howned
    · intro hc
      rw [hc, hp] at howned
      cases howned
      exact hev gid sid key msg hp hmsg e he hc
  · rw [hreg] at he
    -- the handler that ends removes the entry that it owned
    split_ifs at he with hsid
    have howned := h sid e he
    rw [Function.update_of_ne]
    · exact howned
    · intro hc
      rw [hc, hp] at howned
      exact hsid howned

lemma EntriesOwned.noOrphans {s : ServerState B} (h : EntriesOwned s) : NoOrphans s := by
  intro c escaped hc sid e he hadded
  have howned := h sid e he
  rw [hadded, hc] at howned
  cases howned

/-- **No orphaned session keys**, in every state of every run in which no connection
fails at the `sendall` of `mlkem_established` while it has an entry. -/
theorem no_orphaned_session_keys {maxReadings : ℕ} {log : List PyStr}
    {τ : List (ℕ × ConnEvent)}
    (hτ : Along (step cfg addr) EstablishedDelivered (initial maxReadings log) τ) :
    NoOrphans (run (step cfg addr) (initial maxReadings log) τ) :=
  (inv_run (J := EntriesOwned) (fun _ _ h hev => h.step hev) (fun _ _ he => by cases he)
    hτ).noOrphans

/-- Two gateways, of which one has left in order. -/
theorem no_orphaned_after_disconnect :
    NoOrphans (run (step (demoCloud fun _ => none) demoAddr) (initial 100 [])
      (handshakeEvents 0 demoRequest (demoEncaps 0 (lit "a1"))
        ++ handshakeEvents 1 demoRequest (demoEncaps 1 (lit "b2"))
        ++ [(0, .recv .closed), (0, .finish)])) := by
  refine no_orphaned_session_keys (along_of_forall fun s ev hev => ?_)
  intro gid sid key msg _ hmsg
  simp [handshakeEvents, registrationEvents] at hev
  rcases hev with rfl | rfl | rfl | rfl | rfl | rfl | rfl | rfl | rfl | rfl | rfl | rfl <;>
    cases hmsg

/-- A gateway that is gone when the cloud answers its encapsulation leaves its session
key behind. -/
theorem orphaned_after_lost_answer :
    ¬ NoOrphans (run (step (demoCloud fun _ => none) demoAddr) (initial 100 [])
      (registrationEvents 0 demoRequest (demoEncaps 0 (lit "a1"))
        ++ [(0, .sendError (lit "[Errno 32] Broken pipe")), (0, .finish)])) := by
  intro h
  rw [run_append, run_demoRegistration _ (by decide) rfl] at h
  exact h 0 none rfl (lit "a1") ⟨demoKey 0, lit "gw-01", 0⟩ rfl rfl

/-! ### Live sessions -/

/-- The registry holds the session of every connection that is inside
`_receive_readings`. -/
def TracksLiveSessions (s : ServerState B) : Prop :=
  ∀ c gid sid key, (s.phase c).served = some (gid, sid, key) →
    SessionRegistry.get s.shared.registry sid = some ⟨key, gid, c⟩

/-- A session is registered only under an id that no other handler has registered and
not yet evicted. -/
def FreshSessionId (cfg : CloudConfig P) (s : ServerState B) (ev : ℕ × ConnEvent) : Prop :=
  ∀ gid o sid key, s.phase ev.1 = .encaps gid → ev.2 = .recv o →
    o.result >>= deriveSession cfg = .ok (sid, key) →
      ∀ c', c' ≠ ev.1 → (s.phase c').owned ≠ some sid

/-- Every live session has its entry, and no two handlers own the same id. -/
structure LiveEntries (s : ServerState B) : Prop where
  entry : ∀ c gid sid key, (s.phase c).live = some (gid, sid, key) →
    s.shared.registry sid = some ⟨key, gid, c⟩
  distinct : ∀ c c' sid, c ≠ c' → (s.phase c).owned = some sid → (s.phase c').owned ≠ some sid

lemma Phase.owned_of_live {p : Phase B} {gid sid : PyStr} {key : B}
    (h : p.live = some (gid, sid, key)) : p.owned = some sid := by
  cases p <;> cases h <;> rfl

/-- The owned ids stay distinct if the handler that moved owns no id of another one. -/
lemma LiveEntries.distinct_update {s : ServerState B} (h : LiveEntries s) {c : ℕ} {p : Phase B}
    (hnew : ∀ c' sid, c' ≠ c → p.owned = some sid → (s.phase c').owned ≠ some sid) :
    ∀ c₁ c₂ sid, c₁ ≠ c₂ → (Function.update s.phase c p c₁).owned = some sid →
      (Function.update s.phase c p c₂).owned ≠ some sid := by
  intro c₁ c₂ sid hne h₁ h₂
  by_cases hc₁ : c₁ = c
  · have hc₂ : c₂ ≠ c := fun hc₂ => hne (hc₁.trans hc₂.symm)
    rw [hc₁, Function.update_self] at h₁
    rw [Function.update_of_ne hc₂] at h₂
    exact hnew c₂ sid hc₂ h₁ h₂
  · rw [Function.update_of_ne hc₁] at h₁
    by_cases hc₂ : c₂ = c
    · rw [hc₂, Function.update_self] at h₂
      exact hnew c₁ sid hc₁ h₂ h₁
    · rw [Function.update_of_ne hc₂] at h₂
      exact h.distinct c₁ c₂ sid hne h₁ h₂

/-- A live session after a step is one of the handler that moved, or an old one of another
handler. -/
lemma live_update_cases {s : ServerState B} {c c' : ℕ} {p : Phase B} {x : PyStr × PyStr × B}
    (h : (Function.update s.phase c p c').live = some x) :
    c' = c ∧ p.live = some x ∨ c' ≠ c ∧ (s.phase c').live = some x := by
  by_cases hc : c' = c
  · rw [hc, Function.update_self] at h
    exact Or.inl ⟨hc, h⟩
  · rw [Function.update_of_ne hc] at h
    exact Or.inr ⟨hc, h⟩

/-- The step lemma. -/
lemma LiveEntries.step {s : ServerState B} (h : LiveEntries s) {ev : ℕ × ConnEvent}
    (hev : FreshSessionId cfg s ev) : LiveEntries (step cfg addr s ev) := by
  obtain ⟨c, ev⟩ := ev
  obtain ⟨st, p, hm, hstep⟩ := step_moves cfg addr s c ev
  rw [hstep]
  rcases hm.registry_cases with
    ⟨hreg, howned, hlive⟩ | ⟨o, gid, sid, key, hp, ho, hkey, hp', hreg⟩ |
    ⟨gid, sid, key, msg, hp, hmsg, hreg, howned, hlive⟩ | ⟨sid, escaped, hp, hp', hreg⟩
  · refine ⟨fun c' gid sid key hc' => ?_, h.distinct_update fun c' sid hc' ho => ?_⟩
    · show st.registry sid = _
      rw [hreg]
      refine h.entry c' gid sid key ?_
      rcases live_update_cases hc' with ⟨rfl, hp⟩ | ⟨-, hold⟩
      · exact hlive _ hp
      · exact hold
    · rw [howned] at ho
      exact h.distinct c c' sid hc'.symm ho
  · -- a session is registered
    have hfresh := hev gid o sid key hp ho hkey
    refine ⟨fun c' gid' sid' key' hc' => ?_, h.distinct_update fun c' sid' hc' ho' => ?_⟩
    · show st.registry sid' = _
      rw [hreg, SessionRegistry.add]
      rcases live_update_cases hc' with ⟨rfl, hnew⟩ | ⟨hne, hold⟩
      · rw [hp'] at hnew
        cases hnew
        rw [Function.update_self]
      · have hsid : sid' ≠ sid := by
          intro hsid
          rw [← hsid] at hfresh
          exact hfresh c' hne (Phase.owned_of_live hold)
        rw [Function.update_of_ne hsid]
        exact h.entry c' gid' sid' key' hold
    · rw [hp'] at ho'
      cases ho'
      exact hfresh c' hc'
  · refine ⟨fun c' gid' sid' key' hc' => ?_, h.distinct_update fun c' sid' hc' ho' => ?_⟩
    · show st.registry sid' = _
      rw [hreg]
      rcases live_update_cases hc' with ⟨-, hnew⟩ | ⟨-, hold⟩
      · rw [hlive] at hnew
        cases hnew
      · exact h.entry c' gid' sid' key' hold
    · rw [howned] at ho'
      cases ho'
  · -- the entry of the handler that ends is removed
    refine ⟨fun c' gid' sid' key' hc' => ?_, h.distinct_update fun c' sid' hc' ho' => ?_⟩
    · show st.registry sid' = _
      rcases live_update_cases hc' with ⟨-, hnew⟩ | ⟨hcc, hold⟩
      · rw [hp'] at hnew
        cases hnew
      · have hne : sid ≠ some sid' := by
          intro hsid
          have howned : (s.phase c).owned = some sid' := by
            rw [hp]
            exact hsid
          exact h.distinct c c' sid' (Ne.symm hcc) howned (Phase.owned_of_live hold)
        rw [hreg, if_neg hne]
        exact h.entry c' gid' sid' key' hold
    · rw [hp'] at ho'
      cases ho'

lemma LiveEntries.tracksLiveSessions {s : ServerState B} (h : LiveEntries s) :
    TracksLiveSessions s := by
  intro c gid sid key hc
  exact h.entry c gid sid key (Phase.live_of_served hc)

lemma liveEntries_initial (maxReadings : ℕ) (log : List PyStr) :
    LiveEntries (initial maxReadings log : ServerState B) :=
  ⟨fun _ _ _ _ h => (by cases h), fun _ _ _ _ h => (by cases h)⟩

/-- **The registry tracks live sessions**, in every state of every run in which no
session is registered under an id that is still in use. -/
theorem registry_tracks_live_sessions {maxReadings : ℕ} {log : List PyStr}
    {τ : List (ℕ × ConnEvent)}
    (hτ : Along (step cfg addr) (FreshSessionId cfg) (initial maxReadings log) τ) :
    TracksLiveSessions (run (step cfg addr) (initial maxReadings log) τ) :=
  (inv_run (J := LiveEntries) (fun _ _ h hev => h.step hev)
    (liveEntries_initial maxReadings log) hτ).tracksLiveSessions

/-- The handshake of a gateway under a session id that is free. -/
lemma along_freshSessionId (table : ℕ → Option Json) {c : ℕ} {sid : PyStr} (hsid : sid ≠ [])
    {s : ServerState Bytes} (hc : s.phase c = .new)
    (hfree : ∀ c', c' ≠ c → (s.phase c').owned ≠ some sid) :
    Along (step (demoCloud table) demoAddr) (FreshSessionId (demoCloud table)) s
      (handshakeEvents c demoRequest (demoEncaps c sid)) := by
  have hother : ∀ (t : ServerState Bytes) (ev : ConnEvent), (∀ o, ev ≠ .recv o) →
      FreshSessionId (demoCloud table) t (c, ev) :=
    fun t ev hev _ o _ _ _ ho => absurd ho (hev o)
  refine ⟨hother _ _ (by simp), ?_, hother _ _ (by simp), ?_, hother _ _ (by simp), trivial⟩
  · -- the request is read in another phase
    intro gid o sid' key hp
    rw [step, hc] at hp
    simp [handlerStep] at hp
  · intro gid o sid' key _ ho hkey c' hc'
    cases ho
    rw [ReadOutcome.result, ok_bind, deriveSession_demoEncaps _ hsid] at hkey
    cases hkey
    have hc'' : c' ≠ c := hc'
    simp only [step, Function.update_of_ne hc'']
    exact hfree c' hc''

/-- Two gateways with session ids of their own. -/
theorem registry_tracks_two_sessions :
    TracksLiveSessions (run (step (demoCloud fun _ => none) demoAddr) (initial 100 [])
      (handshakeEvents 0 demoRequest (demoEncaps 0 (lit "a1"))
        ++ handshakeEvents 1 demoRequest (demoEncaps 1 (lit "b2")))) := by
  refine registry_tracks_live_sessions (along_append.2 ⟨?_, ?_⟩)
  · exact along_freshSessionId _ (by decide) rfl fun c' _ => nofun
  · rw [run_demoHandshake _ (by decide) rfl]
    refine along_freshSessionId _ (by decide) rfl fun c' _ => ?_
    by_cases h : c' = 0
    · rw [h]
      decide
    · dsimp only
      rw [Function.update_of_ne h]
      nofun

/-- A gateway that chooses the session id of another one takes its entry away. -/
theorem registry_loses_live_session :
    ¬ TracksLiveSessions (run (step (demoCloud fun _ => none) demoAddr) (initial 100 [])
      (handshakeEvents 0 demoRequest (demoEncaps 0 (lit "a1"))
        ++ handshakeEvents 1 demoRequest (demoEncaps 1 (lit "a1")))) := by
  intro h
  rw [run_append, run_demoHandshake _ (by decide) rfl, run_demoHandshake _ (by decide) rfl] at h
  have hentry := h 0 (lit "gw-01") (lit "a1") (demoKey 0) rfl
  cases hentry

end PqcBridge.Cloud
