/-
What the gateway says of itself (`status_provider` in `gateway/gateway.py`).

The provider reads the channel attribute by attribute and without a lock, while the threads go
on: `is_established` is called twice, and each call reads three attributes.  Its reads come at
moments of a run, one not before the other.

* `status`: the dictionary of the provider;
* `health_truthful`: what the dictionary says of the run.
-/
import PqcBridge.Common.Observations
import PqcBridge.Gateway.WireSessions
import PqcBridge.Lib.Moments

namespace PqcBridge.Gateway.Wire

open Python Protocol Crypto Runs

/-! ### The provider -/

/-- `State.value`. -/
def stateValue : Gateway.State → PyStr
  | .disconnected => lit "disconnected"
  | .connecting => lit "connecting"
  | .establishing => lit "establishing"
  | .established => lit "established"
  | .failed => lit "failed"

/-- `json` of a `str` or `None`. -/
def optional : Option PyStr → Json
  | some s => .str s
  | none => .null

section Provider

variable (chs : ℕ → CloudChannel Octets)

/-- `is_established`, of which the reads are number `i`, `i + 1` and `i + 2`. -/
def establishedFrom (i : ℕ) : Bool :=
  (chs i).state = .established && (chs (i + 1)).sock.isSome && (chs (i + 2)).sessionKey.isSome

/-- `**metrics.snapshot()`. -/
def snapshot (metrics : Metrics) (timings : JsonDict) : JsonDict :=
  [(lit "counters", .obj metrics.counts), (lit "timings", .obj timings)]

/-- The dictionary of the provider, where `chs i` is the channel at read `i`. -/
def status (timings : JsonDict) : JsonDict :=
  [(lit "status", .str (if establishedFrom chs 0 then lit "ok" else lit "degraded")),
    (lit "cloud_session_id", optional (chs 3).sessionId),
    (lit "cloud_connected", .bool (establishedFrom chs 4)),
    (lit "cloud_state", .str (stateValue (chs 7).state))] ++ snapshot (chs 8).metrics timings

end Provider

variable (P : Primitives Octets) (cfg : GatewayConfig Octets)

/-- The state at read `i` of a request. -/
def seenAt (τ : List Event) (m : Moments) (i : ℕ) : State := seen (step P cfg) initial τ m i

/-- The channel at the reads of a request. -/
def view (τ : List Event) (m : Moments) (i : ℕ) : CloudChannel Octets :=
  (seenAt P cfg τ m i).channel

/-! ### What it says -/

/-- The channel has a socket, on which a session was negotiated that has its id and its key. -/
def HasSession (s : State) : Prop := ∃ k, s.channel.sock = some k ∧ SessionOk P cfg s k

/-- What the dictionary says of the states `seen 0, …, seen 8`. -/
structure Truthful (seen : ℕ → State) (d : JsonDict) : Prop where
  /-- `ok` is said where there was a session a moment ago, and then the id is that of a session -/
  ok : d.field "status" = some (.str (lit "ok")) → HasSession P cfg (seen 1) ∧
    ∃ sid, d.field "cloud_session_id" = some (.str sid)
  connected : d.field "cloud_connected" = some (.bool true) → HasSession P cfg (seen 5)
  /-- an id that is shown was negotiated, whatever the status -/
  sessionId : ∀ sid, d.field "cloud_session_id" = some (.str sid) →
    ∃ k key, (seen 3).sessions k = some (sid, key)
  state : d.field "cloud_state" = some (.str (stateValue (seen 7).channel.state))
  /-- the counters are those of the snapshot, an entry for each that has counted -/
  counters : ∃ counts, d.field "counters" = some (.obj counts) ∧
    ∀ c : Counter, counts.lookup c.name = (if (seen 8).channel.metrics c = 0 then none
      else some (.int ((seen 8).channel.metrics c)))
  /-- and there the sessions are counted, but for one that a thread is publishing -/
  counter : ((∀ i, ((seen 8).threads i).uncounted = false) →
      (seen 8).channel.metrics .mlkemSessionsEstablished = (negotiated (seen 8)).card) ∧
    ((∃ i, ((seen 8).threads i).uncounted = true) →
      (seen 8).channel.metrics .mlkemSessionsEstablished + 1 = (negotiated (seen 8)).card)
  /-- while nothing changes, everything agrees -/
  steady : ∀ ch, (∀ i ≤ 8, (seen i).channel = ch) →
    (d.field "status" = some (.str (lit "ok")) ↔ ch.isEstablished = true) ∧
    d.field "cloud_connected" = some (.bool ch.isEstablished) ∧
    d.field "cloud_session_id" = some (optional ch.sessionId) ∧
    d.field "cloud_state" = some (.str (stateValue ch.state))

variable {P cfg} {τ : List Event} {m : Moments}

section

variable {chs : ℕ → CloudChannel Octets} {timings : JsonDict}

lemma status_ok_iff :
    (status chs timings).field "status" = some (.str (lit "ok"))
      ↔ establishedFrom chs 0 = true := by
  have hfield : (status chs timings).field "status"
      = some (.str (if establishedFrom chs 0 then lit "ok" else lit "degraded")) := rfl
  rw [hfield]
  cases establishedFrom chs 0
  · have hne : lit "degraded" ≠ lit "ok" := by decide
    simpa using hne
  · simp

/-- An answer of `is_established` has read a socket. -/
lemma sock_of_establishedFrom {i : ℕ} (h : establishedFrom chs i = true) :
    ∃ k, (chs (i + 1)).sock = some k := by
  rw [establishedFrom, Bool.and_eq_true, Bool.and_eq_true] at h
  exact Option.isSome_iff_exists.1 h.1.2

lemma establishedFrom_of_eq {i : ℕ} {ch : CloudChannel Octets}
    (h : ∀ j, i ≤ j → j ≤ i + 2 → chs j = ch) : establishedFrom chs i = ch.isEstablished := by
  rw [establishedFrom, h i le_rfl (by omega), h (i + 1) (by omega) (by omega),
    h (i + 2) (by omega) le_rfl]
  rfl

end

lemma hasSession_of_sock {i k : ℕ} (h : (view P cfg τ m i).sock = some k) :
    HasSession P cfg (seenAt P cfg τ m i) :=
  ⟨k, h, (ok_run P cfg _).session k h⟩

/-- An id that one read has seen is still there for a later one. -/
lemma sessionId_later {i j : ℕ} (hij : i ≤ j) (h : (view P cfg τ m i).sessionId ≠ none) :
    (view P cfg τ m j).sessionId ≠ none := by
  have hstays := fun τ τ' hid => (ok_run P cfg τ).sessionId_stays hid τ'
  exact stays_seen (fun s : State => s.channel.sessionId ≠ none) hstays hij h

variable (P cfg) in
/-- **The health endpoint is truthful.**  Whatever the threads do between the reads of a request,
`ok` and `cloud_connected` are said only of a session that was there while they were read, the id
that is shown was negotiated, and the counters are those of the moment of the snapshot, where the
one of the sessions is behind by the one session that a thread may be about to count. -/
theorem health_truthful (τ : List Event) (m : Moments) (timings : JsonDict) :
    Truthful P cfg (seenAt P cfg τ m) (status (view P cfg τ m) timings) := by
  have hid : (status (view P cfg τ m) timings).field "cloud_session_id"
      = some (optional (view P cfg τ m 3).sessionId) := rfl
  have hconnected : (status (view P cfg τ m) timings).field "cloud_connected"
      = some (.bool (establishedFrom (view P cfg τ m) 4)) := rfl
  have hcounters : (status (view P cfg τ m) timings).field "counters"
      = some (.obj (view P cfg τ m 8).metrics.counts) := rfl
  refine ⟨fun hok => ?_, fun hcon => ?_, fun sid hsid => ?_, rfl, ?_, ?_, fun ch hch => ?_⟩
  · obtain ⟨k, hk⟩ := sock_of_establishedFrom (status_ok_iff.1 hok)
    obtain ⟨k', hk', hsession⟩ := hasSession_of_sock hk
    refine ⟨⟨k', hk', hsession⟩, ?_⟩
    -- the id is read later than the socket
    obtain ⟨sid, key, -, hsid, -⟩ := hsession.session
    have hlater : (view P cfg τ m 3).sessionId ≠ none := by
      refine sessionId_later (i := 1) (by omega) ?_
      rw [view, hsid]
      simp
    obtain ⟨sid', hsid'⟩ := Option.ne_none_iff_exists'.1 hlater
    exact ⟨sid', by rw [hid, hsid']; rfl⟩
  · rw [hconnected] at hcon
    obtain ⟨k, hk⟩ := sock_of_establishedFrom (Json.bool.inj (Option.some.inj hcon))
    exact hasSession_of_sock hk
  · rw [hid] at hsid
    rcases hview : (view P cfg τ m 3).sessionId with _ | sid'
    · rw [hview] at hsid
      cases hsid
    · rw [hview] at hsid
      cases hsid
      exact (recorded_run P cfg _).id _ hview
  · exact ⟨_, hcounters, Metrics.lookup_counts _⟩
  · rcases (recorded_run P cfg (τ.take (m.moment 8))).counter with ⟨⟨i, hi⟩, hcard⟩ | ⟨hnone, hcard⟩
    · exact ⟨fun hnone => Bool.noConfusion ((hnone i).symm.trans hi), fun _ => hcard.symm⟩
    · exact ⟨fun _ => hcard.symm, fun ⟨i, hi⟩ => Bool.noConfusion ((hnone i).symm.trans hi)⟩
  · have hsteady : ∀ i, i + 2 ≤ 8 → establishedFrom (view P cfg τ m) i = ch.isEstablished :=
      fun i hi => establishedFrom_of_eq fun j _ hj => hch j (hj.trans hi)
    refine ⟨?_, ?_, ?_, ?_⟩
    · rw [status_ok_iff, hsteady 0 (by omega)]
    · rw [hconnected, hsteady 4 (by omega)]
    · rw [hid, view, hch 3 (by omega)]
    · show some (Json.str (stateValue (seenAt P cfg τ m 7).channel.state)) = _
      rw [hch 7 (by omega)]

end PqcBridge.Gateway.Wire
