/-
What the gateway counts of its devices, and what it keeps of them.

An admission is counted after it has been decided, and a new device after it has been added to
`_seen_devices`; other threads come in between.  A device is counted as detected once, over all
its connections.

* `deviceStep_counts`: what one step of a handler does to these counters;
* `admissions_exact`: they are the numbers of connections, of admissions and of admitted devices,
  but for what the handlers that stand before the next count have yet to add.
-/
import PqcBridge.Gateway.Accounting
import PqcBridge.Lib.Counting

namespace PqcBridge.Gateway.Admissions

open Python Protocol Crypto Runs Accounting Counting

variable {B : Type} {P : Primitives B} {cfg : GatewayConfig B} {deviceKeys : KeyRegistry P}

/-! ### One step -/

/-- The counters that are raised in `_handle` and `_admit_or_serve` only. -/
def admissionCounters : List Counter :=
  [.deviceConnections, .fallbackActivations, .legacyDevicesDetected]

/-- The counters and the set of devices are as they were. -/
structure Quiet (st st' : GatewayState B) : Prop where
  counters : ∀ k ∈ admissionCounters, st'.channel.metrics k = st.channel.metrics k
  seen : st'.seenDevices = st.seenDevices

variable {st st' : GatewayState B}

lemma Quiet.refl (st : GatewayState B) : Quiet st st := ⟨fun _ _ => rfl, rfl⟩

/-- Another counter is raised. -/
lemma Quiet.inc (h : Quiet st st') {name : Counter} (hname : name ∉ admissionCounters) :
    Quiet st (st'.inc name) := by
  refine ⟨fun k hk => ?_, h.seen⟩
  have hne : k ≠ name := ne_of_mem_of_not_mem hk hname
  rw [inc_metrics, Metrics.inc_of_ne hne]
  exact h.counters k hk

lemma Quiet.onDeviceException (h : Quiet st st') (e : PyExc) :
    Quiet st (onDeviceException st' e).1 := by
  unfold Gateway.onDeviceException
  split_ifs
  · exact h
  · exact h.inc (by decide)
  · exact h

lemma quiet_acceptLegacy (st : GatewayState B) (m : JsonDict) (d : PyStr) (key : B) :
    Quiet st (acceptLegacy P st m d key).1 := by
  have hreceived : Quiet st (st.inc .messagesReceived) := (Quiet.refl st).inc (by decide)
  rcases acceptLegacy_cases (P := P) st m d key with h | ⟨e, h⟩ | ⟨b, sequence, -, -, h⟩
  · rw [h]
    exact hreceived.inc (by decide)
  · rw [h]
    exact hreceived
  · rw [h]
    have hupdated : Quiet st { st.inc .messagesReceived with
        replay := ⟨Function.update st.replay.lastSequence d (some sequence)⟩ } :=
      ⟨hreceived.counters, hreceived.seen⟩
    exact hupdated.inc (by decide)

variable (cfg) in
/-- The section under `_send_lock` counts nothing. -/
lemma sendPayload_metrics (ch : CloudChannel B) (io : IoOutcome) :
    (sendPayload cfg ch io).1.1.metrics = ch.metrics := by
  unfold sendPayload
  split
  · rfl
  · split
    · rfl
    · show (invalidate cfg ch).1.metrics = ch.metrics
      rw [Threads.invalidate_eq]
      split_ifs <;> rfl

/-- Where a connection stands in its admission. -/
inductive Standing where
  | new
  | hello
  | admitting
  | marking
  | detecting
  /-- the device is served, or the handler has finished -/
  | past
deriving DecidableEq, Repr

/-- Where the handler stands. -/
def standing : DevicePhase B → Standing
  | .new => .new
  | .hello => .hello
  | .admitting _ _ => .admitting
  | .marking _ _ => .marking
  | .detecting _ _ => .detecting
  | _ => .past

/-- The device of the connection is in `_seen_devices`, if it has been admitted. -/
def Marked (p : DevicePhase B) : Prop := standing p = .detecting ∨ standing p = .past

/-- The device that a step of a handler admits. -/
def admitted : DevicePhase B → DevicePhase B → Option PyStr
  | .hello, .admitting deviceId _ => some deviceId
  | _, _ => none

/-- What a step does to the counters of admissions: it is one of their statements, or they are
as they were. -/
inductive Counts (deviceKeys : KeyRegistry P) (st st' : GatewayState B) :
    DevicePhase B → DevicePhase B → Prop
  | accepted (h : st' = st.inc .deviceConnections) : Counts deviceKeys st st' .new .hello
  | admitted (d : PyStr) (key : B) (hkey : deviceKeys.keys d = some key) (h : st' = st) :
    Counts deviceKeys st st' .hello (.admitting d key)
  | activated (d : PyStr) (key : B) (h : st' = st.inc .fallbackActivations) :
    Counts deviceKeys st st' (.admitting d key) (.marking d key)
  | known (d : PyStr) (key : B) (hd : d ∈ st.seenDevices) (h : st' = st) :
    Counts deviceKeys st st' (.marking d key) (.serving d key)
  /-- the first admission of the device -/
  | marked (d : PyStr) (key : B) (hd : d ∉ st.seenDevices)
    (h : st' = { st with seenDevices := d :: st.seenDevices }) :
    Counts deviceKeys st st' (.marking d key) (.detecting d key)
  | detected (d : PyStr) (key : B) (h : st' = st.inc .legacyDevicesDetected) :
    Counts deviceKeys st st' (.detecting d key) (.serving d key)
  | quiet (p p' : DevicePhase B) (h : Quiet st st')
    (hstanding : standing p' = standing p ∨ standing p = .hello ∧ standing p' = .past)
    (hdevice : ∀ x, p'.device = some x → p.device = some x) : Counts deviceKeys st st' p p'

/-- A handler that has finished serves no device. -/
lemma Counts.ends {p p' : DevicePhase B} (h : Quiet st st')
    (hp : standing p = .hello ∨ standing p = .past) (hclosed : ∃ escaped, p' = .closed escaped) :
    Counts deviceKeys st st' p p' := by
  obtain ⟨escaped, rfl⟩ := hclosed
  refine .quiet _ _ h ?_ (fun x hx => by cases hx)
  rcases hp with hp | hp
  · exact Or.inr ⟨hp, rfl⟩
  · exact Or.inl hp.symm

variable (cfg deviceKeys) in
/-- The step lemma of a handler. -/
lemma deviceStep_counts (st : GatewayState B) (p : DevicePhase B) (ev : DeviceEvent B) :
    Counts deviceKeys st (deviceStep P cfg deviceKeys st p ev).1 p
      (deviceStep P cfg deviceKeys st p ev).2 := by
  have hself : Quiet st st := .refl st
  -- an exception ends the handler, and counts an error at most
  have hraised : ∀ (p : DevicePhase B), standing p = .hello ∨ standing p = .past →
      ∀ st', Quiet st st' → ∀ e : PyExc,
        Counts deviceKeys st (onDeviceException st' e).1 p (onDeviceException st' e).2 :=
    fun p hp st' hquiet e => .ends (hquiet.onDeviceException e) hp (onDeviceException_snd st' e)
  unfold deviceStep
  split
  · exact .accepted rfl
  · next o =>
    split
    · exact hraised _ (Or.inl rfl) st hself _
    · next hello _ =>
      rcases admitDevice_cases (P := P) deviceKeys st hello with h | ⟨e, h⟩ | ⟨key, hkey, -, h⟩
      · simp only [h]
        exact .ends (hself.inc (by decide)) (Or.inl rfl) ⟨none, rfl⟩
      · simp only [h]
        exact hraised _ (Or.inl rfl) st hself e
      · simp only [h]
        exact .admitted _ _ hkey rfl
  · exact .activated _ _ rfl
  · split_ifs with hd
    · exact .known _ _ hd rfl
    · exact .marked _ _ hd rfl
  · exact .detected _ _ rfl
  · next d key o =>
    split
    · exact hraised _ (Or.inr rfl) st hself _
    · next m _ =>
      have hquiet := quiet_acceptLegacy (P := P) st m d key
      split
      · next st' e h =>
        rw [h] at hquiet
        exact hraised _ (Or.inr rfl) st' hquiet e
      · next st' h =>
        rw [h] at hquiet
        exact .quiet _ _ hquiet (Or.inl rfl) fun _ hx => hx
      · next st' b h =>
        rw [h] at hquiet
        exact .quiet _ _ hquiet (Or.inl rfl) fun _ hx => hx
  · split
    · exact hraised _ (Or.inr rfl) st hself _
    · exact .quiet _ _ hself (Or.inl rfl) fun _ hx => hx
  · split
    · exact hraised _ (Or.inr rfl) st hself _
    · exact .quiet _ _ hself (Or.inl rfl) fun _ hx => hx
  · next d key payload io =>
    have hmetrics := sendPayload_metrics cfg st.channel io
    split
    next ch starts res h =>
      rw [h] at hmetrics
      have hquiet : Quiet st { st with
          channel := ch
          reconnectsStarted := st.reconnectsStarted + if starts then 1 else 0 } :=
        ⟨fun k _ => congrFun hmetrics k, rfl⟩
      dsimp only
      split
      · exact hraised _ (Or.inr rfl) _ hquiet _
      · exact .quiet _ _ (hquiet.inc (by decide)) (Or.inl rfl) fun _ hx => hx
  · exact .quiet _ _ hself (Or.inl rfl) fun _ hx => hx

variable (cfg deviceKeys) in
/-- The replay guard gets to know no device but the one that the handler serves. -/
lemma replay_deviceStep (st : GatewayState B) (p : DevicePhase B) (ev : DeviceEvent B) (d : PyStr)
    (h : (deviceStep P cfg deviceKeys st p ev).1.replay.lastSequence d ≠ none) :
    st.replay.lastSequence d ≠ none ∨ ∃ key, p = .serving d key := by
  rcases hacc : acceptedBy P st p ev with _ | x
  · rw [(deviceStep_of_not_acceptedBy cfg deviceKeys hacc).1] at h
    exact Or.inl h
  · obtain ⟨hst, key, rfl, -⟩ := deviceStep_of_acceptedBy cfg deviceKeys hacc
    rw [hst] at h
    by_cases hd : d = x.deviceId
    · exact Or.inr ⟨key, by rw [hd]⟩
    · refine Or.inl ?_
      replace h : Function.update st.replay.lastSequence x.deviceId (some x.sequence) d ≠ none := h
      rwa [Function.update_of_ne hd] at h

variable (cfg) in
/-- The threads of the channel count errors and sessions. -/
lemma threadStep_metrics (i : ℕ) (ch : CloudChannel B) (pc : ReconnectPc B) (a : Attempt B) :
    ∀ k ∈ admissionCounters, (Threads.threadStep P cfg i ch pc a).1.metrics k = ch.metrics k := by
  intro k hk
  have hne : k ≠ .errors ∧ k ≠ .mlkemSessionsEstablished := by
    constructor <;> rintro rfl <;> revert hk <;> decide
  unfold Threads.threadStep
  split
  · rfl
  · unfold reconnectStep
    split
    · rfl
    · rfl
    · split <;> rfl
    · split <;> rfl
    · rfl
    · exact Metrics.inc_of_ne hne.2
    · rfl
    · rfl
    · split_ifs
      · exact Metrics.inc_of_ne hne.1
      · rfl
    · rfl
    · rfl

/-! ### The gateway -/

variable (P cfg deviceKeys) in
/-- The connection and the device of an admission. -/
def admissionOf (s : Accounting.State B) : Event B → List (ℕ × PyStr)
  | .device c ev =>
    if Threads.running (s.threads 0) then []
    else (admitted (s.phase c) (deviceStep P cfg deviceKeys s.shared (s.phase c) ev).2).toList.map
      (Prod.mk c)
  | .thread _ _ => []

variable (P cfg deviceKeys) in
/-- A step, with the admissions so far. -/
def trackedStep (s : Accounting.State B × List (ℕ × PyStr)) (ev : Event B) :
    Accounting.State B × List (ℕ × PyStr) :=
  (step P cfg deviceKeys s.1 ev, s.2 ++ admissionOf P cfg deviceKeys s.1 ev)

/-- A gateway that has just started, and has admitted nobody. -/
def trackedInitial : Accounting.State B × List (ℕ × PyStr) := (initial, [])

/-- What the gateway has counted and kept after the admissions `ds`. -/
structure Tally (deviceKeys : KeyRegistry P) (s : Accounting.State B) (ds : List (ℕ × PyStr)) :
    Prop where
  connections : Counting.Counts s.phase (fun p => standing p ≠ .new)
    (s.shared.channel.metrics .deviceConnections)
  admissions : ∃ n, Counting.Counts s.phase (fun p => standing p = .admitting) n ∧
    s.shared.channel.metrics .fallbackActivations + n = ds.length
  /-- a connection is admitted once -/
  once : (ds.map Prod.fst).Nodup
  started : ∀ x ∈ ds, standing (s.phase x.1) ≠ .new ∧ standing (s.phase x.1) ≠ .hello
  serving : ∀ c d key, (s.phase c).device = some (d, key) → (c, d) ∈ ds
  detected : ∃ n, Counting.Counts s.phase (fun p => standing p = .detecting) n ∧
    s.shared.channel.metrics .legacyDevicesDetected + n = s.shared.seenDevices.length
  nodup : s.shared.seenDevices.Nodup
  seen : ∀ d, d ∈ s.shared.seenDevices ↔ ∃ c, (c, d) ∈ ds ∧ Marked (s.phase c)
  registered : ∀ x ∈ ds, (deviceKeys.keys x.2).isSome = true
  replay : ∀ d, s.shared.replay.lastSequence d ≠ none → d ∈ s.shared.seenDevices

variable {s s' : Accounting.State B} {ds : List (ℕ × PyStr)}

/-- A step of a thread of the channel. -/
lemma Tally.thread (h : Tally deviceKeys s ds) (i : ℕ) (a : Attempt B) :
    Tally deviceKeys (step P cfg deviceKeys s (.thread i a)) ds := by
  have hkept := threadStep_metrics (P := P) cfg i s.shared.channel (s.threads i) a
  obtain ⟨n, hcounts, hadmissions⟩ := h.admissions
  obtain ⟨k, hcounts', hdetected⟩ := h.detected
  refine ⟨?_, ⟨n, hcounts, ?_⟩, h.once, h.started, h.serving, ⟨k, hcounts', ?_⟩, h.nodup, h.seen,
    h.registered, h.replay⟩
  · have hconnections := h.connections
    rwa [← hkept .deviceConnections (by decide)] at hconnections
  · exact (congrArg (· + n) (hkept .fallbackActivations (by decide))).trans hadmissions
  · exact (congrArg (· + k) (hkept .legacyDevicesDetected (by decide))).trans hdetected

/-- A connection that has not been admitted. -/
lemma Tally.fresh (h : Tally deviceKeys s ds) {c : ℕ}
    (hc : standing (s.phase c) = .new ∨ standing (s.phase c) = .hello) :
    c ∉ ds.map Prod.fst := by
  intro hmem
  obtain ⟨x, hx, rfl⟩ := List.mem_map.1 hmem
  rcases hc with hc | hc
  · exact (h.started x hx).1 hc
  · exact (h.started x hx).2 hc

/-- A connection is that of one device. -/
lemma Tally.unique (h : Tally deviceKeys s ds) {c : ℕ} {d d' : PyStr} (hd : (c, d) ∈ ds)
    (hd' : (c, d') ∈ ds) : d = d' :=
  congrArg Prod.snd (List.inj_on_of_nodup_map h.once hd hd' rfl)

/-- The handler of an admitted device goes on. -/
structure Advances (s s' : Accounting.State B) (c : ℕ) (p' : DevicePhase B) : Prop where
  phase : s'.phase = Function.update s.phase c p'
  started : standing p' = .new ∨ standing p' = .hello →
    standing (s.phase c) = .new ∨ standing (s.phase c) = .hello
  device : ∀ x, p'.device = some x → (s.phase c).device = some x

lemma Advances.started_of {c : ℕ} {p' : DevicePhase B} (hs : Advances s s' c p')
    (h : Tally deviceKeys s ds) :
    ∀ x ∈ ds, standing (s'.phase x.1) ≠ .new ∧ standing (s'.phase x.1) ≠ .hello := by
  intro x hx
  rw [hs.phase, Function.update_apply]
  split_ifs with hc
  · have hmem : c ∈ ds.map Prod.fst := hc ▸ List.mem_map_of_mem hx
    exact ⟨fun hp => h.fresh (hs.started (Or.inl hp)) hmem,
      fun hp => h.fresh (hs.started (Or.inr hp)) hmem⟩
  · exact h.started x hx

lemma Advances.serving_of {c : ℕ} {p' : DevicePhase B} (hs : Advances s s' c p')
    (h : Tally deviceKeys s ds) :
    ∀ c d key, (s'.phase c).device = some (d, key) → (c, d) ∈ ds := by
  intro c' d key hd
  rw [hs.phase, Function.update_apply] at hd
  split_ifs at hd with hc
  · exact h.serving c' d key (by rw [hc]; exact hs.device _ hd)
  · exact h.serving c' d key hd

/-- Where the marked connections are, if one moves that was not admitted, or that is marked as
before. -/
lemma marked_update (phase : ℕ → DevicePhase B) {c : ℕ} (p' : DevicePhase B)
    (h : c ∈ ds.map Prod.fst → (Marked p' ↔ Marked (phase c))) (d : PyStr) :
    (∃ c', (c', d) ∈ ds ∧ Marked (Function.update phase c p' c')) ↔
      ∃ c', (c', d) ∈ ds ∧ Marked (phase c') := by
  refine exists_congr fun c' => and_congr_right fun hc' => ?_
  rw [Function.update_apply]
  split_ifs with hc
  · rw [hc, h (hc ▸ List.mem_map_of_mem hc')]
  · rfl

/-- A connection is marked. -/
lemma Tally.marks (h : Tally deviceKeys s ds) {c : ℕ} {p' : DevicePhase B} {d₀ : PyStr}
    (hd₀ : (c, d₀) ∈ ds) (hp' : Marked p') (d : PyStr) :
    (∃ c', (c', d) ∈ ds ∧ Marked (Function.update s.phase c p' c')) ↔
      d = d₀ ∨ d ∈ s.shared.seenDevices := by
  rw [h.seen]
  constructor
  · rintro ⟨c', hc', hmarked⟩
    by_cases hc : c' = c
    · exact Or.inl (h.unique (hc ▸ hc') hd₀)
    · rw [Function.update_of_ne hc] at hmarked
      exact Or.inr ⟨c', hc', hmarked⟩
  · rintro (rfl | ⟨c', hc', hmarked⟩)
    · exact ⟨c, hd₀, by rwa [Function.update_self]⟩
    · refine ⟨c', hc', ?_⟩
      rw [Function.update_apply]
      split_ifs
      · exact hp'
      · exact hmarked

/-- A step that neither accepts a connection nor admits a device, nor adds one to the set. -/
lemma Tally.advance (h : Tally deviceKeys s ds) {c : ℕ} {p' : DevicePhase B}
    (hs : Advances s s' c p') (hnew : standing p' = .new ↔ standing (s.phase c) = .new)
    (hconnections : s'.shared.channel.metrics .deviceConnections
      = s.shared.channel.metrics .deviceConnections)
    (hadmissions : ∃ n, Counting.Counts s'.phase (fun p => standing p = .admitting) n ∧
      s'.shared.channel.metrics .fallbackActivations + n = ds.length)
    (hdetected : ∃ n, Counting.Counts s'.phase (fun p => standing p = .detecting) n ∧
      s'.shared.channel.metrics .legacyDevicesDetected + n = s.shared.seenDevices.length)
    (hseen : s'.shared.seenDevices = s.shared.seenDevices)
    (hmarked : ∀ d, (∃ c', (c', d) ∈ ds ∧ Marked (s'.phase c')) ↔
      ∃ c', (c', d) ∈ ds ∧ Marked (s.phase c'))
    (hreplay : ∀ d, s'.shared.replay.lastSequence d ≠ none → d ∈ s.shared.seenDevices) :
    Tally deviceKeys s' ds := by
  refine ⟨?_, hadmissions, h.once, hs.started_of h, hs.serving_of h, ?_, hseen ▸ h.nodup,
    fun d => ?_, h.registered, hseen ▸ hreplay⟩
  · rw [hs.phase, hconnections]
    exact h.connections.keep (not_congr hnew)
  · rw [hseen]
    exact hdetected
  · rw [hseen, h.seen, hmarked]

/-- A connection is accepted. -/
lemma Tally.accepted (h : Tally deviceKeys s ds) {c : ℕ} (hc : s.phase c = .new)
    (hphase : s'.phase = Function.update s.phase c .hello)
    (hshared : s'.shared = s.shared.inc .deviceConnections) : Tally deviceKeys s' ds := by
  obtain ⟨shared', phase', threads', ledger'⟩ := s'
  obtain rfl : phase' = Function.update s.phase c .hello := hphase
  obtain rfl : shared' = s.shared.inc .deviceConnections := hshared
  obtain ⟨n, hcounts, hadmissions⟩ := h.admissions
  obtain ⟨k, hcounts', hdetected⟩ := h.detected
  have hfresh : c ∉ ds.map Prod.fst := h.fresh (Or.inl (by rw [hc]; rfl))
  refine ⟨?_, ⟨n, hcounts.keep (by simp [hc, standing]), ?_⟩, h.once, fun x hx => ?_,
    fun c' d key hd => ?_, ⟨k, hcounts'.keep (by simp [hc, standing]), ?_⟩, h.nodup, fun d => ?_,
    h.registered, h.replay⟩
  · rw [inc_metrics, Metrics.inc_self]
    exact h.connections.enter (by simp [hc, standing]) (by simp [standing])
  · rw [inc_metrics, Metrics.inc_of_ne (by decide)]
    exact hadmissions
  · have hxc : x.1 ≠ c := fun hxc => hfresh (hxc ▸ List.mem_map_of_mem hx)
    dsimp only
    rw [Function.update_of_ne hxc]
    exact h.started x hx
  · dsimp only at hd
    rw [Function.update_apply] at hd
    split_ifs at hd
    · cases hd
    · exact h.serving c' d key hd
  · rw [inc_metrics, Metrics.inc_of_ne (by decide)]
    exact hdetected
  · exact (h.seen d).trans (marked_update _ _ (fun hmem => absurd hmem hfresh) d).symm

/-- A device is admitted. -/
lemma Tally.admitted (h : Tally deviceKeys s ds) {c : ℕ} {d : PyStr} {key : B}
    (hc : s.phase c = .hello) (hphase : s'.phase = Function.update s.phase c (.admitting d key))
    (hkey : (deviceKeys.keys d).isSome = true) (hshared : s'.shared = s.shared) :
    Tally deviceKeys s' (ds ++ [(c, d)]) := by
  obtain ⟨shared', phase', threads', ledger'⟩ := s'
  obtain rfl : phase' = Function.update s.phase c (.admitting d key) := hphase
  obtain rfl : shared' = s.shared := hshared
  obtain ⟨n, hcounts, hadmissions⟩ := h.admissions
  obtain ⟨k, hcounts', hdetected⟩ := h.detected
  have hfresh : c ∉ ds.map Prod.fst := h.fresh (Or.inr (by rw [hc]; rfl))
  refine ⟨h.connections.keep (by simp [hc, standing]),
    ⟨n + 1, hcounts.enter (by simp [hc, standing]) rfl, ?_⟩, ?_, fun x hx => ?_,
    fun c' d' key' hd => ?_, ⟨k, hcounts'.keep (by simp [hc, standing]), hdetected⟩, h.nodup,
    fun d' => ?_, fun x hx => ?_, h.replay⟩
  · rw [List.length_append, List.length_singleton, ← hadmissions, add_assoc]
  · rw [List.map_append, List.nodup_append]
    refine ⟨h.once, List.nodup_singleton c, fun a ha b hb hab => hfresh ?_⟩
    replace hb : b = c := List.mem_singleton.1 hb
    rwa [← hb, ← hab]
  · dsimp only
    rw [Function.update_apply]
    split_ifs with hxc
    · simp [standing]
    · rcases List.mem_append.1 hx with hx | hx
      · exact h.started x hx
      · rw [List.mem_singleton.1 hx] at hxc
        exact absurd rfl hxc
  · dsimp only at hd
    rw [Function.update_apply] at hd
    split_ifs at hd with hc'
    · cases hd
      rw [hc']
      exact List.mem_append_right _ (List.mem_singleton_self _)
    · exact List.mem_append_left _ (h.serving c' d' key' hd)
  · -- the new connection is not marked yet
    have hold := marked_update s.phase (.admitting d key)
      (fun hmem => absurd hmem hfresh) d'
    rw [h.seen, ← hold]
    refine exists_congr fun c' => and_congr_left fun hmarked => ?_
    rw [List.mem_append, List.mem_singleton]
    refine ⟨Or.inl, fun hmem => hmem.resolve_right fun heq => ?_⟩
    cases heq
    rw [Function.update_self] at hmarked
    rcases hmarked with hmarked | hmarked <;> cases hmarked
  · rcases List.mem_append.1 hx with hx | hx
    · exact h.registered x hx
    · rw [List.mem_singleton.1 hx]
      exact hkey

/-- A handler that serves no new device admits none. -/
lemma admitted_of_device {p p' : DevicePhase B}
    (h : ∀ x, p'.device = some x → p.device = some x) : admitted p p' = none := by
  unfold admitted
  split
  · cases h _ rfl
  · rfl

section Serve

variable {c : ℕ} {d : PyStr} {key : B}

/-- An admission is counted. -/
lemma Tally.activated (h : Tally deviceKeys s ds) (hp : s.phase c = .admitting d key)
    (hphase : s'.phase = Function.update s.phase c (.marking d key))
    (hshared : s'.shared = s.shared.inc .fallbackActivations)
    (hreplay : ∀ d, s'.shared.replay.lastSequence d ≠ none → d ∈ s.shared.seenDevices) :
    Tally deviceKeys s' ds := by
  obtain ⟨n, hadmitting, hadmissions⟩ := h.admissions
  obtain ⟨k, hdetecting, hdetected⟩ := h.detected
  obtain ⟨m, rfl, hleft⟩ := hadmitting.leave (i := c) (x := .marking d key)
    (by rw [hp]; rfl) (by simp [standing])
  refine h.advance ⟨hphase, by simp [standing], fun x hx => by rw [hp]; exact hx⟩
    (by simp [hp, standing]) ?_ ⟨m, hphase ▸ hleft, ?_⟩
    ⟨k, hphase ▸ hdetecting.keep (by simp [hp, standing]), ?_⟩ (by rw [hshared]; rfl) ?_ hreplay
  · rw [hshared, inc_metrics, Metrics.inc_of_ne (by decide)]
  · rw [hshared, inc_metrics, Metrics.inc_self]
    omega
  · rw [hshared, inc_metrics, Metrics.inc_of_ne (by decide)]
    exact hdetected
  · rw [hphase]
    exact marked_update _ _ fun _ => by simp [hp, Marked, standing]

/-- The device of an admission is in the set already. -/
lemma Tally.known (h : Tally deviceKeys s ds) (hp : s.phase c = .marking d key)
    (hd : d ∈ s.shared.seenDevices)
    (hphase : s'.phase = Function.update s.phase c (.serving d key))
    (hshared : s'.shared = s.shared)
    (hreplay : ∀ d, s'.shared.replay.lastSequence d ≠ none → d ∈ s.shared.seenDevices) :
    Tally deviceKeys s' ds := by
  obtain ⟨n, hadmitting, hadmissions⟩ := h.admissions
  obtain ⟨k, hdetecting, hdetected⟩ := h.detected
  refine h.advance ⟨hphase, by simp [standing], fun x hx => by rw [hp]; exact hx⟩
    (by simp [hp, standing]) (by rw [hshared])
    ⟨n, hphase ▸ hadmitting.keep (by simp [hp, standing]), hshared ▸ hadmissions⟩
    ⟨k, hphase ▸ hdetecting.keep (by simp [hp, standing]), hshared ▸ hdetected⟩ (by rw [hshared])
    (fun d' => ?_) hreplay
  rw [hphase, h.marks (h.serving c d key (by rw [hp]; rfl)) (Or.inr rfl), ← h.seen]
  exact ⟨fun hd' => hd'.elim (fun hd' => hd' ▸ hd) id, Or.inr⟩

/-- A device is admitted for the first time: it is in the set, and has yet to be counted. -/
lemma Tally.marked (h : Tally deviceKeys s ds) (hp : s.phase c = .marking d key)
    (hd : d ∉ s.shared.seenDevices)
    (hphase : s'.phase = Function.update s.phase c (.detecting d key))
    (hshared : s'.shared = { s.shared with seenDevices := d :: s.shared.seenDevices })
    (hreplay : ∀ d, s'.shared.replay.lastSequence d ≠ none → d ∈ s.shared.seenDevices) :
    Tally deviceKeys s' ds := by
  obtain ⟨n, hadmitting, hadmissions⟩ := h.admissions
  obtain ⟨k, hdetecting, hdetected⟩ := h.detected
  have hs : Advances s s' c (.detecting d key) :=
    ⟨hphase, by simp [standing], fun x hx => by rw [hp]; exact hx⟩
  have hseen : s'.shared.seenDevices = d :: s.shared.seenDevices := by rw [hshared]
  refine ⟨?_, ⟨n, hphase ▸ hadmitting.keep (by simp [hp, standing]), hshared ▸ hadmissions⟩, h.once,
    hs.started_of h, hs.serving_of h, ⟨k + 1, hphase ▸ hdetecting.enter (by simp [hp, standing])
      (by simp [standing]), ?_⟩, ?_, fun d' => ?_, h.registered, fun d' hd' => ?_⟩
  · rw [hphase, hshared]
    exact h.connections.keep (by simp [hp, standing])
  · rw [hseen, List.length_cons, ← hdetected, hshared, add_assoc]
  · rw [hseen]
    exact h.nodup.cons hd
  · rw [hphase, h.marks (h.serving c d key (by rw [hp]; rfl)) (Or.inl rfl), hseen, List.mem_cons]
  · rw [hseen]
    exact List.mem_cons_of_mem _ (hreplay d' hd')

/-- A new device is counted. -/
lemma Tally.counted (h : Tally deviceKeys s ds) (hp : s.phase c = .detecting d key)
    (hphase : s'.phase = Function.update s.phase c (.serving d key))
    (hshared : s'.shared = s.shared.inc .legacyDevicesDetected)
    (hreplay : ∀ d, s'.shared.replay.lastSequence d ≠ none → d ∈ s.shared.seenDevices) :
    Tally deviceKeys s' ds := by
  obtain ⟨n, hadmitting, hadmissions⟩ := h.admissions
  obtain ⟨k, hdetecting, hdetected⟩ := h.detected
  obtain ⟨m, rfl, hleft⟩ := hdetecting.leave (i := c) (x := .serving d key)
    (by rw [hp]; rfl) (by simp [standing])
  refine h.advance ⟨hphase, by simp [standing], fun x hx => by rw [hp]; exact hx⟩
    (by simp [hp, standing]) ?_
    ⟨n, hphase ▸ hadmitting.keep (by simp [hp, standing]), ?_⟩ ⟨m, hphase ▸ hleft, ?_⟩
    (by rw [hshared]; rfl) ?_ hreplay
  · rw [hshared, inc_metrics, Metrics.inc_of_ne (by decide)]
  · rw [hshared, inc_metrics, Metrics.inc_of_ne (by decide)]
    exact hadmissions
  · rw [hshared, inc_metrics, Metrics.inc_self]
    omega
  · rw [hphase]
    exact marked_update _ _ fun _ => by simp [hp, Marked, standing]

/-- None of the statements of an admission. -/
lemma Tally.quiet (h : Tally deviceKeys s ds) {p' : DevicePhase B}
    (hphase : s'.phase = Function.update s.phase c p') (hquiet : Quiet s.shared s'.shared)
    (hstanding : standing p' = standing (s.phase c) ∨
      standing (s.phase c) = .hello ∧ standing p' = .past)
    (hdevice : ∀ x, p'.device = some x → (s.phase c).device = some x)
    (hreplay : ∀ d, s'.shared.replay.lastSequence d ≠ none → d ∈ s.shared.seenDevices) :
    Tally deviceKeys s' ds := by
  obtain ⟨n, hadmitting, hadmissions⟩ := h.admissions
  obtain ⟨k, hdetecting, hdetected⟩ := h.detected
  have hkept : ∀ k ∈ admissionCounters,
      s'.shared.channel.metrics k = s.shared.channel.metrics k := hquiet.counters
  have hstand : ∀ x : Standing, x ≠ .hello → x ≠ .past →
      (standing p' = x ↔ standing (s.phase c) = x) := by
    intro x hx hx'
    rcases hstanding with heq | ⟨heq, heq'⟩
    · rw [heq]
    · rw [heq, heq']
      exact iff_of_false hx'.symm hx.symm
  refine h.advance ⟨hphase, fun hp' => ?_, hdevice⟩ (hstand _ (by decide) (by decide))
    (hkept _ (by decide)) ⟨n, ?_, ?_⟩ ⟨k, ?_, ?_⟩ hquiet.seen (fun d => ?_) hreplay
  · rcases hstanding with heq | ⟨-, heq⟩
    · rwa [heq] at hp'
    · rw [heq] at hp'
      rcases hp' with hp' | hp' <;> cases hp'
  · rw [hphase]
    exact hadmitting.keep (hstand _ (by decide) (by decide))
  · rw [hkept _ (by decide)]
    exact hadmissions
  · rw [hphase]
    exact hdetecting.keep (hstand _ (by decide) (by decide))
  · rw [hkept _ (by decide)]
    exact hdetected
  · rw [hphase]
    refine marked_update _ _ (fun hmem => ?_) d
    rcases hstanding with heq | ⟨heq, -⟩
    · rw [Marked, Marked, heq]
    · exact absurd hmem (h.fresh (Or.inr heq))

variable (P cfg) in
/-- The guard hears of devices that are being served only. -/
lemma Tally.replay_serve (h : Tally deviceKeys s ds) (c : ℕ) (ev : DeviceEvent B) :
    ∀ d, (s.serve P cfg deviceKeys c ev).shared.replay.lastSequence d ≠ none →
      d ∈ s.shared.seenDevices := by
  intro d hd
  rcases replay_deviceStep cfg deviceKeys s.shared (s.phase c) ev d hd with hd | ⟨key, hp⟩
  · exact h.replay d hd
  · refine (h.seen d).2 ⟨c, h.serving c d key (by rw [hp]; rfl), Or.inr ?_⟩
    rw [hp]
    rfl

variable (cfg) in
/-- A step of a handler. -/
lemma Tally.serve (h : Tally deviceKeys s ds) (c : ℕ) (ev : DeviceEvent B) :
    Tally deviceKeys (s.serve P cfg deviceKeys c ev)
      (ds ++ (Admissions.admitted (s.phase c)
        (deviceStep P cfg deviceKeys s.shared (s.phase c) ev).2).toList.map (Prod.mk c)) := by
  have hcounts := deviceStep_counts cfg deviceKeys s.shared (s.phase c) ev
  have hreplay := h.replay_serve P cfg c ev
  have hphase : (s.serve P cfg deviceKeys c ev).phase = Function.update s.phase c
      (deviceStep P cfg deviceKeys s.shared (s.phase c) ev).2 := rfl
  have hshared : (s.serve P cfg deviceKeys c ev).shared
      = (deviceStep P cfg deviceKeys s.shared (s.phase c) ev).1 := rfl
  generalize s.serve P cfg deviceKeys c ev = s' at hreplay hphase hshared ⊢
  generalize (deviceStep P cfg deviceKeys s.shared (s.phase c) ev).2 = p' at hcounts hphase ⊢
  rw [← hshared] at hcounts
  generalize hp : s.phase c = p at hcounts
  cases hcounts with
  | accepted hst =>
    simp only [Admissions.admitted, Option.toList_none, List.map_nil, List.append_nil]
    exact h.accepted hp hphase hst
  | admitted d key hkey hst => exact h.admitted hp hphase (by rw [hkey]; rfl) hst
  -- each of the statements that are left moves the handler from one count to the next
  | activated d key hst =>
    simp only [Admissions.admitted, Option.toList_none, List.map_nil, List.append_nil]
    exact h.activated hp hphase hst hreplay
  | known d key hd hst =>
    simp only [Admissions.admitted, Option.toList_none, List.map_nil, List.append_nil]
    exact h.known hp hd hphase hst hreplay
  | marked d key hd hst =>
    simp only [Admissions.admitted, Option.toList_none, List.map_nil, List.append_nil]
    exact h.marked hp hd hphase hst hreplay
  | detected d key hst =>
    simp only [Admissions.admitted, Option.toList_none, List.map_nil, List.append_nil]
    exact h.counted hp hphase hst hreplay
  | quiet _ _ hquiet hstanding hdevice =>
    subst hp
    rw [admitted_of_device hdevice, Option.toList_none, List.map_nil, List.append_nil]
    exact h.quiet hphase hquiet hstanding hdevice hreplay

end Serve

/-- The step lemma. -/
lemma Tally.step (h : Tally deviceKeys s ds) (ev : Event B) :
    Tally deviceKeys (trackedStep P cfg deviceKeys (s, ds) ev).1
      (trackedStep P cfg deviceKeys (s, ds) ev).2 := by
  cases ev with
  | device c ev =>
    simp only [trackedStep, admissionOf, Accounting.step]
    split_ifs with hmain
    · rw [List.append_nil]
      exact h
    · exact h.serve cfg c ev
  | thread i a =>
    simp only [trackedStep, admissionOf, List.append_nil]
    exact h.thread i a

lemma tally_initial : Tally deviceKeys (initial : Accounting.State B) [] where
  connections := counts_zero fun _ => by simp [initial, standing]
  admissions := ⟨0, counts_zero fun _ => by simp [initial, standing], rfl⟩
  once := List.nodup_nil
  started := fun x hx => by cases hx
  serving := fun c d key h => by cases h
  detected := ⟨0, counts_zero fun _ => by simp [initial, standing], rfl⟩
  nodup := List.nodup_nil
  seen := fun d => by simp [initial]
  registered := fun x hx => by cases hx
  replay := fun d h => absurd rfl h

variable (P cfg deviceKeys) in
/-- The run lemma. -/
lemma tally_run (τ : List (Event B)) :
    Tally deviceKeys (run (trackedStep P cfg deviceKeys) trackedInitial τ).1
      (run (trackedStep P cfg deviceKeys) trackedInitial τ).2 :=
  inv_run (P := fun _ _ => True)
    (J := fun s : Accounting.State B × List (ℕ × PyStr) => Tally deviceKeys s.1 s.2)
    (fun _ e h _ => h.step e) tally_initial (along_of_forall fun _ _ _ => trivial)

variable (P cfg deviceKeys) in
/-- The connections and devices that the run `τ` has admitted, oldest first. -/
def admissions (τ : List (Event B)) : List (ℕ × PyStr) :=
  (run (trackedStep P cfg deviceKeys) trackedInitial τ).2

/-- The gateway has counted the admissions `ds`, and remembers their devices, but for what the
handlers that stand before the next statement of an admission have yet to do. -/
structure Exact (deviceKeys : KeyRegistry P) (s : Accounting.State B) (ds : List (ℕ × PyStr)) :
    Prop where
  connections : s.shared.channel.metrics .deviceConnections
    = {c | standing (s.phase c) ≠ .new}.ncard
  admissions : s.shared.channel.metrics .fallbackActivations
    + {c | standing (s.phase c) = .admitting}.ncard = ds.length
  /-- no connection is admitted twice -/
  once : (ds.map Prod.fst).Nodup
  accepted : ∀ x ∈ ds, standing (s.phase x.1) ≠ .new
  /-- a device is counted once over all its connections -/
  detected : s.shared.channel.metrics .legacyDevicesDetected
    + {c | standing (s.phase c) = .detecting}.ncard = s.shared.seenDevices.toFinset.card
  seen : ∀ d, d ∈ s.shared.seenDevices ↔ ∃ c, (c, d) ∈ ds ∧ Marked (s.phase c)
  registered : ∀ x ∈ ds, (deviceKeys.keys x.2).isSome = true
  replay : ∀ d, s.shared.replay.lastSequence d ≠ none → d ∈ s.shared.seenDevices
  /-- while no admission is under way, the counters are exact -/
  settled : (∀ c, standing (s.phase c) ≠ .admitting ∧ standing (s.phase c) ≠ .marking ∧
      standing (s.phase c) ≠ .detecting) →
    s.shared.channel.metrics .fallbackActivations = ds.length ∧
      s.shared.channel.metrics .legacyDevicesDetected = (ds.map Prod.snd).toFinset.card ∧
      s.shared.seenDevices.toFinset = (ds.map Prod.snd).toFinset

/-- While no admission is under way, the set holds all devices that were admitted. -/
lemma Tally.seen_of_settled (h : Tally deviceKeys s ds)
    (hmarking : ∀ c, standing (s.phase c) ≠ .admitting ∧ standing (s.phase c) ≠ .marking) :
    s.shared.seenDevices.toFinset = (ds.map Prod.snd).toFinset := by
  ext d
  rw [List.mem_toFinset, h.seen, List.mem_toFinset, List.mem_map]
  constructor
  · rintro ⟨c, hc, -⟩
    exact ⟨(c, d), hc, rfl⟩
  · rintro ⟨x, hx, rfl⟩
    refine ⟨x.1, hx, ?_⟩
    obtain ⟨hnew, hhello⟩ := h.started x hx
    obtain ⟨hadmitting, hmark⟩ := hmarking x.1
    unfold Marked
    cases hstanding : standing (s.phase x.1) <;> simp_all

lemma Tally.exact (h : Tally deviceKeys s ds) : Exact deviceKeys s ds := by
  obtain ⟨n, hadmitting, hadmissions⟩ := h.admissions
  obtain ⟨k, hdetecting, hdetected⟩ := h.detected
  have hcard : s.shared.seenDevices.toFinset.card = s.shared.seenDevices.length :=
    List.toFinset_card_of_nodup h.nodup
  refine ⟨h.connections.ncard.symm, ?_, h.once, fun x hx => (h.started x hx).1, ?_, h.seen,
    h.registered, h.replay, fun hsettled => ?_⟩
  · rw [hadmitting.ncard, hadmissions]
  · rw [hdetecting.ncard, hdetected, hcard]
  · have hseen := h.seen_of_settled fun c => ⟨(hsettled c).1, (hsettled c).2.1⟩
    obtain rfl := hadmitting.eq_zero fun c => (hsettled c).1
    obtain rfl := hdetecting.eq_zero fun c => (hsettled c).2.2
    refine ⟨hadmissions, ?_, hseen⟩
    rw [← hseen, hcard, ← hdetected, Nat.add_zero]

variable (P cfg deviceKeys) in
/-- **The gateway counts its admissions exactly**: in every run, whatever the devices send and
however the handlers and the reconnect threads are interleaved, `device_connections` is the number
of connections accepted; `fallback_activations` falls short of the number of admissions, of which
no connection has two, by the handlers that stand before its `inc`, and `legacy_devices_detected`
of the number of devices in `_seen_devices`, each counted once over all its connections, by those
that stand before that one's.  The set holds the devices of the admissions that have passed it; all
of them are registered, and the replay guard knows no other device. -/
theorem admissions_exact (τ : List (Event B)) :
    Exact deviceKeys (run (step P cfg deviceKeys) initial τ)
      (admissions P cfg deviceKeys τ) := by
  have hview : (run (trackedStep P cfg deviceKeys) trackedInitial τ).1
      = run (step P cfg deviceKeys) initial τ := run_view (fun _ _ => rfl) _ τ
  rw [← hview]
  exact (tally_run P cfg deviceKeys τ).exact

end PqcBridge.Gateway.Admissions
