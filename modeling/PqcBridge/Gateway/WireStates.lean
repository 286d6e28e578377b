/-
The five states of the channel over its runs.

The docstring of the source has the states follow each other as DISCONNECTED, CONNECTING,
ESTABLISHING, ESTABLISHED and FAILED.  Two threads write the attribute, and a call that takes
down a session that its thread has not yet declared established adds two more transitions, from
FAILED to ESTABLISHED and from there to CONNECTING.

* `StateOk`: what the attribute can be at every point of the code of a thread or of a call;
* `state_transitions`: every change of the attribute is one of eight transitions, or one of these
  two, which are made only while the channel has no socket.
-/
import PqcBridge.Gateway.WireInvariant

namespace PqcBridge.Gateway.Wire

open Python Protocol Crypto Runs

/-- The transitions of the state machine. -/
inductive Transition : Gateway.State → Gateway.State → Prop
  | connecting : Transition .disconnected .connecting
  | reconnecting : Transition .failed .connecting
  | connected : Transition .connecting .establishing
  | refused : Transition .connecting .failed
  | broken : Transition .establishing .failed
  | established : Transition .establishing .established
  | dropped : Transition .established .failed
  | waiting : Transition .failed .disconnected

/-- The two transitions that follow where a failing call overtakes a thread of
`connect_and_establish`: the thread declares a session established that the call has taken down,
and the next thread starts from there. -/
inductive Overtaken : Gateway.State → Gateway.State → Prop
  | declared : Overtaken .failed .established
  | restarted : Overtaken .established .connecting

/-- The session is there, or its thread is about to declare it. -/
def Up (state : Gateway.State) : Prop := state = .establishing ∨ state = .established

/-- What the attribute can be for a thread. -/
def ThreadPc.Admits (state : Gateway.State) : ThreadPc → Prop
  | .stopped => True
  | .finishing => True
  | .loop => state = .disconnected ∨ state = .failed ∨ state = .established
  | .connect => state = .connecting
  | .publishState => state = .establishing ∨ state = .failed
  | .failing _ | .publishFailed => state = .connecting ∨ state = .establishing
  | .disconnecting => state = .failed
  | _ => state = .establishing

/-- What the attribute can be for a call. -/
def CallPc.Admits (state : Gateway.State) : CallPc → Prop
  | .invalidating .restart => state = .failed ∨ state = .established
  | .invalidating _ => Up state
  | _ => True

/-- The invariant of the attribute. -/
structure StateOk (s : State) : Prop where
  threads : ∀ i, (s.threads i).Admits s.channel.state
  calls : ∀ t, (s.calls t).Admits s.channel.state
  up : s.channel.sock ≠ none → Up s.channel.state

variable {P : Primitives Octets} {cfg : GatewayConfig Octets} {s s' : State}

lemma CallPc.Admits.of_not_holds {pc : CallPc} (h : pc.holds = false) (state : Gateway.State) :
    pc.Admits state := by
  cases pc with
  | invalidating next => cases h
  | _ => trivial

/-- A call moves on, and the attribute stays. -/
lemma StateOk.setCall (h : StateOk s) (hthreads : s'.threads = s.threads)
    (hcalls : s'.calls = s.calls) (hstate : s'.channel.state = s.channel.state)
    (hsock : s'.channel.sock ≠ none → s.channel.sock ≠ none) {t : ℕ} {pc : CallPc}
    (hpc : pc.Admits s.channel.state) : StateOk (s'.setCall t pc) := by
  refine ⟨fun i => ?_, fun t' => ?_, fun hne => ?_⟩
  · show (s'.threads i).Admits s'.channel.state
    rw [hthreads, hstate]
    exact h.threads i
  · show (Function.update s'.calls t pc t').Admits s'.channel.state
    rw [hstate, hcalls]
    by_cases ht : t' = t
    · rw [ht, Function.update_self]
      exact hpc
    · rw [Function.update_of_ne ht]
      exact h.calls t'
  · show Up s'.channel.state
    rw [hstate]
    exact h.up (hsock hne)

/-- While a thread works on a new session, a call does not look at the attribute. -/
lemma Ok.admits_of_not_late (h : Ok P cfg s) {i : ℕ} (hi : (s.threads i).late = false) (t : ℕ)
    (state : Gateway.State) : (s.calls t).Admits state := by
  have hcall : CallOk P s (s.calls t) := h.callOk_of_not_late hi t
  have hsock := (h.others_stopped hi).1.sock_eq_none hi
  cases hpc : s.calls t with
  | invalidating next =>
    rw [hpc] at hcall
    cases next with
    | sock => exact absurd hcall (by simp [CallOk, hsock])
    | key | state | restart => exact absurd (hcall.2 i) (by simp [hi])
  | _ => trivial

/-- A thread that works on a new session moves on. -/
lemma StateOk.setThread (hok : Ok P cfg s) {i : ℕ} {pc : ThreadPc} (hi : (s.threads i).late = false)
    (hthreads : s'.threads = s.threads) (hcalls : s'.calls = s.calls)
    (hpc : pc.Admits s'.channel.state) (hup : s'.channel.sock ≠ none → Up s'.channel.state) :
    StateOk (s'.setThread i pc) := by
  refine ⟨fun j => ?_, fun t => ?_, hup⟩
  · show (Function.update s'.threads i pc j).Admits s'.channel.state
    by_cases hj : j = i
    · rw [hj, Function.update_self]
      exact hpc
    · rw [Function.update_of_ne hj, hthreads, (hok.others_stopped hi).2 j hj]
      trivial
  · show (s'.calls t).Admits s'.channel.state
    rw [hcalls]
    exact hok.admits_of_not_late hi t _

/-! ### The steps -/

lemma StateOk.callMove (h : StateOk s) (hok : Ok P cfg s) (t : ℕ) :
    StateOk ((callMove P cfg s t (s.calls t)).1.setCall t (callMove P cfg s t (s.calls t)).2) := by
  have hadmits := h.calls t
  cases hpc : s.calls t with
  | checking b next =>
    simp only [Wire.callMove]
    rcases next.read s.channel with next' | _ | _ <;>
      exact h.setCall rfl rfl rfl id (by exact True.intro)
  | built m =>
    simp only [Wire.callMove]
    rcases s.lock with _ | t'
    · exact h.setCall (by rfl) (by rfl) (by rfl) (by exact id) (by exact True.intro)
    · exact h.setCall rfl rfl rfl id (by exact True.intro)
  | locked m =>
    simp only [Wire.callMove]
    rcases s.channel.sock with _ | k <;> exact h.setCall rfl rfl rfl id (by exact True.intro)
  | invalidating next =>
    rw [hpc] at hadmits
    have hin : (s.calls t).holds = true := by rw [hpc]; rfl
    have hcall := hok.calls t
    rw [hpc] at hcall
    cases next with
    | sock =>
      exact h.setCall (by rfl) (by rfl) (by rfl) (by exact fun hne => absurd rfl hne)
        (by exact hadmits)
    | key => exact h.setCall (by rfl) (by rfl) (by rfl) (by exact id) (by exact hadmits)
    | state =>
      -- no other call is in the section, and no thread works on a new session
      refine ⟨fun i => ?_, fun t' => ?_, fun hne => absurd hcall.1 hne⟩
      · have hlate := hcall.2 i
        show (s.threads i).Admits .failed
        cases hpc' : s.threads i with
        | publishState => exact Or.inr rfl
        | stopped | finishing => trivial
        | _ =>
          rw [hpc'] at hlate
          cases hlate
      · show (Function.update s.calls t (.invalidating .restart) t').Admits .failed
        by_cases ht : t' = t
        · rw [ht, Function.update_self]
          exact Or.inl rfl
        · rw [Function.update_of_ne ht]
          exact .of_not_holds (hok.holds_eq_false hin ht) _
    | restart =>
      simp only [Wire.callMove]
      split_ifs
      · rcases Bool.eq_false_or_eq_true s.channel.reconnecting with hrec | hrec
        · rw [restart_of_reconnecting hrec]
          exact h.setCall rfl rfl rfl id (by exact True.intro)
        · rw [restart_of_not_reconnecting hrec]
          refine ⟨fun i => ?_, fun t' => ?_, h.up⟩
          · show (Function.update s.threads s.started .loop i).Admits s.channel.state
            by_cases hi : i = s.started
            · rw [hi, Function.update_self]
              exact Or.inr hadmits
            · rw [Function.update_of_ne hi]
              exact h.threads i
          · show (Function.update s.calls t .unlocking t').Admits s.channel.state
            by_cases ht : t' = t
            · rw [ht, Function.update_self]
              trivial
            · rw [Function.update_of_ne ht]
              exact h.calls t'
      · exact h.setCall rfl rfl rfl id (by exact True.intro)
  | _ => exact h.setCall (by rfl) (by rfl) (by rfl) (by exact id) (by exact True.intro)

lemma StateOk.threadStep (h : StateOk s) (hok : Ok P cfg s) (i : ℕ) (ev : ThreadEvent) :
    StateOk ((threadStep P cfg s i (s.threads i) ev).1.setThread i
      (threadStep P cfg s i (s.threads i) ev).2) := by
  have hself : ∀ pc, s.threads i = pc → StateOk (s.setThread i pc) := fun pc hpc =>
    (setThread_self s hpc).symm ▸ h
  have hsock : (s.threads i).late = false → s.channel.sock = none := fun hlate =>
    (hok.others_stopped hlate).1.sock_eq_none hlate
  have hadmits := h.threads i
  cases hpc : s.threads i with
  | stopped => cases ev <;> exact hself _ hpc
  | loop =>
    cases ev with
    | move =>
      exact .setThread hok (hpc ▸ rfl) rfl rfl rfl fun hne => absurd (hsock (hpc ▸ rfl)) hne
    | _ => exact hself _ hpc
  | disconnecting =>
    cases ev with
    | move =>
      exact .setThread hok (hpc ▸ rfl) rfl rfl (Or.inl rfl) fun hne =>
        absurd (hsock (hpc ▸ rfl)) hne
    | _ => exact hself _ hpc
  | connect =>
    rw [hpc] at hadmits
    cases ev with
    | connect io sid nonce =>
      simp only [Wire.threadStep]
      rcases io.result with e | _
      · exact .setThread hok (hpc ▸ rfl) rfl rfl (Or.inl hadmits) h.up
      · rcases requestMessage P cfg nonce with e | m
        · exact .setThread hok (hpc ▸ rfl) rfl rfl (Or.inr rfl) fun _ => Or.inl rfl
        · exact .setThread hok (hpc ▸ rfl) rfl rfl rfl fun _ => Or.inl rfl
    | _ => exact hself _ hpc
  | sendRequest a m rest =>
    rw [hpc] at hadmits
    cases ev with
    | write n =>
      have hstate : (s.write a.sock m rest n).channel.state = .establishing := by
        rw [write_channel]
        exact hadmits
      refine .setThread hok (hpc ▸ rfl) (write_threads ..) (write_calls ..) ?_
        fun _ => Or.inl hstate
      simp only [Wire.threadStep, threadWrite]
      split_ifs
      · exact hstate
      · exact hstate
    | fail msg => exact .setThread hok (hpc ▸ rfl) rfl rfl (Or.inr hadmits) h.up
    | _ => exact hself _ hpc
  | sendEncaps a secret m rest =>
    rw [hpc] at hadmits
    cases ev with
    | write n =>
      have hstate : (s.write a.sock m rest n).channel.state = .establishing := by
        rw [write_channel]
        exact hadmits
      refine .setThread hok (hpc ▸ rfl) (write_threads ..) (write_calls ..) ?_
        fun _ => Or.inl hstate
      simp only [Wire.threadStep, threadWrite]
      split_ifs
      · exact hstate
      · exact hstate
    | fail msg => exact .setThread hok (hpc ▸ rfl) rfl rfl (Or.inr hadmits) h.up
    | _ => exact hself _ hpc
  | pubkey a =>
    rw [hpc] at hadmits
    cases ev with
    | reply o coins =>
      simp only [Wire.threadStep]
      rcases o.result >>= acceptPubkeyReply P cfg with e | publicKey
      · exact .setThread hok (hpc ▸ rfl) rfl rfl (Or.inr hadmits) h.up
      · exact .setThread hok (hpc ▸ rfl) rfl rfl hadmits h.up
    | _ => exact hself _ hpc
  | established a secret =>
    rw [hpc] at hadmits
    cases ev with
    | reply o coins =>
      simp only [Wire.threadStep]
      rcases o.result >>= fun reply => parseMlkemEstablishedReply reply a.sessionId.text with e | _
      · exact .setThread hok (hpc ▸ rfl) rfl rfl (Or.inr hadmits) h.up
      · exact .setThread hok (hpc ▸ rfl) rfl rfl hadmits h.up
    | _ => exact hself _ hpc
  | publishKey a key =>
    rw [hpc] at hadmits
    cases ev with
    | move => exact .setThread hok (hpc ▸ rfl) rfl rfl hadmits h.up
    | _ => exact hself _ hpc
  | publishId a | countSession a =>
    rw [hpc] at hadmits
    cases ev with
    | move => exact .setThread hok (hpc ▸ rfl) rfl rfl hadmits h.up
    | _ => exact hself _ hpc
  | publishSock a =>
    rw [hpc] at hadmits
    cases ev with
    | move => exact .setThread hok (hpc ▸ rfl) rfl rfl (Or.inl hadmits) fun _ => Or.inl hadmits
    | _ => exact hself _ hpc
  | publishState =>
    cases ev with
    | move =>
      -- a call may be about to write `FAILED`
      refine ⟨fun j => ?_, fun t => ?_, fun _ => Or.inr rfl⟩
      · show (Function.update s.threads i .finishing j).Admits .established
        by_cases hj : j = i
        · rw [hj, Function.update_self]
          trivial
        · obtain ⟨i', -, hothers⟩ := hok.alone
          have hii : i = i' := by
            by_contra hne
            rw [hothers i hne] at hpc
            cases hpc
          subst hii
          rw [Function.update_of_ne hj, hothers j hj]
          trivial
      · show (s.calls t).Admits .established
        cases s.calls t with
        | invalidating next => cases next <;> exact Or.inr rfl
        | _ => trivial
    | _ => exact hself _ hpc
  | failing e =>
    rw [hpc] at hadmits
    cases ev with
    | move =>
      simp only [Wire.threadStep]
      split_ifs
      · exact .setThread hok (hpc ▸ rfl) rfl rfl hadmits h.up
      · exact .setThread hok (hpc ▸ rfl) rfl rfl trivial h.up
    | _ => exact hself _ hpc
  | publishFailed =>
    cases ev with
    | move =>
      exact .setThread hok (hpc ▸ rfl) rfl rfl rfl fun hne => absurd (hsock (hpc ▸ rfl)) hne
    | _ => exact hself _ hpc
  | finishing =>
    have hstop : ∀ ch : CloudChannel Octets, ch.state = s.channel.state → ch.sock = s.channel.sock →
        StateOk ((s.setChannel ch).setThread i .stopped) := by
      intro ch hstate hsock
      refine ⟨fun j => ?_, fun t => ?_, fun hne => ?_⟩
      · show (Function.update s.threads i .stopped j).Admits ch.state
        rw [hstate]
        by_cases hj : j = i
        · rw [hj, Function.update_self]
          trivial
        · rw [Function.update_of_ne hj]
          exact h.threads j
      · show (s.calls t).Admits ch.state
        rw [hstate]
        exact h.calls t
      · show Up ch.state
        rw [hstate]
        exact h.up (hsock ▸ hne)
    cases ev with
    | move =>
      simp only [Wire.threadStep]
      split_ifs
      · exact hstop s.channel rfl rfl
      · exact hstop _ rfl rfl
    | _ => exact hself _ hpc

/-- The step lemma. -/
lemma StateOk.step (h : StateOk s) (hok : Ok P cfg s) (ev : Event) : StateOk (step P cfg s ev) := by
  cases ev with
  | call t b =>
    simp only [Wire.step]
    split
    · exact h.setCall rfl rfl rfl id (by exact True.intro)
    · exact h
  | move t => exact h.callMove hok t
  | build t nonce =>
    simp only [Wire.step]
    split
    · split
      · exact h.setCall rfl rfl rfl id (by exact True.intro)
      · exact h.setCall rfl rfl rfl id (by exact True.intro)
    · exact h
  | write t n =>
    simp only [Wire.step]
    split
    · next k m rest hpc =>
      refine h.setCall (write_threads ..) (write_calls ..) (by rw [write_channel])
        (by rw [write_channel]; exact id) ?_
      split_ifs
      · trivial
      · trivial
    · exact h
  | fail t =>
    simp only [Wire.step]
    split
    · next k m rest hpc =>
      -- the call was writing to the socket of the channel
      have hcall := hok.calls t
      rw [hpc] at hcall
      have hup : Up s.channel.state := h.up (by rw [hcall.2.1]; simp)
      exact h.setCall rfl rfl rfl id (by exact hup)
    · exact h
  | thread i x => exact h.threadStep hok i x

lemma stateOk_initial : StateOk initial := by
  refine ⟨fun i => ?_, fun t => trivial, fun hne => absurd rfl hne⟩
  by_cases hi : i = 0
  · subst hi
    exact Or.inl rfl
  · have hstopped : initial.threads i = .stopped := by simp [initial, hi]
    rw [hstopped]
    trivial

variable (P cfg) in
/-- The run lemma. -/
lemma stateOk_run (τ : List Event) :
    StateOk (run (Wire.step P cfg) initial τ) ∧ Ok P cfg (run (Wire.step P cfg) initial τ) :=
  inv_run (J := fun s => StateOk s ∧ Ok P cfg s) (P := fun _ _ => True)
    (fun _ ev h _ => ⟨h.1.step h.2 ev, h.2.step ev⟩) ⟨stateOk_initial, ok_initial P cfg⟩
    (along_of_forall fun _ _ _ => trivial)

/-! ### The transitions -/

/-- What a step does to the attribute. -/
def Follows (s s' : State) : Prop :=
  s'.channel.state = s.channel.state ∨ Transition s.channel.state s'.channel.state ∨
    (s.channel.sock = none ∧ s'.channel.sock = none ∧
      Overtaken s.channel.state s'.channel.state)

lemma StateOk.follows_callMove (h : StateOk s) (t : ℕ) :
    Follows s ((Wire.callMove P cfg s t (s.calls t)).1.setCall t
      (Wire.callMove P cfg s t (s.calls t)).2) := by
  have hadmits := h.calls t
  cases hpc : s.calls t with
  | checking b next =>
    simp only [Wire.callMove]
    rcases next.read s.channel with next' | _ | _ <;> exact Or.inl rfl
  | built m =>
    simp only [Wire.callMove]
    rcases s.lock with _ | t' <;> exact Or.inl rfl
  | locked m =>
    simp only [Wire.callMove]
    rcases s.channel.sock with _ | k <;> exact Or.inl rfl
  | invalidating next =>
    cases next with
    | sock | key => exact Or.inl rfl
    | state =>
      -- `FAILED` is written over `ESTABLISHING` or `ESTABLISHED`
      rw [hpc] at hadmits
      refine Or.inr (Or.inl ?_)
      show Transition s.channel.state .failed
      rcases hadmits with hstate | hstate
      · rw [hstate]
        exact .broken
      · rw [hstate]
        exact .dropped
    | restart =>
      simp only [Wire.callMove]
      split_ifs
      · rcases Bool.eq_false_or_eq_true s.channel.reconnecting with hrec | hrec
        · rw [restart_of_reconnecting hrec]
          exact Or.inl rfl
        · rw [restart_of_not_reconnecting hrec]
          exact Or.inl rfl
      · exact Or.inl rfl
  | _ => exact Or.inl rfl

lemma StateOk.follows_threadStep (h : StateOk s) (hok : Ok P cfg s) (i : ℕ) (ev : ThreadEvent) :
    Follows s ((Wire.threadStep P cfg s i (s.threads i) ev).1.setThread i
      (Wire.threadStep P cfg s i (s.threads i) ev).2) := by
  have hadmits := h.threads i
  cases hpc : s.threads i with
  | stopped => cases ev <;> exact Or.inl rfl
  | loop =>
    have hlate : (s.threads i).late = false := by rw [hpc]; rfl
    have hsock := (hok.others_stopped hlate).1.sock_eq_none hlate
    rw [hpc] at hadmits
    cases ev with
    | move =>
      rcases hadmits with hstate | hstate | hstate
      · exact Or.inr (Or.inl (hstate ▸ .connecting))
      · exact Or.inr (Or.inl (hstate ▸ .reconnecting))
      · exact Or.inr (Or.inr ⟨hsock, hsock, hstate ▸ .restarted⟩)
    | _ => exact Or.inl rfl
  | connect =>
    rw [hpc] at hadmits
    replace hadmits : s.channel.state = .connecting := hadmits
    cases ev with
    | connect io sid nonce =>
      simp only [Wire.threadStep]
      rcases io.result with e | _
      · exact Or.inl rfl
      · rcases requestMessage P cfg nonce with e | m
        · exact Or.inr (Or.inl (hadmits ▸ .connected))
        · exact Or.inr (Or.inl (hadmits ▸ .connected))
    | _ => exact Or.inl rfl
  | sendRequest a m rest =>
    cases ev with
    | write n => exact Or.inl (congrArg CloudChannel.state (write_channel ..))
    | _ => exact Or.inl rfl
  | sendEncaps a secret m rest =>
    cases ev with
    | write n => exact Or.inl (congrArg CloudChannel.state (write_channel ..))
    | _ => exact Or.inl rfl
  | pubkey a =>
    cases ev with
    | reply o coins =>
      simp only [Wire.threadStep]
      rcases o.result >>= acceptPubkeyReply P cfg with e | publicKey <;> exact Or.inl rfl
    | _ => exact Or.inl rfl
  | established a secret =>
    cases ev with
    | reply o coins =>
      simp only [Wire.threadStep]
      rcases o.result >>= fun reply => parseMlkemEstablishedReply reply a.sessionId.text
          with e | _ <;>
        exact Or.inl rfl
    | _ => exact Or.inl rfl
  | publishState =>
    rw [hpc] at hadmits
    cases ev with
    | move =>
      rcases hadmits with hstate | hstate
      · exact Or.inr (Or.inl (hstate ▸ .established))
      · -- `FAILED` is there only without a socket
        have hsock : s.channel.sock = none := by
          by_contra hne
          rcases h.up hne with hup | hup
          · rw [hstate] at hup
            cases hup
          · rw [hstate] at hup
            cases hup
        exact Or.inr (Or.inr ⟨hsock, hsock, hstate ▸ .declared⟩)
    | _ => exact Or.inl rfl
  | failing e =>
    cases ev with
    | move =>
      simp only [Wire.threadStep]
      split_ifs <;> exact Or.inl rfl
    | _ => exact Or.inl rfl
  | publishFailed =>
    rw [hpc] at hadmits
    cases ev with
    | move =>
      rcases hadmits with hstate | hstate
      · exact Or.inr (Or.inl (hstate ▸ .refused))
      · exact Or.inr (Or.inl (hstate ▸ .broken))
    | _ => exact Or.inl rfl
  | disconnecting =>
    rw [hpc] at hadmits
    replace hadmits : s.channel.state = .failed := hadmits
    cases ev with
    | move => exact Or.inr (Or.inl (hadmits ▸ .waiting))
    | _ => exact Or.inl rfl
  | finishing =>
    cases ev with
    | move =>
      simp only [Wire.threadStep]
      split_ifs <;> exact Or.inl rfl
    | _ => exact Or.inl rfl
  | _ => cases ev <;> exact Or.inl rfl

variable (P cfg) in
/-- **The state machine of the channel.**  In every run of the threads each change of `state` is
one of its eight transitions, or one of two others, from `FAILED` to `ESTABLISHED` and from
`ESTABLISHED` to `CONNECTING`, which are made on a channel without a socket. -/
theorem state_transitions (τ : List Event) (ev : Event) :
    Follows (run (Wire.step P cfg) initial τ)
      (Wire.step P cfg (run (Wire.step P cfg) initial τ) ev) := by
  obtain ⟨h, hok⟩ := stateOk_run P cfg τ
  cases ev with
  | call t b =>
    simp only [Wire.step]
    split <;> exact Or.inl rfl
  | move t => exact h.follows_callMove t
  | build t nonce =>
    simp only [Wire.step]
    split
    · split <;> exact Or.inl rfl
    · exact Or.inl rfl
  | write t n =>
    simp only [Wire.step]
    split
    · exact Or.inl (congrArg CloudChannel.state (write_channel ..))
    · exact Or.inl rfl
  | fail t =>
    simp only [Wire.step]
    split <;> exact Or.inl rfl
  | thread i x => exact h.follows_threadStep hok i x

end PqcBridge.Gateway.Wire
