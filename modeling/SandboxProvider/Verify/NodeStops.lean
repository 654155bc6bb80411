import SandboxProvider.Verify.NodeProcesses

/-!
# A node can always be stopped

From every state that a node can reach, once its context is cancelled, `run` comes to its end by its own
steps and its timers. No operation has to fail for that and no process has to do anything, but for the
adaptors that `startCAA` has sent SIGTERM and waits for without a timer.
-/

namespace SandboxProvider.Node

open Lib

/-- No system call fails. -/
structure Syscalls.Succeed (os : Syscalls) : Prop where
  readDir : ∃ entries, os.readDir = .ok entries
  unmount : ∀ path, os.unmount path = none
  remove : ∀ path, os.remove path = none

/-- The operation does not fail. -/
def NodeAnswer.Succeeds : NodeAnswer → Prop
  | .fail _ | .notExist | .choose (.fail _) => False
  | .netns os _ => os.Succeed
  | _ => True

namespace Supervisor

variable {e : Environment} {s s' : Supervisor}

/-- No operation fails, and nobody does anything but the adaptors that were sent SIGTERM. -/
def Unaided (s : Supervisor) : NodeLabel → Prop
  | .run answer => answer.Succeeds
  | .expire | .timeout => True
  | .proceed (.caa k) _ => k ∈ s.adaptor.signalled
  | _ => False

/-- `run` can return. -/
def Stops (e : Environment) (s : Supervisor) : Prop :=
  ∃ ls s', Run (step e) Unaided s ls s' ∧ ∃ result, s'.state = .returned result

theorem stops_of_returned {result : Option NodeError} (h : s.state = .returned result) : Stops e s :=
  ⟨[], s, .nil s, result, h⟩

theorem Stops.of_step {l : NodeLabel} (h : Stops e s') (hok : s.Unaided l)
    (hstep : s.step e l = some s') : Stops e s := by
  obtain ⟨ls, t, hrun, hreturned⟩ := h
  exact ⟨l :: ls, t, .cons hok hstep hrun, hreturned⟩

/-! ## The deferred calls -/

theorem stops_of_cleanup {result : Option NodeError} (h : s.state = .cleanup result) : Stops e s := by
  have hnext : s.step e (.run (.netns ⟨.ok [], fun _ => none, fun _ => none⟩ ⟨[], []⟩)) =
      some { s with
        state := .returned result
        history := .cleaned (cleanupNetworkNamespaces ⟨.ok [], fun _ => none, fun _ => none⟩ netnsDir
          ⟨[], []⟩).1 :: s.history } := by
    simp only [step, advance, h]
  have hsucceeds : Syscalls.Succeed ⟨.ok [], fun _ => none, fun _ => none⟩ :=
    ⟨⟨[], rfl⟩, fun _ => rfl, fun _ => rfl⟩
  exact Stops.of_step (stops_of_returned rfl)
    (l := .run (.netns ⟨.ok [], fun _ => none, fun _ => none⟩ ⟨[], []⟩)) hsucceeds hnext

/-- A call of `terminate` on these processes, from a state of `terminate` on its own. -/
def terminationOf (ps : List Managed) (v : Shutdown ps.length) : Termination :=
  ⟨ps, v.state, v.expired, v.history⟩

theorem view_terminationOf {ps : List Managed} {v : Shutdown ps.length} {phase : Managed → Phase}
    (hv : v.phase = fun i => phase (ps.get i)) : (terminationOf ps v).view phase = v := by
  cases v
  cases hv
  rfl

/-- A run of `terminate` is one of the node. -/
theorem stops_of_shutdown {ps : List Managed} {v v' : Shutdown ps.length}
    {ls : List (ShutdownLabel ps.length)} (hrun : Run Shutdown.step Shutdown.Unaided v ls v')
    (hreturned : v'.state = .returned) {result : Option NodeError} (hs : s.state = .terminate result)
    (hv : v.phase = fun i => s.phase (ps.get i)) :
    Stops e { s with termination := some (terminationOf ps v) } := by
  induction hrun with
  | nil v =>
    have hcleanup : Stops e { s with
        state := .cleanup result
        termination := some (terminationOf ps v)
        history := .terminated :: s.history } := stops_of_cleanup rfl
    refine hcleanup.of_step (l := .run (.choose .next)) trivial ?_
    simp only [step, advance, hs, advanceTermination, Option.bind_some]
    rw [if_pos (show (terminationOf ps v).state = .returned from hreturned)]
  | @cons v u w l ls hok hstep hrest ih =>
    have hview : (terminationOf ps v).view s.phase = v := view_terminationOf hv
    cases l with
    | proceed i => exact absurd rfl (hok i)
    | expire =>
      have hphase : u.phase = v.phase := by
        simp only [Shutdown.step] at hstep
        split at hstep
        · cases hstep
          rfl
        · cases hstep
      have hexpire : ((terminationOf ps v).view s.phase).step .expire = some u :=
        (congrArg (Shutdown.step · .expire) hview).trans hstep
      refine (ih hreturned (hphase.trans hv)).of_step (l := .expire) trivial ?_
      exact Option.map_eq_some_iff.mpr ⟨u, hexpire, rfl⟩
    | run deadline =>
      have hphase : u.phase = v.phase := (Shutdown.move_of_advance hstep).phase_eq
      have hne : ¬ (terminationOf ps v).state = .returned := by
        intro hdone
        change v.advance deadline = some u at hstep
        rw [Shutdown.advance, show v.state = .returned from hdone] at hstep
        cases hstep
      have hadvance : ((terminationOf ps v).view s.phase).advance deadline = some u :=
        (congrArg (Shutdown.advance · deadline) hview).trans hstep
      have hnext (choice : Choice) (hok : (NodeAnswer.choose choice).Succeeds)
          (hchoice : overdue choice = deadline) :
          Stops e { s with termination := some (terminationOf ps v) } := by
        refine (ih hreturned (hphase.trans hv)).of_step (l := .run (.choose choice)) hok ?_
        subst hchoice
        simp only [step, advance, hs, advanceTermination, Option.bind_some]
        rw [if_neg hne]
        exact Option.map_eq_some_iff.mpr ⟨u, hadvance, rfl⟩
      cases deadline with
      | true => exact hnext .deadline trivial rfl
      | false => exact hnext .next trivial rfl

theorem stops_of_terminate {result : Option NodeError} {t : Termination}
    (hs : s.state = .terminate result) (ht : s.termination = some t) : Stops e s := by
  obtain ⟨ls, v, hrun, hreturned⟩ := Shutdown.terminate_returns (t.view s.phase)
  have hstops := stops_of_shutdown (e := e) hrun hreturned hs rfl
  have hsame : { s with termination := some (terminationOf t.processes (t.view s.phase)) } = s := by
    cases s
    cases ht
    rfl
  rw [hsame] at hstops
  exact hstops

theorem stops_of_leave (s : Supervisor) (result : Option NodeError) : Stops e (s.leave result) :=
  stops_of_terminate rfl rfl

theorem stops_of_watch (hs : s.state = .watch) (hc : s.adaptor.cancelled = true) : Stops e s := by
  have hhealth : Stops e { s with state := .shutdownHealth none } :=
    (stops_of_leave { s with state := .shutdownHealth none, serving := false } none).of_step
      (l := .run .ok) trivial rfl
  refine hhealth.of_step (l := .run (.choose .done)) trivial ?_
  simp only [step, advance, hs, hc, if_pos]

/-! ## Starting the adaptor -/

/-- `run` can return while `startCAA` is at this place. -/
def AdaptorStops (e : Environment) (a : Adaptor) : Prop :=
  ∀ s hash, s.state = .startCAA hash → s.adaptor = a → Stops e s

section Adaptor

variable {a a' : Adaptor} {k : Nat}

theorem AdaptorStops.of_advance (h : AdaptorStops e a') (choice : Choice)
    (hok : (NodeAnswer.choose choice).Succeeds) (ha : a.advance choice = some a') :
    AdaptorStops e a := by
  rintro s hash hs rfl
  have hstep : s.advanceCAA e hash choice = some { s with
      adaptor := a'
      history :=
        if a'.attempts = s.adaptor.attempts then s.history
        else .started (.caa s.adaptor.attempts) adaptorCommand (e.adaptorEnv hash) :: s.history } := by
    unfold advanceCAA
    split
    · rename_i hreturned
      simp [Adaptor.advance, hreturned] at ha
    · rename_i hreturned
      simp [Adaptor.advance, hreturned] at ha
    · rw [ha]
      rfl
  have hadvance : s.step e (.run (.choose choice)) = s.advanceCAA e hash choice := by
    simp only [step, advance, hs]
  have hnext (history : List NodeEvent) : Stops e { s with adaptor := a', history := history } :=
    h _ hash hs rfl
  exact (hnext _).of_step (l := .run (.choose choice)) hok (hadvance.trans hstep)

/-- An adaptor exits on SIGTERM. -/
theorem AdaptorStops.of_exit (h : AdaptorStops e a') {err : Option String} (hk : k ∈ a.signalled)
    (ha : a.step (.caa k err) = some a') : AdaptorStops e a := by
  rintro s hash hs rfl
  have hnext : Stops e { s with adaptor := a' } := h _ hash hs rfl
  refine hnext.of_step (l := .proceed (.caa k) err) hk ?_
  change (s.adaptor.step (.caa k err)).map _ = _
  rw [ha]
  rfl

theorem adaptorStops_of_error {err : NodeError} (ha : a.state = .returned (.error err)) :
    AdaptorStops e a := by
  rintro s hash hs rfl
  refine (stops_of_leave s (some err)).of_step (l := .run (.choose .next)) trivial ?_
  simp only [step, advance, hs, advanceCAA, ha]

theorem adaptorStops_of_ok (ha : a.state = .returned (.ok k)) (hc : a.cancelled = true) :
    AdaptorStops e a := by
  rintro s hash hs rfl
  have hwatch : Stops e { s with
      state := .watch
      processes := s.processes ++ [.caa k]
      serving := true
      history := .saw hypervisorSock :: s.history } := stops_of_watch rfl hc
  refine hwatch.of_step (l := .run (.choose .next)) trivial ?_
  simp only [step, advance, hs, advanceCAA, ha]

theorem adaptorStops_of_pause (ha : a.state = .pause) (hc : a.cancelled = true) : AdaptorStops e a := by
  have hnext : AdaptorStops e { a with state := .returned (.error (.other "context canceled")) } :=
    adaptorStops_of_error rfl
  refine hnext.of_advance .done trivial ?_
  simp only [Adaptor.advance, ha, hc, if_pos]

theorem adaptorStops_of_await (ha : a.state = .await k) (hc : a.cancelled = true) (hk : k ∈ a.signalled)
    (hstarted : (a.caa k).phase.started = true) : AdaptorStops e a := by
  have hclosed {a : Adaptor} (ha : a.state = .await k) (hc : a.cancelled = true)
      (hphase : (a.caa k).phase = .closed) : AdaptorStops e a := by
    have hnext : AdaptorStops e { a with state := .pause } := adaptorStops_of_pause rfl hc
    exact hnext.of_advance .next trivial (by simp only [Adaptor.advance, ha, hphase, if_pos])
  have hreaped {a : Adaptor} (ha : a.state = .await k) (hc : a.cancelled = true) (hk : k ∈ a.signalled)
      (hphase : (a.caa k).phase = .reaped) : AdaptorStops e a := by
    have hproceed : (a.caa k).proceed none = some { a.caa k with phase := .closed } := by
      simp only [Process.proceed, hphase]
    have hnext : AdaptorStops e
        { a with caa := Function.update a.caa k { a.caa k with phase := .closed } } :=
      hclosed ha hc (by simp only [Function.update_self])
    exact hnext.of_exit hk (Option.map_eq_some_iff.mpr ⟨_, hproceed, rfl⟩)
  cases hphase : (a.caa k).phase with
  | created =>
    rw [hphase] at hstarted
    cases hstarted
  | closed => exact hclosed ha hc hphase
  | reaped => exact hreaped ha hc hk hphase
  | running =>
    have hproceed : (a.caa k).proceed none = some { a.caa k with phase := .reaped, err := none } := by
      simp only [Process.proceed, hphase]
    have hnext : AdaptorStops e
        { a with caa := Function.update a.caa k { a.caa k with phase := .reaped, err := none } } :=
      hreaped ha hc hk (by simp only [Function.update_self])
    exact hnext.of_exit hk (Option.map_eq_some_iff.mpr ⟨_, hproceed, rfl⟩)

theorem adaptorStops_of_signal (ha : a.state = .signal k) (hc : a.cancelled = true)
    (hstarted : (a.caa k).phase.started = true) : AdaptorStops e a := by
  have hnext : AdaptorStops e { a with signalled := k :: a.signalled, state := .await k } :=
    adaptorStops_of_await rfl hc List.mem_cons_self hstarted
  exact hnext.of_advance .next trivial (by simp only [Adaptor.advance, ha])

/-- Whatever `waitForPath` returned as an error. -/
theorem adaptorStops_of_afterWait (hc : a.cancelled = true) (hstarted : (a.caa k).phase.started = true)
    (err : NodeError) : AdaptorStops e { a with state := a.afterWait k err } := by
  unfold Adaptor.afterWait
  split
  · split
    · exact adaptorStops_of_error rfl
    · split
      · exact adaptorStops_of_signal rfl hc hstarted
      · exact adaptorStops_of_pause rfl hc
  · exact adaptorStops_of_signal rfl hc hstarted

theorem adaptorStops_of_poll {rest : List Watched} (ha : a.state = .poll k rest)
    (hc : a.cancelled = true) (hstarted : (a.caa k).phase.started = true) : AdaptorStops e a := by
  induction rest generalizing a with
  | nil =>
    have hselect : AdaptorStops e { a with state := .select k } :=
      (adaptorStops_of_afterWait (a := { a with state := .select k }) hc hstarted
        (.other "context canceled")).of_advance .done trivial
        (by simp only [Adaptor.advance, hc, if_pos])
    exact hselect.of_advance .next trivial (by simp only [Adaptor.advance, ha])
  | cons w rest ih =>
    by_cases hclosed : (a.watched k w).phase = .closed
    · refine (adaptorStops_of_afterWait hc hstarted
        (.processExit (a.watched k w).name (a.watched k w).err)).of_advance .next trivial ?_
      simp only [Adaptor.advance, ha, hclosed, if_pos]
    · have hnext : AdaptorStops e { a with state := .poll k rest } := ih rfl hc hstarted
      exact hnext.of_advance .next trivial (by simp only [Adaptor.advance, ha, hclosed, if_false])

theorem adaptorStops_of_stat (ha : a.state = .stat k) (hc : a.cancelled = true)
    (hstarted : (a.caa k).phase.started = true) : AdaptorStops e a := by
  cases hsocket : a.socket with
  | true =>
    have hnext : AdaptorStops e { a with state := .returned (.ok k) } := adaptorStops_of_ok rfl hc
    exact hnext.of_advance .next trivial (by simp only [Adaptor.advance, ha, hsocket, if_pos])
  | false =>
    have hnext : AdaptorStops e { a with state := .poll k [.caa, .kubelet] } :=
      adaptorStops_of_poll rfl hc hstarted
    exact hnext.of_advance .next trivial (by simp [Adaptor.advance, ha, hsocket])

theorem adaptorStops_of_attempt (ha : a.state = .attempt) (hc : a.cancelled = true) : AdaptorStops e a := by
  have hnext : AdaptorStops e { a with
      caa := Function.update a.caa a.attempts cloudAPIAdaptor.started
      attempts := a.attempts + 1
      timedOut := false
      state := .stat a.attempts } := by
    refine adaptorStops_of_stat rfl hc ?_
    simp only [Function.update_self]
    rfl
  exact hnext.of_advance .next trivial (by simp only [Adaptor.advance, ha])

/-- From wherever `startCAA` is. -/
theorem adaptorStops_of_cancelled (hinv : a.Inv) (hnumbered : a.Numbered) (hc : a.cancelled = true) :
    AdaptorStops e a := by
  have hstarted {k : Nat} (hk : a.state.current = some k) : (a.caa k).phase.started = true :=
    hinv.started k (hnumbered.current k hk)
  cases ha : a.state with
  | attempt => exact adaptorStops_of_attempt ha hc
  | stat k => exact adaptorStops_of_stat ha hc (hstarted (by rw [ha]; rfl))
  | poll k rest => exact adaptorStops_of_poll ha hc (hstarted (by rw [ha]; rfl))
  | select k =>
    refine (adaptorStops_of_afterWait hc (hstarted (k := k) (by rw [ha]; rfl))
      (.other "context canceled")).of_advance .done trivial ?_
    simp only [Adaptor.advance, ha, hc, if_pos]
  | signal k => exact adaptorStops_of_signal ha hc (hstarted (by rw [ha]; rfl))
  | await k =>
    exact adaptorStops_of_await ha hc (hinv.awaited k ha) (hstarted (by rw [ha]; rfl))
  | pause => exact adaptorStops_of_pause ha hc
  | returned result =>
    cases result with
    | ok k => exact adaptorStops_of_ok ha hc
    | error err => exact adaptorStops_of_error ha

end Adaptor

/-! ## The other places -/

section Places

variable {c : String}

theorem stops_of_hashPlugin (hinv : StopInv s) (hs : s.state = .hashPlugin)
    (hc : s.adaptor.cancelled = true) : Stops e s := by
  have hnext : Stops e { s with
      state := .startCAA (fileSHA256 [])
      history := .read pluginPath [] :: s.history } :=
    adaptorStops_of_cancelled hinv.adaptor hinv.numbered hc _ _ rfl rfl
  exact hnext.of_step (l := .run (.content [])) trivial (by simp only [step, advance, hs])

theorem stops_of_startKubelet (hinv : StopInv s) (hs : s.state = .startKubelet c)
    (hc : s.adaptor.cancelled = true) : Stops e s := by
  have hstep : s.step e (.run .ok) = some { s with
      state := .hashPlugin
      processes := s.processes ++ [.kubelet]
      adaptor := { s.adaptor with kubelet := s.adaptor.kubelet.started }
      history := .started .kubelet (e.kubeletCommand c) [] :: s.history } := by
    simp only [step, advance, hs]
  exact (stops_of_hashPlugin (hinv.step (moves hstep)) rfl hc).of_step (l := .run .ok) trivial hstep

theorem stops_of_select (hs : s.state = .select c) (hc : s.adaptor.cancelled = true) : Stops e s := by
  refine (stops_of_leave s (some (.other "context canceled"))).of_step (l := .run (.choose .done))
    trivial ?_
  simp only [step, advance, hs, hc, if_pos]

theorem stops_of_poll (hs : s.state = .poll c) (hc : s.adaptor.cancelled = true) : Stops e s := by
  by_cases hclosed : s.containerd.phase = .closed
  · refine (stops_of_leave s (some (.processExit s.containerd.name s.containerd.err))).of_step
      (l := .run .ok) trivial ?_
    simp only [step, advance, hs, hclosed, if_pos]
  · have hselect : Stops e { s with state := .select c } := stops_of_select rfl hc
    refine hselect.of_step (l := .run .ok) trivial ?_
    simp only [step, advance, hs, hclosed, if_false]

theorem stops_of_stat (hinv : StopInv s) (hs : s.state = .stat c) (hc : s.adaptor.cancelled = true) :
    Stops e s := by
  cases hsocket : s.containerdSocket with
  | true =>
    have hstep : s.step e (.run .ok) = some { s with
        state := .startKubelet c
        history := .saw defaultContainerdSock :: s.history } := by
      simp only [step, advance, hs, hsocket, if_pos]
    exact (stops_of_startKubelet (hinv.step (moves hstep)) rfl hc).of_step (l := .run .ok) trivial hstep
  | false =>
    have hpoll : Stops e { s with state := .poll c } := stops_of_poll rfl hc
    exact hpoll.of_step (l := .run .ok) trivial (by simp [step, advance, hs, hsocket])

theorem stops_of_startContainerd (hinv : StopInv s) (hs : s.state = .startContainerd c)
    (hc : s.adaptor.cancelled = true) : Stops e s := by
  have hstep : s.step e (.run .ok) = some { s with
      state := .stat c
      processes := [.containerd]
      containerd := s.containerd.started
      timedOut := false
      history := .started .containerd containerdCommand [] :: s.history } := by
    simp only [step, advance, hs, attempt]
  exact (stops_of_stat (hinv.step (moves hstep)) rfl hc).of_step (l := .run .ok) trivial hstep

end Places

/-! ## Whole runs -/

/-- The context is made before anything is started, and stays. -/
theorem Passes.notified {state state' : NodeState} (h : Passes state state')
    (hnotified : state.notified = true) : state'.notified = true := by
  cases h with
  | poll | select | again => rfl
  | _ => cases hnotified

theorem Move.notified (h : Move e s s') :
    s'.adaptor.cancelled = s.adaptor.cancelled ∧
      (s.state.notified = true → s'.state.notified = true) := by
  cases h with
  | pass h => exact ⟨rfl, h.notified⟩
  | adaptorStarted h hmove hnew => exact ⟨hmove.cancelled_eq, id⟩
  | adaptor h hmove hsame => exact ⟨hmove.cancelled_eq, id⟩
  | terminating h ht hmove => exact ⟨rfl, id⟩
  | _ => exact ⟨rfl, fun _ => rfl⟩

/-- The health server listens only when the context is there. -/
theorem Standing.notified {state : NodeState} (h : s.Standing state) (hserving : s.serving = true) :
    state.notified = true := by
  cases hearly : state.early with
  | true =>
    rw [(h.untouched hearly).serving] at hserving
    cases hserving
  | false =>
    cases state with
    | stat | poll | select | startKubelet | hashPlugin | startCAA | watch | shutdownHealth | terminate
    | cleanup | returned => rfl
    | _ => cases hearly

theorem Moves.notified (hinv : StopInv s) (h : Moves e s s')
    (hs : s.adaptor.cancelled = true → s.state.notified = true)
    (hc : s'.adaptor.cancelled = true) : s'.state.notified = true := by
  cases h with
  | run h =>
    obtain ⟨hsame, hstate⟩ := h.notified
    exact hstate (hs (hsame ▸ hc))
  | adaptor hl ha =>
    obtain ⟨-, -, -, hsame⟩ := proceeds_of_step hl ha
    exact hs (hsame ▸ hc)
  | cancel h =>
    obtain hnotified | hserving := h
    · exact hnotified
    · exact hinv.standing.notified hserving
  | containerd | around | expired => exact hs hc

/-- **A node can always be stopped.** From every state that a node can reach and where its context is
cancelled, `run` can return by its own steps and its timers, with no operation that fails and no process
that does anything but the adaptors that were sent SIGTERM. -/
theorem node_can_stop (e : Environment) (containerdSocket hypervisorSocket : Bool)
    {ls : List NodeLabel} {s : Supervisor}
    (hrun : Run (step e) (fun _ _ => True) (Supervisor.start containerdSocket hypervisorSocket) ls s)
    (hc : s.adaptor.cancelled = true) :
    ∃ ls s', Run (step e) Unaided s ls s' ∧ ∃ result, s'.state = .returned result := by
  have hboth : StopInv s ∧ (s.adaptor.cancelled = true → s.state.notified = true) :=
    hrun.invariant (fun s => StopInv s ∧ (s.adaptor.cancelled = true → s.state.notified = true))
      (fun _ _ _ hinv _ h => ⟨hinv.1.step (moves h), (moves h).notified hinv.1 hinv.2⟩)
      ⟨.start _ _, nofun⟩
  obtain ⟨hinv, hnotified⟩ := hboth
  have hnotified := hnotified hc
  have hstanding := hinv.standing
  change Stops e s
  cases hs : s.state with
  | startContainerd => exact stops_of_startContainerd hinv hs hc
  | stat => exact stops_of_stat hinv hs hc
  | poll => exact stops_of_poll hs hc
  | select => exact stops_of_select hs hc
  | startKubelet => exact stops_of_startKubelet hinv hs hc
  | hashPlugin => exact stops_of_hashPlugin hinv hs hc
  | startCAA => exact adaptorStops_of_cancelled hinv.adaptor hinv.numbered hc s _ hs rfl
  | watch => exact stops_of_watch hs hc
  | shutdownHealth result =>
    refine (stops_of_leave { s with serving := false } result).of_step (l := .run .ok) trivial ?_
    simp only [step, advance, hs]
  | terminate =>
    rw [hs] at hstanding
    obtain ⟨-, t, hl⟩ := hstanding
    exact stops_of_terminate hs hl.termination
  | cleanup => exact stops_of_cleanup hs
  | returned => exact stops_of_returned hs
  | _ =>
    rw [hs] at hnotified
    cases hnotified

theorem sample_node_can_stop :
    ∃ s, Run (step Sample.environment) (fun _ _ => True) (Supervisor.start false false)
        (Sample.startSteps ++ [.signal]) s ∧
      ∃ ls s', Run (step Sample.environment) Unaided s ls s' ∧ ∃ result, s'.state = .returned result := by
  have hcheck : (checkRun (step Sample.environment) (fun _ _ => True) (Supervisor.start false false)
      (Sample.startSteps ++ [.signal])).any (fun s => s.adaptor.cancelled = true) = true := by
    decide +kernel
  obtain ⟨s, hrun, hc⟩ := Run.exists_of_checkRun _ hcheck
  exact ⟨s, hrun, node_can_stop _ _ _ hrun hc⟩

end Supervisor

end SandboxProvider.Node
