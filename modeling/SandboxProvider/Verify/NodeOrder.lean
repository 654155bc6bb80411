import SandboxProvider.Verify.NodeProcesses

/-!
# The order in which a node starts

Whatever fails, exits or is signalled meanwhile, `run` starts its processes in their order, each with what
was prepared for it, and starts none once it has begun to leave.
-/

namespace SandboxProvider.Node.Supervisor

open Lib

variable {e : Environment} {s s' : Supervisor}

/-- This process was started. -/
def Started (history : List NodeEvent) (p : Managed) : Prop :=
  ∃ command env, .started p command env ∈ history

/-- The kubelet configuration is the file that was found, or the one that was written. -/
def Configured (e : Environment) (history : List NodeEvent) (c : String) : Prop :=
  (c = e.configured ∧ .configured c ∈ history) ∨
    (c = e.kubeletYAML ∧ .wrote c e.kubeletContents ∈ history)

/-- What was there before each event. -/
def InOrder (e : Environment) (past : List NodeEvent) : NodeEvent → Prop
  | .started .containerd _ _ => .leaving ∉ past ∧ ∃ c, Configured e past c
  | .started .kubelet command _ => .leaving ∉ past ∧ Started past .containerd ∧
      .saw defaultContainerdSock ∈ past ∧ ∃ c, Configured e past c ∧ command = e.kubeletCommand c
  | .started (.caa k) _ env => .leaving ∉ past ∧ Started past .kubelet ∧
      (∀ j < k, Started past (.caa j)) ∧
      ∃ bytes, .read pluginPath bytes ∈ past ∧ env = e.adaptorEnv (fileSHA256 bytes)
  | .saw path => path = hypervisorSock → ∃ k, Started past (.caa k)
  | .terminated => .leaving ∈ past
  | .cleaned _ => .terminated ∈ past
  | _ => True

/-- What has happened at each place of `run`. -/
def Progress (e : Environment) (history : List NodeEvent) : NodeState → Prop
  | .startContainerd c => .leaving ∉ history ∧ Configured e history c
  | .stat c | .poll c | .select c =>
      .leaving ∉ history ∧ Configured e history c ∧ Started history .containerd
  | .startKubelet c => .leaving ∉ history ∧ Configured e history c ∧ Started history .containerd ∧
      .saw defaultContainerdSock ∈ history
  | .hashPlugin => .leaving ∉ history ∧ Started history .kubelet
  | .startCAA hash => .leaving ∉ history ∧ Started history .kubelet ∧
      ∃ bytes, .read pluginPath bytes ∈ history ∧ hash = fileSHA256 bytes
  | .watch | .shutdownHealth _ | .returned _ => True
  | .terminate _ => .leaving ∈ history
  | .cleanup _ => .terminated ∈ history
  | _ => .leaving ∉ history

section History

variable {history : List NodeEvent} {ev : NodeEvent}

theorem Started.cons {p : Managed} (h : Started history p) (ev : NodeEvent) : Started (ev :: history) p := by
  obtain ⟨command, env, hmem⟩ := h
  exact ⟨command, env, List.mem_cons_of_mem _ hmem⟩

theorem Configured.cons {c : String} (h : Configured e history c) (ev : NodeEvent) :
    Configured e (ev :: history) c :=
  h.imp (fun ⟨hc, hmem⟩ => ⟨hc, List.mem_cons_of_mem _ hmem⟩)
    fun ⟨hc, hmem⟩ => ⟨hc, List.mem_cons_of_mem _ hmem⟩

theorem not_leaving_cons (h : .leaving ∉ history) (hev : ev ≠ .leaving) : .leaving ∉ ev :: history := by
  intro hmem
  rcases List.mem_cons.mp hmem with heq | hmem
  · exact hev heq.symm
  · exact h hmem

/-- An event that is not the beginning of the end takes nothing back. -/
theorem Progress.cons {state : NodeState} (h : Progress e history state) (hev : ev ≠ .leaving) :
    Progress e (ev :: history) state := by
  cases state with
  | startContainerd => exact ⟨not_leaving_cons h.1 hev, h.2.cons ev⟩
  | stat | poll | select => exact ⟨not_leaving_cons h.1 hev, h.2.1.cons ev, h.2.2.cons ev⟩
  | startKubelet =>
    exact ⟨not_leaving_cons h.1 hev, h.2.1.cons ev, h.2.2.1.cons ev, List.mem_cons_of_mem _ h.2.2.2⟩
  | hashPlugin => exact ⟨not_leaving_cons h.1 hev, h.2.cons ev⟩
  | startCAA =>
    obtain ⟨hleaving, hkubelet, bytes, hread, hhash⟩ := h
    exact ⟨not_leaving_cons hleaving hev, hkubelet.cons ev, bytes, List.mem_cons_of_mem _ hread, hhash⟩
  | watch | shutdownHealth | returned => trivial
  | terminate | cleanup => exact List.mem_cons_of_mem _ h
  | _ => exact not_leaving_cons h hev

theorem Progress.pass {state state' : NodeState} (h : Progress e history state)
    (hpass : Passes state state') : Progress e history state' := by
  cases hpass with
  | mkdir | made | statSyslog | removeSyslog | linkSyslog | statConfigured | statClientCA | writeConfig
  | poll | select | again => exact h

end History

structure OrderInv (e : Environment) (s : Supervisor) : Prop where
  progress : Progress e s.history s.state
  attempts : ∀ k < s.adaptor.attempts, Started s.history (.caa k)
  ordered : Historically (InOrder e) s.history

namespace OrderInv

theorem start (e : Environment) (containerdSocket hypervisorSocket : Bool) :
    OrderInv e (Supervisor.start containerdSocket hypervisorSocket) where
  progress h := by cases h
  attempts k hk := absurd hk (Nat.not_lt_zero k)
  ordered := trivial

/-- An event is recorded. -/
theorem event (hinv : OrderInv e s) {ev : NodeEvent} (hhistory : s'.history = ev :: s.history)
    (hattempts : s'.adaptor.attempts = s.adaptor.attempts)
    (hprogress : Progress e (ev :: s.history) s'.state) (hev : InOrder e s.history ev) : OrderInv e s' where
  progress := by
    rw [hhistory]
    exact hprogress
  attempts k hk := by
    rw [hhistory]
    exact (hinv.attempts k (hattempts ▸ hk)).cons ev
  ordered := by
    rw [hhistory]
    exact ⟨hev, hinv.ordered⟩

theorem leave (hinv : OrderInv e s) (result : Option NodeError) : OrderInv e (s.leave result) :=
  hinv.event rfl rfl List.mem_cons_self trivial

/-- An attempt starts an adaptor. -/
theorem adaptorStarted (hinv : OrderInv e s) {hash : String} (h : s.state = .startCAA hash)
    {a : Adaptor} (hattempts : a.attempts = s.adaptor.attempts + 1) :
    OrderInv e { s with
      adaptor := a
      history := .started (.caa s.adaptor.attempts) adaptorCommand (e.adaptorEnv hash) :: s.history } := by
  have hprogress := hinv.progress
  refine ⟨hprogress.cons nofun, fun k hk => ?_, ?_, hinv.ordered⟩
  · have hk : k < s.adaptor.attempts + 1 := hattempts ▸ hk
    rcases Nat.lt_succ_iff_lt_or_eq.mp hk with hk | rfl
    · exact (hinv.attempts k hk).cons _
    · exact ⟨_, _, List.mem_cons_self⟩
  · rw [h] at hprogress
    obtain ⟨hleaving, hkubelet, bytes, hread, rfl⟩ := hprogress
    exact ⟨hleaving, hkubelet, hinv.attempts, bytes, hread, rfl⟩

theorem move (hinv : OrderInv e s) (hnumbered : s.adaptor.Numbered) (h : Move e s s') : OrderInv e s' := by
  have hprogress := hinv.progress
  cases h with
  | pass h => exact ⟨hprogress.pass h, hinv.attempts, hinv.ordered⟩
  | gave h => exact ⟨trivial, hinv.attempts, hinv.ordered⟩
  | configured h =>
    rw [h] at hprogress
    exact hinv.event rfl rfl ⟨not_leaving_cons hprogress nofun, .inl ⟨rfl, List.mem_cons_self⟩⟩ trivial
  | wrote h =>
    rw [h] at hprogress
    exact hinv.event rfl rfl ⟨not_leaving_cons hprogress nofun, .inr ⟨rfl, List.mem_cons_self⟩⟩ trivial
  | startedContainerd h =>
    rw [h] at hprogress
    obtain ⟨hleaving, hconfigured⟩ := hprogress
    exact hinv.event rfl rfl ⟨not_leaving_cons hleaving nofun, hconfigured.cons _, _, _, List.mem_cons_self⟩
      ⟨hleaving, _, hconfigured⟩
  | sawContainerd h =>
    rw [h] at hprogress
    obtain ⟨hleaving, hconfigured, hstarted⟩ := hprogress
    exact hinv.event rfl rfl
      ⟨not_leaving_cons hleaving nofun, hconfigured.cons _, hstarted.cons _, List.mem_cons_self⟩
      fun hpath => absurd hpath (by decide)
  | containerdExited h hclosed => exact hinv.leave _
  | gaveUp h => exact hinv.leave _
  | startedKubelet h =>
    rw [h] at hprogress
    obtain ⟨hleaving, hconfigured, hstarted, hsaw⟩ := hprogress
    exact hinv.event rfl rfl ⟨not_leaving_cons hleaving nofun, _, _, List.mem_cons_self⟩
      ⟨hleaving, hstarted, hsaw, _, hconfigured, rfl⟩
  | kubeletFailed h => exact hinv.event rfl rfl List.mem_cons_self trivial
  | hashed h =>
    rw [h] at hprogress
    exact hinv.event rfl rfl
      ⟨not_leaving_cons hprogress.1 nofun, hprogress.2.cons _, _, List.mem_cons_self, rfl⟩ trivial
  | hashFailed h => exact hinv.leave _
  | adaptorStarted h hmove hnew => exact hinv.adaptorStarted h (hmove.attempts_eq hnew)
  | adaptor h hmove hsame => exact ⟨hprogress, fun k hk => hinv.attempts k (hsame ▸ hk), hinv.ordered⟩
  | @adaptorReady hash k h ha =>
    have hk : k < s.adaptor.attempts := hnumbered.current k (by rw [ha]; rfl)
    exact hinv.event rfl rfl trivial fun _ => ⟨k, hinv.attempts k hk⟩
  | adaptorFailed h ha => exact hinv.leave _
  | stopped h hc => exact ⟨trivial, hinv.attempts, hinv.ordered⟩
  | exited h hp hclosed => exact ⟨trivial, hinv.attempts, hinv.ordered⟩
  | healthDown h => exact hinv.event rfl rfl List.mem_cons_self trivial
  | terminating h ht hmove => exact ⟨hprogress, hinv.attempts, hinv.ordered⟩
  | terminated h ht hreturned =>
    rw [h] at hprogress
    exact hinv.event rfl rfl List.mem_cons_self hprogress
  | cleaned h =>
    rw [h] at hprogress
    exact hinv.event rfl rfl trivial hprogress

theorem step (hinv : OrderInv e s) (hnumbered : s.adaptor.Numbered) (h : Moves e s s') : OrderInv e s' := by
  cases h with
  | run h => exact hinv.move hnumbered h
  | containerd hp => exact ⟨hinv.progress, hinv.attempts, hinv.ordered⟩
  | adaptor hl ha =>
    obtain ⟨-, -, hattempts, -⟩ := proceeds_of_step hl ha
    exact ⟨hinv.progress, fun k hk => hinv.attempts k (hattempts ▸ hk), hinv.ordered⟩
  | around => exact ⟨hinv.progress, hinv.attempts, hinv.ordered⟩
  | cancel h => exact hinv.event rfl rfl (hinv.progress.cons nofun) trivial
  | expired ht htimed hnew => exact ⟨hinv.progress, hinv.attempts, hinv.ordered⟩

end OrderInv

/-- **The order of the start.** In every run, containerd is started with a kubelet configuration at hand,
the kubelet with that configuration after containerd and its socket, each adaptor after the kubelet and
all earlier attempts, with the hash of the plugin as it was read; the socket of the adaptor is seen only
after one was started; nothing is started once `run` has begun to leave; and the namespaces are cleaned
up only after `terminate` has returned. -/
theorem node_starts_in_order (e : Environment) (containerdSocket hypervisorSocket : Bool)
    {ls : List NodeLabel} {s : Supervisor}
    (hrun : Run (step e) (fun _ _ => True) (Supervisor.start containerdSocket hypervisorSocket) ls s) :
    Historically (InOrder e) s.history := by
  have hinv : StopInv s ∧ OrderInv e s := hrun.invariant (fun s => StopInv s ∧ OrderInv e s)
    (fun _ _ _ hinv _ h => ⟨hinv.1.step (moves h), hinv.2.step hinv.1.numbered (moves h)⟩)
    ⟨.start _ _, .start e _ _⟩
  exact hinv.2.ordered

theorem started_node_is_in_order :
    ∃ s, Run (step Sample.environment) (fun _ _ => True) (Supervisor.start false false)
        Sample.startSteps s ∧
      s.state = .watch ∧ s.phase (.caa 0) = .running ∧
      Historically (InOrder Sample.environment) s.history := by
  have hcheck : (checkRun (step Sample.environment) (fun _ _ => True) (Supervisor.start false false)
      Sample.startSteps).any (fun s => s.state = .watch ∧ s.phase (.caa 0) = .running) = true := by
    decide +kernel
  obtain ⟨s, hrun, hstate, hrunning⟩ := Run.exists_of_checkRun _ hcheck
  exact ⟨s, hrun, hstate, hrunning, node_starts_in_order _ _ _ hrun⟩

end SandboxProvider.Node.Supervisor
