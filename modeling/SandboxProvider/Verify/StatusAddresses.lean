import SandboxProvider.Verify.Readiness

/-!
# The runner that a status names

One Reconcile call in the loop of a PodSandbox, from any state. The status after its patch names the
address and the node of a live runner that this call observed, exactly when the runner that it read is
live or the status that it read names no address and no node. Otherwise the call patches the Ready
condition only and keeps whatever address and node the status had, also when it has just found the
runner stopped, missing or outdated.
-/

namespace SandboxProvider.Controller

open Lib

/-- The turns that belong to one Reconcile call. -/
def Turn.SameCall : Turn → Prop
  | .reconcile _ | .restart => False
  | .answer _ | .edit .. | .remove => True

instance : (turn : Turn) → Decidable turn.SameCall
  | .reconcile _ | .restart => isFalse id
  | .answer _ | .edit .. | .remove => isTrue trivial

/-- The Pod is the runner of the PodSandbox in its current template, and has not stopped. -/
structure Live (sandbox : PodSandbox) (obs : Observation) : Prop where
  read : obs.sandbox = sandbox
  template : obs.runner.metadata.annotations.getD annotationTemplateGeneration =
    templateGeneration sandbox obs.sandboxClass
  phase : obs.runner.status.phase ≠ .failed ∧ obs.runner.status.phase ≠ .succeeded

/-- The address and the node of the status are those of the Pod. -/
structure Names (status : PodSandboxStatus) (obs : Observation) : Prop where
  ips : status.ips ≠ [] → status.ips = [obs.runner.status.podIP]
  nodeName : status.nodeName = obs.runner.spec.nodeName

/-- A call that started with the observations `past` has not observed a live runner. -/
def NoneLive (sandbox : PodSandbox) (past seen : List Observation) : Prop :=
  ∀ obs, seen = obs :: past → ¬ Live sandbox obs

theorem NoneLive.of_eq {sandbox : PodSandbox} {past seen : List Observation} (h : seen = past) :
    NoneLive sandbox past seen := by
  intro obs hobs
  rw [h] at hobs
  exact absurd hobs.symm (List.cons_ne_self obs past)

/-- What a Reconcile call that started with the observations `past` has seen and is about to write. -/
def ReconcileState.Tracks (stored : Option PodSandbox) (past seen : List Observation) :
    ReconcileState → Prop
  | .getSandbox _ => seen = past
  | .getClass _ sandbox | .getSecret _ sandbox _ => Current stored sandbox ∧ seen = past
  | .createRunner _ sandbox sandboxClass desired | .getRunner _ sandbox sandboxClass desired =>
    (Current stored sandbox ∧ seen = past) ∧
      desired.metadata.annotations.getD annotationTemplateGeneration =
        templateGeneration sandbox sandboxClass
  | .deleteRunner _ sandbox _ => Current stored sandbox ∧ NoneLive sandbox past seen
  | .patchStatus _ base modified none _ => (Current stored base ∧ NoneLive base past seen) ∧
      modified.status.ips = base.status.ips ∧ modified.status.nodeName = base.status.nodeName
  | .patchStatus _ base modified (some obs) _ => Current stored base ∧
      seen = obs :: past ∧ Live base obs ∧ Names modified.status obs
  | .done .. => True

section OneCall

variable {w w' : Loop} {past : List Observation} {stored stored' : Option PodSandbox}
  {seen : List Observation} {s : ReconcileState}

/-- Until it comes to the last exit, the call has not observed a live runner. -/
theorem ReconcileState.Tracks.noneLive {sandbox : PodSandbox} (h : s.Tracks stored past seen)
    (hs : s.sandbox = some sandbox) (hpatch : s.isPatch = false) :
    Current stored sandbox ∧ NoneLive sandbox past seen := by
  cases s with
  | getClass | getSecret =>
    cases hs
    exact ⟨h.1, .of_eq h.2⟩
  | createRunner | getRunner =>
    cases hs
    exact ⟨h.1.1, .of_eq h.1.2⟩
  | deleteRunner =>
    cases hs
    exact h
  | patchStatus => cases hpatch
  | getSandbox | done => cases hs

/-- The status stays while the call does nothing. -/
theorem ReconcileState.Tracks.transfer (h : s.Tracks stored past seen)
    (hcurrent : ∀ {copy}, Current stored copy → Current stored' copy) :
    s.Tracks stored' past seen := by
  cases s with
  | getSandbox => exact h
  | getClass | getSecret | deleteRunner => exact ⟨hcurrent h.1, h.2⟩
  | createRunner | getRunner => exact ⟨⟨hcurrent h.1.1, h.1.2⟩, h.2⟩
  | patchStatus key base modified obs result =>
    cases obs with
    | none => exact ⟨⟨hcurrent h.1.1, h.1.2⟩, h.2⟩
    | some obs => exact ⟨hcurrent h.1, h.2⟩
  | done => trivial

theorem tracks_inspectRunner {key : NamespacedName} {sandbox : PodSandbox}
    {sandboxClass : PodSandboxClass} {desired runner : Pod} {now : Time}
    (hcurrent : Current stored sandbox)
    (hdesired : desired.metadata.annotations.getD annotationTemplateGeneration =
      templateGeneration sandbox sandboxClass) :
    (inspectRunner now key sandbox sandboxClass desired runner).Tracks stored past
      (⟨sandbox, sandboxClass, runner⟩ :: past) := by
  unfold inspectRunner
  split
  · rename_i htemplate
    refine ⟨hcurrent, fun obs hobs hlive => ?_⟩
    cases hobs
    exact htemplate (hlive.template.trans hdesired.symm)
  · rename_i htemplate
    split
    · rename_i hphase
      refine ⟨⟨hcurrent, fun obs hobs hlive => ?_⟩, rfl, rfl⟩
      cases hobs
      exact not_or.mpr hlive.phase hphase
    · rename_i hphase
      refine ⟨hcurrent, rfl, ⟨rfl, (not_not.mp htemplate).trans hdesired, not_or.mp hphase⟩, ?_, rfl⟩
      intro hips
      simp only [observedStatus] at hips ⊢
      split at hips
      · exact absurd rfl hips
      · rename_i haddress
        exact if_neg haddress

/-- A running call keeps track. -/
def Loop.Tracks (past : List Observation) (w : Loop) : Prop :=
  ∀ s, w.running = some s → s.Tracks w.stored past w.seen

theorem Loop.Tracks.move (h : s.Tracks w.stored past w.seen) (hmove : w.Move s w') :
    w'.Tracks past := by
  intro t ht
  cases hmove with
  | ended => cases ht
  | read ho =>
    cases ht
    refine ⟨fun o' ho' => ?_, h⟩
    rw [show w.stored = some o' from ho'] at ho
    cases ho
    rfl
  | classRead =>
    cases ht
    exact h
  | secretRead hdesired =>
    cases ht
    exact ⟨h, hdesired⟩
  | created hsame =>
    cases ht
    refine ⟨h.1, ?_⟩
    rw [hsame]
    exact h.2
  | observed =>
    obtain ⟨⟨hcurrent, hseen⟩, hdesired⟩ := h
    cases ht
    dsimp only
    rw [hseen]
    exact tracks_inspectRunner hcurrent hdesired
  | notReady hsandbox hpatch =>
    cases ht
    exact ⟨h.noneLive hsandbox hpatch, rfl, rfl⟩
  | patched => cases ht

theorem Loop.Tracks.step (h : w.Tracks past) {turn : Turn} (hcall : turn.SameCall)
    (hstep : w.step turn = some w') : w'.Tracks past := by
  cases turn with
  | reconcile key => exact hcall.elim
  | answer ans =>
    obtain ⟨s, hs, hstep⟩ := Option.bind_eq_some_iff.mp hstep
    exact Loop.Tracks.move (h s hs) (Loop.moves hstep)
  | edit metadata spec =>
    cases hstep
    intro s hs
    refine (h s hs).transfer fun hcurrent o ho => ?_
    obtain ⟨old, hold, rfl⟩ := Option.map_eq_some_iff.mp ho
    exact hcurrent old hold
  | remove =>
    cases hstep
    intro s hs
    exact (h s hs).transfer fun _ _ ho => nomatch ho
  | restart => exact hcall.elim

end OneCall

/-- The status after a patch that succeeded. -/
theorem Loop.stored_of_patched {w w' : Loop} {ans : Answer} {key : NamespacedName}
    {base modified o : PodSandbox} {seen : Option Observation} {result : Result}
    (hrunning : w.running = some (.patchStatus key base modified seen result))
    (hstep : w.step (.answer ans) = some w') (hfault : ans.fault = none)
    (ho : w'.stored = some o) (hcurrent : Current w.stored base) : o.status = modified.status := by
  obtain ⟨s, hs, hstep⟩ := Option.bind_eq_some_iff.mp hstep
  rw [hrunning] at hs
  cases hs
  have hmerged : w'.stored = w.stored.map
      (withStatus (·.merge (PodSandboxStatus.mergeFrom base.status modified.status))) := by
    cases hstep
    simp only [hfault]
    cases w.stored <;> rfl
  rw [hmerged] at ho
  obtain ⟨old, hold, rfl⟩ := Option.map_eq_some_iff.mp ho
  rw [withStatus, hcurrent old hold]
  exact PodSandboxStatus.merge_mergeFrom_self _ _

/-- **The status names a live runner** exactly when the call read one, or read a status that names
nothing. For a Reconcile call that starts in any state of the loop, whatever the environment answers
and changes meanwhile: after a status patch that succeeded, an address in the status is the one of the
Pod that this call observed, of the current template and neither failed nor succeeded, and so is the
node, if and only if the `Get` of the runner returned such a Pod or the status that the call read has
no address and no node. -/
theorem patched_status_names_observed (w₀ w w' : Loop) (key : NamespacedName) (turns : List Turn)
    (hcall : Run Loop.step (fun _ turn => turn.SameCall)
      { w₀ with running := some (.getSandbox key) } turns w)
    (patchKey : NamespacedName) (base modified : PodSandbox) (seen : Option Observation)
    (result : Result) (hexit : w.running = some (.patchStatus patchKey base modified seen result))
    (ans : Answer) (hstep : w.step (.answer ans) = some w') (hfault : ans.fault = none)
    (o : PodSandbox) (hstored : w'.stored = some o) :
    ((o.status.ips ≠ [] → ∃ obs, w'.seen = obs :: w₀.seen ∧ Live base obs ∧
      o.status.ips = [obs.runner.status.podIP]) ∧
    (o.status.nodeName ≠ "" → ∃ obs, w'.seen = obs :: w₀.seen ∧ Live base obs ∧
      o.status.nodeName = obs.runner.spec.nodeName)) ↔
    (∃ obs, w.seen = obs :: w₀.seen ∧ Live base obs) ∨
      (base.status.ips = [] ∧ base.status.nodeName = "") := by
  have htracks : w.Tracks w₀.seen := by
    refine hcall.invariant (Loop.Tracks w₀.seen) (fun _ _ _ h hsame hstep => h.step hsame hstep) ?_
    intro s hs
    cases hs
    rfl
  have htrack := htracks _ hexit
  have hseen : w'.seen = w.seen := by
    obtain ⟨s, hs, hstep⟩ := Option.bind_eq_some_iff.mp hstep
    rw [hexit] at hs
    cases hs
    cases hstep
    rfl
  rw [hseen]
  cases seen with
  | none =>
    obtain ⟨⟨hcurrent, hnone⟩, hips, hnode⟩ := htrack
    rw [Loop.stored_of_patched hexit hstep hfault hstored hcurrent, hips, hnode]
    constructor
    · rintro ⟨hnamed, hplaced⟩
      refine .inr ⟨by_contra fun h => ?_, by_contra fun h => ?_⟩
      · obtain ⟨obs, hobs, hlive, -⟩ := hnamed h
        exact hnone obs hobs hlive
      · obtain ⟨obs, hobs, hlive, -⟩ := hplaced h
        exact hnone obs hobs hlive
    · rintro (⟨obs, hobs, hlive⟩ | ⟨hnoips, hnonode⟩)
      · exact absurd hlive (hnone obs hobs)
      · exact ⟨fun h => absurd hnoips h, fun h => absurd hnonode h⟩
  | some obs =>
    obtain ⟨hcurrent, hobs, hlive, hnames⟩ := htrack
    rw [Loop.stored_of_patched hexit hstep hfault hstored hcurrent]
    refine ⟨fun _ => .inl ⟨obs, hobs, hlive⟩, fun _ => ?_⟩
    exact ⟨fun hips => ⟨obs, hobs, hlive, hnames.ips hips⟩,
      fun _ => ⟨obs, hobs, hlive, hnames.nodeName⟩⟩

namespace ReadySample

def key : NamespacedName := ⟨"tenant", "psb-0"⟩

/-- The answers to a Reconcile call that finds the runner like this. -/
def answerWith (found : Pod) : Answer where
  reply
    | .getClass _ => .ok sandboxClass
    | .getSecret _ => .ok { data := StringMap.ofList [("userdata", "cloud-config")] }
    | .createPod _ => .error (.newAlreadyExists "pods" "psb-0")
    | .getPod _ => .ok found
    | _ => .error (.unavailable "")

/-- The runner on its node. -/
def placed : Pod := { runner with spec := { runner.spec with nodeName := "infra-1" } }

/-- The runner after its virtual machine has stopped. -/
def failed : Pod := { placed with status := { placed.status with phase := .failed } }

/-- A Reconcile call, up to its status patch. -/
def untilPatch (found : Pod) : List Turn := List.replicate 5 (.answer (answerWith found))

end ReadySample

/-- The call is about to patch a status that names no address and no node. -/
def ReconcileState.patchesBlank : ReconcileState → Bool
  | .patchStatus _ base _ _ _ => base.status.ips = [] ∧ base.status.nodeName = ""
  | _ => false

theorem ReconcileState.eq_of_patchesBlank {s : ReconcileState} (h : s.patchesBlank = true) :
    ∃ key base modified seen result, s = .patchStatus key base modified seen result ∧
      base.status.ips = [] ∧ base.status.nodeName = "" := by
  unfold patchesBlank at h
  split at h
  · exact ⟨_, _, _, _, _, rfl, of_decide_eq_true h⟩
  · cases h

set_option maxRecDepth 100000 in
theorem ready_status_names_runner :
    ∃ w w' o, Run Loop.step (fun _ turn => turn.SameCall)
        { stored := some ReadySample.sandbox, running := some (.getSandbox ReadySample.key) }
        (ReadySample.untilPatch ReadySample.placed) w ∧
      w.step (.answer (ReadySample.answerWith ReadySample.placed)) = some w' ∧
      w'.stored = some o ∧ o.status.ips ≠ [] ∧
      ∃ obs, w'.seen = [obs] ∧ obs.runner.status.phase ≠ .failed ∧
        o.status.ips = [obs.runner.status.podIP] := by
  obtain ⟨w, hrun, ⟨s, hs, hblank⟩, w', hstep, o, ho, hips⟩ := Run.exists_of_checkRun
    (fun w : Loop => (∃ s ∈ w.running, s.patchesBlank = true) ∧
      ∃ w' ∈ w.step (.answer (ReadySample.answerWith ReadySample.placed)),
        ∃ o ∈ w'.stored, o.status.ips ≠ [])
    (show (checkRun Loop.step (fun _ turn => turn.SameCall)
      { stored := some ReadySample.sandbox, running := some (.getSandbox ReadySample.key) }
      (ReadySample.untilPatch ReadySample.placed)).any _ = true by decide +kernel)
  obtain ⟨key, base, modified, seen, result, rfl, hnothing⟩ :=
    ReconcileState.eq_of_patchesBlank hblank
  have hiff := patched_status_names_observed { stored := some ReadySample.sandbox } w w'
    ReadySample.key _ hrun key base modified seen result hs _ hstep rfl o ho
  obtain ⟨obs, hseen, hlive, haddress⟩ := (hiff.mpr (.inr hnothing)).1 hips
  exact ⟨w, w', o, hrun, hstep, ho, hips, obs, hseen, hlive.phase.1, haddress⟩

/-- A Reconcile call that finds the runner ready, and one that finds it stopped. -/
def ReadySample.stopTurns : List Turn :=
  .reconcile ReadySample.key :: ReadySample.untilPatch ReadySample.placed ++
    .answer (ReadySample.answerWith ReadySample.placed) ::
    .reconcile ReadySample.key :: ReadySample.untilPatch ReadySample.failed ++
    [.answer (ReadySample.answerWith ReadySample.failed)]

set_option maxRecDepth 100000 in
theorem stopped_runner_stays_in_status :
    ∃ w, Run Loop.step (fun _ _ => True) { stored := some ReadySample.sandbox }
        ReadySample.stopTurns w ∧
      w.running.isNone ∧ (∃ obs ∈ w.seen.head?, obs.runner.status.phase = .failed) ∧
      ∃ o ∈ w.stored, o.status.ips = ["10.0.0.1"] ∧ o.status.nodeName = "infra-1" ∧
        ∃ condition ∈ o.status.conditions, condition.reason = "RunnerFailed" := by
  refine Run.exists_of_checkRun _ ?_
  decide +kernel

end SandboxProvider.Controller
