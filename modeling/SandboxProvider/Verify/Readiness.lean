import SandboxProvider.Controller.Reconcile
import SandboxProvider.Lib.Transition

/-!
# What a Ready status is worth

The status loop of one PodSandbox: Reconcile calls run one at a time, only they write the status, and
their `Get` of the PodSandbox returns what is stored. Everything else is up to the environment: it
answers the calls about the class, the Secret and the runner Pod as it likes, fails any call (a failed
patch may have taken effect nevertheless), changes metadata and spec of the PodSandbox, deletes it or
restarts the controller.

In every reachable state there is at most one Ready condition, and if it is True, the address, the
runner and the node in the status are those of one Pod that Reconcile observed as ready.
-/

namespace SandboxProvider.Controller

open Lib

/-! ## The loop -/

/-- How the environment answers one call. -/
structure Answer where
  now : Time := 0
  uid : Nat := 1
  /-- A call about the PodSandbox fails. -/
  fault : Option ApiError := none
  /-- A patch that fails for its caller was applied. -/
  applied : Bool := false
  /-- The replies about classes, Secrets and Pods. -/
  reply : (r : Request) → Except ApiError r.Result

/-- The reply to a call and the PodSandbox afterwards. -/
def Answer.respond (ans : Answer) (stored : Option PodSandbox) :
    (r : Request) → Except ApiError r.Result × Option PodSandbox
  | .getSandbox key =>
    match ans.fault, stored with
    | some err, _ => (.error err, stored)
    | none, some o => (.ok o, stored)
    | none, none => (.error (notFound PodSandbox key), stored)
  | .patchSandboxStatus key patch =>
    match ans.fault, stored.map (withStatus (·.merge patch)) with
    | some err, after => (.error err, if ans.applied then after else stored)
    | none, some o => (.ok o, some o)
    | none, none => (.error (notFound PodSandbox key), none)
  | .createPod o => ((ans.reply (.createPod o)).map fun _ => asCreated ans.uid o, stored)
  | r => (ans.reply r, stored)

/-- The PodSandbox, the Reconcile call that runs, and every Pod that a Reconcile call observed, with
the PodSandbox and the class that it had read. -/
structure Loop where
  stored : Option PodSandbox
  running : Option ReconcileState := none
  seen : List Observation := []

inductive Turn
  | reconcile (key : NamespacedName)
  | answer (ans : Answer)
  | edit (metadata : ObjectMeta) (spec : PodSandboxSpec)
  | remove
  | restart

def ReconcileState.ongoing : ReconcileState → Option ReconcileState
  | .done .. => none
  | s => some s

/-- The Pod that the `Get` of the runner returns. -/
def ReconcileState.observes (ans : Answer) : ReconcileState → Option Observation
  | .getRunner key sandbox sandboxClass _ =>
    match ans.reply (.getPod key) with
    | .ok runner => some ⟨sandbox, sandboxClass, runner⟩
    | .error _ => none
  | _ => none

/-- A Reconcile call runs up to its next call. -/
def Loop.answer (w : Loop) (ans : Answer) (s : ReconcileState) : Option Loop :=
  match s.next with
  | .call _ req resume =>
    let (res, stored) := ans.respond w.stored req
    some ⟨stored, (resume ans.now res).ongoing, (s.observes ans).toList ++ w.seen⟩
  | .select .. | .done => none

def Loop.step (w : Loop) : Turn → Option Loop
  | .reconcile key =>
    match w.running with
    | some _ => none
    | none => some { w with running := some (.getSandbox key) }
  | .answer ans => w.running.bind (w.answer ans)
  | .edit metadata spec =>
    some { w with stored := w.stored.map fun o => { o with metadata := metadata, spec := spec } }
  | .remove => some { w with stored := none }
  | .restart => some { w with running := none }

/-! ## What an answer leads to -/

/-- The steps of a Reconcile call in the loop. -/
inductive Loop.Move (w : Loop) : ReconcileState → Loop → Prop
  | ended {s} : Loop.Move w s { w with running := none }
  | read {key o} (h : w.stored = some o) :
      Loop.Move w (.getSandbox key) { w with running := some (.getClass key o) }
  | classRead {key sandbox sandboxClass} :
      Loop.Move w (.getClass key sandbox)
        { w with running := some (.getSecret key sandbox sandboxClass) }
  | secretRead {key sandbox sandboxClass desired}
      (h : desired.metadata.annotations.getD annotationTemplateGeneration =
        templateGeneration sandbox sandboxClass) :
      Loop.Move w (.getSecret key sandbox sandboxClass)
        { w with running := some (.createRunner key sandbox sandboxClass desired) }
  | created {key sandbox sandboxClass desired desired'}
      (h : desired'.metadata.annotations = desired.metadata.annotations) :
      Loop.Move w (.createRunner key sandbox sandboxClass desired)
        { w with running := some (.getRunner key sandbox sandboxClass desired') }
  | observed {key sandbox sandboxClass desired now runner} :
      Loop.Move w (.getRunner key sandbox sandboxClass desired)
        { w with
          running := some (inspectRunner now key sandbox sandboxClass desired runner)
          seen := ⟨sandbox, sandboxClass, runner⟩ :: w.seen }
  | notReady {s key sandbox now reason message result} (hs : s.sandbox = some sandbox)
      (hpatch : s.isPatch = false) :
      Loop.Move w s
        { w with running := some (patchNotReady now key sandbox reason message result) }
  | patched {key base modified seen result} :
      Loop.Move w (.patchStatus key base modified seen result)
        { w with
          stored := w.stored.map
            (withStatus (·.merge (PodSandboxStatus.mergeFrom base.status modified.status)))
          running := none }

theorem inspectRunner_ongoing (now : Time) (key : NamespacedName) (sandbox : PodSandbox)
    (sandboxClass : PodSandboxClass) (desired runner : Pod) :
    (inspectRunner now key sandbox sandboxClass desired runner).ongoing =
      some (inspectRunner now key sandbox sandboxClass desired runner) := by
  unfold inspectRunner
  split
  · rfl
  · split <;> rfl

theorem Loop.moves {w w' : Loop} {ans : Answer} {s : ReconcileState}
    (h : w.answer ans s = some w') : w.Move s w' := by
  cases s with
  | getSandbox key =>
    cases h
    dsimp only
    split
    · exact .ended
    · rename_i o hfault ho
      dsimp only
      split
      · exact .ended
      · exact .read ho
    · exact .ended
  | getClass key sandbox =>
    cases h
    dsimp only [Answer.respond]
    cases ans.reply (.getClass sandbox.spec.className) with
    | error err => exact .notReady rfl rfl
    | ok sandboxClass => exact .classRead
  | getSecret key sandbox sandboxClass =>
    cases h
    dsimp only [Answer.respond]
    cases ans.reply (.getSecret ⟨sandbox.metadata.ns, sandbox.spec.userDataSecretRef.name⟩) with
    | error err => exact .notReady rfl rfl
    | ok secret =>
      dsimp only
      split
      · exact .notReady rfl rfl
      · split
        · exact .ended
        · rename_i desired hown
          rw [setControllerReference_eq_ok hown]
          exact .secretRead (getD_annotationTemplateGeneration sandbox sandboxClass)
  | createRunner key sandbox sandboxClass desired =>
    cases h
    dsimp only [Answer.respond]
    cases ans.reply (.createPod desired) with
    | error err =>
      dsimp only [Except.map]
      split
      · exact .created rfl
      · exact .notReady rfl rfl
    | ok o => exact .created rfl
  | getRunner key sandbox sandboxClass desired =>
    cases h
    dsimp only [Answer.respond, ReconcileState.observes]
    cases ans.reply (.getPod key) with
    | error err =>
      dsimp only
      split
      · exact .notReady rfl rfl
      · exact .ended
    | ok runner =>
      dsimp only
      rw [inspectRunner_ongoing]
      exact .observed
  | deleteRunner key sandbox runner =>
    cases h
    dsimp only [Answer.respond]
    cases ans.reply (.deletePod runner.metadata.key) with
    | error err =>
      dsimp only
      split <;> exact .notReady rfl rfl
    | ok o => exact .notReady rfl rfl
  | patchStatus key base modified seen result =>
    cases h
    dsimp only
    split
    · split
      · exact .patched
      · exact .ended
    · rename_i o hfault ho
      rw [← ho]
      exact .patched
    · rename_i hfault ho
      rw [← ho]
      exact .patched
  | done key result => cases h

/-! ## The API server as the environment

A Reconcile call in the cluster of `Api.Cluster` takes a step of the loop: the cluster is one of the
environments that the loop allows.
-/

/-- The calls of Reconcile about the PodSandbox `key`. -/
def Answer.Serves (key : NamespacedName) : Request → Prop
  | .getSandbox k | .patchSandboxStatus k _ => k = key
  | .getClass _ | .getSecret _ | .createPod _ | .getPod _ | .deletePod _ => True
  | _ => False

def Answer.ofEnv (env : Env) (ctxErr : Option String) (c : Cluster) : Answer where
  now := env.now
  uid := env.uid
  fault := (refusal env ctxErr .request).map .unavailable
  reply r :=
    match SandboxProvider.respond env ctxErr c .request r with
    | some (res, _) => res
    | none => .error (.unavailable "")

section OfEnv

variable {env : Env} {ctxErr : Option String} {c c' : Cluster} {key : NamespacedName}

/-- Calls about other kinds leave the PodSandboxes alone. -/
theorem respond_sandboxes {req : Request} (hreq : Answer.Serves key req)
    (hother : ∀ k patch, req ≠ .patchSandboxStatus k patch) {res : Except ApiError req.Result}
    {ws : List Write} (h : SandboxProvider.respond env ctxErr c .request req = some (res, c', ws)) :
    c'.sandboxes = c.sandboxes := by
  unfold SandboxProvider.respond at h
  split at h
  · cases h
    rfl
  · cases req with
    | getSandbox k => cases h; rfl
    | getClass name => cases h; rfl
    | getSecret k => cases h; rfl
    | getPod k => cases h; rfl
    | createPod o =>
      obtain ⟨cur, -, rfl, rfl, rfl⟩ | ⟨t, -, rfl, rfl, rfl⟩ := createCall_cases h <;> rfl
    | deletePod k =>
      obtain ⟨-, rfl, rfl, rfl⟩ | ⟨o, -, hf⟩ := onObject_cases (Option.some.inj h)
      · rfl
      · cases hf
        rfl
    | patchSandboxStatus k patch => exact absurd rfl (hother k patch)
    | _ => exact hreq.elim

theorem respond_ofEnv {req : Request} (hreq : Answer.Serves key req)
    {res : Except ApiError req.Result} {ws : List Write}
    (h : SandboxProvider.respond env ctxErr c .request req = some (res, c', ws)) :
    (Answer.ofEnv env ctxErr c).respond (c.sandboxes.get key) req = (res, c'.sandboxes.get key) := by
  have hreply : (Answer.ofEnv env ctxErr c).reply req = res := by
    unfold Answer.ofEnv
    dsimp only
    rw [h]
  have hsame := respond_sandboxes hreq (h := h)
  cases req with
  | getClass name => exact Prod.ext hreply (by rw [hsame fun _ _ => nofun]; rfl)
  | getSecret k => exact Prod.ext hreply (by rw [hsame fun _ _ => nofun]; rfl)
  | getPod k => exact Prod.ext hreply (by rw [hsame fun _ _ => nofun]; rfl)
  | deletePod k => exact Prod.ext hreply (by rw [hsame fun _ _ => nofun]; rfl)
  | createPod o =>
    refine Prod.ext ?_ (by rw [hsame fun _ _ => nofun]; rfl)
    show ((Answer.ofEnv env ctxErr c).reply (.createPod o)).map _ = res
    rw [hreply]
    unfold SandboxProvider.respond at h
    split at h
    · cases h
      rfl
    · obtain ⟨cur, -, rfl, -⟩ | ⟨t, -, rfl, -⟩ := createCall_cases h <;> rfl
  | getSandbox k =>
    cases hreq
    rw [hsame fun _ _ => nofun]
    unfold SandboxProvider.respond at h
    split at h
    · rename_i message hr
      cases h
      simp only [Answer.respond, Answer.ofEnv, hr, Option.map_some]
    · rename_i hr
      cases h
      simp only [Answer.respond, Answer.ofEnv, hr, Option.map_none, getObject]
      cases c.sandboxes.get key <;> rfl
  | patchSandboxStatus k patch =>
    cases hreq
    unfold SandboxProvider.respond at h
    split at h
    · rename_i message hr
      cases h
      simp [Answer.respond, Answer.ofEnv, hr]
    · rename_i hr
      simp only [Answer.respond, Answer.ofEnv, hr, Option.map_none]
      obtain ⟨hnone, rfl, rfl, rfl⟩ | ⟨o, ho, hf⟩ := onObject_cases (Option.some.inj h)
      · rw [hnone]
        rfl
      · cases hf
        have hrep := replaces_modifyObject (withStatus (·.merge patch)) (fun _ => ⟨rfl, rfl⟩) ho
        have hself := hrep.get_self
        rw [Table.key_of_get ho] at hself
        rw [ho]
        exact Prod.ext rfl hself.symm
  | _ => exact hreq.elim

/-- The states of a Reconcile call for `key`. -/
def ReconcileState.OfKey (key : NamespacedName) : ReconcileState → Prop
  | .getSandbox k => k = key
  | .patchStatus _ _ modified _ _ => modified.metadata.key = key
  | _ => True

/-- A step of Reconcile in the cluster is a step of the loop. -/
theorem Loop.answer_of_step {s s' : ReconcileState} {out : Outcome} (hs : s.OfKey key)
    (h : s.next.step env ctxErr c = some (s', c', out)) (seen : List Observation) :
    ∃ seen', Loop.answer ⟨c.sandboxes.get key, some s, seen⟩ (.ofEnv env ctxErr c) s =
      some ⟨c'.sandboxes.get key, s'.ongoing, seen'⟩ := by
  have hcall {ctx : Ctx} {req : Request} {resume : Time → Except ApiError req.Result → ReconcileState}
      (hnext : s.next = .call ctx req resume) (hctx : ctx = .request)
      (hreq : Answer.Serves key req) :
      ∃ seen', Loop.answer ⟨c.sandboxes.get key, some s, seen⟩ (.ofEnv env ctxErr c) s =
        some ⟨c'.sandboxes.get key, s'.ongoing, seen'⟩ := by
    subst hctx
    rw [hnext] at h
    simp only [Next.step] at h
    split at h
    · rename_i res d ws hres
      cases h
      refine ⟨(s.observes (.ofEnv env ctxErr c)).toList ++ seen, ?_⟩
      unfold Loop.answer
      rw [hnext]
      dsimp only
      rw [respond_ofEnv hreq hres]
      rfl
    · cases h
  cases s with
  | getSandbox k => exact hcall rfl rfl hs
  | getClass k sandbox => exact hcall rfl rfl trivial
  | getSecret k sandbox sandboxClass => exact hcall rfl rfl trivial
  | createRunner k sandbox sandboxClass desired => exact hcall rfl rfl trivial
  | getRunner k sandbox sandboxClass desired => exact hcall rfl rfl trivial
  | deleteRunner k sandbox runner => exact hcall rfl rfl trivial
  | patchStatus k base modified obs result => exact hcall rfl rfl hs
  | done k result => cases h

end OfEnv

/-! ## The property -/

/-- The status reports this observation: a Pod of the current template, not stopped, ready. -/
structure Reports (status : PodSandboxStatus) (obs : Observation) : Prop where
  ips : status.ips = [obs.runner.status.podIP]
  address : obs.runner.status.podIP ≠ ""
  runnerRef : status.runnerRef = some ⟨obs.runner.metadata.name⟩
  nodeName : status.nodeName = obs.runner.spec.nodeName
  template : obs.runner.metadata.annotations.getD annotationTemplateGeneration =
    templateGeneration obs.sandbox obs.sandboxClass
  phase : obs.runner.status.phase ≠ .failed ∧ obs.runner.status.phase ≠ .succeeded
  ready : podReady obs.runner

/-- At most one Ready condition, and one that is True reports an observation. -/
structure StatusSound (seen : List Observation) (status : PodSandboxStatus) : Prop where
  unique : (status.conditions.filter (·.type = ConditionReady)).length ≤ 1
  reports : ∀ condition ∈ status.conditions, condition.type = ConditionReady →
    condition.status = .true → ∃ obs ∈ seen, Reports status obs

/-! ## Setting the condition -/

/-- Afterwards the condition is there once, with the new status. -/
theorem filter_setStatusCondition (now : Time) (new : Condition) (cs : List Condition)
    (h : (cs.filter (·.type = new.type)).length ≤ 1) :
    ∃ time, (setStatusCondition now new cs).filter (·.type = new.type) =
      [{ new with lastTransitionTime := time }] := by
  induction cs with
  | nil => exact ⟨now, by simp [setStatusCondition]⟩
  | cons cur rest ih =>
    unfold setStatusCondition
    split
    · rename_i htype
      rw [List.filter_cons_of_pos (by simpa using htype), List.length_cons] at h
      have hrest : rest.filter (·.type = new.type) = [] := List.length_eq_zero_iff.mp (by omega)
      refine ⟨if cur.status = new.status then cur.lastTransitionTime else now, ?_⟩
      rw [List.filter_cons_of_pos (by simp), hrest]
    · rename_i htype
      rw [List.filter_cons_of_neg (by simpa using htype)] at h ⊢
      exact ih h

/-- The status after a Ready condition was set: sound if a True condition reports an observation. -/
theorem statusSound_of_set {seen : List Observation} {status : PodSandboxStatus}
    {cs : List Condition} {now : Time} {new : Condition} (htype : new.type = ConditionReady)
    (hcs : status.conditions = setStatusCondition now new cs)
    (h : (cs.filter (·.type = ConditionReady)).length ≤ 1)
    (hreports : new.status = .true → ∃ obs ∈ seen, Reports status obs) :
    StatusSound seen status := by
  obtain ⟨time, hfilter⟩ := filter_setStatusCondition now new cs (by rw [htype]; exact h)
  rw [htype, ← hcs] at hfilter
  refine ⟨by rw [hfilter]; rfl, fun condition hmem hct htrue => hreports ?_⟩
  have hin : condition ∈ status.conditions.filter (·.type = ConditionReady) :=
    List.mem_filter.mpr ⟨hmem, by simpa using hct⟩
  rw [hfilter, List.mem_singleton] at hin
  rw [hin] at htrue
  exact htrue

/-! ## The invariant -/

/-- A copy of the PodSandbox with the stored status. -/
def Current (stored : Option PodSandbox) (copy : PodSandbox) : Prop :=
  ∀ o, stored = some o → o.status = copy.status

/-- What a running Reconcile call knows. -/
def ReconcileState.Knows (stored : Option PodSandbox) (seen : List Observation) :
    ReconcileState → Prop
  | .getSandbox _ | .done .. => True
  | .getClass _ sandbox | .getSecret _ sandbox _ | .deleteRunner _ sandbox _ =>
    Current stored sandbox ∧ StatusSound seen sandbox.status
  | .createRunner _ sandbox sandboxClass desired | .getRunner _ sandbox sandboxClass desired =>
    (Current stored sandbox ∧ StatusSound seen sandbox.status) ∧
      desired.metadata.annotations.getD annotationTemplateGeneration =
        templateGeneration sandbox sandboxClass
  | .patchStatus _ base modified _ _ => Current stored base ∧ StatusSound seen modified.status

/-- Nobody else writes the status. -/
theorem ReconcileState.Knows.transfer {stored stored' : Option PodSandbox} {seen : List Observation}
    {s : ReconcileState} (h : s.Knows stored seen)
    (hold : ∀ o, stored' = some o → ∃ old, stored = some old ∧ old.status = o.status) :
    s.Knows stored' seen := by
  have hcurrent {copy : PodSandbox} (hcur : Current stored copy) : Current stored' copy := by
    intro o ho
    obtain ⟨old, hget, hstatus⟩ := hold o ho
    rw [← hstatus]
    exact hcur old hget
  cases s with
  | getSandbox key => trivial
  | getClass key sandbox => exact ⟨hcurrent h.1, h.2⟩
  | getSecret key sandbox sandboxClass => exact ⟨hcurrent h.1, h.2⟩
  | createRunner key sandbox sandboxClass desired => exact ⟨⟨hcurrent h.1.1, h.1.2⟩, h.2⟩
  | getRunner key sandbox sandboxClass desired => exact ⟨⟨hcurrent h.1.1, h.1.2⟩, h.2⟩
  | deleteRunner key sandbox runner => exact ⟨hcurrent h.1, h.2⟩
  | patchStatus key base modified obs result => exact ⟨hcurrent h.1, h.2⟩
  | done key result => trivial

structure Loop.Inv (w : Loop) : Prop where
  stored : ∀ {o}, w.stored = some o → StatusSound w.seen o.status
  running : ∀ {s}, w.running = some s → s.Knows w.stored w.seen

section Answers

variable {stored : Option PodSandbox} {seen : List Observation} {key : NamespacedName}
  {sandbox : PodSandbox} {sandboxClass : PodSandboxClass} {now : Time}

theorem StatusSound.mono {seen' : List Observation} {status : PodSandboxStatus}
    (h : StatusSound seen status) (hsub : ∀ obs ∈ seen, obs ∈ seen') : StatusSound seen' status where
  unique := h.unique
  reports condition hmem htype htrue := by
    obtain ⟨obs, hobs, hrep⟩ := h.reports condition hmem htype htrue
    exact ⟨obs, hsub obs hobs, hrep⟩

/-- The exits that set the condition to False. -/
theorem knows_patchNotReady (hcur : Current stored sandbox) (h : StatusSound seen sandbox.status)
    (reason message : String) (result : Result) :
    (patchNotReady now key sandbox reason message result).Knows stored seen := by
  refine ⟨hcur, statusSound_of_set rfl rfl h.unique fun htrue => ?_⟩
  cases htrue

/-- What follows the `Get` of the runner. -/
theorem knows_inspectRunner {desired runner : Pod} (hcur : Current stored sandbox)
    (h : StatusSound seen sandbox.status)
    (hdesired : desired.metadata.annotations.getD annotationTemplateGeneration =
      templateGeneration sandbox sandboxClass)
    (hseen : ⟨sandbox, sandboxClass, runner⟩ ∈ seen) :
    (inspectRunner now key sandbox sandboxClass desired runner).Knows stored seen := by
  unfold inspectRunner
  split
  · exact ⟨hcur, h⟩
  · rename_i htemplate
    split
    · exact knows_patchNotReady hcur h _ _ _
    · rename_i hphase
      refine ⟨hcur, statusSound_of_set rfl rfl h.unique fun htrue => ?_⟩
      have hready : runnerReady runner = true := by
        by_contra hne
        simp [readyCondition, boolCondition, hne] at htrue
      obtain ⟨hpod, hip⟩ : podReady runner = true ∧ runner.status.podIP ≠ "" := by
        simpa [runnerReady] using hready
      exact ⟨_, hseen, {
        ips := if_neg hip
        address := hip
        runnerRef := rfl
        nodeName := rfl
        template := (not_not.mp htemplate).trans hdesired
        phase := not_or.mp hphase
        ready := hpod }⟩

end Answers

namespace Loop.Inv

variable {w w' : Loop}

theorem start (o : PodSandbox) (h : o.status = {}) : Inv { stored := some o } where
  stored {o'} ho := by
    cases ho
    rw [h]
    exact ⟨Nat.zero_le _, fun _ hmem => nomatch hmem⟩
  running hs := by cases hs

theorem mk' {stored : Option PodSandbox} {s : ReconcileState} {seen : List Observation}
    (hstored : ∀ {o}, stored = some o → StatusSound seen o.status) (hs : s.Knows stored seen) :
    Inv ⟨stored, s.ongoing, seen⟩ where
  stored := hstored
  running {t} ht := by
    cases s <;> cases ht <;> exact hs

/-- A patch computed from the stored status stores the modified one. -/
theorem sound_of_patch {stored : Option PodSandbox} {base modified : PodSandbox}
    {seen : List Observation} (hcur : ∀ o, stored = some o → o.status = base.status)
    (hsound : StatusSound seen modified.status) {o : PodSandbox}
    (ho : stored.map (withStatus (·.merge (PodSandboxStatus.mergeFrom base.status modified.status))) =
      some o) : StatusSound seen o.status := by
  obtain ⟨old, hold, rfl⟩ := Option.map_eq_some_iff.mp ho
  have hmerge : (withStatus (·.merge (PodSandboxStatus.mergeFrom base.status modified.status))
      old).status = modified.status := by
    rw [withStatus, hcur old hold]
    exact PodSandboxStatus.merge_mergeFrom_self _ _
  rw [hmerge]
  exact hsound

/-- What the states with a PodSandbox know about it. -/
theorem knows_sandbox {stored : Option PodSandbox} {seen : List Observation} {s : ReconcileState}
    {sandbox : PodSandbox} (h : s.Knows stored seen) (hs : s.sandbox = some sandbox)
    (hpatch : s.isPatch = false) : Current stored sandbox ∧ StatusSound seen sandbox.status := by
  cases s with
  | getClass | getSecret | deleteRunner =>
    cases hs
    exact h
  | createRunner | getRunner =>
    cases hs
    exact h.1
  | patchStatus => cases hpatch
  | getSandbox | done => cases hs

/-- One API call of the running Reconcile. -/
theorem answer (h : w.Inv) {ans : Answer} {s : ReconcileState} (hs : w.running = some s)
    (hstep : w.answer ans s = some w') : w'.Inv := by
  have hknows := h.running hs
  cases Loop.moves hstep with
  | ended => exact ⟨h.stored, nofun⟩
  | read ho =>
    refine mk' (s := .getClass _ _) h.stored ⟨fun o' ho' => ?_, h.stored ho⟩
    rw [ho] at ho'
    cases ho'
    rfl
  | classRead => exact mk' (s := .getSecret _ _ _) h.stored hknows
  | secretRead hdesired => exact mk' (s := .createRunner _ _ _ _) h.stored ⟨hknows, hdesired⟩
  | created hsame =>
    refine mk' (s := .getRunner _ _ _ _) h.stored ⟨hknows.1, ?_⟩
    rw [hsame]
    exact hknows.2
  | @observed key sandbox sandboxClass desired now runner =>
    obtain ⟨⟨hcur, hsound⟩, hdesired⟩ := hknows
    have hsub : ∀ obs ∈ w.seen, obs ∈ ⟨sandbox, sandboxClass, runner⟩ :: w.seen :=
      fun obs hobs => List.mem_cons_of_mem _ hobs
    refine ⟨fun ho => (h.stored ho).mono hsub, fun ht => ?_⟩
    cases ht
    exact knows_inspectRunner hcur (hsound.mono hsub) hdesired List.mem_cons_self
  | notReady hsandbox hpatch =>
    obtain ⟨hcur, hsound⟩ := knows_sandbox hknows hsandbox hpatch
    refine ⟨h.stored, fun ht => ?_⟩
    cases ht
    exact knows_patchNotReady hcur hsound _ _ _
  | patched =>
    obtain ⟨hcur, hsound⟩ := hknows
    exact ⟨fun ho => sound_of_patch hcur hsound ho, nofun⟩

theorem step (h : w.Inv) {turn : Turn} (hstep : w.step turn = some w') : w'.Inv := by
  cases turn with
  | reconcile key =>
    simp only [Loop.step] at hstep
    split at hstep
    · cases hstep
    · cases hstep
      exact mk' h.stored (s := .getSandbox key) trivial
  | answer ans =>
    obtain ⟨s, hs, hstep⟩ := Option.bind_eq_some_iff.mp hstep
    exact h.answer hs hstep
  | edit metadata spec =>
    cases hstep
    have hold {o : PodSandbox}
        (ho : w.stored.map (fun o => { o with metadata := metadata, spec := spec }) = some o) :
        ∃ old, w.stored = some old ∧ old.status = o.status := by
      obtain ⟨old, hold, rfl⟩ := Option.map_eq_some_iff.mp ho
      exact ⟨old, hold, rfl⟩
    refine ⟨fun ho => ?_, fun hs => ?_⟩
    · obtain ⟨old, hget, hstatus⟩ := hold ho
      rw [← hstatus]
      exact h.stored hget
    · refine (h.running hs).transfer fun o ho => ?_
      exact hold ho
  | remove =>
    cases hstep
    exact ⟨fun ho => (nomatch ho), fun hs => (h.running hs).transfer fun o ho => (nomatch ho)⟩
  | restart =>
    cases hstep
    exact ⟨h.stored, fun hs => nomatch hs⟩

end Loop.Inv

/-- **Readiness.** Whatever the environment answers and changes, the status of the PodSandbox has at
most one Ready condition, and when that is True, its address, runner and node are those of one Pod
that a Reconcile call observed: of the template of the PodSandbox and the class read in this call,
neither failed nor succeeded, ready and with a non-empty address. -/
theorem ready_status_reports_observation (o : PodSandbox) (ho : o.status = {}) (turns : List Turn)
    (w : Loop) (hrun : Run Loop.step (fun _ _ => True) { stored := some o } turns w)
    (o' : PodSandbox) (hstored : w.stored = some o') : StatusSound w.seen o'.status :=
  (hrun.invariant Loop.Inv (fun _ _ _ h _ hstep => h.step hstep) (.start o ho)).stored hstored

/-! ## A PodSandbox that becomes ready -/

namespace ReadySample

def sandbox : PodSandbox where
  metadata := { name := "psb-0", ns := "tenant", uid := 1, generation := 1 }
  spec := { className := "kata", userDataSecretRef := ⟨"psb-0-userdata"⟩ }

def sandboxClass : PodSandboxClass where
  metadata := { name := "kata", uid := 1, generation := 1 }

/-- The runner as the kubelet reports it. -/
def runner : Pod :=
  { desiredRunner sandbox sandboxClass with
    status := { phase := .running, podIP := "10.0.0.1", conditions := [⟨"Ready", .true⟩] } }

def answer : Answer where
  reply
    | .getClass _ => .ok sandboxClass
    | .getSecret _ => .ok { data := StringMap.ofList [("userdata", "cloud-config")] }
    | .createPod _ | .getPod _ => .ok runner
    | _ => .error (.unavailable "")

/-- A Reconcile call from its start to its status patch. -/
def turns : List Turn := .reconcile ⟨"tenant", "psb-0"⟩ :: List.replicate 6 (.answer answer)

end ReadySample

set_option maxRecDepth 100000 in
theorem ready_status_reports_runner :
    ∃ w, Run Loop.step (fun _ _ => True) { stored := some ReadySample.sandbox } ReadySample.turns w ∧
      ∃ o', w.stored = some o' ∧ StatusSound w.seen o'.status ∧
        ∃ condition ∈ o'.status.conditions, condition.type = ConditionReady ∧
          condition.status = .true := by
  obtain ⟨w, hrun, o', ho', hready⟩ := Run.exists_of_checkRun
    (fun w : Loop => ∃ o' ∈ w.stored, ∃ condition ∈ o'.status.conditions,
      condition.type = ConditionReady ∧ condition.status = .true)
    (show (checkRun Loop.step (fun _ _ => True) { stored := some ReadySample.sandbox }
      ReadySample.turns).any _ = true by decide +kernel)
  exact ⟨w, hrun, o', ho',
    ready_status_reports_observation ReadySample.sandbox rfl ReadySample.turns w hrun o' ho', hready⟩

end SandboxProvider.Controller
