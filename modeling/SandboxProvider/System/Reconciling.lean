import SandboxProvider.System.Creating

/-!
# The system as the Reconcile calls see it

A step of the system is a step of one Reconcile call, or it comes from outside: it starts at most a
new Reconcile call, and changes the PodSandboxes, the Pods and the classes in one of a few ways.
-/

namespace SandboxProvider

open Lib Server Controller

/-! ## What a Reconcile call holds -/

namespace Controller.ReconcileState

def key : ReconcileState → NamespacedName
  | .getSandbox key | .getClass key _ | .getSecret key _ _ | .createRunner key _ _ _
  | .getRunner key _ _ _ | .deleteRunner key _ _ | .patchStatus key _ _ _ _ | .done key _ => key

/-- The class, as long as the call is going to use it. -/
def sandboxClass : ReconcileState → Option PodSandboxClass
  | .getSecret _ _ sandboxClass | .createRunner _ _ sandboxClass _
  | .getRunner _ _ sandboxClass _ => some sandboxClass
  | _ => none

/-- The runner Pod that the call wants. -/
def desired : ReconcileState → Option Pod
  | .createRunner _ _ _ desired | .getRunner _ _ _ desired => some desired
  | _ => none

end Controller.ReconcileState

namespace Controller

section Projections

variable {env : Env} {ctxErr : Option String} {c c' : Cluster} {s s' : ReconcileState}
  {out : Outcome} {now : Time} {k : NamespacedName} {o : PodSandbox} {cls : PodSandboxClass}
  {desired runner : Pod}

/-- What follows the `Get` of the runner, in the three ways it can be. -/
theorem inspectRunner_cases (now : Time) (k : NamespacedName) (o : PodSandbox)
    (cls : PodSandboxClass) (desired runner : Pod) :
    (runner.metadata.annotations.getD annotationTemplateGeneration ≠
        desired.metadata.annotations.getD annotationTemplateGeneration ∧
      inspectRunner now k o cls desired runner = .deleteRunner k o runner) ∨
    (∃ reason message, inspectRunner now k o cls desired runner = stopped now k o reason message) ∨
    (runner.metadata.annotations.getD annotationTemplateGeneration =
        desired.metadata.annotations.getD annotationTemplateGeneration ∧
      inspectRunner now k o cls desired runner = report now k o cls runner) := by
  unfold inspectRunner
  split
  · rename_i hne
    exact .inl ⟨hne, rfl⟩
  · rename_i heq
    split
    · exact .inr (.inl ⟨_, _, rfl⟩)
    · exact .inr (.inr ⟨not_not.mp heq, rfl⟩)

theorem inspectRunner_key : (inspectRunner now k o cls desired runner).key = k := by
  obtain ⟨-, he⟩ | ⟨_, _, he⟩ | ⟨-, he⟩ := inspectRunner_cases now k o cls desired runner <;>
    rw [he] <;> rfl

theorem inspectRunner_sandbox : (inspectRunner now k o cls desired runner).sandbox = some o := by
  obtain ⟨-, he⟩ | ⟨_, _, he⟩ | ⟨-, he⟩ := inspectRunner_cases now k o cls desired runner <;>
    rw [he] <;> rfl

theorem inspectRunner_sandboxClass :
    (inspectRunner now k o cls desired runner).sandboxClass = none := by
  obtain ⟨-, he⟩ | ⟨_, _, he⟩ | ⟨-, he⟩ := inspectRunner_cases now k o cls desired runner <;>
    rw [he] <;> rfl

theorem inspectRunner_desired : (inspectRunner now k o cls desired runner).desired = none := by
  obtain ⟨-, he⟩ | ⟨_, _, he⟩ | ⟨-, he⟩ := inspectRunner_cases now k o cls desired runner <;>
    rw [he] <;> rfl

theorem ReconcileMove.key_eq (h : ReconcileMove env ctxErr c s s' c' out) : s'.key = s.key := by
  cases h
  case runnerRead => exact inspectRunner_key
  all_goals rfl

/-- A call holds the PodSandbox that it read first. -/
theorem ReconcileMove.sandbox_cases (h : ReconcileMove env ctxErr c s s' c' out)
    (ho : s'.sandbox = some o) :
    s.sandbox = some o ∨
    (s = .getSandbox s.key ∧ c.sandboxes.get s.key = some o ∧ c' = c ∧ s' = .getClass s.key o) := by
  cases h
  case sandboxRead hget hdel =>
    cases ho
    exact .inr ⟨rfl, hget, rfl, rfl⟩
  case runnerRead =>
    rw [inspectRunner_sandbox] at ho
    exact .inl ho
  case sandboxFailed => cases ho
  case sandboxTerminating => cases ho
  case runnerOwned => cases ho
  case runnerUnread => cases ho
  case patchFailed => cases ho
  case patched => cases ho
  all_goals exact .inl ho

/-- A call holds the class that it read for its PodSandbox. -/
theorem ReconcileMove.class_cases (h : ReconcileMove env ctxErr c s s' c' out)
    (hcls : s'.sandboxClass = some cls) :
    s.sandboxClass = some cls ∨
    (∃ o, s.sandbox = some o ∧ c.classes.get ⟨"", o.spec.className⟩ = some cls ∧ c' = c ∧
      s' = .getSecret s.key o cls) := by
  cases h
  case classRead hget =>
    cases hcls
    exact .inr ⟨_, rfl, hget, rfl, rfl⟩
  case runnerRead =>
    rw [inspectRunner_sandboxClass] at hcls
    cases hcls
  case secretRead => exact .inl hcls
  case runnerExists => exact .inl hcls
  case runnerStored => exact .inl hcls
  all_goals cases hcls

/-- The runner Pod that a call wants is computed from the PodSandbox and the class it holds, and
completed by the server when it is created. -/
theorem ReconcileMove.desired_cases (h : ReconcileMove env ctxErr c s s' c' out)
    (hd : s'.desired = some desired) :
    s.sandboxClass = s'.sandboxClass ∧ s.sandbox = s'.sandbox ∧
    (s.desired = some desired ∨
      (∃ d, s.desired = some d ∧ desired = asCreated env.uid d ∧ c.pods.Stores desired c'.pods) ∨
      ∃ o cls, s = .getSecret s.key o cls ∧ desired = controlledBy o (desiredRunner o cls)) := by
  cases h
  case secretRead hget hkey hown =>
    cases hd
    exact ⟨rfl, rfl, .inr (.inr ⟨_, _, rfl, setControllerReference_eq_ok hown⟩)⟩
  case runnerExists => exact ⟨rfl, rfl, .inl hd⟩
  case runnerStored hst =>
    cases hd
    exact ⟨rfl, rfl, .inr (.inl ⟨_, rfl, rfl, hst⟩)⟩
  case runnerRead =>
    rw [inspectRunner_desired] at hd
    cases hd
  all_goals cases hd

theorem find?_setStatusCondition (now : Time) (new : Condition) (cs : List Condition) :
    ∃ time, (setStatusCondition now new cs).find? (·.type = new.type) =
      some { new with lastTransitionTime := time } := by
  induction cs with
  | nil => exact ⟨now, by simp [setStatusCondition]⟩
  | cons cur rest ih =>
    unfold setStatusCondition
    split
    · exact ⟨_, List.find?_cons_of_pos (by simp)⟩
    · rename_i hne
      rw [List.find?_cons_of_neg (by simpa using hne)]
      exact ih

/-- The status that a Ready condition is set to is the one that is read back. -/
theorem conditionTrue_setStatusCondition (now : Time) (status : ConditionStatus)
    (reason message : String) (cs : List Condition) :
    conditionTrue (setStatusCondition now (readyCondition o status reason message) cs)
      ConditionReady = decide (status = .true) := by
  obtain ⟨time, hfind⟩ := find?_setStatusCondition now (readyCondition o status reason message) cs
  unfold conditionTrue conditionByType
  rw [show (ConditionReady : String) = (readyCondition o status reason message).type from rfl, hfind]
  rfl

/-- What the status patch of a Reconcile call says: without an observation not Ready, and the
addresses as they were; with one, its address. -/
def ReconcileState.Patches : ReconcileState → Prop
  | .patchStatus _ base modified none _ =>
    modified.metadata = base.metadata ∧ modified.status.ips = base.status.ips ∧
      conditionTrue modified.status.conditions ConditionReady = false
  | .patchStatus _ base modified (some obs) _ =>
    modified.metadata = base.metadata ∧ obs.sandbox = base ∧
      modified.status.ips =
        (if obs.runner.status.podIP = "" then [] else [obs.runner.status.podIP]) ∧
      conditionTrue modified.status.conditions ConditionReady = runnerReady obs.runner
  | _ => True

theorem patchNotReady_patches (reason message : String) (result : Result) :
    (patchNotReady now k o reason message result).Patches :=
  ⟨rfl, rfl, conditionTrue_setStatusCondition ..⟩

theorem report_patches : (report now k o cls runner).Patches := by
  refine ⟨rfl, rfl, rfl, ?_⟩
  refine (conditionTrue_setStatusCondition ..).trans ?_
  cases hready : runnerReady runner <;> simp [boolCondition]

/-- A status patch that says Ready has an observation. -/
theorem ReconcileState.Patches.observed {key : NamespacedName} {base modified : PodSandbox}
    {seen : Option Observation} {result : Result}
    (h : (ReconcileState.patchStatus key base modified seen result).Patches)
    (hready : conditionTrue modified.status.conditions ConditionReady) :
    ∃ obs, seen = some obs ∧ obs.sandbox = base ∧
      modified.status.ips = [obs.runner.status.podIP] := by
  cases seen with
  | none =>
    rw [h.2.2] at hready
    cases hready
  | some obs =>
    obtain ⟨-, hbase, hips, hcond⟩ := h
    rw [hcond, runnerReady, Bool.and_eq_true, decide_eq_true_eq] at hready
    rw [if_neg hready.2] at hips
    exact ⟨obs, rfl, hbase, hips⟩

theorem ReconcileMove.patches (h : ReconcileMove env ctxErr c s s' c' out) : s'.Patches := by
  cases h
  case classFailed => exact patchNotReady_patches _ _ _
  case secretFailed => exact patchNotReady_patches _ _ _
  case secretKeyless => exact patchNotReady_patches _ _ _
  case runnerFailed => exact patchNotReady_patches _ _ _
  case runnerMissing => exact patchNotReady_patches _ _ _
  case deleteFailed => exact patchNotReady_patches _ _ _
  case deleteMissing => exact patchNotReady_patches _ _ _
  case deleted => exact patchNotReady_patches _ _ _
  case runnerRead key sandbox sandboxClass desired runner h =>
    obtain ⟨-, he⟩ | ⟨_, _, he⟩ | ⟨-, he⟩ :=
      inspectRunner_cases env.now key sandbox sandboxClass desired runner <;> rw [he]
    · trivial
    · exact patchNotReady_patches _ _ _
    · exact report_patches
  all_goals trivial

/-- How a Reconcile call changes the Pods. -/
inductive OwnPods (env : Env) (c c' : Cluster) : ReconcileState → Prop
  | same {state} (h : c'.pods = c.pods) : OwnPods env c c' state
  | stored {key sandbox sandboxClass desired}
      (h : c.pods.Stores (asCreated env.uid desired) c'.pods) :
      OwnPods env c c' (.createRunner key sandbox sandboxClass desired)
  | deleted {key sandbox runner o} (hget : c.pods.get runner.metadata.key = some o)
      (h : c'.pods = deletePodIn env c.pods runner.metadata.key) :
      OwnPods env c c' (.deleteRunner key sandbox runner)

theorem ReconcileMove.pods (h : ReconcileMove env ctxErr c s s' c' out) : OwnPods env c c' s := by
  cases h
  case runnerStored h => exact .stored h
  case deleted h => exact .deleted h rfl
  all_goals exact .same rfl

end Projections

end Controller

/-! ## Steps from outside -/

/-- The event is of a Reconcile call. -/
def Event.OfReconcile : Event → Prop
  | .wrote _ (.reconcile _) _ => True
  | _ => False

/-- A Reconcile call patched this PodSandbox to Ready, having seen this. -/
def Event.readySeen : Event → Option (PodSandbox × Observation)
  | .wrote _ (.reconcile (.patchStatus _ _ modified (some obs) _)) (.patchSandbox o) =>
    if conditionTrue modified.status.conditions ConditionReady then some (o, obs) else none
  | _ => none

theorem Event.readySeen_eq_some {e : Event} {o : PodSandbox} {obs : Observation}
    (h : e.readySeen = some (o, obs)) : ∃ a key base modified result,
      e = .wrote a (.reconcile (.patchStatus key base modified (some obs) result))
        (.patchSandbox o) ∧
      conditionTrue modified.status.conditions ConditionReady := by
  unfold readySeen at h
  split at h
  · split at h
    · rename_i hready
      cases h
      exact ⟨_, _, _, _, _, rfl, hready⟩
    · cases h
  · cases h

/-- How the Pods change in a step from outside. -/
inductive OutsidePods (c : Cluster) (t : Table NamespacedName Pod) : Label → Prop
  | same {l} (h : t = c.pods) : OutsidePods c t l
  | reported {l o nodeName status} (h : c.pods.Replaces o (setPodStatus nodeName status o) t) :
      OutsidePods c t l
  | collected {l key env o} (hget : c.pods.get key = some o) (hgarbage : c.isGarbage o.metadata)
      (h : t = deletePodIn env c.pods key) : OutsidePods c t l
  | deleted {key env o} (hget : c.pods.get key = some o) (h : t = deletePodIn env c.pods key) :
      OutsidePods c t (.deletePod key env)
  | removed {l o} (h : c.pods.Removes o t) : OutsidePods c t l

/-- How the classes change in a step from outside. -/
inductive OutsideClasses (c : Cluster) (t : Table NamespacedName PodSandboxClass) : Label → Prop
  | same {l} (h : t = c.classes) : OutsideClasses c t l
  | created {name spec env}
      (h : c.classes.Stores (asCreated env.uid { metadata := { name := name }, spec := spec }) t) :
      OutsideClasses c t (.createClass name spec env)
  | updated {name spec o} (hget : c.classes.get ⟨"", name⟩ = some o)
      (h : c.classes.Replaces o (setClassSpec spec o) t) :
      OutsideClasses c t (.updateClass name spec)
  | deleted {name o} (h : c.classes.Removes o t) : OutsideClasses c t (.deleteClass name)

namespace World

/-- The program `a` is a Reconcile call in the state `s`. -/
def Reconciling (w : World) (a : Nat) (s : ReconcileState) : Prop :=
  ∃ ctxErr, w.procs.lookup a = some ⟨ctxErr, .reconcile s⟩

/-- How the PodSandboxes change in a step from outside. -/
inductive OutsideSandboxes (w : World) (t : Table NamespacedName PodSandbox) : Label → Prop
  | same {l} (h : t = w.cluster.sandboxes) : OutsideSandboxes w t l
  | stored {a env p job} (hp : w.procs.lookup a = some p) (hjob : p.state.storing = some job)
      (h : w.cluster.sandboxes.Stores (asCreated env.uid job.sandbox) t) :
      OutsideSandboxes w t (.run a env)
  | removed {l o} (h : w.cluster.sandboxes.Removes o t) : OutsideSandboxes w t l
  | status {key status o}
      (h : w.cluster.sandboxes.Replaces o (withStatus (fun _ => status) o) t) :
      OutsideSandboxes w t (.writeStatus key status)

/-- A step that no Reconcile call makes. -/
structure Outside (w : World) (l : Label) (w' : World) : Prop where
  reconciling : ∀ {a s}, w'.Reconciling a s → w.Reconciling a s ∨ s = .getSandbox s.key
  history : ∃ events, w'.history = events ++ w.history ∧ ∀ e ∈ events, ¬ e.OfReconcile
  sandboxes : OutsideSandboxes w w'.cluster.sandboxes l
  pods : OutsidePods w.cluster w'.cluster.pods l
  classes : OutsideClasses w.cluster w'.cluster.classes l

/-- A step from outside adds no write of a Reconcile call. -/
theorem Outside.wrote_mem {w w' : World} {l : Label} (h : Outside w l w') {a : Nat}
    {s : ReconcileState} {wr : Write} (he : .wrote a (.reconcile s) wr ∈ w'.history) :
    .wrote a (.reconcile s) wr ∈ w.history := by
  obtain ⟨events, hhistory, hnot⟩ := h.history
  rw [hhistory] at he
  rcases List.mem_append.mp he with he | he
  · exact absurd trivial (hnot _ he)
  · exact he

/-- A step of the world, as the Reconcile calls see it. -/
inductive ControlStep (w : World) : Label → World → Prop
  | own {a env ctxErr s s' c' out} (hp : w.procs.lookup a = some ⟨ctxErr, .reconcile s⟩)
      (h : ReconcileMove env ctxErr w.cluster s s' c' out) :
      ControlStep w (.run a env) (w.advance a ⟨ctxErr, .reconcile s⟩ (.reconcile s') c' out)
  | outside {l w'} (h : Outside w l w') : ControlStep w l w'

section Own

variable {w : World} {a b : Nat} {env : Env} {ctxErr : Option String} {s s' t : ReconcileState}
  {c' : Cluster} {out : Outcome}

theorem reconciling_advance :
    (w.advance a ⟨ctxErr, .reconcile s⟩ (.reconcile s') c' out).Reconciling b t ↔
      (b = a ∧ t = s') ∨ (b ≠ a ∧ w.Reconciling b t) := by
  unfold Reconciling advance
  simp only [lookup_insert_ite]
  by_cases hb : b = a
  · subst hb
    simp [eq_comm]
  · simp [hb]

/-- The events of a step of a Reconcile call are those of its client call. -/
theorem history_reconcile :
    (w.advance a ⟨ctxErr, .reconcile s⟩ (.reconcile s') c' out).history =
      callEvents a (.reconcile s) out ++ w.history := rfl

/-- A write of a Reconcile call is one of this step's, or an earlier one. -/
theorem wrote_mem_advance {wr : Write}
    (h : .wrote b (.reconcile t) wr ∈
      (w.advance a ⟨ctxErr, .reconcile s⟩ (.reconcile s') c' out).history) :
    (t = s ∧ wr ∈ out.writes) ∨ .wrote b (.reconcile t) wr ∈ w.history := by
  rw [history_reconcile] at h
  rcases List.mem_append.mp h with h | h
  · obtain ⟨-, hs, hw⟩ := wrote_mem_callEvents.mp h
    exact .inl ⟨State.reconcile.inj hs, hw⟩
  · exact .inr h

end Own

/-! ## Every step is one or the other -/

theorem reachEvents_not_ofReconcile {a : Nat} {before : Option State} {after : State} {c : Cluster} :
    ∀ e ∈ reachEvents a before after c, ¬ e.OfReconcile := by
  intro e he
  rcases List.mem_append.mp he with he | he
  · obtain ⟨_, -, rfl⟩ := List.mem_map.mp he
    exact id
  · obtain ⟨_, -, rfl⟩ := List.mem_map.mp he
    exact id

theorem callEvents_not_ofReconcile {a : Nat} {s : CallState} {out : Outcome} :
    ∀ e ∈ callEvents a (.serve s) out, ¬ e.OfReconcile := by
  intro e he
  cases out with
  | ok ws =>
    obtain ⟨wr, -, rfl⟩ := List.mem_map.mp he
    exact id
  | error err =>
    obtain rfl := List.mem_singleton.mp he
    exact id

/-- A step of a request. -/
theorem Outside.of_serve {w : World} {a : Nat} {env : Env} {ctxErr : Option String} {s s' : CallState}
    {c' : Cluster} {out : Outcome} (hp : w.procs.lookup a = some ⟨ctxErr, .serve s⟩)
    (hmove : CallMove env ctxErr w.cluster w.cfg s s' c' out) :
    Outside w (.run a env) (w.advance a ⟨ctxErr, .serve s⟩ (.serve s') c' out) := by
  have hother : c'.pods = w.cluster.pods ∧ c'.classes = w.cluster.classes := by
    cases hmove with
    | tokenFailed => exact ⟨rfl, rfl⟩
    | tokenRead => exact ⟨rfl, rfl⟩
    | accessesFailed => exact ⟨rfl, rfl⟩
    | accessesRead => exact ⟨rfl, rfl⟩
    | config h => cases h <;> exact ⟨rfl, rfl⟩
    | create h => cases h <;> exact ⟨rfl, rfl⟩
    | delete h => cases h <;> exact ⟨rfl, rfl⟩
  have hsandboxes : OutsideSandboxes w c'.sandboxes (.run a env) := by
    cases hmove with
    | tokenFailed => exact .same rfl
    | tokenRead => exact .same rfl
    | accessesFailed => exact .same rfl
    | accessesRead => exact .same rfl
    | config h => cases h <;> exact .same rfl
    | create hcreate =>
      cases hcreate.sandboxes with
      | same hsame _ => exact .same hsame
      | stored hst _ => exact .stored hp rfl hst
      | rolledBack _ hrem => exact .removed hrem
    | delete h =>
      cases h
      case deleted hrem => exact .removed hrem
      all_goals exact .same rfl
  refine ⟨fun {b t} hb => ?_, ⟨_, rfl, fun e he => ?_⟩, hsandboxes, .same hother.1, .same hother.2⟩
  · obtain ⟨ctxErr', hb⟩ := hb
    simp only [advance, lookup_insert_ite] at hb
    split at hb
    · cases hb
    · exact .inl ⟨ctxErr', hb⟩
  · rcases List.mem_append.mp he with he | he
    · exact reachEvents_not_ofReconcile e he
    · exact callEvents_not_ofReconcile e he

theorem Outside.of_env {w : World} {l : Label} {c' : Cluster} (h : EnvMove w.cluster l c') :
    Outside w l { w with cluster := c' } := by
  have hold : ∀ {a s}, ({ w with cluster := c' } : World).Reconciling a s →
      w.Reconciling a s ∨ s = .getSandbox s.key := .inl
  have hnone : ∃ events, w.history = events ++ w.history ∧ ∀ e ∈ events, ¬ e.OfReconcile :=
    ⟨[], rfl, fun e he => (nomatch he)⟩
  cases h with
  | idle => exact ⟨hold, hnone, .same rfl, .same rfl, .same rfl⟩
  | secretCollected => exact ⟨hold, hnone, .same rfl, .same rfl, .same rfl⟩
  | podCollected hget hg => exact ⟨hold, hnone, .same rfl, .collected hget hg rfl, .same rfl⟩
  | kubelet hget h => exact ⟨hold, hnone, .same rfl, .reported h, .same rfl⟩
  | podDeleted hget => exact ⟨hold, hnone, .same rfl, .deleted hget rfl, .same rfl⟩
  | podRemoved hget hdel h => exact ⟨hold, hnone, .same rfl, .removed h, .same rfl⟩
  | statusWritten hget h => exact ⟨hold, hnone, .status h, .same rfl, .same rfl⟩
  | classCreated h => exact ⟨hold, hnone, .same rfl, .same rfl, .created h⟩
  | classUpdated hget h => exact ⟨hold, hnone, .same rfl, .same rfl, .updated hget h⟩
  | classDeleted hget h => exact ⟨hold, hnone, .same rfl, .same rfl, .deleted h⟩

theorem controlStep {w w' : World} {l : Label} (h : w.step l = some w') : ControlStep w l w' := by
  cases moves h with
  | arrive hnew =>
    refine .outside ⟨fun {b s} hb => ?_, ⟨_, rfl, fun e he => ?_⟩, .same rfl, .same rfl, .same rfl⟩
    · obtain ⟨ctxErr, hb⟩ := hb
      simp only [lookup_insert_ite] at hb
      split at hb
      · cases hb
      · exact .inl ⟨ctxErr, hb⟩
    · rcases List.mem_append.mp he with he | he
      · exact reachEvents_not_ofReconcile e he
      · cases List.mem_singleton.mp he
        exact id
  | reconcile hnew =>
    refine .outside ⟨fun {b s} hb => ?_, ⟨[], rfl, fun e he => (nomatch he)⟩, .same rfl, .same rfl, .same rfl⟩
    obtain ⟨ctxErr, hb⟩ := hb
    simp only [lookup_insert_ite] at hb
    split at hb
    · cases hb
      exact .inr rfl
    · exact .inl ⟨ctxErr, hb⟩
  | serve hp hmove => exact .outside (.of_serve hp hmove)
  | control hp hmove => exact .own hp hmove
  | @cancel a err p hp =>
    refine .outside ⟨fun {b s} hb => ?_, ⟨[], rfl, fun e he => (nomatch he)⟩, .same rfl, .same rfl, .same rfl⟩
    obtain ⟨ctxErr, hb⟩ := hb
    simp only [lookup_insert_ite] at hb
    split at hb
    · rename_i hba
      simp only [Option.some.injEq, Proc.mk.injEq] at hb
      refine .inl ⟨p.ctxErr, ?_⟩
      rw [hba, ← hb.2]
      exact hp
    · exact .inl ⟨ctxErr, hb⟩
  | env henv => exact .outside (.of_env henv)

end World

end SandboxProvider
