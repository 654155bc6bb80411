import SandboxProvider.Api.Client
import SandboxProvider.Controller.DesiredRunner

/-!
# Reconcile

`internal/controller/podsandbox_controller.go`: `Reconcile` as a resumable program, with the exits
`fail`, `progressing` and `stopped`, which touch the Ready condition only, and the last exit, which
writes the whole status from the observed runner.
-/

namespace SandboxProvider.Controller

/-! ## Status conditions -/

/-- `apiMeta.SetStatusCondition`: the transition time moves only with the status. -/
def setStatusCondition (now : Time) (new : Condition) : List Condition → List Condition
  | [] => [{ new with lastTransitionTime := now }]
  | cur :: rest =>
    if cur.type = new.type then
      { new with
        lastTransitionTime := if cur.status = new.status then cur.lastTransitionTime else now } ::
        rest
    else cur :: setStatusCondition now new rest

def boolCondition (value : Bool) : ConditionStatus :=
  if value then .true else .false

/-- The Ready condition of a status write. -/
def readyCondition (sandbox : PodSandbox) (status : ConditionStatus) (reason message : String) :
    Condition where
  type := ConditionReady
  status := status
  observedGeneration := sandbox.metadata.generation
  reason := reason
  message := message

/-! ## Reading the runner -/

def podReady (pod : Pod) : Bool :=
  (pod.status.conditions.find? (·.type = "Ready")).any (·.status = .true)

def runnerTermination (pod : Pod) : Option ContainerStateTerminated :=
  (pod.status.containerStatuses.find? (·.name = runnerContainerName)).bind (·.terminated)

/-- The condition under which the last exit reports Ready. -/
def runnerReady (runner : Pod) : Bool :=
  podReady runner && runner.status.podIP ≠ ""

def stoppedMessage (runner : Pod) : String :=
  match runnerTermination runner with
  | some terminated =>
    if terminated.message ≠ "" then terminated.message
    else "The Pod Sandbox runner stopped before the PodVM became ready"
  | none => "The Pod Sandbox runner stopped before the PodVM became ready"

/-! ## The program -/

/-- `ctrl.Result` and the returned error. -/
structure Result where
  requeueAfterSeconds : Option Nat := none
  err : Option String := none
  deriving DecidableEq, Repr

/-- The local variables of the last exit. -/
structure Observation where
  sandbox : PodSandbox
  sandboxClass : PodSandboxClass
  runner : Pod

inductive ReconcileState
  | getSandbox (key : NamespacedName)
  | getClass (key : NamespacedName) (sandbox : PodSandbox)
  | getSecret (key : NamespacedName) (sandbox : PodSandbox) (sandboxClass : PodSandboxClass)
  | createRunner (key : NamespacedName) (sandbox : PodSandbox) (sandboxClass : PodSandboxClass)
      (desired : Pod)
  | getRunner (key : NamespacedName) (sandbox : PodSandbox) (sandboxClass : PodSandboxClass)
      (desired : Pod)
  | deleteRunner (key : NamespacedName) (sandbox : PodSandbox) (runner : Pod)
  | patchStatus (key : NamespacedName) (base modified : PodSandbox) (seen : Option Observation)
      (result : Result)
  | done (key : NamespacedName) (result : Result)

/-- The PodSandbox as it was read. -/
def ReconcileState.sandbox : ReconcileState → Option PodSandbox
  | .getClass _ sandbox | .getSecret _ sandbox _ | .createRunner _ sandbox _ _
  | .getRunner _ sandbox _ _ | .deleteRunner _ sandbox _ | .patchStatus _ sandbox _ _ _ =>
    some sandbox
  | .getSandbox _ | .done .. => none

/-- The call has a status to write. -/
def ReconcileState.isPatch : ReconcileState → Bool
  | .patchStatus .. => true
  | _ => false

/-- `client.IgnoreNotFound`. -/
def ignoreNotFound (err : ApiError) : Result :=
  ⟨none, if err.isNotFound then none else some err.message⟩

/-- The status write shared by `progressing`, `fail` and `stopped`: the Ready condition becomes
False, all other fields stay. -/
def patchNotReady (now : Time) (key : NamespacedName) (sandbox : PodSandbox)
    (reason message : String) (result : Result) : ReconcileState :=
  .patchStatus key sandbox
    { sandbox with status := { sandbox.status with
        observedGeneration := sandbox.metadata.generation
        conditions := setStatusCondition now
          (readyCondition sandbox .false reason message) sandbox.status.conditions } }
    none result

def progressing (now : Time) (key : NamespacedName) (sandbox : PodSandbox)
    (reason message : String) : ReconcileState :=
  patchNotReady now key sandbox reason message ⟨some 2, none⟩

def fail (now : Time) (key : NamespacedName) (sandbox : PodSandbox) (reason : String)
    (reconcileErr : String) : ReconcileState :=
  patchNotReady now key sandbox reason reconcileErr ⟨none, some reconcileErr⟩

def stopped (now : Time) (key : NamespacedName) (sandbox : PodSandbox)
    (reason message : String) : ReconcileState :=
  patchNotReady now key sandbox reason message ⟨none, none⟩

/-- The status that the last exit writes. -/
def observedStatus (now : Time) (sandbox : PodSandbox) (runner : Pod) : PodSandboxStatus where
  observedGeneration := sandbox.metadata.generation
  runnerRef := some ⟨runner.metadata.name⟩
  nodeName := runner.spec.nodeName
  ips := if runner.status.podIP = "" then [] else [runner.status.podIP]
  conditions := setStatusCondition now
    (readyCondition sandbox (boolCondition (runnerReady runner))
      (if runnerReady runner then "PodVMReady" else "PodVMStarting")
      (if runnerReady runner then "The PodVM is ready" else "Waiting for the PodVM runtime"))
    sandbox.status.conditions

/-- The last exit. -/
def report (now : Time) (key : NamespacedName) (sandbox : PodSandbox)
    (sandboxClass : PodSandboxClass) (runner : Pod) : ReconcileState :=
  .patchStatus key sandbox { sandbox with status := observedStatus now sandbox runner }
    (some ⟨sandbox, sandboxClass, runner⟩)
    (if runnerReady runner then {} else ⟨some 2, none⟩)

/-- What follows the `Get` of the runner. -/
def inspectRunner (now : Time) (key : NamespacedName) (sandbox : PodSandbox)
    (sandboxClass : PodSandboxClass) (desired runner : Pod) : ReconcileState :=
  if runner.metadata.annotations.getD annotationTemplateGeneration ≠
      desired.metadata.annotations.getD annotationTemplateGeneration then
    .deleteRunner key sandbox runner
  else if runner.status.phase = .failed ∨ runner.status.phase = .succeeded then
    stopped now key sandbox "RunnerFailed" (stoppedMessage runner)
  else
    report now key sandbox sandboxClass runner

def ReconcileState.next : ReconcileState → Next ReconcileState
  | .getSandbox key => .call .request (.getSandbox key) fun
    | _, .error err => .done key (ignoreNotFound err)
    | _, .ok sandbox =>
      if sandbox.metadata.deletionTimestamp.isSome then .done key {} else .getClass key sandbox
  | .getClass key sandbox => .call .request (.getClass sandbox.spec.className) fun
    | now, .error err => fail now key sandbox "ClassUnavailable" err.message
    | _, .ok sandboxClass => .getSecret key sandbox sandboxClass
  | .getSecret key sandbox sandboxClass =>
    .call .request (.getSecret ⟨sandbox.metadata.ns, sandbox.spec.userDataSecretRef.name⟩) fun
    | now, .error err => fail now key sandbox "UserDataUnavailable" err.message
    | now, .ok secret =>
      if (secret.data.lookup "userdata").isNone then
        fail now key sandbox "UserDataUnavailable"
          ("secret " ++ secret.metadata.name ++ " has no userdata key")
      else
        match setControllerReference sandbox (desiredRunner sandbox sandboxClass) with
        | .error err => .done key ⟨none, some err⟩
        | .ok desired => .createRunner key sandbox sandboxClass desired
  | .createRunner key sandbox sandboxClass desired => .call .request (.createPod desired) fun
    | now, .error err =>
      if err.isAlreadyExists then .getRunner key sandbox sandboxClass desired
      else fail now key sandbox "RunnerCreateFailed" err.message
    | _, .ok desired => .getRunner key sandbox sandboxClass desired
  | .getRunner key sandbox sandboxClass desired => .call .request (.getPod key) fun
    | now, .error err =>
      if err.isNotFound then
        progressing now key sandbox "WaitingForRunner" "The Pod Sandbox runner is being scheduled"
      else .done key ⟨none, some err.message⟩
    | now, .ok runner => inspectRunner now key sandbox sandboxClass desired runner
  | .deleteRunner key sandbox runner => .call .request (.deletePod runner.metadata.key) fun
    | now, .error err =>
      if err.isNotFound then
        progressing now key sandbox "UpdatingRunner" "The Pod Sandbox runner is being updated"
      else fail now key sandbox "RunnerDeleteFailed" err.message
    | now, .ok _ =>
      progressing now key sandbox "UpdatingRunner" "The Pod Sandbox runner is being updated"
  | .patchStatus key base modified _ result =>
    .call .request (.patchSandboxStatus modified.metadata.key
      (PodSandboxStatus.mergeFrom base.status modified.status)) fun
    | _, .error err => .done key (ignoreNotFound err)
    | _, .ok _ => .done key result
  | .done .. => .done

end SandboxProvider.Controller
