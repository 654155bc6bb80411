import SandboxProvider.Controller.Reconcile

/-!
# What wakes Reconcile

`internal/controller/podsandbox_controller.go`: `SetupWithManager` and `sandboxesForClass`. The informers
report the changes of PodSandboxes, of Pods and of classes; a change of a PodSandbox leads to a request for
it, one of a Pod to a request for the PodSandbox that controls it, one of a class to requests for all
PodSandboxes of that class. Secrets are not watched.
-/

namespace SandboxProvider.Controller

/-- What an informer reports about an object: as it was and as it is. -/
structure Change (α : Type) where
  old : Option α
  new : Option α

def Change.objects {α : Type} (change : Change α) : List α := change.old.toList ++ change.new.toList

inductive Notice
  | sandbox (change : Change PodSandbox)
  | pod (change : Change Pod)
  | sandboxClass (change : Change PodSandboxClass)

/-- `listed` is what the `List` of all PodSandboxes returned. -/
def sandboxesForClass (listed : Except ApiError (List PodSandbox)) (object : PodSandboxClass) :
    List NamespacedName :=
  match listed with
  | .error _ => []
  | .ok items =>
    (items.filter fun o => o.spec.className = object.metadata.name).map fun o => o.metadata.key

/-- `handler.EnqueueRequestForOwner` for the controller of a Pod. -/
def ownerRequest (pod : Pod) : Option NamespacedName :=
  pod.metadata.controller.bind fun ref =>
    if ref.kind = "PodSandbox" then some ⟨pod.metadata.ns, ref.name⟩ else none

/-- `SetupWithManager`: the requests that a notice leads to. -/
def Notice.requests (listed : Except ApiError (List PodSandbox)) : Notice → List NamespacedName
  | .sandbox change => (change.new.or change.old).toList.map fun o => o.metadata.key
  | .pod change => change.objects.filterMap ownerRequest
  | .sandboxClass change => change.objects.flatMap (sandboxesForClass listed)

/-- The result of a call has its key queued again: an error after a growing delay, else `RequeueAfter`. -/
def Result.requeues (result : Result) : Bool :=
  result.err.isSome || result.requeueAfterSeconds.any fun seconds => 0 < seconds

theorem mem_sandboxesForClass {items : List PodSandbox} {object : PodSandboxClass}
    {key : NamespacedName} :
    key ∈ sandboxesForClass (.ok items) object ↔
      ∃ o ∈ items, o.spec.className = object.metadata.name ∧ o.metadata.key = key := by
  simp [sandboxesForClass, and_assoc]

end SandboxProvider.Controller
