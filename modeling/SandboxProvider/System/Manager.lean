import SandboxProvider.Controller.Watch
import SandboxProvider.Lib.WorkQueue
import SandboxProvider.System.Cached

/-!
# The controller manager

The informers, the work queue and the workers around `Reconcile`. The reads of a Reconcile call are
answered from the cache, its writes go to the store; the cache takes in one version of a kind after the
other and reports what changed; a report leads to requests, which wait in the queue until a worker takes
them. Everybody else writes the store in any way they like.

A write that leaves an object as it is, up to its `resourceVersion`, is not stored by the API server, and
nothing is reported about it.
-/

namespace SandboxProvider

open Lib Controller

/-! ## Changes of a table -/

section Decidable

instance : DecidableEq ObjectMeta := fun a b =>
  decidable_of_iff
    (a.name = b.name ∧ a.ns = b.ns ∧ a.uid = b.uid ∧ a.resourceVersion = b.resourceVersion ∧
      a.generation = b.generation ∧ a.labels.entries = b.labels.entries ∧
      a.annotations.entries = b.annotations.entries ∧
      a.controller = b.controller ∧ a.deletionTimestamp = b.deletionTimestamp)
    (by cases a; cases b; simp [AList.ext_iff])

instance : DecidableEq PodSandbox := fun a b =>
  decidable_of_iff (a.metadata = b.metadata ∧ a.spec = b.spec ∧ a.status = b.status)
    (by cases a; cases b; simp)

instance : DecidableEq PodSandboxClassSpec := fun a b =>
  decidable_of_iff
    (a.runnerImage = b.runnerImage ∧ a.podVMImage = b.podVMImage ∧ a.networkMTU = b.networkMTU ∧
      a.annotations.entries = b.annotations.entries ∧ a.labels.entries = b.labels.entries ∧
      a.nodeSelector.entries = b.nodeSelector.entries ∧
      a.tolerations = b.tolerations ∧ a.runtimeAssetsDir = b.runtimeAssetsDir ∧
      a.memoryOverheadMiB = b.memoryOverheadMiB)
    (by cases a; cases b; simp [AList.ext_iff])

instance : DecidableEq PodSandboxClass := fun a b =>
  decidable_of_iff (a.metadata = b.metadata ∧ a.spec = b.spec) (by cases a; cases b; simp)

instance : DecidableEq PodSpec := fun a b =>
  decidable_of_iff
    (a.nodeName = b.nodeName ∧ a.nodeSelector.entries = b.nodeSelector.entries ∧
      a.tolerations = b.tolerations ∧
      a.initContainers = b.initContainers ∧ a.containers = b.containers ∧ a.volumes = b.volumes ∧
      a.restartPolicy = b.restartPolicy ∧
      a.terminationGracePeriodSeconds = b.terminationGracePeriodSeconds)
    (by cases a; cases b; simp [AList.ext_iff])

instance : DecidableEq Pod := fun a b =>
  decidable_of_iff (a.metadata = b.metadata ∧ a.spec = b.spec ∧ a.status = b.status)
    (by cases a; cases b; simp)

end Decidable

section Changes

variable {α : Type} [KubeObject α]

/-- An object without the number of its version. -/
def content (o : α) : α :=
  KubeObject.withMetadata o { KubeObject.metadata o with resourceVersion := 0 }

/-- The keys of two tables. -/
def keysOf (old new : Table NamespacedName α) : List NamespacedName :=
  (old.list.map fun o => (KubeObject.metadata o).key) ++
    (new.list.map fun o => (KubeObject.metadata o).key).filter fun key => (old.get key).isNone

/-- What is reported when the cache goes from one version of a table to the next. -/
def changes [DecidableEq α] (old new : Table NamespacedName α) : List (Change α) :=
  (keysOf old new).filterMap fun key =>
    if (old.get key).map content = (new.get key).map content then none
    else some ⟨old.get key, new.get key⟩

end Changes

/-- The notices of one kind. -/
def noticesOf (old new : Cluster) : Kind → List Notice
  | .sandboxes => (changes old.sandboxes new.sandboxes).map .sandbox
  | .pods => (changes old.pods new.pods).map .pod
  | .classes => (changes old.classes new.classes).map .sandboxClass
  | .secrets => []

/-! ## The manager -/

structure Worker where
  key : NamespacedName
  state : ReconcileState

structure Manager where
  caches : Caches
  notices : List Notice := []
  queue : WorkQueue NamespacedName := {}
  workers : AList fun _ : Nat => Worker := ∅

inductive ManagerLabel
  /-- Others write the store. -/
  | outside (f : Cluster → Cluster)
  /-- The cache takes in the next version of a kind. -/
  | sync (kind : Kind)
  /-- The handlers get a notice; their `List` may fail. -/
  | handle (i : Nat) (fault : Option ApiError)
  /-- The delay of a request is over. -/
  | elapse (key : NamespacedName)
  /-- A worker takes a request and calls `Reconcile`. -/
  | take (a : Nat) (key : NamespacedName)
  /-- A Reconcile call runs from one client call to the next. -/
  | run (a : Nat) (env : Env)
  /-- A Reconcile call has returned. -/
  | finish (a : Nat)

namespace Manager

/-- A manager that has not read anything yet. -/
def start (c : Cluster) : Manager where
  caches := {
    sandboxes := { seen := .empty, pending := [c.sandboxes] }
    secrets := { seen := .empty, pending := [c.secrets] }
    pods := { seen := .empty, pending := [c.pods] }
    classes := { seen := .empty, pending := [c.classes] } }

def listed (m : Manager) : Option ApiError → Except ApiError (List PodSandbox)
  | some err => .error err
  | none => .ok m.caches.cache.sandboxes.list

def step (m : Manager) : ManagerLabel → Option Manager
  | .outside f => some { m with caches := m.caches.push (f m.caches.store) }
  | .sync kind => (m.caches.sync kind).map fun k =>
    { m with caches := k, notices := m.notices ++ noticesOf m.caches.cache k.cache kind }
  | .handle i fault =>
    match m.notices[i]? with
    | none => none
    | some notice => some { m with
        notices := m.notices.eraseIdx i
        queue := m.queue.addAll (notice.requests (m.listed fault)) }
  | .elapse key => (m.queue.elapse key).map fun q => { m with queue := q }
  | .take a key =>
    match m.workers.lookup a with
    | some _ => none
    | none => (m.queue.take key).map fun q =>
      { m with queue := q, workers := m.workers.insert a ⟨key, .getSandbox key⟩ }
  | .run a env =>
    match m.workers.lookup a with
    | none => none
    | some w => (w.state.next.cachedStep env none m.caches).map fun r =>
      { m with caches := r.2.1, workers := m.workers.insert a { w with state := r.1 } }
  | .finish a =>
    match m.workers.lookup a with
    | some ⟨key, .done _ result⟩ => some { m with
        queue := (if result.requeues then m.queue.addAfter key else m.queue).finish key
        workers := m.workers.erase a }
    | _ => none

/-- Nothing is left to do: the cache has seen every version of the kinds that are watched, no notice and
no request waits, and no Reconcile call runs. -/
structure Idle (m : Manager) : Prop where
  sandboxes : m.caches.sandboxes.pending = []
  pods : m.caches.pods.pending = []
  classes : m.caches.classes.pending = []
  notices : m.notices = []
  ready : m.queue.ready = ∅
  later : m.queue.later = ∅
  workers : m.workers.keys = []

instance (m : Manager) : Decidable m.Idle :=
  decidable_of_iff
    (m.caches.sandboxes.pending.isEmpty ∧ m.caches.pods.pending.isEmpty ∧
      m.caches.classes.pending.isEmpty ∧ m.notices.isEmpty ∧ m.queue.ready = ∅ ∧ m.queue.later = ∅ ∧
      m.workers.keys = [])
    (by
      simp only [List.isEmpty_iff]
      constructor
      · rintro ⟨h₁, h₂, h₃, h₄, h₅, h₆, h₇⟩
        exact ⟨h₁, h₂, h₃, h₄, h₅, h₆, h₇⟩
      · rintro ⟨h₁, h₂, h₃, h₄, h₅, h₆, h₇⟩
        exact ⟨h₁, h₂, h₃, h₄, h₅, h₆, h₇⟩)

end Manager

end SandboxProvider
