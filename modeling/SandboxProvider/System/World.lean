import SandboxProvider.Controller.Reconcile
import SandboxProvider.Lib.Transition
import SandboxProvider.Server.Handlers

/-!
# The running system

The stored objects, every HTTP request and Reconcile call ever started, and the history of what
they did. A label is one atomic step: a request arrives, a Reconcile call starts, some program runs
from one client call to the next, a request context is cancelled, the garbage collector or the
kubelet acts, an administrator changes a class. Every interleaving is a list of labels.

The history is ghost state: no program reads it.
-/

namespace SandboxProvider

open Lib Server Controller

/-- The programs of the provider. -/
inductive State
  | serve (s : CallState)
  | reconcile (s : ReconcileState)

def State.next (cfg : Config) : State → Next State
  | .serve s => (s.next cfg).map .serve
  | .reconcile s => s.next.map .reconcile

def State.reply : State → Option Reply
  | .serve s => s.reply
  | .reconcile _ => none

def State.access : State → Option AuthorizedAccess
  | .serve s => s.access
  | .reconcile _ => none

/-- A program and the error of its context, once that is done. -/
structure Proc where
  ctxErr : Option String := none
  state : State

/-- What happened: a request arrived, a token was accepted, a call wrote or failed (with the state
it was made in), a reply was written (with the state right after and the cluster at that time). -/
inductive Event
  | arrived (a : Nat) (header : String) (route : Route)
  | authorized (a : Nat) (access : AuthorizedAccess)
  | wrote (a : Nat) (before : State) (w : Write)
  | failed (a : Nat) (before : State) (err : ApiError)
  | answered (a : Nat) (after : State) (reply : Reply) (c : Cluster)

/-- The history has the latest event first. -/
structure World where
  cfg : Config
  cluster : Cluster
  procs : AList fun _ : Nat => Proc := ∅
  history : List Event := []

inductive Label
  /-- An HTTP request arrives. -/
  | arrive (a : Nat) (header : String) (route : Route)
  /-- A Reconcile call starts. -/
  | reconcile (a : Nat) (key : NamespacedName)
  /-- A program runs from one client call to the next. -/
  | run (a : Nat) (env : Env)
  /-- The context of a program is done. -/
  | cancel (a : Nat) (err : String)
  /-- The garbage collector handles one object. -/
  | collect (kind : Collectable) (key : NamespacedName) (env : Env)
  /-- The scheduler and the kubelet report on a Pod. -/
  | kubelet (key : NamespacedName) (nodeName : String) (status : PodStatus)
  /-- Somebody deletes a Pod. -/
  | deletePod (key : NamespacedName) (env : Env)
  /-- The grace period of a deleted Pod ends. -/
  | removePod (key : NamespacedName)
  /-- Some reconciler writes the status of a PodSandbox. -/
  | writeStatus (key : NamespacedName) (status : PodSandboxStatus)
  /-- An administrator creates, changes or deletes a class. -/
  | createClass (name : String) (spec : PodSandboxClassSpec) (env : Env)
  | updateClass (name : String) (spec : PodSandboxClassSpec)
  | deleteClass (name : String)

/-- What is there after a step but not before. -/
def newly {β : Type} (before after : Option β) : List β :=
  match before with
  | some _ => []
  | none => after.toList

theorem mem_newly {β : Type} {before after : Option β} {x : β} :
    x ∈ newly before after ↔ before = none ∧ after = some x := by
  cases before <;> simp [newly]

/-- The events of a program reaching a state, from another one or at its start. -/
def reachEvents (a : Nat) (before : Option State) (after : State) (c : Cluster) : List Event :=
  (newly (before.bind State.reply) after.reply).map (.answered a after · c) ++
    (newly (before.bind State.access) after.access).map (.authorized a)

/-- The events of a client call. -/
def callEvents (a : Nat) (before : State) : Outcome → List Event
  | .ok ws => ws.map (.wrote a before)
  | .error err => [.failed a before err]

theorem wrote_mem_callEvents {a b : Nat} {before s : State} {out : Outcome} {wr : Write} :
    .wrote b s wr ∈ callEvents a before out ↔ b = a ∧ s = before ∧ wr ∈ out.writes := by
  cases out with
  | ok ws =>
    simp only [callEvents, List.mem_map, Event.wrote.injEq, Outcome.writes]
    constructor
    · rintro ⟨x, hx, rfl, rfl, rfl⟩
      exact ⟨rfl, rfl, hx⟩
    · rintro ⟨rfl, rfl, hx⟩
      exact ⟨wr, hx, rfl, rfl, rfl⟩
  | error err => simp [callEvents, Outcome.writes]

def setPodStatus (nodeName : String) (status : PodStatus) (o : Pod) : Pod :=
  { o with spec := { o.spec with nodeName := nodeName }, status := status }

def setClassSpec (spec : PodSandboxClassSpec) (o : PodSandboxClass) : PodSandboxClass :=
  { o with
    metadata := { o.metadata with
      resourceVersion := o.metadata.resourceVersion + 1
      generation := o.metadata.generation + 1 }
    spec := spec }

/-- Steps of the environment on the cluster. -/
def Cluster.envStep (c : Cluster) : Label → Option Cluster
  | .collect kind key env => c.collect env kind key
  | .kubelet key nodeName status =>
    some { c with pods :=
        modifyObject c.pods key (setPodStatus nodeName status) (fun _ => ⟨rfl, rfl⟩) }
  | .deletePod key env => some { c with pods := deletePodIn env c.pods key }
  | .removePod key =>
    if (c.pods.get key).any (·.metadata.deletionTimestamp.isSome) then
      some { c with pods := c.pods.erase key }
    else none
  | .writeStatus key status =>
    some { c with sandboxes :=
        modifyObject c.sandboxes key (withStatus fun _ => status) (fun _ => ⟨rfl, rfl⟩) }
  | .createClass name spec env =>
    match createObject c.classes { metadata := { name := name }, spec := spec } env.uid with
    | some (.ok _, t) => some { c with classes := t }
    | _ => none
  | .updateClass name spec =>
    some { c with classes :=
        modifyObject c.classes ⟨"", name⟩ (setClassSpec spec) (fun _ => ⟨rfl, rfl⟩) }
  | .deleteClass name => some { c with classes := c.classes.erase ⟨"", name⟩ }
  | .arrive .. | .reconcile .. | .run .. | .cancel .. => none

namespace World

/-- Starts a program under an unused number. -/
def spawn (w : World) (a : Nat) (s : State) (events : List Event) : Option World :=
  match w.procs.lookup a with
  | some _ => none
  | none => some { w with
      procs := w.procs.insert a { state := s }
      history := reachEvents a none s w.cluster ++ events ++ w.history }

/-- The world after a step of the program `a`. -/
def advance (w : World) (a : Nat) (p : Proc) (s : State) (c : Cluster) (out : Outcome) : World :=
  { w with
    cluster := c
    procs := w.procs.insert a { p with state := s }
    history := reachEvents a (some p.state) s c ++ callEvents a p.state out ++ w.history }

def step (w : World) : Label → Option World
  | .arrive a header route =>
    w.spawn a (.serve (authorize w.cfg header route)) [.arrived a header route]
  | .reconcile a key => w.spawn a (.reconcile (.getSandbox key)) []
  | .run a env =>
    match w.procs.lookup a with
    | none => none
    | some p =>
      ((p.state.next w.cfg).step env p.ctxErr w.cluster).map fun (s, c, out) =>
        w.advance a p s c out
  | .cancel a err =>
    match w.procs.lookup a with
    | none => none
    | some p => some { w with procs := w.procs.insert a { p with ctxErr := some err } }
  | l => (w.cluster.envStep l).map fun c => { w with cluster := c }

/-- The world before the first request. -/
def start (cfg : Config) (c : Cluster) : World where
  cfg := cfg
  cluster := c

end World

/-! ## A small deployment -/

namespace Sample

def cfg : Config := ⟨{ ns := "provider", token := "token", className := "kata" }, by decide, by decide⟩

def request : CreateSandboxRequest where
  workloadRef := { name := "workload" }
  sandboxID := "sandbox"
  userData := "cloud-config"

def key : NamespacedName := ⟨"provider", sandboxName "sandbox"⟩

/-- The status of a PodSandbox whose runner is ready. -/
def ready (ip : String) : PodSandboxStatus where
  ips := [ip]
  conditions := [{ type := ConditionReady, status := .true }]

/-- A cluster that holds one class. -/
def oneClass : Cluster :=
  { Cluster.empty with
    classes := Table.empty.insert (asCreated 1 { metadata := { name := "kata" } }) ⟨rfl, by decide⟩ }

/-- A createSandbox request with the provider's own token. -/
def arrive (a : Nat) (request : CreateSandboxRequest) : Label :=
  .arrive a "Bearer token" (.createSandbox (.ok request))

/-- The steps of a createSandbox call up to its polling loop, when nothing is stored yet. -/
def createSteps (a uid : Nat) : List Label :=
  [.run a {}, .run a {}, .run a { uid := uid }, .run a { uid := uid }, .run a {}]

/-- A createSandbox call stores its PodSandbox, which becomes ready. -/
def plainCreate : List Label :=
  [.createClass "kata" {} { uid := 1 }, arrive 1 request] ++ createSteps 1 1 ++
    [.writeStatus key (ready "10.0.0.1"), .run 1 {}]

/-- The status of a running Pod. -/
def running (ip : String) : PodStatus where
  phase := .running
  podIP := ip
  conditions := [{ type := "Ready", status := .true }]

/-- A Reconcile call that finds the class and the Secret and tries to create the runner. -/
def reconcileSteps (a uid : Nat) : List Label :=
  [.reconcile a key, .run a {}, .run a {}, .run a {}, .run a { uid := uid }]

/-- A createSandbox call, and a Reconcile call that creates the runner and sees it ready. -/
def runnerCreate : List Label :=
  [arrive 1 request] ++ createSteps 1 1 ++ reconcileSteps 2 1 ++
    [.kubelet key "node" (running "10.0.0.1"), .run 2 {}, .run 2 {}, .run 1 {}]

end Sample

end SandboxProvider
