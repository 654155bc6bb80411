import SandboxProvider.Lib.Lagging
import SandboxProvider.Lib.Transition
import SandboxProvider.Server.Moves

/-!
# Reads from a cache

`cmd/main.go` hands the manager's default client to `server.New`: its `Get` and `List` are answered from
a cache with one copy for each kind of object, each of which lags behind the store on its own; its writes
go to the store. `CachedCall` is one createSandbox call on such a client, among others who write the store
in any way they like.
-/

namespace SandboxProvider

open Lib Server

/-! ## The cached client -/

/-- The versions of the tables of a cluster, with what the cache shows of each. -/
structure Caches where
  sandboxes : Lagging (Table NamespacedName PodSandbox)
  secrets : Lagging (Table NamespacedName Secret)
  pods : Lagging (Table NamespacedName Pod)
  classes : Lagging (Table NamespacedName PodSandboxClass)

namespace Caches

def store (k : Caches) : Cluster :=
  ⟨k.sandboxes.latest, k.secrets.latest, k.pods.latest, k.classes.latest⟩

def cache (k : Caches) : Cluster :=
  ⟨k.sandboxes.seen, k.secrets.seen, k.pods.seen, k.classes.seen⟩

/-- The store is written. -/
def push (k : Caches) (c : Cluster) : Caches :=
  ⟨k.sandboxes.push c.sandboxes, k.secrets.push c.secrets, k.pods.push c.pods,
    k.classes.push c.classes⟩

/-- A cache that has seen everything. -/
def synced (c : Cluster) : Caches where
  sandboxes := { seen := c.sandboxes }
  secrets := { seen := c.secrets }
  pods := { seen := c.pods }
  classes := { seen := c.classes }

end Caches

inductive Kind
  | sandboxes | secrets | pods | classes
  deriving DecidableEq, Repr

/-- The cache takes in the next version of a kind. -/
def Caches.sync (k : Caches) : Kind → Option Caches
  | .sandboxes => k.sandboxes.advance.map fun l => { k with sandboxes := l }
  | .secrets => k.secrets.advance.map fun l => { k with secrets := l }
  | .pods => k.pods.advance.map fun l => { k with pods := l }
  | .classes => k.classes.advance.map fun l => { k with classes := l }

/-- What a new version of some kind means for the PodSandboxes. -/
theorem Caches.sync_sandboxes {k k' : Caches} {kind : Kind} (h : k.sync kind = some k') :
    k'.sandboxes = k.sandboxes ∨ k.sandboxes.advance = some k'.sandboxes := by
  cases kind with
  | sandboxes =>
    obtain ⟨l, hl, rfl⟩ := Option.map_eq_some_iff.mp h
    exact .inr hl
  | secrets =>
    obtain ⟨l, -, rfl⟩ := Option.map_eq_some_iff.mp h
    exact .inl rfl
  | pods =>
    obtain ⟨l, -, rfl⟩ := Option.map_eq_some_iff.mp h
    exact .inl rfl
  | classes =>
    obtain ⟨l, -, rfl⟩ := Option.map_eq_some_iff.mp h
    exact .inl rfl

/-- `Get` and `List`. -/
def Request.isRead : Request → Bool
  | .getClass _ | .getSandbox _ | .getSecret _ | .listSecrets .. | .getPod _ => true
  | _ => false

/-- The program is about to write. -/
def Next.writes {σ : Type} : Next σ → Bool
  | .call _ req _ => !req.isRead
  | .select .. | .done => false

/-- A step of a program on the cached client. A read that misses has the text of the server's NotFound,
with the resource where the cache names the kind; only `IsNotFound` of it matters here. -/
def Next.cachedStep {σ : Type} (env : Env) (ctxErr : Option String) (k : Caches) (n : Next σ) :
    Option (σ × Caches × Outcome) :=
  if n.writes then (n.step env ctxErr k.store).map fun r => (r.1, k.push r.2.1, r.2.2)
  else (n.step env ctxErr k.cache).map fun r => (r.1, k, r.2.2)

/-! ## One call -/

/-- A createSandbox call whose context is not cancelled. Ghost state: whether the call has found its
PodSandbox in the cache, and what it wrote. -/
structure CachedCall where
  caches : Caches
  state : CreateState
  found : Bool := false
  writes : List Write := []

inductive CachedLabel
  /-- The call runs from one client call to the next. -/
  | run (env : Env)
  | sync (kind : Kind)
  /-- Others write the store. -/
  | outside (f : Cluster → Cluster)

/-- The call is about to read its PodSandbox. -/
def Server.CreateState.readsSandbox : CreateState → Bool
  | .getSandbox _ | .poll .. => true
  | _ => false

namespace CachedCall

def start (k : Caches) (access : AuthorizedAccess) (request : CreateSandboxRequest) : CachedCall where
  caches := k
  state := .getClass access (.ok request)

/-- The call after a step of its own. -/
def next (w : CachedCall) (k : Caches) (s' : CreateState) (out : Outcome) : CachedCall where
  caches := k
  state := s'
  found := w.found || (w.state.readsSandbox && out.toBool)
  writes := out.writes ++ w.writes

def step (w : CachedCall) : CachedLabel → Option CachedCall
  | .run env =>
    (w.state.next.cachedStep env none w.caches).map fun r => w.next r.2.1 r.1 r.2.2
  | .sync kind => (w.caches.sync kind).map fun k => { w with caches := k }
  | .outside f => some { w with caches := w.caches.push (f w.caches.store) }

/-! ## What a step can do -/

inductive Moves (w : CachedCall) : CachedLabel → CachedCall → Prop
  | read {env s' c' out} (hread : w.state.next.writes = false)
      (h : CreateMove env none w.caches.cache w.state s' c' out) :
      Moves w (.run env) (w.next w.caches s' out)
  | write {env s' c' out} (hwrite : w.state.next.writes = true)
      (hstep : w.state.next.cachedStep env none w.caches = some (s', w.caches.push c', out))
      (h : CreateMove env none w.caches.store w.state s' c' out) :
      Moves w (.run env) (w.next (w.caches.push c') s' out)
  | sync {kind k} (h : w.caches.sync kind = some k) : Moves w (.sync kind) { w with caches := k }
  | outside {f} : Moves w (.outside f) { w with caches := w.caches.push (f w.caches.store) }

theorem moves {w w' : CachedCall} {l : CachedLabel} (h : w.step l = some w') : Moves w l w' := by
  cases l with
  | run env =>
    obtain ⟨⟨s', k, out⟩, hstep, rfl⟩ := Option.map_eq_some_iff.mp h
    have hcached := hstep
    unfold Next.cachedStep at hcached
    split at hcached
    · rename_i hwrite
      obtain ⟨⟨s₁, c', out₁⟩, hown, heq⟩ := Option.map_eq_some_iff.mp hcached
      cases heq
      exact .write hwrite hstep (CreateState.moves hown)
    · rename_i hread
      obtain ⟨⟨s₁, c', out₁⟩, hown, heq⟩ := Option.map_eq_some_iff.mp hcached
      cases heq
      exact .read (eq_false_of_ne_true hread) (CreateState.moves hown)
  | sync kind =>
    obtain ⟨k, hk, rfl⟩ := Option.map_eq_some_iff.mp h
    exact .sync hk
  | outside f =>
    cases h
    exact .outside

end CachedCall

end SandboxProvider
