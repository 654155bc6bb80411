import SandboxProvider.Api.Objects

/-!
# The API server

Every client call of the provider is one `Request`, and `Cluster.exec` is the atomic step the API
server takes for it. A create gives the object a `uid` that was never used before; a delete is by
key, without a precondition on the `uid`; an update of a Secret is refused when the caller's copy
is of another incarnation or version, and an immutable Secret keeps its data; the status of a
PodSandbox changes by merge patches; a deleted Pod usually stays readable until its grace period
ends. `Cluster.collect` is the garbage collector's step on one object.

`Write` records the effect of a call, for the history of a run.
-/

namespace SandboxProvider

open Lib

/-! ## Errors -/

/-- What the callers' checks can tell apart; every other failure is `other`. -/
inductive Reason
  | notFound | alreadyExists | conflict | invalid | other
  deriving DecidableEq, Repr

structure ApiError where
  reason : Reason
  message : String
  deriving DecidableEq, Repr

namespace ApiError

def isNotFound (e : ApiError) : Bool := e.reason = .notFound

def isAlreadyExists (e : ApiError) : Bool := e.reason = .alreadyExists

def newNotFound (resource name : String) : ApiError :=
  ⟨.notFound, resource ++ " \"" ++ name ++ "\" not found"⟩

def newAlreadyExists (resource name : String) : ApiError :=
  ⟨.alreadyExists, resource ++ " \"" ++ name ++ "\" already exists"⟩

end ApiError

/-! ## The cluster -/

/-- The stored objects, kind by kind. -/
structure Cluster where
  sandboxes : Table NamespacedName PodSandbox
  secrets : Table NamespacedName Secret
  pods : Table NamespacedName Pod
  classes : Table NamespacedName PodSandboxClass

def Cluster.empty : Cluster := ⟨.empty, .empty, .empty, .empty⟩

/-- What the environment decides about one step: the `uid` of an object created in it, the clock,
whether the call fails (with which text), whether a Pod deletion takes effect at once, and which
ready branch a `select` takes. -/
structure Env where
  uid : Nat := 0
  now : Time := 0
  fault : Option String := none
  immediate : Bool := false
  expire : Bool := false

/-- The client calls of the provider. -/
inductive Request
  | getClass (name : String)
  | getSandbox (key : NamespacedName)
  | createSandbox (o : PodSandbox)
  | deleteSandbox (key : NamespacedName)
  | patchSandboxStatus (key : NamespacedName) (patch : StatusPatch)
  | getSecret (key : NamespacedName)
  | listSecrets (ns : String) (label value : String)
  | createSecret (o : Secret)
  | updateSecret (o : Secret)
  | deleteSecret (key : NamespacedName)
  | getPod (key : NamespacedName)
  | createPod (o : Pod)
  | deletePod (key : NamespacedName)

/-- The body of a successful reply. A delete returns the object it was about. -/
abbrev Request.Result : Request → Type
  | .getClass _ => PodSandboxClass
  | .getSandbox _ | .createSandbox _ | .deleteSandbox _ | .patchSandboxStatus .. => PodSandbox
  | .getSecret _ | .createSecret _ | .updateSecret _ | .deleteSecret _ => Secret
  | .listSecrets .. => List Secret
  | .getPod _ | .createPod _ | .deletePod _ => Pod

/-- The effect of a successful write, with the object as stored (or as removed). -/
inductive Write
  | createSandbox (o : PodSandbox)
  | deleteSandbox (o : PodSandbox)
  | patchSandbox (o : PodSandbox)
  | createSecret (o : Secret)
  | updateSecret (o : Secret)
  | deleteSecret (o : Secret)
  | createPod (o : Pod)
  | deletePod (o : Pod)

/-! ## Calls on one table -/

section TableCalls

variable {α : Type} [KubeObject α]

open KubeObject

def notFound (α : Type) [KubeObject α] (key : NamespacedName) : ApiError :=
  .newNotFound (resource α) key.name

/-- `Get`. -/
def getObject (t : Table NamespacedName α) (key : NamespacedName) : Except ApiError α :=
  match t.get key with
  | some o => .ok o
  | none => .error (notFound α key)

/-- The object as the server stores it on creation. -/
def asCreated (uid : Nat) (o : α) : α :=
  withMetadata o
    { metadata o with uid := uid, resourceVersion := 1, generation := 1, deletionTimestamp := none }

theorem key_asCreated (uid : Nat) (o : α) : Keyed.key (asCreated uid o) = (metadata o).key := by
  simp [asCreated, Keyed.key, ObjectMeta.key]

theorem uid_asCreated (uid : Nat) (o : α) : Keyed.uid (asCreated uid o) = uid := by
  simp [asCreated, Keyed.uid]

/-- `Create`; `none` when `uid` is not fresh. -/
def createObject (t : Table NamespacedName α) (o : α) (uid : Nat) :
    Option (Except ApiError α × Table NamespacedName α) :=
  if h : t.get (metadata o).key = none then
    if hu : t.nextUid ≤ uid then
      some (.ok (asCreated uid o), t.insert (asCreated uid o)
        ⟨by rw [key_asCreated]; exact h, by rw [uid_asCreated]; exact hu⟩)
    else none
  else some (.error (.newAlreadyExists (resource α) (metadata o).name), t)

/-- A create either meets an object under its key, or stores a fresh one there. -/
theorem createObject_cases {t t' : Table NamespacedName α} {o : α} {uid : Nat}
    {res : Except ApiError α} (h : createObject t o uid = some (res, t')) :
    (∃ cur, t.get (metadata o).key = some cur ∧
      res = .error (.newAlreadyExists (resource α) (metadata o).name) ∧ t' = t) ∨
    (res = .ok (asCreated uid o) ∧ t.Stores (asCreated uid o) t') := by
  unfold createObject at h
  split at h
  · split at h
    · cases h
      exact .inr ⟨rfl, Table.stores_insert ..⟩
    · cases h
  · rename_i hsome
    cases h
    obtain ⟨cur, hcur⟩ := Option.ne_none_iff_exists'.mp hsome
    exact .inl ⟨cur, hcur, rfl, rfl⟩

theorem stores_of_createObject {t t' : Table NamespacedName α} {o stored : α} {uid : Nat}
    (h : createObject t o uid = some (.ok stored, t')) :
    stored = asCreated uid o ∧ t.Stores (asCreated uid o) t' := by
  obtain ⟨_, _, herr, _⟩ | ⟨hok, hst⟩ := createObject_cases h
  · cases herr
  · exact ⟨Except.ok.inj hok, hst⟩

/-- Replaces the stored object by `f` of it; `f` keeps key and `uid`. -/
def modifyObject (t : Table NamespacedName α) (key : NamespacedName) (f : α → α)
    (hf : ∀ o, (metadata (f o)).key = (metadata o).key ∧ (metadata (f o)).uid = (metadata o).uid) :
    Table NamespacedName α :=
  match h : t.get key with
  | some o => t.set (f o) ⟨o, by
      have hk : (metadata o).key = key := Table.key_of_get h
      have : Keyed.key (f o) = key := (hf o).1.trans hk
      rw [this]
      exact ⟨h, (hf o).2.symm⟩⟩
  | none => t

theorem replaces_modifyObject {t : Table NamespacedName α} {key : NamespacedName} {o : α}
    (f : α → α) (hf) (h : t.get key = some o) : t.Replaces o (f o) (modifyObject t key f hf) := by
  unfold modifyObject
  split
  · rename_i o' h'
    rw [h] at h'
    cases h'
    have hk : Keyed.key o = key := Table.key_of_get h
    exact Table.replaces_set t _ (by rw [hk]; exact h) (hf o).1
  · rename_i h'
    rw [h] at h'
    cases h'

theorem modifyObject_of_none {t : Table NamespacedName α} {key : NamespacedName} (f : α → α) (hf)
    (h : t.get key = none) : modifyObject t key f hf = t := by
  unfold modifyObject
  split
  · rename_i o h'
    rw [h] at h'
    cases h'
  · rfl

end TableCalls

/-! ## The calls -/

/-- Whether the server accepts `o` as an update of the stored `cur`: the caller's `uid` and
`resourceVersion` are preconditions when set, and immutable data cannot change. -/
def updateRefusal (cur o : Secret) : Option ApiError :=
  if (o.metadata.uid ≠ 0 ∧ o.metadata.uid ≠ cur.metadata.uid) ∨
      (o.metadata.resourceVersion ≠ 0 ∧
        o.metadata.resourceVersion ≠ cur.metadata.resourceVersion) then
    some ⟨.conflict, "the object has been modified"⟩
  else if cur.immutable ∧ (¬ o.immutable ∨ ¬ o.data.same cur.data) then
    some ⟨.invalid, "field is immutable when `immutable` is set"⟩
  else none

/-- The stored Secret after an accepted update. -/
def updatedSecret (o cur : Secret) : Secret :=
  { o with metadata := { o.metadata with
      name := cur.metadata.name, ns := cur.metadata.ns, uid := cur.metadata.uid,
      resourceVersion := cur.metadata.resourceVersion + 1,
      generation := cur.metadata.generation,
      deletionTimestamp := cur.metadata.deletionTimestamp } }

def withStatus (f : PodSandboxStatus → PodSandboxStatus) (o : PodSandbox) : PodSandbox :=
  { o with
    metadata := { o.metadata with resourceVersion := o.metadata.resourceVersion + 1 }
    status := f o.status }

def markDeleted (now : Time) (o : Pod) : Pod :=
  { o with metadata := { o.metadata with
      deletionTimestamp := some (o.metadata.deletionTimestamp.getD now) } }

/-- `Delete` of a Pod: graceful unless the environment lets it take effect at once. -/
def deletePodIn (env : Env) (t : Table NamespacedName Pod) (key : NamespacedName) :
    Table NamespacedName Pod :=
  if env.immediate then t.erase key
  else modifyObject t key (markDeleted env.now) fun _ => ⟨rfl, rfl⟩

/-- Whether a Secret carries a label. -/
def hasLabel (o : Secret) (label value : String) : Bool :=
  o.metadata.labels.lookup label = some value

section Calls

variable {α : Type} [KubeObject α]

/-- A create in the table `t` of `c`, which `put` writes back. -/
def createCall (c : Cluster) (t : Table NamespacedName α) (put : Table NamespacedName α → Cluster)
    (log : α → Write) (o : α) (uid : Nat) : Option (Except ApiError α × Cluster × List Write) :=
  match createObject t o uid with
  | some (.ok stored, t') => some (.ok stored, put t', [log stored])
  | some (.error e, _) => some (.error e, c, [])
  | none => none

/-- A call on the object under `key` in the table `t` of `c`. -/
def onObject (c : Cluster) (t : Table NamespacedName α) (key : NamespacedName)
    (f : α → Except ApiError α × Cluster × List Write) : Except ApiError α × Cluster × List Write :=
  match t.get key with
  | some o => f o
  | none => (.error (notFound α key), c, [])

theorem createCall_cases {c c' : Cluster} {t : Table NamespacedName α}
    {put : Table NamespacedName α → Cluster} {log : α → Write} {o : α} {uid : Nat}
    {res : Except ApiError α} {ws : List Write}
    (h : createCall c t put log o uid = some (res, c', ws)) :
    (∃ cur, t.get (KubeObject.metadata o).key = some cur ∧
      res = .error (.newAlreadyExists (KubeObject.resource α) (KubeObject.metadata o).name) ∧
      c' = c ∧ ws = []) ∨
    (∃ t', t.Stores (asCreated uid o) t' ∧ res = .ok (asCreated uid o) ∧ c' = put t' ∧
      ws = [log (asCreated uid o)]) := by
  unfold createCall at h
  split at h
  · rename_i stored t' hcreate
    cases h
    obtain ⟨rfl, hst⟩ := stores_of_createObject hcreate
    exact .inr ⟨t', hst, rfl, rfl, rfl⟩
  · rename_i e t' hcreate
    cases h
    obtain ⟨cur, hcur, herr, _⟩ | ⟨hok, _⟩ := createObject_cases hcreate
    · cases herr
      exact .inl ⟨cur, hcur, rfl, rfl, rfl⟩
    · cases hok
  · cases h

theorem onObject_cases {c c' : Cluster} {t : Table NamespacedName α} {key : NamespacedName}
    {f : α → Except ApiError α × Cluster × List Write} {res : Except ApiError α} {ws : List Write}
    (h : onObject c t key f = (res, c', ws)) :
    (t.get key = none ∧ res = .error (notFound α key) ∧ c' = c ∧ ws = []) ∨
    (∃ o, t.get key = some o ∧ f o = (res, c', ws)) := by
  unfold onObject at h
  split at h
  · rename_i o ho
    exact .inr ⟨o, ho, h⟩
  · rename_i hnone
    cases h
    exact .inl ⟨hnone, rfl, rfl, rfl⟩

section Agree

variable {c₁ c₂ c₁' c₂' : Cluster} {t₁ t₂ : Table NamespacedName α}
  {res₁ res₂ : Except ApiError α} {ws₁ ws₂ : List Write}

/-- In tables that agree under its key, an object is created in both or in neither. -/
theorem createCall_agree {put₁ put₂ : Table NamespacedName α → Cluster} {log : α → Write} {o : α}
    {uid : Nat}
    (hkey : t₁.get (KubeObject.metadata o).key = t₂.get (KubeObject.metadata o).key)
    (h₁ : createCall c₁ t₁ put₁ log o uid = some (res₁, c₁', ws₁))
    (h₂ : createCall c₂ t₂ put₂ log o uid = some (res₂, c₂', ws₂)) :
    res₁ = res₂ ∧ ws₁ = ws₂ ∧
      ((c₁' = c₁ ∧ c₂' = c₂) ∨ ∃ t₁' t₂', c₁' = put₁ t₁' ∧ c₂' = put₂ t₂' ∧
        ∀ k, t₁.get k = t₂.get k → t₁'.get k = t₂'.get k) := by
  obtain ⟨cur, hcur, rfl, rfl, rfl⟩ | ⟨t, hst, rfl, rfl, rfl⟩ := createCall_cases h₁ <;>
    obtain ⟨cur', hcur', rfl, rfl, rfl⟩ | ⟨t', hst', rfl, rfl, rfl⟩ := createCall_cases h₂
  · exact ⟨rfl, rfl, .inl ⟨rfl, rfl⟩⟩
  · have hvacant := hst'.vacant
    rw [key_asCreated] at hvacant
    exact absurd (hcur.symm.trans (hkey.trans hvacant)) (Option.some_ne_none _)
  · have hvacant := hst.vacant
    rw [key_asCreated] at hvacant
    exact absurd (hcur'.symm.trans (hkey.symm.trans hvacant)) (Option.some_ne_none _)
  · exact ⟨rfl, rfl, .inr ⟨t, t', rfl, rfl, fun _ hk => hst.get_congr hst' hk⟩⟩

/-- In tables that agree under a key, a call finds the same object under it. -/
theorem onObject_agree {key : NamespacedName} {f₁ f₂ : α → Except ApiError α × Cluster × List Write}
    (hkey : t₁.get key = t₂.get key) (h₁ : onObject c₁ t₁ key f₁ = (res₁, c₁', ws₁))
    (h₂ : onObject c₂ t₂ key f₂ = (res₂, c₂', ws₂)) :
    (res₁ = res₂ ∧ ws₁ = ws₂ ∧ c₁' = c₁ ∧ c₂' = c₂) ∨
    (∃ o, t₁.get key = some o ∧ t₂.get key = some o ∧ f₁ o = (res₁, c₁', ws₁) ∧
      f₂ o = (res₂, c₂', ws₂)) := by
  obtain ⟨hnone, rfl, rfl, rfl⟩ | ⟨o, ho, hf⟩ := onObject_cases h₁ <;>
    obtain ⟨hnone', rfl, rfl, rfl⟩ | ⟨o', ho', hf'⟩ := onObject_cases h₂
  · exact .inl ⟨rfl, rfl, rfl, rfl⟩
  · exact absurd (ho'.symm.trans (hkey.symm.trans hnone)) (Option.some_ne_none _)
  · exact absurd (ho.symm.trans (hkey.trans hnone')) (Option.some_ne_none _)
  · obtain rfl : o = o' := Option.some.inj (ho.symm.trans (hkey.trans ho'))
    exact .inr ⟨o, ho, ho', hf, hf'⟩

end Agree

end Calls

/-- The server's step for a request: its reply, the cluster afterwards and what was written.
`none` when the environment's `uid` for a create is not fresh. -/
def Cluster.exec (env : Env) (c : Cluster) :
    (r : Request) → Option (Except ApiError r.Result × Cluster × List Write)
  | .getClass name => some (getObject c.classes ⟨"", name⟩, c, [])
  | .getSandbox key => some (getObject c.sandboxes key, c, [])
  | .createSandbox o =>
    createCall c c.sandboxes (fun t => { c with sandboxes := t }) .createSandbox o env.uid
  | .deleteSandbox key =>
    some <| onObject c c.sandboxes key fun o =>
      (.ok o, { c with sandboxes := c.sandboxes.erase key }, [.deleteSandbox o])
  | .patchSandboxStatus key patch =>
    some <| onObject c c.sandboxes key fun o =>
      let f : PodSandbox → PodSandbox := withStatus (·.merge patch)
      (.ok (f o), { c with sandboxes := modifyObject c.sandboxes key f fun _ => ⟨rfl, rfl⟩ },
        [.patchSandbox (f o)])
  | .getSecret key => some (getObject c.secrets key, c, [])
  | .listSecrets ns label value =>
    some (.ok (c.secrets.list.filter fun o => o.metadata.ns = ns && hasLabel o label value), c, [])
  | .createSecret o =>
    createCall c c.secrets (fun t => { c with secrets := t }) .createSecret o env.uid
  | .updateSecret o =>
    some <| onObject c c.secrets o.metadata.key fun cur =>
      match updateRefusal cur o with
      | some e => (.error e, c, [])
      | none =>
        (.ok (updatedSecret o cur),
          { c with secrets :=
              modifyObject c.secrets o.metadata.key (updatedSecret o) (fun _ => ⟨rfl, rfl⟩) },
          [.updateSecret (updatedSecret o cur)])
  | .deleteSecret key =>
    some <| onObject c c.secrets key fun o =>
      (.ok o, { c with secrets := c.secrets.erase key }, [.deleteSecret o])
  | .getPod key => some (getObject c.pods key, c, [])
  | .createPod o => createCall c c.pods (fun t => { c with pods := t }) .createPod o env.uid
  | .deletePod key =>
    some <| onObject c c.pods key fun o =>
      (.ok o, { c with pods := deletePodIn env c.pods key }, [.deletePod o])

/-! ## Garbage collection -/

/-- The PodSandbox that a controller reference names still exists. -/
def Cluster.ownerAlive (c : Cluster) (ns : String) (ref : OwnerReference) : Bool :=
  (c.sandboxes.get ⟨ns, ref.name⟩).any (·.metadata.uid = ref.uid)

/-- An object whose controller is gone. -/
def Cluster.isGarbage (c : Cluster) (m : ObjectMeta) : Bool :=
  m.controller.any fun ref => ¬ c.ownerAlive m.ns ref

theorem Cluster.not_isGarbage {c : Cluster} {m : ObjectMeta}
    (h : ∀ ref ∈ m.controller, c.ownerAlive m.ns ref) : ¬ c.isGarbage m := by
  intro hgarbage
  obtain ⟨ref, href, hdead⟩ := (Option.any_eq_true _ _).mp hgarbage
  simp [h ref href] at hdead

theorem Cluster.ownerAlive_of_get {c : Cluster} {ns : String} {ref : OwnerReference}
    {o : PodSandbox} (h : c.sandboxes.get ⟨ns, ref.name⟩ = some o)
    (huid : ref.uid = o.metadata.uid) : c.ownerAlive ns ref := by
  simp [ownerAlive, h, huid]

inductive Collectable
  | secret | pod
  deriving DecidableEq, Repr

/-- The garbage collector's step on one object; `none` when it is not garbage. -/
def Cluster.collect (env : Env) (c : Cluster) : Collectable → NamespacedName → Option Cluster
  | .secret, key =>
    if (c.secrets.get key).any (c.isGarbage ·.metadata) then
      some { c with secrets := c.secrets.erase key }
    else none
  | .pod, key =>
    if (c.pods.get key).any (c.isGarbage ·.metadata) then
      some { c with pods := deletePodIn env c.pods key }
    else none

/-- What is left under a key of each kind once the collector has removed all garbage. -/
def Cluster.secretAfterGC (c : Cluster) (key : NamespacedName) : Option Secret :=
  (c.secrets.get key).filter (¬ c.isGarbage ·.metadata)

def Cluster.podAfterGC (c : Cluster) (key : NamespacedName) : Option Pod :=
  (c.pods.get key).filter (¬ c.isGarbage ·.metadata)

end SandboxProvider
