import SandboxProvider.System.Creating

/-!
# A failed createSandbox call leaves nothing behind

One call runs alone, from the entry of its handler to its end. Any of its client calls may fail and
its context may be cancelled at any point; the deferred `Delete` of the PodSandbox is assumed to
succeed. If the `Delete` of the Secret and the `Update` that gives it its owner are not among the
calls that fail, then a call that does not answer 201 leaves the store as it was, up to garbage. If
one of the two fails, a Secret without an owner can stay.
-/

namespace SandboxProvider

open Lib Server

/-! ## Stores up to garbage -/

namespace Cluster

/-- The two clusters hold the same objects, once the collector has removed all garbage. -/
def SameAfterGC (c c' : Cluster) : Prop :=
  ∀ k, c'.sandboxes.get k = c.sandboxes.get k ∧ c'.classes.get k = c.classes.get k ∧
    c'.secretAfterGC k = c.secretAfterGC k ∧ c'.podAfterGC k = c.podAfterGC k

/-- Neither object of a createSandbox call exists. -/
def FreeFor (c : Cluster) (job : Job) : Prop :=
  c.sandboxes.get job.key = none ∧ c.secrets.get job.secretKey = none

instance (c : Cluster) (job : Job) : Decidable (c.FreeFor job) :=
  decidable_of_iff ((c.sandboxes.get job.key).isNone ∧ (c.secrets.get job.secretKey).isNone) (by
    simp only [FreeFor, Option.isNone_iff_eq_none])

/-- Nothing changed but the objects of one createSandbox call. -/
structure Beside (c c' : Cluster) (job : Job) : Prop where
  sandboxes : ∀ {k}, k ≠ job.key → c'.sandboxes.get k = c.sandboxes.get k
  secrets : ∀ {k}, k ≠ job.secretKey → c'.secrets.get k = c.secrets.get k
  pods : c'.pods = c.pods
  classes : c'.classes = c.classes

/-- The Secret of a call, if there is one, is controlled by a PodSandbox of its name. -/
def OwnedSecret (c : Cluster) (job : Job) : Prop :=
  ∀ secret, c.secrets.get job.secretKey = some secret →
    ∃ ref, secret.metadata.controller = some ref ∧ ref.name = job.key.name

variable {c c' : Cluster} {job : Job}

theorem isGarbage_congr (h : ∀ k, c'.sandboxes.get k = c.sandboxes.get k) (m : ObjectMeta) :
    c'.isGarbage m = c.isGarbage m := by
  unfold isGarbage ownerAlive
  simp only [h]

theorem SameAfterGC.refl (c : Cluster) : c.SameAfterGC c :=
  fun _ => ⟨rfl, rfl, rfl, rfl⟩

/-- Once the PodSandbox is gone, a Secret that it owned does not count. -/
theorem Beside.sameAfterGC (h : c.Beside c' job) (hfree : c.FreeFor job)
    (hgone : c'.sandboxes.get job.key = none) (howned : c'.OwnedSecret job) :
    c.SameAfterGC c' := by
  have hsandboxes (k : NamespacedName) : c'.sandboxes.get k = c.sandboxes.get k := by
    by_cases hk : k = job.key
    · rw [hk, hgone, hfree.1]
    · exact h.sandboxes hk
  intro k
  refine ⟨hsandboxes k, by rw [h.classes], ?_, ?_⟩
  · unfold secretAfterGC
    simp only [isGarbage_congr hsandboxes]
    by_cases hk : k = job.secretKey
    · subst hk
      rw [hfree.2]
      refine Option.filter_eq_none_iff.mpr fun secret hsecret => ?_
      obtain ⟨ref, href, hname⟩ := howned secret hsecret
      have hns : secret.metadata.ns = job.key.ns :=
        congrArg NamespacedName.ns (Table.key_of_get hsecret)
      have hdead : c.sandboxes.get ⟨secret.metadata.ns, ref.name⟩ = none := by
        rw [hns, hname]
        exact hfree.1
      simp [isGarbage, ownerAlive, href, hdead]
    · rw [h.secrets hk]
  · unfold podAfterGC
    simp only [isGarbage_congr hsandboxes, h.pods]

end Cluster

/-! ## A call on its own -/

namespace Server.CreateState

/-- The call is about to delete the Secret again or to make the PodSandbox its owner. -/
def handlesSecret : CreateState → Bool
  | .deleteSecret .. | .updateSecret .. => true
  | _ => false

/-- The deferred function is about to delete the PodSandbox. -/
def rollingBack : CreateState → Bool
  | .rollback .. => true
  | _ => false

/-- The reply of a call that has returned. -/
def returned : CreateState → Option Reply
  | .done _ _ reply | .rejected reply => some reply
  | _ => none

end Server.CreateState

namespace World

/-- The handler of createSandbox is entered, and nothing else runs. -/
def entered (cfg : Config) (c : Cluster) (access : AuthorizedAccess)
    (body : Except String CreateSandboxRequest) : World where
  cfg := cfg
  cluster := c
  procs := (∅ : AList fun _ : Nat => Proc).insert 0
    { state := .serve (.create (.getClass access body)) }

/-- Only the call runs, and a reconciler writes the status of its PodSandbox. The deferred `Delete`
does not fail. -/
def Solo (w : World) : Label → Prop
  | .run a env => ∀ p ∈ w.procs.lookup a, ∀ s ∈ p.state.creating, s.rollingBack → env.fault = none
  | .cancel _ _ => True
  | .writeStatus k _ => ∃ p ∈ w.procs.lookup 0, ∃ s ∈ p.state.creating, ∃ job ∈ s.job, job.key = k
  | _ => False

/-- The `Delete` of the Secret and the `Update` that gives it its owner reach the API server. -/
def SecretCallsPass (w : World) (l : Label) : Prop :=
  w.Solo l ∧ match l with
    | .run a env => ∀ p ∈ w.procs.lookup a, ∀ s ∈ p.state.creating,
        s.handlesSecret → refusal env p.ctxErr .request = none
    | _ => True

instance (w : World) : (l : Label) → Decidable (w.Solo l)
  | .run _ _ => inferInstanceAs (Decidable (∀ p ∈ w.procs.lookup _, _))
  | .cancel _ _ => .isTrue trivial
  | .writeStatus _ _ => inferInstanceAs (Decidable (∃ p ∈ w.procs.lookup 0, _))
  | .arrive .. | .reconcile .. | .collect .. | .kubelet .. | .deletePod .. | .removePod ..
  | .createClass .. | .updateClass .. | .deleteClass .. => .isFalse id

instance (w : World) : (l : Label) → Decidable (w.SecretCallsPass l)
  | .run a env => inferInstanceAs (Decidable (w.Solo (.run a env) ∧ ∀ p ∈ w.procs.lookup a, _))
  | .cancel .. | .writeStatus .. | .arrive .. | .reconcile .. | .collect .. | .kubelet ..
  | .deletePod .. | .removePod .. | .createClass .. | .updateClass .. | .deleteClass .. =>
    inferInstanceAs (Decidable (w.Solo _ ∧ True))

end World

/-! ## What a call has left behind so far -/

/-- The objects of a call in each of its states, when it runs alone. -/
def Cluster.Residue (c : Cluster) : CreateState → Prop
  | .getSandbox job | .createSecret job => c.FreeFor job
  | .createSandbox job secret | .deleteSecret job secret _ =>
    c.sandboxes.get job.key = none ∧
      ∃ uid, secret = asCreated uid job.secret ∧ c.secrets.get job.secretKey = some secret
  | .updateSecret job sandbox secret =>
    (c.sandboxes.get job.key).isSome ∧ sandbox.metadata.key = job.key ∧
      ∃ uid, secret = controlledBy sandbox (asCreated uid job.secret) ∧
        c.secrets.get job.secretKey = some (asCreated uid job.secret)
  | .poll job sandbox createdHere | .wait job sandbox createdHere =>
    createdHere ∧ (c.sandboxes.get job.key).isSome ∧ sandbox.metadata.key = job.key ∧
      c.OwnedSecret job
  | .rollback job sandbox _ =>
    (c.sandboxes.get job.key).isSome ∧ sandbox.metadata.key = job.key ∧ c.OwnedSecret job
  | .done job _ reply =>
    reply.status ≠ 201 → c.sandboxes.get job.key = none ∧ c.OwnedSecret job
  | .getClass .. | .rejected _ => True

/-- A call on its own, from the entry of its handler in the cluster `c`. -/
structure Cluster.Alone (c c' : Cluster) (s : CreateState) : Prop where
  undecoded : s.job = none → c' = c
  entered : ∀ {access body request}, s = .getClass access body → body = .ok request →
    c.FreeFor (.of access request)
  decoded : ∀ {job}, s.job = some job → c.FreeFor job ∧ c.Beside c' job ∧ c'.Residue s

theorem updateRefusal_controlledBy (sandbox : PodSandbox) (cur : Secret) :
    updateRefusal cur (controlledBy sandbox cur) = none := by
  have hsame : cur.data.same cur.data = true := List.isPerm_iff.mpr (List.Perm.refl _)
  simp [updateRefusal, controlledBy, KubeObject.withMetadata, KubeObject.metadata, hsame]

theorem adopt_asCreated (job : Job) (uid uid' : Nat) :
    adopt job (asCreated uid job.sandbox) (asCreated uid' job.secret) =
      .updateSecret job (asCreated uid job.sandbox)
        (controlledBy (asCreated uid job.sandbox) (asCreated uid' job.secret)) := by
  have hok : setControllerReference (asCreated uid job.sandbox) (asCreated uid' job.secret) =
      .ok (controlledBy (asCreated uid job.sandbox) (asCreated uid' job.secret)) := by
    exact (if_neg fun hne => hne rfl).trans (if_neg Bool.false_ne_true)
  unfold adopt
  rw [hok]

namespace Cluster

variable {c c₀ c₁ : Cluster} {job : Job} {sandbox : PodSandbox} {createdHere : Bool}

/-- Without the PodSandbox there is nothing to roll back; with it the deferred function runs. -/
theorem Residue.finish (h : c.Residue (.poll job sandbox createdHere)) (reply : Reply) :
    c.Residue (Server.finish job sandbox createdHere reply) := by
  obtain ⟨hhere, hrest⟩ := h
  unfold Server.finish
  rw [if_pos hhere]
  exact hrest

theorem Residue.afterPoll (h : c.Residue (.poll job sandbox createdHere)) {o : PodSandbox}
    (hget : c.sandboxes.get job.key = some o) : c.Residue (Server.afterPoll job createdHere o) := by
  have ho : c.Residue (.poll job o createdHere) :=
    ⟨h.1, h.2.1, Table.key_of_get hget, h.2.2.2⟩
  obtain ⟨-, he⟩ | ⟨message, -, he⟩ | he := afterPoll_cases job createdHere o <;> rw [he]
  · exact fun hne => absurd rfl hne
  · exact ho.finish _
  · exact ho

theorem FreeFor.nothingOwned (h : c.FreeFor job) :
    c.sandboxes.get job.key = none ∧ c.OwnedSecret job := by
  refine ⟨h.1, fun secret hsecret => ?_⟩
  rw [h.2] at hsecret
  cases hsecret

theorem Beside.setSandboxes (h : c₀.Beside c job) {t : Table NamespacedName PodSandbox}
    (hget : ∀ {k}, k ≠ job.key → t.get k = c.sandboxes.get k) :
    c₀.Beside { c with sandboxes := t } job :=
  { h with sandboxes := fun hk => (hget hk).trans (h.sandboxes hk) }

theorem Beside.setSecrets (h : c₀.Beside c job) {t : Table NamespacedName Secret}
    (hget : ∀ {k}, k ≠ job.secretKey → t.get k = c.secrets.get k) :
    c₀.Beside { c with secrets := t } job :=
  { h with secrets := fun hk => (hget hk).trans (h.secrets hk) }

namespace Alone

variable {s s' : CreateState} {env : Env} {ctxErr : Option String} {out : Outcome}

theorem of_job (hjob : s.job = some job) (hfree : c₀.FreeFor job) (hbeside : c₀.Beside c job)
    (hres : c.Residue s) : c₀.Alone c s where
  undecoded h := by
    rw [hjob] at h
    cases h
  entered h := by
    subst h
    cases hjob
  decoded h := by
    rw [hjob] at h
    cases h
    exact ⟨hfree, hbeside, hres⟩

/-- Decoding: from here on the call has its keys, and both are unused. -/
theorem prepare {access : AuthorizedAccess} {body : Except String CreateSandboxRequest}
    (h : c₀.Alone c (.getClass access body)) : c₀.Alone c (Server.prepare access body) := by
  have hsame : c = c₀ := h.undecoded rfl
  subst hsame
  obtain ⟨reply, -, he⟩ | ⟨request, hbody, -, -, -, he⟩ := prepare_cases access body <;> rw [he]
  · exact ⟨fun _ => rfl, fun h => (nomatch h), fun h => (nomatch h)⟩
  · have hfree := h.entered rfl hbody
    exact .of_job rfl hfree ⟨fun _ => rfl, fun _ => rfl, rfl, rfl⟩ hfree

section Move

variable (hmove : CreateMove env ctxErr c s s' c₁ out) (hjob : s.job = some job)
  (hres : c.Residue s)

include hmove hjob hres in
/-- A call writes under its own two keys. -/
theorem beside_move (h : c₀.Beside c job) : c₀.Beside c₁ job := by
  cases hmove
  case secretStored hst =>
    cases hjob
    exact h.setSecrets fun hk => (hst.get _).trans (if_neg hk)
  case sandboxStored hst =>
    cases hjob
    exact h.setSandboxes fun hk => (hst.get _).trans (if_neg hk)
  case secretDeleted o t hget hrem =>
    cases hjob
    obtain ⟨-, uid, rfl, -⟩ := hres
    refine h.setSecrets fun hk => hrem.get_ne ?_
    rw [Table.key_of_get hget]
    exact hk
  case secretOwned cur t hget hok hrep =>
    cases hjob
    obtain ⟨-, -, uid, rfl, -⟩ := hres
    refine h.setSecrets fun hk => hrep.get_ne ?_
    rw [Table.key_of_get hget]
    exact hk
  case rolledBack o t hget hrem =>
    cases hjob
    obtain ⟨-, hkey, -⟩ := hres
    refine h.setSandboxes fun hk => hrem.get_ne ?_
    rw [Table.key_of_get hget, hkey]
    exact hk
  all_goals exact h

/-- A call that did reach the API server failed for a missing object. -/
theorem get_of_fails {α : Type} [KubeObject α] {ctx : Ctx} {t : Table NamespacedName α}
    {key : NamespacedName} {err : ApiError} (hreach : refusal env ctxErr ctx = none)
    (hfail : Fails env ctxErr ctx t key err) : t.get key = none := by
  obtain ⟨message, hr, -⟩ | ⟨hnone, -⟩ := hfail
  · rw [hreach] at hr
    cases hr
  · exact hnone

include hmove hjob hres in
/-- What a call leaves behind, step by step. -/
theorem residue_move (hroll : s.rollingBack → env.fault = none)
    (hpass : s.handlesSecret → refusal env ctxErr .request = none) : c₁.Residue s' := by
  cases hmove
  case classFailed => cases hjob
  case classRead => cases hjob
  case sandboxUnread => exact fun _ => FreeFor.nothingOwned hres
  case sandboxMissing => exact hres
  case sandboxFound o hget hid =>
    rw [hres.1] at hget
    cases hget
  case sandboxConflict => exact fun _ => FreeFor.nothingOwned hres
  case secretFailed => exact fun _ => FreeFor.nothingOwned hres
  case secretExists hget =>
    rw [hres.2] at hget
    cases hget
  case secretStored hst => exact ⟨hres.1, _, rfl, hst.get_self⟩
  case sandboxFailed => exact hres
  case sandboxStored j secret t hst =>
    obtain ⟨-, uid, rfl, hget⟩ := hres
    rw [adopt_asCreated]
    have hself : t.get j.key = some (asCreated env.uid j.sandbox) := hst.get_self
    exact ⟨by simp [hself], rfl, uid, rfl, hget⟩
  case secretKept hfail =>
    obtain ⟨-, uid, rfl, hget⟩ := hres
    have hnone := get_of_fails (hpass rfl) hfail
    exact absurd (hget.symm.trans hnone) (Option.some_ne_none _)
  case secretDeleted j secret message o t hget hrem =>
    obtain ⟨hnone, uid, rfl, -⟩ := hres
    refine fun _ => ⟨hnone, fun x hx => ?_⟩
    have hne := (hrem.of_get hx).1
    rw [Table.key_of_get hget] at hne
    exact absurd rfl hne
  case secretUnowned j sandbox secret err hfail =>
    obtain ⟨-, -, uid, rfl, hget⟩ := hres
    obtain hfail | ⟨cur, hcur, href⟩ := hfail
    · have hnone := get_of_fails (hpass rfl) hfail
      exact absurd (hget.symm.trans hnone) (Option.some_ne_none _)
    · cases hget.symm.trans hcur
      rw [updateRefusal_controlledBy] at href
      cases href
  case secretOwned j sandbox secret cur t hget hok hrep =>
    obtain ⟨hsome, hkey, uid, rfl, -⟩ := hres
    refine ⟨rfl, hsome, hkey, fun x hx => ?_⟩
    obtain ⟨-, rfl⟩ | ⟨hne, -⟩ := hrep.of_get hx
    · exact ⟨_, rfl, congrArg NamespacedName.name hkey⟩
    · rw [Table.key_of_get hget] at hne
      exact absurd rfl hne
  case pollFailed => exact Residue.finish hres _
  case polled hget => exact Residue.afterPoll hres hget
  case expired => exact Residue.finish hres _
  case ticked => exact hres
  case rollbackFailed j sandbox reply err hfail =>
    obtain ⟨hsome, hkey, -⟩ := hres
    have hnone := get_of_fails (show refusal env ctxErr .withoutCancel = none from hroll rfl) hfail
    rw [hkey] at hnone
    rw [hnone] at hsome
    cases hsome
  case rolledBack j sandbox reply o t hget hrem =>
    obtain ⟨-, hkey, howned⟩ := hres
    refine fun _ => ⟨?_, howned⟩
    have hk : j.key = Keyed.key o := by rw [Table.key_of_get hget, hkey]
    show t.get j.key = none
    rw [hrem.get, if_pos hk]

end Move

/-- A step of the call. -/
theorem move (h : c₀.Alone c s) (hmove : CreateMove env ctxErr c s s' c₁ out)
    (hroll : s.rollingBack → env.fault = none)
    (hpass : s.handlesSecret → refusal env ctxErr .request = none) : c₀.Alone c₁ s' := by
  cases hjob : s.job with
  | none =>
    cases hmove
    case classFailed => exact ⟨fun _ => h.undecoded rfl, fun h => (nomatch h), fun h => (nomatch h)⟩
    case classRead => exact h.prepare
    all_goals cases hjob
  | some job =>
    obtain ⟨hfree, hbeside, hres⟩ := h.decoded hjob
    exact .of_job (hmove.job_eq hjob) hfree (beside_move hmove hjob hres hbeside)
      (residue_move hmove hjob hres hroll hpass)

/-- A reconciler writes the status of the PodSandbox. -/
theorem statusWritten (h : c₀.Alone c s) (hjob : s.job = some job) {o o' : PodSandbox}
    {t : Table NamespacedName PodSandbox} (hkey : Keyed.key o = job.key)
    (hrep : c.sandboxes.Replaces o o' t) : c₀.Alone { c with sandboxes := t } s := by
  obtain ⟨hfree, hbeside, hres⟩ := h.decoded hjob
  have hsome : (t.get job.key).isSome := by
    rw [← hkey, hrep.get_self]
    rfl
  have hstored : c.sandboxes.get job.key = some o := by
    rw [← hkey]
    exact hrep.stored
  refine .of_job hjob hfree (hbeside.setSandboxes fun hk => hrep.get_ne (by rw [hkey]; exact hk)) ?_
  cases s <;> cases hjob
  case getSandbox => exact absurd (hstored.symm.trans hres.1) (Option.some_ne_none _)
  case createSecret => exact absurd (hstored.symm.trans hres.1) (Option.some_ne_none _)
  case createSandbox => exact absurd (hstored.symm.trans hres.1) (Option.some_ne_none _)
  case deleteSecret => exact absurd (hstored.symm.trans hres.1) (Option.some_ne_none _)
  case updateSecret => exact ⟨hsome, hres.2⟩
  case poll => exact ⟨hres.1, hsome, hres.2.2⟩
  case wait => exact ⟨hres.1, hsome, hres.2.2⟩
  case rollback => exact ⟨hsome, hres.2⟩
  case done =>
    exact fun hne => absurd (hstored.symm.trans (hres hne).1) (Option.some_ne_none _)

end Alone

end Cluster

/-! ## Runs -/

namespace World

/-- The call is the only program. -/
structure LoneCall (c : Cluster) (w : World) : Prop where
  sole : ∀ {b p}, w.procs.lookup b = some p → b = 0
  call : ∃ ctxErr s, w.procs.lookup 0 = some ⟨ctxErr, .serve (.create s)⟩ ∧ c.Alone w.cluster s

namespace LoneCall

variable {c : Cluster} {w w' : World}

theorem entered (cfg : Config) (access : AuthorizedAccess) {body : Except String CreateSandboxRequest}
    (hfree : ∀ request, body = .ok request → c.FreeFor (.of access request)) :
    LoneCall c (World.entered cfg c access body) where
  sole {b p} h := by
    simp only [World.entered, lookup_insert_ite] at h
    split at h
    · assumption
    · cases h
  call := by
    refine ⟨none, _, AList.lookup_insert _, fun _ => rfl, fun h hbody => ?_, fun h => (nomatch h)⟩
    cases h
    exact hfree _ hbody

theorem insert (h : LoneCall c w) {ctxErr : Option String} {s : CreateState} {c' : Cluster}
    {history : List Event} (halone : c.Alone c' s) :
    LoneCall c { w with
      cluster := c', history := history
      procs := w.procs.insert 0 ⟨ctxErr, .serve (.create s)⟩ } where
  sole {b p} hb := by
    simp only [lookup_insert_ite] at hb
    split at hb
    · assumption
    · exact h.sole hb
  call := ⟨ctxErr, s, AList.lookup_insert _, halone⟩

theorem step {l : Label} (h : LoneCall c w) (hok : w.SecretCallsPass l) (hstep : w.step l = some w') :
    LoneCall c w' := by
  obtain ⟨hsolo, hpass⟩ := hok
  obtain ⟨err, s, hs, halone⟩ := h.call
  cases moves hstep with
  | arrive => exact hsolo.elim
  | reconcile => exact hsolo.elim
  | serve hp hmove =>
    cases h.sole hp
    cases hs.symm.trans hp
    cases hmove with
    | create hmove =>
      exact h.insert (halone.move hmove (hsolo _ hp s rfl) (hpass _ hp s rfl))
  | control hp =>
    cases h.sole hp
    cases hs.symm.trans hp
  | cancel hp =>
    cases h.sole hp
    cases hs.symm.trans hp
    exact h.insert halone
  | env henv =>
    cases henv with
    | idle => exact h
    | statusWritten hget hrep =>
      obtain ⟨p, hp, s', hs', job, hjob, hkey⟩ := hsolo
      cases hs.symm.trans hp
      cases hs'
      have hk := (Table.key_of_get hget).trans hkey.symm
      exact ⟨h.sole, err, s, hs, halone.statusWritten hjob hk hrep⟩
    | _ => exact hsolo.elim

end LoneCall

/-- **A failed create leaves nothing behind.** A createSandbox call runs alone in a store without its
PodSandbox and its Secret, any of its calls failing but the deferred `Delete`, the `Delete` of the
Secret and the `Update` of its owner. If it returns and the reply is not a 201, the store is what it
was, once the garbage is collected. -/
theorem failed_create_leaves_nothing (cfg : Config) (c : Cluster) (access : AuthorizedAccess)
    (body : Except String CreateSandboxRequest)
    (hfree : ∀ request, body = .ok request → c.FreeFor (.of access request))
    (ls : List Label) (w : World)
    (hrun : Run World.step World.SecretCallsPass (World.entered cfg c access body) ls w)
    (ctxErr : Option String) (s : CreateState)
    (hp : w.procs.lookup 0 = some ⟨ctxErr, .serve (.create s)⟩)
    (reply : Reply) (hret : s.returned = some reply) (hne : reply.status ≠ 201) :
    c.SameAfterGC w.cluster := by
  have hlone : LoneCall c w := hrun.invariant (LoneCall c)
    (fun _ _ _ h hok hstep => h.step hok hstep) (LoneCall.entered cfg access hfree)
  obtain ⟨_, _, hs, halone⟩ := hlone.call
  cases hs.symm.trans hp
  cases s with
  | done job sandbox r =>
    cases hret
    obtain ⟨hfree, hbeside, hres⟩ := halone.decoded rfl
    exact hbeside.sameAfterGC hfree (hres hne).1 (hres hne).2
  | rejected r =>
    rw [halone.undecoded rfl]
    exact .refl c
  | _ => cases hret

end World

namespace Sample

def access : AuthorizedAccess := ⟨"kata", "provider"⟩

/-- The call of the sample request, in the cluster with its class. -/
def callAlone : World := World.entered cfg oneClass access (.ok request)

/-- The context is cancelled while the call polls. -/
def cancelledPoll : List Label :=
  [.run 0 {}, .run 0 {}, .run 0 { uid := 1 }, .run 0 { uid := 1 }, .run 0 {},
    .cancel 0 "context canceled", .run 0 {}, .run 0 {}]

/-- The context is cancelled between the two creates. -/
def cancelledCreate : List Label :=
  [.run 0 {}, .run 0 {}, .run 0 { uid := 1 }, .cancel 0 "context canceled", .run 0 {}, .run 0 {}]

/-- The Secret gets no owner, then the context is cancelled. -/
def failedUpdate : List Label :=
  [.run 0 {}, .run 0 {}, .run 0 { uid := 1 }, .run 0 { uid := 1 },
    .run 0 { fault := some "timeout" }, .cancel 0 "context canceled", .run 0 {}, .run 0 {}]

end Sample

namespace World

set_option maxRecDepth 100000 in
theorem cancelled_poll_leaves_nothing :
    ∃ w, Run World.step World.SecretCallsPass Sample.callAlone Sample.cancelledPoll w ∧
      ∃ ctxErr s reply, w.procs.lookup 0 = some ⟨ctxErr, .serve (.create s)⟩ ∧
        s.returned = some reply ∧ reply.status ≠ 201 ∧ Sample.oneClass.SameAfterGC w.cluster := by
  have hfree : Sample.oneClass.FreeFor (.of Sample.access Sample.request) := by decide +kernel
  obtain ⟨w, hrun, p, hp, s, hs, reply, hret, hne⟩ := Run.exists_of_checkRun
    (fun w : World => ∃ p ∈ w.procs.lookup (0 : Nat), ∃ s ∈ p.state.creating, ∃ reply ∈ s.returned,
      reply.status ≠ (201 : Nat))
    (show (checkRun World.step World.SecretCallsPass Sample.callAlone
      Sample.cancelledPoll).any _ = true by decide +kernel)
  obtain ⟨ctxErr, state⟩ := p
  have hs : state = .serve (.create s) := State.creating_eq_some.mp hs
  subst hs
  refine ⟨w, hrun, ctxErr, s, reply, hp, hret, hne, ?_⟩
  refine failed_create_leaves_nothing Sample.cfg Sample.oneClass Sample.access (.ok Sample.request)
    (fun request h => ?_) Sample.cancelledPoll w hrun ctxErr s hp reply hret hne
  cases h
  exact hfree

set_option maxRecDepth 100000 in
theorem failed_create_leaves_secret :
    Sample.oneClass.FreeFor (.of Sample.access Sample.request) ∧
    ∀ ls ∈ [Sample.cancelledCreate, Sample.failedUpdate],
      ∃ w, Run World.step World.Solo Sample.callAlone ls w ∧
        ∃ p ∈ w.procs.lookup 0, ∃ s ∈ p.state.creating, ∃ reply ∈ s.returned,
          reply.status ≠ 201 ∧ (w.cluster.sandboxes.get Sample.key).isNone ∧
          (w.cluster.secretAfterGC ⟨Sample.key.ns, secretName Sample.key.name⟩).isSome := by
  refine ⟨by decide +kernel, fun ls hls => Run.exists_of_checkRun _ ?_⟩
  revert ls
  decide +kernel

end World

end SandboxProvider
