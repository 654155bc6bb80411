import SandboxProvider.System.Incarnation

/-!
# Reconcile deletes its own runner

`Reconcile` finds the runner by the name of the PodSandbox alone and deletes it when its template
annotation is another one, whoever made it. In a namespace shared with others, what it deletes is
controlled by the PodSandbox it works for as long as names are kept apart (`World.NamesApart`): a
PodSandbox is stored only under a free name, and others create Pods only under names that no
PodSandbox and no Reconcile call uses.
-/

namespace SandboxProvider

open Lib Server Controller

/-- The controller of the Pod is the object with this `uid`. -/
def ControlledBy (p : Pod) (uid : Nat) : Prop :=
  p.metadata.controller.map (·.uid) = some uid

instance (p : Pod) (uid : Nat) : Decidable (ControlledBy p uid) :=
  inferInstanceAs (Decidable (_ = _))

theorem ControlledBy.of_same {p p' : Pod} {uid : Nat} (h : ControlledBy p uid)
    (hsame : SamePod p p') : ControlledBy p' uid := by
  unfold ControlledBy
  rw [← hsame.controller]
  exact h

/-- A step in a namespace that the provider shares with others, who create Pods and PodSandboxes. -/
inductive SharedLabel
  | provider (l : Label)
  | createPod (pod : Pod) (uid : Nat)
  | createSandbox (sandbox : PodSandbox) (uid : Nat)

namespace World

def sharedStep (w : World) : SharedLabel → Option World
  | .provider l => w.step l
  | .createPod pod uid =>
    match createObject w.cluster.pods pod uid with
    | some (.ok _, t) => some { w with cluster := { w.cluster with pods := t } }
    | _ => none
  | .createSandbox sandbox uid =>
    match createObject w.cluster.sandboxes sandbox uid with
    | some (.ok _, t) => some { w with cluster := { w.cluster with sandboxes := t } }
    | _ => none

/-- No PodSandbox of this name exists and no Reconcile call holds one. -/
def SandboxFree (w : World) (k : NamespacedName) : Prop :=
  w.cluster.sandboxes.get k = none ∧
    ∀ b q, w.procs.lookup b = some q → ∀ s ∈ q.state.reconciling, s.sandbox.isSome → s.key ≠ k

instance (w : World) (k : NamespacedName) : Decidable (w.SandboxFree k) :=
  inferInstanceAs (Decidable (_ ∧ ∀ b q, w.procs.lookup b = some q → ∀ s ∈ q.state.reconciling,
    s.sandbox.isSome → s.key ≠ k))

/-- PodSandboxes are stored under free names, and others leave the names of PodSandboxes alone. -/
def NamesApart (w : World) : SharedLabel → Prop
  | .provider l => w.FreshNames l
  | .createPod pod _ => w.SandboxFree pod.metadata.key
  | .createSandbox sandbox _ => w.NameFree sandbox.metadata.key

instance (w : World) : (l : SharedLabel) → Decidable (w.NamesApart l)
  | .provider l => inferInstanceAs (Decidable (w.FreshNames l))
  | .createPod pod _ => inferInstanceAs (Decidable (w.SandboxFree pod.metadata.key))
  | .createSandbox sandbox _ => inferInstanceAs (Decidable (w.NameFree sandbox.metadata.key))

/-- The PodSandbox is stored under this key, or a Reconcile call for the key holds it. -/
def HasSandbox (w : World) (k : NamespacedName) (o : PodSandbox) : Prop :=
  w.cluster.sandboxes.get k = some o ∨ ∃ a s, w.Reconciling a s ∧ s.key = k ∧ s.sandbox = some o

theorem CallsAgree.agreesAt {w : World} (h : w.CallsAgree) {k : NamespacedName} {o : PodSandbox}
    (ho : w.HasSandbox k o) : w.AgreesAt k o := by
  obtain ho | ⟨a, s, ha, rfl, ho⟩ := ho
  · exact h.agreesAt_of_stored ho
  · exact (h a s o ha ho).2

theorem SandboxFree.not_hasSandbox {w : World} {k : NamespacedName} (h : w.SandboxFree k)
    (o : PodSandbox) : ¬ w.HasSandbox k o := by
  rintro (ho | ⟨a, s, ⟨ctxErr, ha⟩, rfl, ho⟩)
  · rw [h.1] at ho
    cases ho
  · exact h.2 a _ ha s rfl (by rw [ho]; rfl) rfl

/-- What Reconcile calls find under the name of their PodSandbox is controlled by it. -/
structure OwnershipInv (w : World) : Prop where
  calls : w.CallsAgree
  desired : ∀ {a s o d}, w.Reconciling a s → s.sandbox = some o → s.desired = some d →
    d.metadata.key = o.metadata.key ∧ ControlledBy d o.metadata.uid
  runner : ∀ {a key sandbox runner}, w.Reconciling a (.deleteRunner key sandbox runner) →
    runner.metadata.key = key
  owned : ∀ {k o p}, w.HasSandbox k o → w.cluster.pods.get k = some p → ControlledBy p o.metadata.uid
  deleted : ∀ {a s p}, .wrote a (.reconcile s) (.deletePod p) ∈ w.history →
    ∃ o, s.sandbox = some o ∧ ControlledBy p o.metadata.uid

namespace OwnershipInv

variable {w w' : World} {l : Label}

theorem start (cfg : Config) {c : Cluster}
    (hown : ∀ k o p, c.sandboxes.get k = some o → c.pods.get k = some p →
      ControlledBy p o.metadata.uid) : OwnershipInv (World.start cfg c) where
  calls a s o h := by
    obtain ⟨_, h⟩ := h
    cases h
  desired h := by
    obtain ⟨_, h⟩ := h
    cases h
  runner h := by
    obtain ⟨_, h⟩ := h
    cases h
  owned {k o p} ho hp := by
    obtain ho | ⟨a, s, ⟨_, h⟩, -⟩ := ho
    · exact hown k o p ho hp
    · cases h
  deleted h := by cases h

/-! ### Steps from outside -/

section Outside

variable (hinv : OwnershipInv w) (hout : Outside w l w') (hok : w.FreshNames l)

include hout in
/-- Who holds a PodSandbox after a step held it before, or it was just stored. -/
private theorem outside_hasSandbox {k : NamespacedName} {o : PodSandbox} (ho : w'.HasSandbox k o) :
    (∃ old, w.HasSandbox k old ∧ SameIncarnation old o) ∨
    ∃ a p job, l.runs = some a ∧ w.procs.lookup a = some p ∧ p.state.storing = some job ∧
      job.key = k := by
  obtain ho | ⟨a, s, ha, rfl, ho⟩ := ho
  · obtain ⟨old, hold, hsame⟩ | hnew := IncarnationInv.outside_stored hout ho
    · exact .inl ⟨old, .inl hold, hsame⟩
    · exact .inr hnew
  · obtain ha | hs := hout.reconciling ha
    · exact .inl ⟨o, .inr ⟨a, s, ha, rfl, ho⟩, .refl o⟩
    · rw [hs] at ho
      cases ho

include hinv hout hok in
theorem outside : OwnershipInv w' where
  calls := IncarnationInv.callsAgree_outside hinv.calls hout hok
  desired {a s o d} ha ho hd := by
    obtain ha | hs := hout.reconciling ha
    · exact hinv.desired ha ho hd
    · rw [hs] at ho
      cases ho
  runner {a key sandbox runner} ha := by
    obtain ha | hs := hout.reconciling ha
    · exact hinv.runner ha
    · cases hs
  owned {k o p} ho hp := by
    obtain ⟨old, hold, hsame⟩ := IncarnationInv.outside_pod hout hp
    obtain ⟨x, hx, hxo⟩ | ⟨a, q, job, hl, hq, hjob, rfl⟩ := outside_hasSandbox hout ho
    · rw [← hxo.uid]
      exact (hinv.owned hx hold).of_same hsame
    · exact absurd (hok a hl q hq job hjob) (IncarnationInv.not_nameFree_of_pod hold)
  deleted he := hinv.deleted (hout.wrote_mem he)

end Outside

/-! ### Steps of a Reconcile call -/

section Own

variable {a : Nat} {env : Env} {ctxErr : Option String} {s s' : ReconcileState} {c' : Cluster}
  {out : Outcome} (hinv : OwnershipInv w)
  (hp : w.procs.lookup a = some ⟨ctxErr, .reconcile s⟩)
  (hmove : ReconcileMove env ctxErr w.cluster s s' c' out)

include hp hmove in
private theorem own_hasSandbox {k : NamespacedName} {o : PodSandbox}
    (ho : (w.advance a ⟨ctxErr, .reconcile s⟩ (.reconcile s') c' out).HasSandbox k o) :
    ∃ old, w.HasSandbox k old ∧ SameIncarnation old o := by
  obtain ho | ⟨b, t, hb, rfl, ho⟩ := ho
  · obtain ⟨old, hold, hsame⟩ := IncarnationInv.own_stored hmove ho
    exact ⟨old, .inl hold, hsame⟩
  · obtain ⟨rfl, rfl⟩ | ⟨-, hb⟩ := reconciling_advance.mp hb
    · rw [hmove.key_eq]
      obtain ho | ⟨-, hget, -, -⟩ := hmove.sandbox_cases ho
      · exact ⟨o, .inr ⟨b, s, ⟨ctxErr, hp⟩, rfl, ho⟩, .refl o⟩
      · exact ⟨o, .inl hget, .refl o⟩
    · exact ⟨o, .inr ⟨b, t, hb, rfl, ho⟩, .refl o⟩

include hinv hp hmove in
/-- The Pod under a key after the step is controlled as before; a new one is the runner that the
call wanted, and everybody's copy under its key is of the incarnation of the call's. -/
private theorem own_owned {k : NamespacedName} {o : PodSandbox} {p : Pod} (ho : w.HasSandbox k o)
    (hget : c'.pods.get k = some p) : ControlledBy p o.metadata.uid := by
  cases hmove.pods with
  | same hsame =>
    rw [hsame] at hget
    exact hinv.owned ho hget
  | @stored key sandbox cls desired hst =>
    obtain ⟨rfl, rfl⟩ | ⟨-, hold⟩ := hst.of_get hget
    · obtain ⟨hkey, hcontrolled⟩ := hinv.desired ⟨ctxErr, hp⟩ rfl rfl
      obtain ⟨hcall, hagrees⟩ := hinv.calls a _ sandbox ⟨ctxErr, hp⟩ rfl
      have hk : Keyed.key (asCreated env.uid desired) = key := hkey.trans hcall
      rw [hk] at ho
      rw [← ((hinv.calls.agreesAt ho).call ⟨ctxErr, hp⟩ rfl rfl).uid] at hcontrolled
      exact hcontrolled
    · exact hinv.owned ho hold
  | deleted hfound hdel =>
    rw [hdel] at hget
    obtain ⟨old, hold, hsame⟩ := IncarnationInv.deletePodIn_same hfound hget
    exact (hinv.owned ho hold).of_same hsame

include hinv hp hmove in
private theorem own_desired {o : PodSandbox} {d : Pod} (ho : s'.sandbox = some o)
    (hd : s'.desired = some d) :
    d.metadata.key = o.metadata.key ∧ ControlledBy d o.metadata.uid := by
  obtain ⟨-, hsandbox, hold | ⟨d', hold, rfl, -⟩ | ⟨x, cls, hs, rfl⟩⟩ := hmove.desired_cases hd
  · exact hinv.desired ⟨ctxErr, hp⟩ (hsandbox.trans ho) hold
  · have hd' := hinv.desired ⟨ctxErr, hp⟩ (hsandbox.trans ho) hold
    exact ⟨hd'.1, hd'.2⟩
  · rw [← hsandbox, hs] at ho
    cases ho
    exact ⟨rfl, rfl⟩

include hmove in
/-- The runner that a call is about to delete was read under the call's key. -/
private theorem own_runner {key : NamespacedName} {sandbox : PodSandbox} {runner : Pod}
    (hs : s' = .deleteRunner key sandbox runner) : runner.metadata.key = key := by
  cases hmove
  case runnerRead key' o cls desired p hget =>
    obtain ⟨-, he⟩ | ⟨_, _, he⟩ | ⟨-, he⟩ := inspectRunner_cases env.now key' o cls desired p
    · rw [he] at hs
      cases hs
      exact Table.key_of_get hget
    · rw [he] at hs
      cases hs
    · rw [he] at hs
      cases hs
  all_goals cases hs

include hinv hp hmove in
theorem own : OwnershipInv (w.advance a ⟨ctxErr, .reconcile s⟩ (.reconcile s') c' out) where
  calls := IncarnationInv.callsAgree_own hp hmove hinv.calls
  desired {b t o d} hb ho hd := by
    obtain ⟨rfl, rfl⟩ | ⟨-, hb⟩ := reconciling_advance.mp hb
    · exact hinv.own_desired hp hmove ho hd
    · exact hinv.desired hb ho hd
  runner {b key sandbox runner} hb := by
    obtain ⟨rfl, hs⟩ | ⟨-, hb⟩ := reconciling_advance.mp hb
    · exact own_runner hmove hs.symm
    · exact hinv.runner hb
  owned ho hget := by
    obtain ⟨old, hold, hsame⟩ := own_hasSandbox hp hmove ho
    rw [← hsame.uid]
    exact hinv.own_owned hp hmove hold hget
  deleted {b t p} he := by
    obtain ⟨rfl, hw⟩ | he := wrote_mem_advance he
    · cases hmove
      case deleted key sandbox runner o hget =>
        cases List.mem_singleton.mp hw
        rw [hinv.runner ⟨ctxErr, hp⟩] at hget
        exact ⟨sandbox, rfl, hinv.owned (.inr ⟨a, _, ⟨ctxErr, hp⟩, rfl, rfl⟩) hget⟩
      case runnerStored => cases List.mem_singleton.mp hw
      case patched => cases List.mem_singleton.mp hw
      all_goals cases hw
    · exact hinv.deleted he

end Own

/-! ### Steps of others -/

theorem createPod (hinv : OwnershipInv w) {pod : Pod} {uid : Nat} {t : Table NamespacedName Pod}
    (hst : w.cluster.pods.Stores (asCreated uid pod) t) (hfree : w.SandboxFree pod.metadata.key) :
    OwnershipInv { w with cluster := { w.cluster with pods := t } } where
  calls a s o ha ho := by
    obtain ⟨hkey, hagrees⟩ := hinv.calls a s o ha ho
    exact ⟨hkey, hagrees.stored, hagrees.call⟩
  desired := hinv.desired
  runner := hinv.runner
  owned {k o p} ho hp := by
    obtain ⟨rfl, rfl⟩ | ⟨-, hold⟩ := hst.of_get hp
    · exact absurd ho (hfree.not_hasSandbox o)
    · exact hinv.owned ho hold
  deleted := hinv.deleted

theorem createSandbox (hinv : OwnershipInv w) {sandbox : PodSandbox} {uid : Nat}
    {t : Table NamespacedName PodSandbox}
    (hst : w.cluster.sandboxes.Stores (asCreated uid sandbox) t)
    (hfree : w.NameFree sandbox.metadata.key) :
    OwnershipInv { w with cluster := { w.cluster with sandboxes := t } } where
  calls a s o ha ho := by
    obtain ⟨hkey, hagrees⟩ := hinv.calls a s o ha ho
    refine ⟨hkey, fun {x} hx => ?_, hagrees.call⟩
    obtain ⟨hk, -⟩ | ⟨-, hold⟩ := hst.of_get hx
    · exact absurd (hk ▸ hfree) (IncarnationInv.not_nameFree_of_call ha ho)
    · exact hagrees.stored hold
  desired := hinv.desired
  runner := hinv.runner
  owned {k o p} ho hp := by
    obtain ho | hcall := ho
    · obtain ⟨rfl, -⟩ | ⟨-, hold⟩ := hst.of_get ho
      · exact absurd hfree (IncarnationInv.not_nameFree_of_pod hp)
      · exact hinv.owned (.inl hold) hp
    · exact hinv.owned (.inr hcall) hp
  deleted := hinv.deleted

theorem step {l : SharedLabel} (hinv : OwnershipInv w) (hok : w.NamesApart l)
    (h : w.sharedStep l = some w') : OwnershipInv w' := by
  cases l with
  | provider l =>
    cases controlStep h with
    | own hp hmove => exact hinv.own hp hmove
    | outside hout => exact hinv.outside hout hok
  | createPod pod uid =>
    simp only [sharedStep] at h
    split at h
    · rename_i o t hcreate
      cases h
      exact hinv.createPod (stores_of_createObject hcreate).2 hok
    · cases h
  | createSandbox sandbox uid =>
    simp only [sharedStep] at h
    split at h
    · rename_i o t hcreate
      cases h
      exact hinv.createSandbox (stores_of_createObject hcreate).2 hok
    · cases h

end OwnershipInv

/-- **Reconcile deletes its own runner only.** In every run in which names are kept apart, from a
cluster in which each Pod under a PodSandbox's name is controlled by that PodSandbox, every Pod that
a Reconcile call deletes is controlled by the PodSandbox that the call read. -/
theorem reconcile_deletes_own_runner (cfg : Config) (c : Cluster)
    (hown : ∀ k o p, c.sandboxes.get k = some o → c.pods.get k = some p →
      ControlledBy p o.metadata.uid)
    (ls : List SharedLabel) (w : World)
    (hrun : Run World.sharedStep World.NamesApart (World.start cfg c) ls w) (a : Nat)
    (s : ReconcileState) (p : Pod) (he : .wrote a (.reconcile s) (.deletePod p) ∈ w.history) :
    ∃ o, s.sandbox = some o ∧ ControlledBy p o.metadata.uid := by
  have hinv : OwnershipInv w :=
    hrun.invariant OwnershipInv (fun _ _ _ hi hok hstep => hi.step hok hstep) (.start cfg hown)
  exact hinv.deleted he

end World

/-! ## A Pod of somebody else -/

namespace Sample

/-- A Pod that has nothing to do with the provider, under the name of a PodSandbox. -/
def strangerPod : Pod where
  metadata := { name := key.name, ns := key.ns }

/-- The runner is created and seen, the class changes, and the next Reconcile call deletes the
runner. -/
def classChange : List SharedLabel :=
  List.map .provider <|
    [arrive 1 request] ++ createSteps 1 1 ++ reconcileSteps 2 1 ++
      [.run 2 {}, .run 2 {}, .updateClass "kata" { networkMTU := 1400 }] ++ reconcileSteps 3 2 ++
      [.run 3 {}, .run 3 {}]

/-- Somebody creates a Pod; a createSandbox call stores a PodSandbox of the same name, and the
Reconcile call for it deletes the Pod. -/
def strangerDeleted : List SharedLabel :=
  .createPod strangerPod 1 :: List.map .provider
    ([arrive 1 request] ++ createSteps 1 1 ++ reconcileSteps 2 2 ++ [.run 2 {}, .run 2 {}])

end Sample

/-- The Pod that a Reconcile call deleted, and the PodSandbox that the call read. -/
def Event.deletedRunner (a : Nat) : Event → Option (Pod × ReconcileState)
  | .wrote b (.reconcile s) (.deletePod p) => if b = a then some (p, s) else none
  | _ => none

theorem Event.deletedRunner_eq_some {a : Nat} {e : Event} {p : Pod} {s : ReconcileState}
    (h : e.deletedRunner a = some (p, s)) : e = .wrote a (.reconcile s) (.deletePod p) := by
  unfold deletedRunner at h
  split at h
  · split at h
    · rename_i hb
      cases h
      rw [hb]
    · cases h
  · cases h

namespace World

set_option maxRecDepth 100000 in
theorem class_change_deletes_own_runner :
    ∃ w, Run World.sharedStep World.NamesApart (World.start Sample.cfg Sample.oneClass)
        Sample.classChange w ∧
      ∃ s p, .wrote 3 (.reconcile s) (.deletePod p) ∈ w.history ∧
        ∃ o, s.sandbox = some o ∧ ControlledBy p o.metadata.uid := by
  obtain ⟨w, hrun, e, he, hsome⟩ := Run.exists_of_checkRun
    (fun w : World => ∃ e ∈ w.history, (e.deletedRunner 3).isSome = true)
    (show (checkRun World.sharedStep World.NamesApart (World.start Sample.cfg Sample.oneClass)
      Sample.classChange).any _ = true by decide +kernel)
  obtain ⟨⟨p, s⟩, hdeleted⟩ := Option.isSome_iff_exists.mp hsome
  rw [Event.deletedRunner_eq_some hdeleted] at he
  exact ⟨w, hrun, s, p, he, reconcile_deletes_own_runner _ _
    (fun _ _ _ h => (Option.some_ne_none _ h.symm).elim) _ w hrun 3 s p he⟩

set_option maxRecDepth 100000 in
theorem reconcile_deletes_pod_of_others :
    ∃ w, Run World.sharedStep (fun _ _ => True) (World.start Sample.cfg Sample.oneClass)
        Sample.strangerDeleted w ∧
      ∃ e ∈ w.history, ∃ r ∈ e.deletedRunner 2,
        r.1.metadata.controller = none ∧ r.1.metadata.uid = 1 ∧ r.2.sandbox.isSome := by
  refine Run.exists_of_checkRun _ ?_
  decide +kernel

end World

end SandboxProvider
