import SandboxProvider.System.Reconciling

/-!
# Incarnations of a PodSandbox

A PodSandbox name can be used again, and runner Pods and Reconcile calls of the previous PodSandbox
may still be around then. In a run where a PodSandbox is stored under a name only when no Pod of that
name exists and no Reconcile call holds an earlier PodSandbox of that name (`World.FreshNames`), all
that is around under one name belongs to one incarnation: the stored PodSandbox, the copies that
Reconcile calls hold, and the Pod, which was made from such a copy and a class.
-/

namespace SandboxProvider

open Lib Server Controller

/-- Two copies of one PodSandbox: they differ at most in status and resource version. -/
structure SameIncarnation (o o' : PodSandbox) : Prop where
  key : o.metadata.key = o'.metadata.key
  uid : o.metadata.uid = o'.metadata.uid
  generation : o.metadata.generation = o'.metadata.generation
  spec : o.spec = o'.spec

namespace SameIncarnation

variable {o o' o'' : PodSandbox}

theorem refl (o : PodSandbox) : SameIncarnation o o := ⟨rfl, rfl, rfl, rfl⟩

theorem symm (h : SameIncarnation o o') : SameIncarnation o' o :=
  ⟨h.key.symm, h.uid.symm, h.generation.symm, h.spec.symm⟩

theorem trans (h : SameIncarnation o o') (h' : SameIncarnation o' o'') : SameIncarnation o o'' :=
  ⟨h.key.trans h'.key, h.uid.trans h'.uid, h.generation.trans h'.generation, h.spec.trans h'.spec⟩

theorem withStatus (f : PodSandboxStatus → PodSandboxStatus) (o : PodSandbox) :
    SameIncarnation o (SandboxProvider.withStatus f o) := ⟨rfl, rfl, rfl, rfl⟩

theorem name (h : SameIncarnation o o') : o.metadata.name = o'.metadata.name :=
  congrArg NamespacedName.name h.key

theorem ns (h : SameIncarnation o o') : o.metadata.ns = o'.metadata.ns :=
  congrArg NamespacedName.ns h.key

end SameIncarnation

/-- The runner of one incarnation does not depend on the copy it is computed from. -/
theorem desiredRunner_congr {o o' : PodSandbox} (h : SameIncarnation o o') (cls : PodSandboxClass) :
    desiredRunner o cls = desiredRunner o' cls := by
  have hname := h.name
  have hns := h.ns
  have hgen := h.generation
  have hspec := h.spec
  simp only [desiredRunner, runnerLabels, runnerAnnotations, templateGeneration, runnerContainer,
    runnerArgs, runnerResources, runnerVolumes, hname, hns, hgen, hspec]

/-- Two versions of one Pod: they differ at most in what the scheduler and the kubelet report and in
whether the Pod is being deleted. -/
structure SamePod (p p' : Pod) : Prop where
  key : p.metadata.key = p'.metadata.key
  controller : p.metadata.controller = p'.metadata.controller
  labels : p.metadata.labels = p'.metadata.labels
  annotations : p.metadata.annotations = p'.metadata.annotations
  spec : { p.spec with nodeName := "" } = { p'.spec with nodeName := "" }

theorem SamePod.refl (p : Pod) : SamePod p p := ⟨rfl, rfl, rfl, rfl, rfl⟩

theorem SamePod.setPodStatus (nodeName : String) (status : PodStatus) (p : Pod) :
    SamePod p (SandboxProvider.setPodStatus nodeName status p) := ⟨rfl, rfl, rfl, rfl, rfl⟩

theorem SamePod.markDeleted (now : Time) (p : Pod) :
    SamePod p (SandboxProvider.markDeleted now p) := ⟨rfl, rfl, rfl, rfl, rfl⟩

/-- The Pod is the runner computed from a PodSandbox and a class, up to what the server, the
scheduler and the kubelet fill in. -/
structure MadeFrom (p : Pod) (o : PodSandbox) (cls : PodSandboxClass) : Prop where
  key : p.metadata.key = o.metadata.key
  controller : p.metadata.controller = some ⟨"PodSandbox", o.metadata.name, o.metadata.uid⟩
  labels : p.metadata.labels = (desiredRunner o cls).metadata.labels
  annotations : p.metadata.annotations = (desiredRunner o cls).metadata.annotations
  spec : { p.spec with nodeName := "" } = (desiredRunner o cls).spec

namespace MadeFrom

variable {p : Pod} {o o' : PodSandbox} {cls : PodSandboxClass}

theorem desired (o : PodSandbox) (cls : PodSandboxClass) :
    MadeFrom (controlledBy o (desiredRunner o cls)) o cls := ⟨rfl, rfl, rfl, rfl, rfl⟩

theorem asCreated (h : MadeFrom p o cls) (uid : Nat) :
    MadeFrom (SandboxProvider.asCreated uid p) o cls :=
  ⟨h.key, h.controller, h.labels, h.annotations, h.spec⟩

theorem of_same (h : MadeFrom p o cls) {p' : Pod} (hsame : SamePod p p') : MadeFrom p' o cls where
  key := hsame.key.symm.trans h.key
  controller := hsame.controller.symm.trans h.controller
  labels := hsame.labels.symm.trans h.labels
  annotations := hsame.annotations.symm.trans h.annotations
  spec := hsame.spec.symm.trans h.spec

theorem congr (h : MadeFrom p o cls) (hsame : SameIncarnation o o') : MadeFrom p o' cls where
  key := h.key.trans hsame.key
  controller := by rw [h.controller, hsame.name, hsame.uid]
  labels := by rw [h.labels, desiredRunner_congr hsame]
  annotations := by rw [h.annotations, desiredRunner_congr hsame]
  spec := by rw [h.spec, desiredRunner_congr hsame]

end MadeFrom

/-- The Reconcile call of a program. -/
def State.reconciling : State → Option ReconcileState
  | .reconcile s => some s
  | .serve _ => none

namespace World

/-- No Pod of this name exists and no Reconcile call holds a PodSandbox of this name. -/
def NameFree (w : World) (k : NamespacedName) : Prop :=
  w.cluster.pods.get k = none ∧
    ∀ b q, w.procs.lookup b = some q → ∀ s ∈ q.state.reconciling, s.sandbox.isSome → s.key ≠ k

instance (w : World) (k : NamespacedName) : Decidable (w.NameFree k) :=
  inferInstanceAs (Decidable (_ ∧ ∀ b q, w.procs.lookup b = some q → ∀ s ∈ q.state.reconciling,
    s.sandbox.isSome → s.key ≠ k))

/-- A PodSandbox is stored only under a name that is free. -/
def FreshNames (w : World) (l : Label) : Prop :=
  ∀ a ∈ l.runs, ∀ p ∈ w.procs.lookup a, ∀ job ∈ p.state.storing, w.NameFree job.key

instance (w : World) (l : Label) : Decidable (w.FreshNames l) :=
  inferInstanceAs (Decidable (∀ a ∈ l.runs, ∀ p ∈ w.procs.lookup a, _))

/-- The stored PodSandbox and the copies of the Reconcile calls under a key are of the incarnation of
`o`. -/
structure AgreesAt (w : World) (k : NamespacedName) (o : PodSandbox) : Prop where
  stored : ∀ {x}, w.cluster.sandboxes.get k = some x → SameIncarnation o x
  call : ∀ {b t x}, w.Reconciling b t → t.key = k → t.sandbox = some x → SameIncarnation o x

/-- Every Reconcile call that holds a PodSandbox holds one of the incarnation under its key. -/
def CallsAgree (w : World) : Prop :=
  ∀ a s o, w.Reconciling a s → s.sandbox = some o → o.metadata.key = s.key ∧ w.AgreesAt s.key o

/-- Whoever holds a copy holds one of the stored PodSandbox. -/
theorem CallsAgree.agreesAt_of_stored {w : World} (h : w.CallsAgree) {k : NamespacedName}
    {o : PodSandbox} (ho : w.cluster.sandboxes.get k = some o) : w.AgreesAt k o where
  stored hx := by
    rw [ho] at hx
    cases hx
    exact .refl o
  call hb hk hx := by
    obtain ⟨-, hagrees⟩ := h _ _ _ hb hx
    rw [hk] at hagrees
    exact (hagrees.stored ho).symm

/-- A Reconcile call works with this PodSandbox and class, or a Pod is made from them. -/
def Refers (w : World) (o : PodSandbox) (cls : PodSandboxClass) : Prop :=
  (∃ a s, w.Reconciling a s ∧ s.sandbox = some o ∧ s.sandboxClass = some cls) ∨
  ∃ k p, w.cluster.pods.get k = some p ∧ MadeFrom p o cls

/-- `Q` holds of the PodSandbox and the class of every Reconcile call and of every Pod. -/
structure IncarnationInv (Q : PodSandbox → PodSandboxClass → Prop) (w : World) : Prop where
  call : ∀ {a s o}, w.Reconciling a s → s.sandbox = some o →
    o.metadata.key = s.key ∧ w.AgreesAt s.key o
  held : ∀ {a s o cls}, w.Reconciling a s → s.sandbox = some o → s.sandboxClass = some cls →
    Q o cls ∧ ∀ d, s.desired = some d → MadeFrom d o cls
  made : ∀ {k p}, w.cluster.pods.get k = some p →
    ∃ o cls, MadeFrom p o cls ∧ Q o cls ∧ w.AgreesAt k o

namespace IncarnationInv

variable {Q Q' : PodSandbox → PodSandboxClass → Prop} {w w' : World} {l : Label}

theorem start (Q : PodSandbox → PodSandboxClass → Prop) (cfg : Config) {c : Cluster}
    (hpods : ∀ k, c.pods.get k = none) : IncarnationInv Q (World.start cfg c) where
  call h := by
    obtain ⟨_, h⟩ := h
    cases h
  held h := by
    obtain ⟨_, h⟩ := h
    cases h
  made {k p} h := by
    rw [show (World.start cfg c).cluster.pods.get k = none from hpods k] at h
    cases h

/-- A stored PodSandbox after a step was stored before, or is new. -/
theorem outside_stored_new (h : Outside w l w') {k : NamespacedName} {x : PodSandbox}
    (hx : w'.cluster.sandboxes.get k = some x) :
    (∃ old, w.cluster.sandboxes.get k = some old ∧ SameIncarnation old x) ∨
    ∃ a p job uid, l.runs = some a ∧ w.procs.lookup a = some p ∧ p.state.storing = some job ∧
      x = SandboxProvider.asCreated uid job.sandbox ∧ job.key = k := by
  cases h.sandboxes with
  | same hsame =>
    rw [hsame] at hx
    exact .inl ⟨x, hx, .refl x⟩
  | @stored a env p job hp hjob hst =>
    obtain ⟨rfl, rfl⟩ | ⟨-, hold⟩ := hst.of_get hx
    · exact .inr ⟨a, p, job, env.uid, rfl, hp, hjob, rfl, rfl⟩
    · exact .inl ⟨x, hold, .refl x⟩
  | removed hrem => exact .inl ⟨x, (hrem.of_get hx).2, .refl x⟩
  | status hrep =>
    obtain ⟨rfl, rfl⟩ | ⟨-, hold⟩ := hrep.of_get hx
    · exact .inl ⟨_, hrep.stored, .withStatus _ _⟩
    · exact .inl ⟨x, hold, .refl x⟩

theorem outside_stored (h : Outside w l w') {k : NamespacedName} {x : PodSandbox}
    (hx : w'.cluster.sandboxes.get k = some x) :
    (∃ old, w.cluster.sandboxes.get k = some old ∧ SameIncarnation old x) ∨
    ∃ a p job, l.runs = some a ∧ w.procs.lookup a = some p ∧ p.state.storing = some job ∧
      job.key = k := by
  obtain hold | ⟨a, p, job, uid, hl, hp, hjob, -, hkey⟩ := outside_stored_new h hx
  · exact .inl hold
  · exact .inr ⟨a, p, job, hl, hp, hjob, hkey⟩

/-- What is left of a Pod after a deletion in the table is the same Pod, perhaps marked. -/
theorem deletePodIn_pod {env : Env} {t : Table NamespacedName Pod} {key k : NamespacedName}
    {o p : Pod} (hget : t.get key = some o) (hp : (deletePodIn env t key).get k = some p) :
    t.get k = some p ∨ (k = key ∧ t.get k = some o ∧ p = markDeleted env.now o) := by
  obtain hrem | hrep : t.Removes o (deletePodIn env t key) ∨ _ := deletePodIn_cases hget
  · exact .inl (hrem.of_get hp).2
  · obtain ⟨hk, rfl⟩ | ⟨-, hold⟩ := hrep.of_get hp
    · rw [Table.key_of_get hget] at hk
      exact .inr ⟨hk, hk ▸ hget, rfl⟩
    · exact .inl hold

theorem deletePodIn_same {env : Env} {t : Table NamespacedName Pod} {key k : NamespacedName}
    {o p : Pod} (hget : t.get key = some o) (hp : (deletePodIn env t key).get k = some p) :
    ∃ old, t.get k = some old ∧ SamePod old p := by
  obtain hold | ⟨-, hold, rfl⟩ := deletePodIn_pod hget hp
  · exact ⟨p, hold, .refl p⟩
  · exact ⟨o, hold, .markDeleted _ o⟩

/-- A Pod after a step from outside was there before. -/
theorem outside_pod (h : Outside w l w') {k : NamespacedName} {p : Pod}
    (hp : w'.cluster.pods.get k = some p) :
    ∃ old, w.cluster.pods.get k = some old ∧ SamePod old p := by
  cases h.pods with
  | same hsame =>
    rw [hsame] at hp
    exact ⟨p, hp, .refl p⟩
  | reported hrep =>
    obtain ⟨rfl, rfl⟩ | ⟨-, hold⟩ := hrep.of_get hp
    · exact ⟨_, hrep.stored, .setPodStatus _ _ _⟩
    · exact ⟨p, hold, .refl p⟩
  | collected hget hgarbage hdel =>
    rw [hdel] at hp
    exact deletePodIn_same hget hp
  | deleted hget hdel =>
    rw [hdel] at hp
    exact deletePodIn_same hget hp
  | removed hrem => exact ⟨p, (hrem.of_get hp).2, .refl p⟩

theorem not_nameFree_of_call {a : Nat} {s : ReconcileState} {o : PodSandbox}
    (ha : w.Reconciling a s) (ho : s.sandbox = some o) : ¬ w.NameFree s.key := by
  intro hfree
  obtain ⟨ctxErr, ha⟩ := ha
  exact hfree.2 a _ ha s rfl (by rw [ho]; rfl) rfl

theorem not_nameFree_of_pod {k : NamespacedName} {p : Pod} (hp : w.cluster.pods.get k = some p) :
    ¬ w.NameFree k := by
  intro hfree
  rw [hfree.1] at hp
  cases hp

/-- Under a name that is in use, no other PodSandbox appears. -/
theorem agreesAt_outside (h : Outside w l w') (hok : w.FreshNames l) {k : NamespacedName}
    {o : PodSandbox} (hused : ¬ w.NameFree k) (hagrees : w.AgreesAt k o) : w'.AgreesAt k o where
  stored hx := by
    obtain ⟨old, hold, hsame⟩ | ⟨a, p, job, hl, hp, hjob, rfl⟩ := outside_stored h hx
    · exact (hagrees.stored hold).trans hsame
    · exact absurd (hok a hl p hp job hjob) hused
  call {b t x} hb hk hx := by
    obtain hb | ht := h.reconciling hb
    · exact hagrees.call hb hk hx
    · rw [ht] at hx
      cases hx

theorem callsAgree_outside (h : w.CallsAgree) (hout : Outside w l w') (hok : w.FreshNames l) :
    w'.CallsAgree := by
  intro a s o ha ho
  obtain ha | hs := hout.reconciling ha
  · obtain ⟨hkey, hagrees⟩ := h a s o ha ho
    exact ⟨hkey, agreesAt_outside hout hok (not_nameFree_of_call ha ho) hagrees⟩
  · rw [hs] at ho
    cases ho

theorem outside (h : IncarnationInv Q w) (hout : Outside w l w') (hok : w.FreshNames l)
    (hkeep : ∀ {o cls}, w.Refers o cls → Q o cls → Q' o cls) : IncarnationInv Q' w' where
  call ha ho := callsAgree_outside (fun _ _ _ => h.call) hout hok _ _ _ ha ho
  held {a s o cls} ha ho hcls := by
    obtain ha | hs := hout.reconciling ha
    · obtain ⟨hQ, hd⟩ := h.held ha ho hcls
      exact ⟨hkeep (.inl ⟨a, s, ha, ho, hcls⟩) hQ, hd⟩
    · rw [hs] at ho
      cases ho
  made {k p} hp := by
    obtain ⟨old, hold, hsame⟩ := outside_pod hout hp
    obtain ⟨o, cls, hm, hQ, hagrees⟩ := h.made hold
    exact ⟨o, cls, hm.of_same hsame, hkeep (.inr ⟨k, old, hold, hm⟩) hQ,
      agreesAt_outside hout hok (not_nameFree_of_pod hold) hagrees⟩

section Own

variable {a : Nat} {env : Env} {ctxErr : Option String} {s s' : ReconcileState} {c' : Cluster}
  {out : Outcome} (h : IncarnationInv Q w)
  (hp : w.procs.lookup a = some ⟨ctxErr, .reconcile s⟩)
  (hmove : ReconcileMove env ctxErr w.cluster s s' c' out)

include hmove in
theorem own_stored {k : NamespacedName} {x : PodSandbox} (hx : c'.sandboxes.get k = some x) :
    ∃ old, w.cluster.sandboxes.get k = some old ∧ SameIncarnation old x := by
  obtain ⟨-, -, hsame | ⟨o, f, hrep⟩⟩ := ReconcileMove_frame hmove
  · rw [hsame] at hx
    exact ⟨x, hx, .refl x⟩
  · obtain ⟨rfl, rfl⟩ | ⟨-, hold⟩ := hrep.of_get hx
    · exact ⟨o, hrep.stored, .withStatus f o⟩
    · exact ⟨x, hold, .refl x⟩

include hp hmove in
theorem own_agreesAt {k : NamespacedName} {o : PodSandbox} (hagrees : w.AgreesAt k o) :
    (w.advance a ⟨ctxErr, .reconcile s⟩ (.reconcile s') c' out).AgreesAt k o where
  stored hx := by
    obtain ⟨old, hold, hsame⟩ := own_stored hmove hx
    exact (hagrees.stored hold).trans hsame
  call {b t x} hb hk hx := by
    obtain ⟨rfl, rfl⟩ | ⟨-, hb⟩ := reconciling_advance.mp hb
    · rw [hmove.key_eq] at hk
      obtain hx | ⟨-, hget, -, -⟩ := hmove.sandbox_cases hx
      · exact hagrees.call ⟨ctxErr, hp⟩ hk hx
      · rw [hk] at hget
        exact hagrees.stored hget
    · exact hagrees.call hb hk hx

include hp hmove in
theorem own_call (hcalls : w.CallsAgree) {o : PodSandbox} (ho : s'.sandbox = some o) :
    o.metadata.key = s'.key ∧ w.AgreesAt s'.key o := by
  rw [hmove.key_eq]
  obtain ho | ⟨-, hget, -, -⟩ := hmove.sandbox_cases ho
  · exact hcalls a s o ⟨ctxErr, hp⟩ ho
  · exact ⟨Table.key_of_get hget, hcalls.agreesAt_of_stored hget⟩

include hp hmove in
theorem callsAgree_own (hcalls : w.CallsAgree) :
    (w.advance a ⟨ctxErr, .reconcile s⟩ (.reconcile s') c' out).CallsAgree := by
  intro b t o hb ho
  obtain ⟨rfl, rfl⟩ | ⟨-, hb⟩ := reconciling_advance.mp hb
  · obtain ⟨hkey, hagrees⟩ := own_call hp hmove hcalls ho
    exact ⟨hkey, own_agreesAt hp hmove hagrees⟩
  · obtain ⟨hkey, hagrees⟩ := hcalls b t o hb ho
    exact ⟨hkey, own_agreesAt hp hmove hagrees⟩

include h hp hmove in
theorem own (hkeep : ∀ {o cls}, w.Refers o cls → Q o cls → Q' o cls)
    (hread : ∀ {o cls}, s.sandbox = some o → s' = .getSecret s.key o cls →
      w.cluster.classes.get ⟨"", o.spec.className⟩ = some cls → Q' o cls) :
    IncarnationInv Q' (w.advance a ⟨ctxErr, .reconcile s⟩ (.reconcile s') c' out) where
  call hb ho := callsAgree_own hp hmove (fun _ _ _ => h.call) _ _ _ hb ho
  held {b t o cls} hb ho hcls := by
    obtain ⟨rfl, rfl⟩ | ⟨-, hb⟩ := reconciling_advance.mp hb
    · obtain hcls | ⟨x, hx, hget, -, rfl⟩ := hmove.class_cases hcls
      · obtain ho | ⟨hs, -⟩ := hmove.sandbox_cases ho
        · obtain ⟨hQ, hd⟩ := h.held ⟨ctxErr, hp⟩ ho hcls
          refine ⟨hkeep (.inl ⟨b, s, ⟨ctxErr, hp⟩, ho, hcls⟩) hQ, fun d hd' => ?_⟩
          obtain ⟨-, -, hold | ⟨d', hold, rfl, -⟩ | ⟨x, cls', hs, rfl⟩⟩ := hmove.desired_cases hd'
          · exact hd d hold
          · exact (hd d' hold).asCreated _
          · rw [hs] at ho hcls
            cases ho
            cases hcls
            exact .desired o cls
        · rw [hs] at hcls
          cases hcls
      · cases ho
        exact ⟨hread hx rfl hget, fun d hd => nomatch hd⟩
    · obtain ⟨hQ, hd⟩ := h.held hb ho hcls
      exact ⟨hkeep (.inl ⟨b, t, hb, ho, hcls⟩) hQ, hd⟩
  made {k p} hget := by
    have hold {old : Pod} (hold : w.cluster.pods.get k = some old)
        (hsame : SamePod old p) :
        ∃ o cls, MadeFrom p o cls ∧ Q' o cls ∧
          (w.advance a ⟨ctxErr, .reconcile s⟩ (.reconcile s') c' out).AgreesAt k o := by
      obtain ⟨o, cls, hm, hQ, hagrees⟩ := h.made hold
      exact ⟨o, cls, hm.of_same hsame, hkeep (.inr ⟨k, old, hold, hm⟩) hQ,
        own_agreesAt hp hmove hagrees⟩
    cases hmove.pods with
    | same hsame =>
      replace hget : c'.pods.get k = some p := hget
      rw [hsame] at hget
      exact hold hget (.refl p)
    | deleted hfound hdel =>
      replace hget : c'.pods.get k = some p := hget
      rw [hdel] at hget
      obtain ⟨old, hfound, hsame⟩ := deletePodIn_same hfound hget
      exact hold hfound hsame
    | @stored key o cls desired hst =>
      obtain ⟨rfl, rfl⟩ | ⟨-, hget⟩ := hst.of_get hget
      · obtain ⟨hQ, hd⟩ := h.held ⟨ctxErr, hp⟩ rfl rfl
        have hm := hd desired rfl
        obtain ⟨hkey, hagrees⟩ := h.call ⟨ctxErr, hp⟩ rfl
        refine ⟨o, cls, hm.asCreated _, hkeep (.inl ⟨a, _, ⟨ctxErr, hp⟩, rfl, rfl⟩) hQ, ?_⟩
        refine own_agreesAt hp hmove ?_
        rw [show Keyed.key (asCreated env.uid desired) = key from hm.key.trans hkey]
        exact hagrees
      · exact hold hget (.refl p)

end Own

end IncarnationInv

/-- A stored PodSandbox after any step was stored before, or a createSandbox call just stored it. -/
theorem stored_cases {w w' : World} {l : Label} (h : w.step l = some w') {k : NamespacedName}
    {x : PodSandbox} (hx : w'.cluster.sandboxes.get k = some x) :
    (∃ old, w.cluster.sandboxes.get k = some old ∧ SameIncarnation old x) ∨
    ∃ a p job uid, l.runs = some a ∧ w.procs.lookup a = some p ∧ p.state.storing = some job ∧
      x = asCreated uid job.sandbox ∧ job.key = k := by
  cases controlStep h with
  | own hp hmove => exact .inl (IncarnationInv.own_stored hmove hx)
  | outside hout => exact IncarnationInv.outside_stored_new hout hx

end World

end SandboxProvider
