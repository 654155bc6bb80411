import SandboxProvider.System.Incarnation

/-!
# Ready means the current template

`Reconcile` compares the runner Pod with the wanted one by a string of two generation numbers. The
generation of a class starts again when the class is deleted and created anew, so the string
determines the template only as long as no Pod and no Reconcile call of the previous class is left
then (`World.StableTemplates`). The proof keeps a ledger: which spec a class had at which generation.
-/

namespace SandboxProvider

open Lib Server Controller

/-- The fields of a Pod that `desiredRunner` decides. -/
structure SameTemplate (p d : Pod) : Prop where
  containers : p.spec.containers = d.spec.containers
  initContainers : p.spec.initContainers = d.spec.initContainers
  volumes : p.spec.volumes = d.spec.volumes
  nodeSelector : p.spec.nodeSelector = d.spec.nodeSelector
  tolerations : p.spec.tolerations = d.spec.tolerations
  labels : p.metadata.labels = d.metadata.labels
  annotations : p.metadata.annotations = d.metadata.annotations

theorem MadeFrom.sameTemplate {p : Pod} {o : PodSandbox} {cls : PodSandboxClass}
    (h : MadeFrom p o cls) : SameTemplate p (desiredRunner o cls) where
  containers := (congrArg PodSpec.containers h.spec :)
  initContainers := (congrArg PodSpec.initContainers h.spec :)
  volumes := (congrArg PodSpec.volumes h.spec :)
  nodeSelector := (congrArg PodSpec.nodeSelector h.spec :)
  tolerations := (congrArg PodSpec.tolerations h.spec :)
  labels := h.labels
  annotations := h.annotations

/-- The runner of a class depends on its name, its generation and its spec. -/
theorem desiredRunner_congr_class (o : PodSandbox) {cls cls' : PodSandboxClass}
    (hname : cls.metadata.name = cls'.metadata.name)
    (hgen : cls.metadata.generation = cls'.metadata.generation) (hspec : cls.spec = cls'.spec) :
    desiredRunner o cls = desiredRunner o cls' := by
  simp only [desiredRunner, runnerLabels, runnerAnnotations, templateGeneration, runnerContainer,
    imageContainer, runnerArgs, runnerResources, overhead, runnerVolumes, networkMTU, hname, hgen, hspec]

/-- For one PodSandbox, the compared string determines the generation of the class. -/
theorem templateGeneration_inj {o : PodSandbox} {cls cls' : PodSandboxClass}
    (h : templateGeneration o cls = templateGeneration o cls') :
    cls.metadata.generation = cls'.metadata.generation := by
  have hrepr : cls.metadata.generation.repr = cls'.metadata.generation.repr :=
    (String.append_right_inj _).mp h
  have hdigits := congrArg String.toList hrepr
  rw [Nat.toList_repr, Nat.toList_repr] at hdigits
  rw [← Nat.ofDigitChars_toDigits (b := 10) (n := cls.metadata.generation) (by decide) (by decide),
    hdigits, Nat.ofDigitChars_toDigits (by decide) (by decide)]

/-- The class that a step creates. -/
def Label.createsClass : Label → Option String
  | .createClass name _ _ => some name
  | _ => none

/-- The observation of a status patch shows the runner that its PodSandbox and class want. -/
def Controller.ReconcileState.SeesTemplate : ReconcileState → Prop
  | .patchStatus _ _ _ (some obs) _ =>
    SameTemplate obs.runner (desiredRunner obs.sandbox obs.sandboxClass)
  | _ => True

namespace World

/-- No runner Pod and no Reconcile call works with a class of this name. -/
def ClassUnused (w : World) (name : String) : Prop :=
  (∀ p ∈ w.cluster.pods.list, p.metadata.annotations.getD annotationClass ≠ name) ∧
    ∀ b q, w.procs.lookup b = some q → ∀ s ∈ q.state.reconciling, ∀ cls ∈ s.sandboxClass,
      cls.metadata.name ≠ name

instance (w : World) (name : String) : Decidable (w.ClassUnused name) :=
  inferInstanceAs (Decidable (_ ∧ ∀ b q, w.procs.lookup b = some q → ∀ s ∈ q.state.reconciling,
    ∀ cls ∈ s.sandboxClass, cls.metadata.name ≠ name))

/-- PodSandboxes are stored under free names, and classes are created under names that no runner and
no Reconcile call uses. -/
def StableTemplates (w : World) (l : Label) : Prop :=
  w.FreshNames l ∧ ∀ name ∈ l.createsClass, w.ClassUnused name

instance (w : World) (l : Label) : Decidable (w.StableTemplates l) :=
  inferInstanceAs (Decidable (_ ∧ ∀ name ∈ l.createsClass, _))

theorem ClassUnused.not_refers {w : World} {name : String} (h : w.ClassUnused name)
    {o : PodSandbox} {cls : PodSandboxClass} (hrefers : w.Refers o cls) :
    cls.metadata.name ≠ name := by
  obtain ⟨a, s, ⟨ctxErr, ha⟩, -, hcls⟩ | ⟨k, p, hp, hmade⟩ := hrefers
  · exact h.2 a _ ha s rfl cls hcls
  · have hmem : p ∈ w.cluster.pods.list := by
      rw [Table.mem_list, Table.key_of_get hp]
      exact hp
    have hne := h.1 p hmem
    rw [hmade.annotations] at hne
    exact (getD_annotationClass o cls) ▸ hne

/-! ## The ledger -/

/-- The spec that a class had at a generation. -/
abbrev Ledger := String → Nat → PodSandboxClassSpec

def Ledger.record (F : Ledger) (name : String) (gen : Nat) (spec : PodSandboxClassSpec) : Ledger :=
  fun n g => if n = name ∧ g = gen then spec else F n g

theorem Ledger.record_self (F : Ledger) (name : String) (gen : Nat) (spec : PodSandboxClassSpec) :
    F.record name gen spec name gen = spec := if_pos ⟨rfl, rfl⟩

theorem Ledger.record_ne (F : Ledger) {name n : String} {gen g : Nat} (spec : PodSandboxClassSpec)
    (h : n ≠ name ∨ g ≠ gen) : F.record name gen spec n g = F n g := by
  refine if_neg fun ⟨hn, hg⟩ => ?_
  rcases h with h | h
  · exact h hn
  · exact h hg

/-- The class is the one the PodSandbox names, it is in the ledger, and the stored class of its name
is not older. -/
structure Recorded (F : Ledger) (t : Table NamespacedName PodSandboxClass) (o : PodSandbox)
    (cls : PodSandboxClass) : Prop where
  name : cls.metadata.name = o.spec.className
  spec : F cls.metadata.name cls.metadata.generation = cls.spec
  le : ∀ {cur}, t.get ⟨"", cls.metadata.name⟩ = some cur →
    cls.metadata.generation ≤ cur.metadata.generation

structure LedgerInv (F : Ledger) (w : World) : Prop where
  stored : ∀ {n cls}, w.cluster.classes.get ⟨"", n⟩ = some cls →
    F n cls.metadata.generation = cls.spec
  incarnation : IncarnationInv (Recorded F w.cluster.classes) w

namespace LedgerInv

variable {F : Ledger} {w w' : World} {l : Label}

theorem start (cfg : Config) {c : Cluster} (hpods : ∀ k, c.pods.get k = none) :
    ∃ F, LedgerInv F (World.start cfg c) := by
  refine ⟨fun n _ => ((c.classes.get ⟨"", n⟩).map (·.spec)).getD {}, fun {n cls} h => ?_,
    .start _ cfg hpods⟩
  rw [show c.classes.get ⟨"", n⟩ = some cls from h]
  rfl

theorem outside (h : LedgerInv F w) (hout : Outside w l w') (hok : w.StableTemplates l) :
    ∃ F', LedgerInv F' w' := by
  cases hout.classes with
  | same hsame =>
    refine ⟨F, by rw [hsame]; exact h.stored, h.incarnation.outside hout hok.1 fun _ hrec => ?_⟩
    rw [hsame]
    exact hrec
  | @created name spec env hst =>
    have hunused := hok.2 name rfl
    refine ⟨F.record name 1 spec, fun {n cls} hget => ?_,
      h.incarnation.outside hout hok.1 fun {o cls} hrefers hrec => ?_⟩
    · obtain ⟨hk, rfl⟩ | ⟨hk, hold⟩ := hst.of_get hget
      · cases hk
        exact F.record_self name 1 spec
      · have hn : n ≠ name := fun e => hk (by rw [e]; rfl)
        rw [F.record_ne spec (.inl hn)]
        exact h.stored hold
    · have hn : cls.metadata.name ≠ name := hunused.not_refers hrefers
      refine ⟨hrec.name, by rw [F.record_ne spec (.inl hn)]; exact hrec.spec, fun hcur => ?_⟩
      obtain ⟨hk, -⟩ | ⟨-, hold⟩ := hst.of_get hcur
      · exact absurd (congrArg NamespacedName.name hk) hn
      · exact hrec.le hold
  | @updated name spec x hx hrep =>
    have hkey : Keyed.key x = (⟨"", name⟩ : NamespacedName) := Table.key_of_get hx
    refine ⟨F.record name (x.metadata.generation + 1) spec, fun {n cls} hget => ?_,
      h.incarnation.outside hout hok.1 fun {o cls} _ hrec => ?_⟩
    · obtain ⟨hk, rfl⟩ | ⟨hk, hold⟩ := hrep.of_get hget
      · rw [hkey] at hk
        cases hk
        exact F.record_self name _ spec
      · have hn : n ≠ name := fun e => hk (by rw [e, hkey])
        rw [F.record_ne spec (.inl hn)]
        exact h.stored hold
    · -- the new generation is larger than that of any class in use under this name
      have hne : cls.metadata.name ≠ name ∨ cls.metadata.generation ≠ x.metadata.generation + 1 := by
        by_cases hn : cls.metadata.name = name
        · have hle := hrec.le (by rw [hn]; exact hx)
          exact .inr (by omega)
        · exact .inl hn
      refine ⟨hrec.name, by rw [F.record_ne spec hne]; exact hrec.spec, fun {cur} hcur => ?_⟩
      obtain ⟨hk, rfl⟩ | ⟨-, hold⟩ := hrep.of_get hcur
      · rw [hkey] at hk
        have hle := hrec.le (by rw [hk]; exact hx)
        exact Nat.le_succ_of_le hle
      · exact hrec.le hold
  | deleted hrem =>
    refine ⟨F, fun hget => h.stored (hrem.of_get hget).2,
      h.incarnation.outside hout hok.1 fun _ hrec => ⟨hrec.name, hrec.spec, fun hcur => ?_⟩⟩
    exact hrec.le (hrem.of_get hcur).2

theorem own (h : LedgerInv F w) {a : Nat} {env : Env} {ctxErr : Option String}
    {s s' : ReconcileState} {c' : Cluster} {out : Outcome}
    (hp : w.procs.lookup a = some ⟨ctxErr, .reconcile s⟩)
    (hmove : ReconcileMove env ctxErr w.cluster s s' c' out) :
    LedgerInv F (w.advance a ⟨ctxErr, .reconcile s⟩ (.reconcile s') c' out) := by
  obtain ⟨-, hclasses, -⟩ := ReconcileMove_frame hmove
  refine ⟨fun {n cls} hget => ?_, h.incarnation.own hp hmove (fun _ hrec => ?_)
    fun {o cls} _ _ hget => ?_⟩
  · replace hget : c'.classes.get ⟨"", n⟩ = some cls := hget
    rw [hclasses] at hget
    exact h.stored hget
  · show Recorded F c'.classes _ _
    rw [hclasses]
    exact hrec
  · have hname : cls.metadata.name = o.spec.className :=
      congrArg NamespacedName.name (Table.key_of_get hget)
    refine ⟨hname, by rw [hname]; exact h.stored hget, fun {cur} hcur => ?_⟩
    replace hcur : c'.classes.get ⟨"", cls.metadata.name⟩ = some cur := hcur
    rw [hclasses, hname, hget] at hcur
    cases hcur
    exact Nat.le_refl _

/-- A Pod with the wanted string is the wanted runner. -/
theorem sameTemplate (h : LedgerInv F w) {a : Nat} {key : NamespacedName} {o : PodSandbox}
    {cls : PodSandboxClass} {desired runner : Pod}
    (ha : w.Reconciling a (.getRunner key o cls desired))
    (hget : w.cluster.pods.get key = some runner)
    (heq : runner.metadata.annotations.getD annotationTemplateGeneration =
      desired.metadata.annotations.getD annotationTemplateGeneration) :
    SameTemplate runner (desiredRunner o cls) := by
  obtain ⟨hrec, hd⟩ := h.incarnation.held ha rfl rfl
  obtain ⟨o', cls', hmade', hrec', hagrees⟩ := h.incarnation.made hget
  have hsame := hagrees.call ha rfl rfl
  have hmade := hmade'.congr hsame
  rw [hmade.annotations, (hd desired rfl).annotations] at heq
  replace heq : templateGeneration o cls' = templateGeneration o cls :=
    (getD_annotationTemplateGeneration o cls').symm.trans
      (heq.trans (getD_annotationTemplateGeneration o cls))
  have hgen := templateGeneration_inj heq
  have hname : cls'.metadata.name = cls.metadata.name := by
    rw [hrec'.name, hrec.name, hsame.spec]
  have hspec : cls'.spec = cls.spec := by
    rw [← hrec'.spec, ← hrec.spec, hname, hgen]
  rw [← desiredRunner_congr_class o hname hgen hspec]
  exact hmade.sameTemplate

end LedgerInv

structure TemplateInv (w : World) : Prop where
  ledger : ∃ F, LedgerInv F w
  sees : ∀ {a s}, w.Reconciling a s → s.Patches ∧ s.SeesTemplate
  wrote : ∀ {a key base modified seen result o},
    .wrote a (.reconcile (.patchStatus key base modified seen result)) (.patchSandbox o) ∈
      w.history →
    conditionTrue modified.status.conditions ConditionReady → ∃ obs, seen = some obs ∧
      obs.sandbox = base ∧ SameTemplate obs.runner (desiredRunner obs.sandbox obs.sandboxClass)

namespace TemplateInv

variable {w w' : World} {l : Label}

theorem start (cfg : Config) {c : Cluster} (hpods : ∀ k, c.pods.get k = none) :
    TemplateInv (World.start cfg c) where
  ledger := LedgerInv.start cfg hpods
  sees h := by
    obtain ⟨_, h⟩ := h
    cases h
  wrote h := by cases h

theorem outside (hinv : TemplateInv w) (hout : Outside w l w') (hok : w.StableTemplates l) :
    TemplateInv w' where
  ledger := by
    obtain ⟨F, hledger⟩ := hinv.ledger
    exact hledger.outside hout hok
  sees {a s} ha := by
    obtain ha | hs := hout.reconciling ha
    · exact hinv.sees ha
    · rw [hs]
      exact ⟨trivial, trivial⟩
  wrote he hready := hinv.wrote (hout.wrote_mem he) hready

section Own

variable {a : Nat} {env : Env} {ctxErr : Option String} {s s' : ReconcileState} {c' : Cluster}
  {out : Outcome} (hinv : TemplateInv w)
  (hp : w.procs.lookup a = some ⟨ctxErr, .reconcile s⟩)
  (hmove : ReconcileMove env ctxErr w.cluster s s' c' out)

include hinv hp hmove in
private theorem own_seesTemplate : s'.SeesTemplate := by
  cases hmove
  case runnerRead key o cls desired runner hget =>
    obtain ⟨-, he⟩ | ⟨_, _, he⟩ | ⟨heq, he⟩ :=
      inspectRunner_cases env.now key o cls desired runner <;> rw [he]
    · trivial
    · trivial
    · obtain ⟨F, hledger⟩ := hinv.ledger
      exact hledger.sameTemplate ⟨ctxErr, hp⟩ hget heq
  all_goals trivial

include hinv hp hmove in
theorem own : TemplateInv (w.advance a ⟨ctxErr, .reconcile s⟩ (.reconcile s') c' out) where
  ledger := by
    obtain ⟨F, hledger⟩ := hinv.ledger
    exact ⟨F, hledger.own hp hmove⟩
  sees hb := by
    obtain ⟨rfl, rfl⟩ | ⟨-, hb⟩ := reconciling_advance.mp hb
    · exact ⟨hmove.patches, hinv.own_seesTemplate hp hmove⟩
    · exact hinv.sees hb
  wrote {b key base modified seen result o} he hready := by
    obtain ⟨rfl, -⟩ | he := wrote_mem_advance he
    · obtain ⟨hpatches, hsees⟩ := hinv.sees ⟨ctxErr, hp⟩
      obtain ⟨obs, rfl, hbase, -⟩ := hpatches.observed hready
      exact ⟨obs, rfl, hbase, hsees⟩
    · exact hinv.wrote he hready

end Own

theorem step (hinv : TemplateInv w) (hok : w.StableTemplates l) (h : w.step l = some w') :
    TemplateInv w' := by
  cases controlStep h with
  | own hp hmove => exact hinv.own hp hmove
  | outside hout => exact hinv.outside hout hok

end TemplateInv

/-- **Template agreement.** In every run where PodSandboxes are stored under free names and classes
are created under names that no runner Pod and no Reconcile call uses, a status patch that says Ready
was computed from a runner Pod with the containers, init containers, volumes, node selector,
tolerations, labels and annotations that `desiredRunner` computes from the PodSandbox and the class
that this Reconcile call read. -/
theorem ready_runner_has_template (cfg : Config) (c : Cluster) (hpods : ∀ k, c.pods.get k = none)
    (ls : List Label) (w : World)
    (hrun : Run World.step World.StableTemplates (World.start cfg c) ls w) (a : Nat)
    (key : NamespacedName) (base modified : PodSandbox) (seen : Option Observation)
    (result : Result) (o : PodSandbox)
    (he : .wrote a (.reconcile (.patchStatus key base modified seen result)) (.patchSandbox o) ∈
      w.history)
    (hready : conditionTrue modified.status.conditions ConditionReady) :
    ∃ obs, seen = some obs ∧ obs.sandbox = base ∧
      SameTemplate obs.runner (desiredRunner obs.sandbox obs.sandboxClass) := by
  have hinv : TemplateInv w := hrun.invariant TemplateInv
    (fun _ _ _ hi hok hstep => hi.step hok hstep) (TemplateInv.start cfg hpods)
  exact hinv.wrote he hready

end World

namespace Sample

/-- A class update: a Reconcile call replaces the runner, and the next one sees the new one ready. -/
def updatedClass : List Label :=
  runnerCreate ++ [.updateClass "kata" { runnerImage := "other" }] ++ reconcileSteps 3 2 ++
    [.run 3 {}, .run 3 { immediate := true }, .run 3 {}] ++ reconcileSteps 4 2 ++
    [.kubelet key "node" (running "10.0.0.2"), .run 4 {}, .run 4 {}]

/-- The class is deleted and created again with another spec while the runner is up. -/
def replacedClass : List Label :=
  runnerCreate ++ [.deleteClass "kata", .createClass "kata" { runnerImage := "other" } { uid := 2 }] ++
    reconcileSteps 3 2 ++ [.run 3 {}, .run 3 {}]

end Sample

namespace World

set_option maxRecDepth 100000 in
theorem updated_runner_has_template :
    ∃ w, Run World.step World.StableTemplates (World.start Sample.cfg Sample.oneClass)
        Sample.updatedClass w ∧
      ∃ a key base modified seen result o,
        .wrote a (.reconcile (.patchStatus key base modified seen result)) (.patchSandbox o) ∈
          w.history ∧
        conditionTrue modified.status.conditions ConditionReady ∧ ∃ obs, seen = some obs ∧
          obs.sandboxClass.metadata.generation = 2 ∧ obs.sandbox = base ∧
          SameTemplate obs.runner (desiredRunner obs.sandbox obs.sandboxClass) := by
  obtain ⟨w, hrun, e, he, ⟨o, obs⟩, hr, hgen⟩ := Run.exists_of_checkRun
    (fun w : World => ∃ e ∈ w.history, ∃ r ∈ e.readySeen,
      r.2.sandboxClass.metadata.generation = (2 : Nat))
    (show (checkRun World.step World.StableTemplates (World.start Sample.cfg Sample.oneClass)
      Sample.updatedClass).any _ = true by decide +kernel)
  obtain ⟨a, key, base, modified, result, rfl, hready⟩ := Event.readySeen_eq_some hr
  obtain ⟨obs', hobs, htemplate⟩ := ready_runner_has_template _ _ (fun _ => rfl) _ _ hrun a key base
    modified (some obs) result o he hready
  cases hobs
  exact ⟨w, hrun, a, key, base, modified, some obs, result, o, he, hready, obs, rfl, hgen, htemplate⟩

set_option maxRecDepth 100000 in
theorem ready_runner_has_previous_template :
    ∃ w, Run World.step World.FreshNames (World.start Sample.cfg Sample.oneClass)
        Sample.replacedClass w ∧
      ∃ e ∈ w.history, ∃ r ∈ e.readySeen,
        r.2.runner.spec.containers ≠
          (desiredRunner r.2.sandbox r.2.sandboxClass).spec.containers := by
  refine Run.exists_of_checkRun _ ?_
  decide +kernel

end World

end SandboxProvider
