import SandboxProvider.Controller.DesiredRunner

/-!
# Labels and annotations of the runner

`desiredRunner` copies the labels and annotations of the class and writes its own entries over them.
An entry without a value is not written, so that the class decides about its key: exactly where the
class leaves these keys alone, the runner carries the owned entries and, under every other key, what
the class says.
-/

namespace SandboxProvider.Controller

/-! ## Owned entries -/

/-- An annotation for an optional field, absent where the field is empty. -/
def presentIf (value : String) : Option String :=
  if value = "" then none else some value

/-- The labels that belong to the controller. -/
def ownedLabels (sandbox : PodSandbox) : List (String × Option String) := [
  (labelName, some "pod-sandbox-runner"),
  (labelSandbox, some sandbox.metadata.name)]

/-- The annotations that belong to the controller. -/
def ownedAnnotations (sandbox : PodSandbox) (sandboxClass : PodSandboxClass) :
    List (String × Option String) := [
  (annotationClass, some sandboxClass.metadata.name),
  (annotationTemplateGeneration, some (templateGeneration sandbox sandboxClass)),
  (annotationWorkloadName, some sandbox.spec.workloadRef.name),
  (annotationWorkloadNamespace, presentIf sandbox.spec.workloadRef.ns),
  (annotationWorkloadUID, presentIf sandbox.spec.workloadRef.uid)]

/-- The workload that the annotations of a Pod name. -/
def annotatedWorkload (pod : Pod) : WorkloadReference where
  ns := pod.metadata.annotations.getD annotationWorkloadNamespace
  name := pod.metadata.annotations.getD annotationWorkloadName
  uid := pod.metadata.annotations.getD annotationWorkloadUID

/-- Writes the entries that have a value. -/
def assign (m : StringMap) : List (String × Option String) → StringMap
  | [] => m
  | (k, some v) :: rest => assign (m.insert k v) rest
  | (_, none) :: rest => assign m rest

theorem lookup_assign_of_not_mem {owned : List (String × Option String)} {k : String}
    (h : k ∉ owned.map Prod.fst) (m : StringMap) : (assign m owned).lookup k = m.lookup k := by
  induction owned generalizing m with
  | nil => rfl
  | cons entry rest ih =>
    obtain ⟨hne, hrest⟩ := not_or.mp (mt List.mem_cons.mpr h)
    obtain ⟨k', _ | v⟩ := entry
    · exact ih hrest m
    · exact (ih hrest (m.insert k' v)).trans (AList.lookup_insert_ne hne)

/-- An entry with a value wins, under every other key the map decides. -/
theorem lookup_assign {owned : List (String × Option String)} (hkeys : (owned.map Prod.fst).Nodup)
    (m : StringMap) (k : String) :
    (assign m owned).lookup k = (owned.lookup k).join.or (m.lookup k) := by
  induction owned generalizing m with
  | nil => rfl
  | cons entry rest ih =>
    obtain ⟨hnew, hrest⟩ := List.nodup_cons.mp hkeys
    obtain ⟨k', v⟩ := entry
    by_cases hk : k = k'
    · subst hk
      rw [List.lookup_cons_self]
      cases v with
      | none => exact lookup_assign_of_not_mem hnew m
      | some v => exact (lookup_assign_of_not_mem hnew (m.insert k v)).trans (AList.lookup_insert m)
    · rw [List.lookup_cons, beq_false_of_ne hk]
      cases v with
      | none => exact ih hrest m
      | some v => rw [assign, ih hrest, AList.lookup_insert_ne hk]

/-- The owned entries decide about a key exactly when the map has nothing where they have no value. -/
theorem lookup_assign_eq_getD_iff {owned : List (String × Option String)}
    (hkeys : (owned.map Prod.fst).Nodup) (m : StringMap) (k : String) :
    (assign m owned).lookup k = (owned.lookup k).getD (m.lookup k) ↔
      (owned.lookup k = some none → m.lookup k = none) := by
  rw [lookup_assign hkeys]
  rcases owned.lookup k with _ | _ | v <;> simp

/-! ## The runner -/

section Runner

variable (sandbox : PodSandbox) (sandboxClass : PodSandboxClass)

theorem insertIf_eq_assign (k v : String) (m : StringMap) :
    insertIf (v ≠ "") k v m = assign m [(k, presentIf v)] := by
  by_cases hv : v = ""
  · subst hv
    rfl
  · have hcond : decide (v ≠ "") = true := decide_eq_true hv
    rw [insertIf, hcond, if_pos rfl, presentIf, if_neg hv]
    rfl

theorem assign_append (m : StringMap) (owned owned' : List (String × Option String)) :
    assign m (owned ++ owned') = assign (assign m owned) owned' := by
  induction owned generalizing m with
  | nil => rfl
  | cons entry rest ih =>
    obtain ⟨k, _ | v⟩ := entry
    · exact ih m
    · exact ih (m.insert k v)

theorem runnerAnnotations_eq_assign :
    runnerAnnotations sandbox sandboxClass =
      assign sandboxClass.spec.annotations (ownedAnnotations sandbox sandboxClass) := by
  have hsplit : ownedAnnotations sandbox sandboxClass =
      ([(annotationClass, some sandboxClass.metadata.name),
        (annotationTemplateGeneration, some (templateGeneration sandbox sandboxClass)),
        (annotationWorkloadName, some sandbox.spec.workloadRef.name)] ++
      [(annotationWorkloadNamespace, presentIf sandbox.spec.workloadRef.ns)]) ++
      [(annotationWorkloadUID, presentIf sandbox.spec.workloadRef.uid)] := rfl
  rw [hsplit, assign_append, assign_append, ← insertIf_eq_assign, ← insertIf_eq_assign]
  rfl

theorem nodup_ownedLabels : ((ownedLabels sandbox).map Prod.fst).Nodup := by
  show [labelName, labelSandbox].Nodup
  decide

theorem nodup_ownedAnnotations :
    ((ownedAnnotations sandbox sandboxClass).map Prod.fst).Nodup := by
  show [annotationClass, annotationTemplateGeneration, annotationWorkloadName,
    annotationWorkloadNamespace, annotationWorkloadUID].Nodup
  decide

theorem getD_presentIf (value : String) : (presentIf value).getD "" = value := by
  unfold presentIf
  split
  · rename_i hempty
    exact hempty.symm
  · rfl

theorem presentIf_eq_none {value : String} : presentIf value = none ↔ value = "" := by
  unfold presentIf
  split <;> simp [*]

/-- The owned annotations without a value. -/
theorem lookup_ownedAnnotations_eq_none {k : String} :
    (ownedAnnotations sandbox sandboxClass).lookup k = some none ↔
      (k = annotationWorkloadNamespace ∧ sandbox.spec.workloadRef.ns = "") ∨
      (k = annotationWorkloadUID ∧ sandbox.spec.workloadRef.uid = "") := by
  constructor
  · intro h
    simp only [ownedAnnotations, List.lookup_cons] at h
    split at h
    · cases h
    split at h
    · cases h
    split at h
    · cases h
    split at h
    · rename_i hk
      exact .inl ⟨eq_of_beq hk, presentIf_eq_none.mp (Option.some.inj h)⟩
    split at h
    · rename_i hk
      exact .inr ⟨eq_of_beq hk, presentIf_eq_none.mp (Option.some.inj h)⟩
    · cases h
  · rintro (⟨rfl, h⟩ | ⟨rfl, h⟩)
    · exact congrArg some (presentIf_eq_none.mpr h)
    · exact congrArg some (presentIf_eq_none.mpr h)

end Runner

/-- **Owned metadata.** The runner carries every label and annotation of the controller with the value
derived from PodSandbox and class (or not at all), every other one as the class has it, and annotations
that name the workload of the PodSandbox: exactly where the class has no annotation for the namespace
or the UID of a workload that has none. -/
theorem owned_metadata_wins (sandbox : PodSandbox) (sandboxClass : PodSandboxClass) :
    ((∀ k, (desiredRunner sandbox sandboxClass).metadata.labels.lookup k =
      ((ownedLabels sandbox).lookup k).getD (sandboxClass.spec.labels.lookup k)) ∧
    (∀ k, (desiredRunner sandbox sandboxClass).metadata.annotations.lookup k =
      ((ownedAnnotations sandbox sandboxClass).lookup k).getD
        (sandboxClass.spec.annotations.lookup k)) ∧
    annotatedWorkload (desiredRunner sandbox sandboxClass) = sandbox.spec.workloadRef) ↔
    (sandbox.spec.workloadRef.ns = "" →
      sandboxClass.spec.annotations.lookup annotationWorkloadNamespace = none) ∧
    (sandbox.spec.workloadRef.uid = "" →
      sandboxClass.spec.annotations.lookup annotationWorkloadUID = none) := by
  have hiff (k : String) : (runnerAnnotations sandbox sandboxClass).lookup k =
      ((ownedAnnotations sandbox sandboxClass).lookup k).getD
        (sandboxClass.spec.annotations.lookup k) ↔
      ((ownedAnnotations sandbox sandboxClass).lookup k = some none →
        sandboxClass.spec.annotations.lookup k = none) := by
    rw [runnerAnnotations_eq_assign]
    exact lookup_assign_eq_getD_iff (nodup_ownedAnnotations sandbox sandboxClass) _ k
  constructor
  · rintro ⟨-, hannotations, -⟩
    refine ⟨fun hns => ?_, fun huid => ?_⟩
    · exact (hiff _).mp (hannotations _)
        ((lookup_ownedAnnotations_eq_none sandbox sandboxClass).mpr (.inl ⟨rfl, hns⟩))
    · exact (hiff _).mp (hannotations _)
        ((lookup_ownedAnnotations_eq_none sandbox sandboxClass).mpr (.inr ⟨rfl, huid⟩))
  · rintro ⟨hns, huid⟩
    have hannotations (k : String) : (runnerAnnotations sandbox sandboxClass).lookup k =
        ((ownedAnnotations sandbox sandboxClass).lookup k).getD
          (sandboxClass.spec.annotations.lookup k) := by
      refine (hiff k).mpr fun hnone => ?_
      obtain ⟨rfl, h⟩ | ⟨rfl, h⟩ := (lookup_ownedAnnotations_eq_none sandbox sandboxClass).mp hnone
      · exact hns h
      · exact huid h
    have hlabels (k : String) : (runnerLabels sandbox sandboxClass).lookup k =
        ((ownedLabels sandbox).lookup k).getD (sandboxClass.spec.labels.lookup k) := by
      refine (lookup_assign_eq_getD_iff (nodup_ownedLabels sandbox) _ k).mpr fun hnone => ?_
      -- every owned label has a value
      simp only [ownedLabels, List.lookup_cons] at hnone
      split at hnone
      · cases hnone
      split at hnone <;> cases hnone
    refine ⟨hlabels, hannotations, ?_⟩
    have hget {k : String} {v : Option String}
        (h : (ownedAnnotations sandbox sandboxClass).lookup k = some v) :
        (runnerAnnotations sandbox sandboxClass).getD k = v.getD "" := by
      rw [StringMap.getD, hannotations k, h]
      rfl
    have hnamespace := (hget (k := annotationWorkloadNamespace) rfl).trans (getD_presentIf _)
    have hname := hget (k := annotationWorkloadName) rfl
    have huid := (hget (k := annotationWorkloadUID) rfl).trans (getD_presentIf _)
    exact congr (congr (congrArg WorkloadReference.mk hnamespace) hname) huid

namespace Sample

/-- A workload without namespace and UID. -/
def plainSandbox : PodSandbox where
  metadata := { name := "psb-0", ns := "tenant", generation := 1 }
  spec := { workloadRef := { name := "workload" }, className := "kata" }

/-- A class that labels its runners and names itself as their class. -/
def labellingClass : PodSandboxClass where
  metadata := { name := "kata", generation := 1 }
  spec := {
    labels := StringMap.ofList [("tier", "gold"), (labelName, "other")]
    annotations := StringMap.ofList [(annotationClass, "other")] }

/-- A class with the UID of some workload among its annotations. -/
def forgingClass : PodSandboxClass where
  metadata := { name := "kata", generation := 1 }
  spec := { annotations := StringMap.ofList [(annotationWorkloadUID, "forged")] }

end Sample

theorem labelling_class_is_overridden :
    (desiredRunner Sample.plainSandbox Sample.labellingClass).metadata.labels.lookup labelName =
      some "pod-sandbox-runner" ∧
    (desiredRunner Sample.plainSandbox Sample.labellingClass).metadata.labels.lookup "tier" =
      some "gold" ∧
    (desiredRunner Sample.plainSandbox Sample.labellingClass).metadata.annotations.lookup
      annotationClass = some "kata" ∧
    annotatedWorkload (desiredRunner Sample.plainSandbox Sample.labellingClass) =
      { name := "workload" } := by
  obtain ⟨hlabels, hannotations, hworkload⟩ := (owned_metadata_wins Sample.plainSandbox
    Sample.labellingClass).mpr ⟨fun _ => by decide, fun _ => by decide⟩
  exact ⟨hlabels labelName, hlabels "tier", hannotations annotationClass, hworkload⟩

/-- The class's annotation stays, and names a workload that the PodSandbox does not have. -/
theorem class_forges_workload_uid :
    Sample.plainSandbox.spec.workloadRef.uid = "" ∧
    (ownedAnnotations Sample.plainSandbox Sample.forgingClass).lookup annotationWorkloadUID =
      some none ∧
    (desiredRunner Sample.plainSandbox Sample.forgingClass).metadata.annotations.lookup
      annotationWorkloadUID = some "forged" ∧
    annotatedWorkload (desiredRunner Sample.plainSandbox Sample.forgingClass) ≠
      Sample.plainSandbox.spec.workloadRef := by
  refine ⟨rfl, by decide, by decide, ?_⟩
  decide

end SandboxProvider.Controller
