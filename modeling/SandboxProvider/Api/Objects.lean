import SandboxProvider.Lib.MergePatch
import SandboxProvider.Lib.Table

/-!
# The Kubernetes objects of the provider

The four kinds the provider reads and writes (`PodSandbox`, `PodSandboxClass`, the userdata and
access `Secret`s, the runner `Pod`), with the fields its code uses. Go's zero values are the
defaults: an unset string is `""`, an unset `uid` or `resourceVersion` is `0`, and a nil map is
empty. A `[]byte` of a Secret and the `string` it converts to and from are both `String`.
-/

namespace SandboxProvider

open Lib

abbrev Time := Nat

/-- `map[string]string` (and `map[string][]byte`). -/
abbrev StringMap := AList fun _ : String => String

namespace StringMap

/-- Reading a missing key yields the zero value. -/
def getD (m : StringMap) (k : String) : String :=
  (m.lookup k).getD ""

/-- A map from a list of entries; a later entry overrides an earlier one. -/
def ofList (entries : List (String × String)) : StringMap :=
  entries.foldl (fun m e => m.insert e.1 e.2) ∅

/-- `reflect.DeepEqual` on maps: the same entries, in any order. -/
def same (m m' : StringMap) : Bool :=
  m.entries.isPerm m'.entries

end StringMap

/-! ## Metadata -/

/-- `types.NamespacedName`; cluster-scoped objects have the namespace `""`. -/
structure NamespacedName where
  ns : String := ""
  name : String
  deriving DecidableEq, Repr

/-- The controller entry of `metadata.ownerReferences`. -/
structure OwnerReference where
  kind : String
  name : String
  uid : Nat
  deriving DecidableEq, Repr

structure ObjectMeta where
  name : String := ""
  ns : String := ""
  uid : Nat := 0
  resourceVersion : Nat := 0
  generation : Nat := 0
  labels : StringMap := ∅
  annotations : StringMap := ∅
  controller : Option OwnerReference := none
  deletionTimestamp : Option Time := none

/-- `client.ObjectKeyFromObject`. -/
def ObjectMeta.key (m : ObjectMeta) : NamespacedName := ⟨m.ns, m.name⟩

/-- Kinds of objects: their resource name and where their metadata is. -/
class KubeObject (α : Type) where
  resource : String
  metadata : α → ObjectMeta
  withMetadata : α → ObjectMeta → α
  metadata_withMetadata : ∀ o m, metadata (withMetadata o m) = m

attribute [simp] KubeObject.metadata_withMetadata

instance {α : Type} [KubeObject α] : Keyed NamespacedName α where
  key o := (KubeObject.metadata o).key
  uid o := (KubeObject.metadata o).uid

/-! ## Conditions -/

/-- `metav1.ConditionStatus`, also used by Pod conditions. -/
inductive ConditionStatus
  | true | false | unknown
  deriving DecidableEq, Repr

/-- `metav1.Condition`. -/
structure Condition where
  type : String
  status : ConditionStatus
  observedGeneration : Nat := 0
  lastTransitionTime : Time := 0
  reason : String := ""
  message : String := ""
  deriving DecidableEq, Repr

/-- `sandboxv1alpha1.ConditionReady`. -/
def ConditionReady : String := "Ready"

/-! ## PodSandbox -/

structure WorkloadReference where
  ns : String := ""
  name : String := ""
  uid : String := ""
  deriving DecidableEq, Repr

structure LocalObjectReference where
  name : String := ""
  deriving DecidableEq, Repr

structure PodSandboxSpec where
  workloadRef : WorkloadReference := {}
  sandboxID : String := ""
  userDataSecretRef : LocalObjectReference := {}
  className : String := ""
  vcpus : Int := 0
  memoryMiB : Int := 0
  arch : String := ""
  deriving DecidableEq, Repr

structure PodSandboxStatus where
  observedGeneration : Nat := 0
  runnerRef : Option LocalObjectReference := none
  nodeName : String := ""
  ips : List String := []
  conditions : List Condition := []
  deriving DecidableEq, Repr

structure PodSandbox where
  metadata : ObjectMeta := {}
  spec : PodSandboxSpec := {}
  status : PodSandboxStatus := {}

instance : KubeObject PodSandbox where
  resource := "podsandboxes.sandbox.caa.mnicloud.jp"
  metadata o := o.metadata
  withMetadata o m := { o with metadata := m }
  metadata_withMetadata _ _ := rfl

/-! ### The status as a JSON document

Every field of `PodSandboxStatus` is tagged `omitempty`: its zero value is an absent field. A
merge patch of `runnerRef`, whose only field is `name`, replaces it.
-/

inductive StatusField
  | observedGeneration | runnerRef | nodeName | ips | conditions
  deriving DecidableEq, Repr

abbrev StatusField.Value : StatusField → Type
  | .observedGeneration => Nat
  | .runnerRef => LocalObjectReference
  | .nodeName => String
  | .ips => List String
  | .conditions => List Condition

instance : ∀ f : StatusField, DecidableEq f.Value
  | .observedGeneration => inferInstanceAs (DecidableEq Nat)
  | .runnerRef => inferInstanceAs (DecidableEq LocalObjectReference)
  | .nodeName => inferInstanceAs (DecidableEq String)
  | .ips => inferInstanceAs (DecidableEq (List String))
  | .conditions => inferInstanceAs (DecidableEq (List Condition))

abbrev StatusPatch := MergePatch StatusField StatusField.Value

namespace PodSandboxStatus

/-- The fields `json.Marshal` writes. -/
def encode (s : PodSandboxStatus) : Doc StatusField StatusField.Value
  | .observedGeneration => if s.observedGeneration = 0 then none else some s.observedGeneration
  | .runnerRef => s.runnerRef
  | .nodeName => if s.nodeName = "" then none else some s.nodeName
  | .ips => if s.ips = [] then none else some s.ips
  | .conditions => if s.conditions = [] then none else some s.conditions

/-- The status read back; an absent field has its zero value. -/
def decode (d : Doc StatusField StatusField.Value) : PodSandboxStatus where
  observedGeneration := (d .observedGeneration).getD 0
  runnerRef := d .runnerRef
  nodeName := (d .nodeName).getD ""
  ips := (d .ips).getD []
  conditions := (d .conditions).getD []

theorem decode_encode (s : PodSandboxStatus) : decode s.encode = s := by
  have hzero {α : Type} [DecidableEq α] (x z : α) :
      (if x = z then none else some x).getD z = x := by
    split
    · rename_i e; exact e.symm
    · rfl
  unfold decode encode
  simp only [hzero]

/-- `client.MergeFrom(base)` on the status. -/
def mergeFrom (base modified : PodSandboxStatus) : StatusPatch :=
  MergePatch.diff base.encode modified.encode

/-- The status after the server merged a patch into it. -/
def merge (s : PodSandboxStatus) (p : StatusPatch) : PodSandboxStatus :=
  decode (MergePatch.apply p s.encode)

/-- A patch computed from the stored status stores the modified one. -/
theorem merge_mergeFrom_self (base modified : PodSandboxStatus) :
    base.merge (mergeFrom base modified) = modified := by
  unfold merge mergeFrom
  rw [MergePatch.apply_diff_self, decode_encode]

/-- The addresses after a patch computed from another copy: the stored ones, unless the patch changes
them. -/
theorem merge_mergeFrom_ips (s base modified : PodSandboxStatus) :
    (s.merge (mergeFrom base modified)).ips =
      if base.ips = modified.ips then s.ips else modified.ips := by
  have hgetD (l : List String) : (if l = [] then none else some l).getD [] = l := by
    split
    · rename_i e; exact e.symm
    · rfl
  have hiff : base.encode .ips = modified.encode .ips ↔ base.ips = modified.ips := by
    constructor
    · intro h
      rw [← hgetD base.ips, ← hgetD modified.ips]
      exact congrArg (·.getD []) h
    · intro h
      simp only [encode, h]
  show (MergePatch.apply (MergePatch.diff base.encode modified.encode) s.encode .ips).getD [] = _
  rw [MergePatch.apply_diff]
  simp only [hiff]
  split
  · exact hgetD s.ips
  · exact hgetD modified.ips

end PodSandboxStatus

/-! ## PodSandboxClass -/

structure Toleration where
  key : String := ""
  operator : String := ""
  value : String := ""
  effect : String := ""
  tolerationSeconds : Option Int := none
  deriving DecidableEq, Repr

structure PodSandboxClassSpec where
  runnerImage : String := ""
  podVMImage : String := ""
  networkMTU : Int := 0
  annotations : StringMap := ∅
  labels : StringMap := ∅
  nodeSelector : StringMap := ∅
  tolerations : List Toleration := []
  runtimeAssetsDir : String := ""
  memoryOverheadMiB : Int := 0

structure PodSandboxClass where
  metadata : ObjectMeta := {}
  spec : PodSandboxClassSpec := {}

instance : KubeObject PodSandboxClass where
  resource := "podsandboxclasses.sandbox.caa.mnicloud.jp"
  metadata o := o.metadata
  withMetadata o m := { o with metadata := m }
  metadata_withMetadata _ _ := rfl

/-! ## Secret -/

structure Secret where
  metadata : ObjectMeta := {}
  immutable : Bool := false
  data : StringMap := ∅

instance : KubeObject Secret where
  resource := "secrets"
  metadata o := o.metadata
  withMetadata o m := { o with metadata := m }
  metadata_withMetadata _ _ := rfl

/-! ## Pod -/

inductive PullPolicy
  | always | never | ifNotPresent
  deriving DecidableEq, Repr

inductive RestartPolicy
  | always | onFailure | never
  deriving DecidableEq, Repr

inductive QuantityFormat
  | decimalSI | binarySI
  deriving DecidableEq, Repr

/-- `resource.Quantity`: an integral amount and the format it prints in. -/
structure Quantity where
  value : Int
  format : QuantityFormat
  deriving DecidableEq, Repr

structure ResourceList where
  cpu : Option Quantity := none
  memory : Option Quantity := none
  deriving DecidableEq, Repr

structure ResourceRequirements where
  requests : ResourceList := {}
  limits : ResourceList := {}
  deriving DecidableEq, Repr

structure SecurityContext where
  privileged : Option Bool := none
  allowPrivilegeEscalation : Option Bool := none
  runAsUser : Option Int := none
  deriving DecidableEq, Repr

structure VolumeMount where
  name : String
  mountPath : String
  readOnly : Bool := false
  deriving DecidableEq, Repr

/-- A probe that executes a command in the container. -/
structure Probe where
  execCommand : List String
  initialDelaySeconds : Int
  periodSeconds : Int
  timeoutSeconds : Int
  deriving DecidableEq, Repr

structure Container where
  name : String
  image : String
  imagePullPolicy : PullPolicy
  args : List String := []
  resources : ResourceRequirements := {}
  securityContext : Option SecurityContext := none
  volumeMounts : List VolumeMount := []
  readinessProbe : Option Probe := none
  deriving DecidableEq, Repr

inductive HostPathType
  | directory | charDevice
  deriving DecidableEq, Repr

inductive VolumeSource
  | emptyDir
  | secret (secretName : String)
  | hostPath (path : String) (type : HostPathType)
  deriving DecidableEq, Repr

structure Volume where
  name : String
  source : VolumeSource
  deriving DecidableEq, Repr

structure PodSpec where
  nodeName : String := ""
  nodeSelector : StringMap := ∅
  tolerations : List Toleration := []
  initContainers : List Container := []
  containers : List Container := []
  volumes : List Volume := []
  restartPolicy : RestartPolicy := .always
  terminationGracePeriodSeconds : Option Int := none

inductive PodPhase
  | pending | running | succeeded | failed | unknown
  deriving DecidableEq, Repr

structure PodCondition where
  type : String
  status : ConditionStatus
  deriving DecidableEq, Repr

structure ContainerStateTerminated where
  message : String := ""
  deriving DecidableEq, Repr

structure ContainerStatus where
  name : String
  terminated : Option ContainerStateTerminated := none
  deriving DecidableEq, Repr

structure PodStatus where
  phase : PodPhase := .pending
  podIP : String := ""
  conditions : List PodCondition := []
  containerStatuses : List ContainerStatus := []
  deriving DecidableEq, Repr

structure Pod where
  metadata : ObjectMeta := {}
  spec : PodSpec := {}
  status : PodStatus := {}

instance : KubeObject Pod where
  resource := "pods"
  metadata o := o.metadata
  withMetadata o m := { o with metadata := m }
  metadata_withMetadata _ _ := rfl

/-! ## Controller references -/

/-- The object with the PodSandbox as its controller. -/
def controlledBy {α : Type} [KubeObject α] (owner : PodSandbox) (o : α) : α :=
  KubeObject.withMetadata o { KubeObject.metadata o with
    controller := some ⟨"PodSandbox", owner.metadata.name, owner.metadata.uid⟩ }

/-- `controllerutil.SetControllerReference` with a PodSandbox as the owner: refused across
namespaces and when another object already controls the target. -/
def setControllerReference {α : Type} [KubeObject α] (owner : PodSandbox) (o : α) :
    Except String α :=
  if owner.metadata.ns ≠ (KubeObject.metadata o).ns then
    .error "cross-namespace owner references are disallowed"
  else if (KubeObject.metadata o).controller.any (·.uid ≠ owner.metadata.uid) then
    .error "Object is already owned by another controller"
  else
    .ok (controlledBy owner o)

theorem setControllerReference_eq_ok {α : Type} [KubeObject α] {owner : PodSandbox} {o o' : α}
    (h : setControllerReference owner o = .ok o') : o' = controlledBy owner o := by
  unfold setControllerReference at h
  split at h
  · cases h
  · split at h
    · cases h
    · cases h
      rfl

end SandboxProvider
