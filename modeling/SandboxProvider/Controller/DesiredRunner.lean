import Mathlib.Algebra.Ring.Int.Defs
import Mathlib.Algebra.Ring.Nat
import SandboxProvider.Api.Objects

/-!
# The runner Pod of a PodSandbox

`internal/controller/podsandbox_controller.go`: `desiredRunner` and the constants it uses.
-/

namespace SandboxProvider.Controller

def runnerContainerName : String := "runner"
def runnerStateDirArg : String := "--state-dir=/run/pod-sandbox"
def defaultRuntimeAssetsDir : String := "/opt/kata"
def defaultNetworkMTU : Int := 1500
def defaultOverheadMiB : Int := 256
def volumeImage : String := "image"
def volumeConfig : String := "config"
def volumeState : String := "state"
def volumeRuntimeAssets : String := "runtime-assets"
def volumeKVM : String := "kvm"
def volumeTUN : String := "tun"

def labelName : String := "app.kubernetes.io/name"
def labelSandbox : String := "sandbox.caa.mnicloud.jp/sandbox"
def annotationClass : String := "sandbox.caa.mnicloud.jp/class"
def annotationTemplateGeneration : String := "sandbox.caa.mnicloud.jp/template-generation"
def annotationWorkloadName : String := "sandbox.caa.mnicloud.jp/workload-name"
def annotationWorkloadNamespace : String := "sandbox.caa.mnicloud.jp/workload-namespace"
def annotationWorkloadUID : String := "sandbox.caa.mnicloud.jp/workload-uid"

/-- Wrap-around of `int64` arithmetic. -/
def wrapInt64 (n : Int) : Int := n.bmod (2 ^ 64)

/-- The largest amount a `resource.Quantity` holds. -/
def maxQuantity : Int := 2 ^ 63 - 1

/-- `resource.MustParse(fmt.Sprintf("%dMi", n))`: mebibytes, capped at the largest amount. -/
def mustParseMi (n : Int) : Quantity :=
  ⟨max (-maxQuantity) (min maxQuantity (n * 2 ^ 20)), .binarySI⟩

/-- The MTU passed to the runner. -/
def networkMTU (sandboxClass : PodSandboxClass) : Int :=
  if sandboxClass.spec.networkMTU = 0 then defaultNetworkMTU else sandboxClass.spec.networkMTU

/-- `fmt.Sprintf("%d/%d", sandbox.Generation, sandboxClass.Generation)`. -/
def templateGeneration (sandbox : PodSandbox) (sandboxClass : PodSandboxClass) : String :=
  toString sandbox.metadata.generation ++ "/" ++ toString sandboxClass.metadata.generation

/-- An assignment `m[k] = v` under a condition. -/
def insertIf (cond : Bool) (k v : String) (m : StringMap) : StringMap :=
  if cond then m.insert k v else m

def runnerLabels (sandbox : PodSandbox) (sandboxClass : PodSandboxClass) : StringMap :=
  (sandboxClass.spec.labels.insert labelName "pod-sandbox-runner").insert
    labelSandbox sandbox.metadata.name

def runnerAnnotations (sandbox : PodSandbox) (sandboxClass : PodSandboxClass) : StringMap :=
  let workload := sandbox.spec.workloadRef
  sandboxClass.spec.annotations
    |>.insert annotationClass sandboxClass.metadata.name
    |>.insert annotationTemplateGeneration (templateGeneration sandbox sandboxClass)
    |>.insert annotationWorkloadName workload.name
    |> insertIf (workload.ns ≠ "") annotationWorkloadNamespace workload.ns
    |> insertIf (workload.uid ≠ "") annotationWorkloadUID workload.uid

theorem lookup_insertIf_ne (cond : Bool) {k k' : String} (v : String) (m : StringMap)
    (hk : k' ≠ k) : (insertIf cond k v m).lookup k' = m.lookup k' := by
  unfold insertIf
  split
  · exact AList.lookup_insert_ne hk
  · rfl

/-- The annotation that the runner Pod is compared by. -/
theorem getD_annotationTemplateGeneration (sandbox : PodSandbox) (sandboxClass : PodSandboxClass) :
    (runnerAnnotations sandbox sandboxClass).getD annotationTemplateGeneration =
      templateGeneration sandbox sandboxClass := by
  unfold runnerAnnotations StringMap.getD
  rw [lookup_insertIf_ne _ _ _ (by decide), lookup_insertIf_ne _ _ _ (by decide),
    AList.lookup_insert_ne (by decide), AList.lookup_insert]
  rfl

/-- The annotation that names the class. -/
theorem getD_annotationClass (sandbox : PodSandbox) (sandboxClass : PodSandboxClass) :
    (runnerAnnotations sandbox sandboxClass).getD annotationClass =
      sandboxClass.metadata.name := by
  unfold runnerAnnotations StringMap.getD
  rw [lookup_insertIf_ne _ _ _ (by decide), lookup_insertIf_ne _ _ _ (by decide),
    AList.lookup_insert_ne (by decide), AList.lookup_insert_ne (by decide), AList.lookup_insert]
  rfl

/-- The variable `overhead`. -/
def overhead (sandboxClass : PodSandboxClass) : Int :=
  if sandboxClass.spec.memoryOverheadMiB = 0 then defaultOverheadMiB
  else sandboxClass.spec.memoryOverheadMiB

/-- The CPU and memory of the runner container: both requests and limits. -/
def runnerResources (sandbox : PodSandbox) (sandboxClass : PodSandboxClass) :
    ResourceRequirements :=
  let overheadMiB := wrapInt64 (sandbox.spec.memoryMiB + overhead sandboxClass)
  let amount : ResourceList :=
    ⟨some ⟨sandbox.spec.vcpus, .decimalSI⟩, some (mustParseMi overheadMiB)⟩
  ⟨amount, amount⟩

def runnerArgs (sandbox : PodSandbox) (sandboxClass : PodSandboxClass) : List String := [
  "run",
  "--cpus=" ++ toString sandbox.spec.vcpus,
  "--memory-mib=" ++ toString sandbox.spec.memoryMiB,
  "--network-mtu=" ++ toString (networkMTU sandboxClass),
  "--image-dir=/var/lib/podvm/image",
  "--config-dir=/var/lib/podvm/config",
  runnerStateDirArg,
  "--runtime-assets-dir=/opt/podvm-runtime",
  "--kernel=/var/lib/podvm/image/vmlinux",
  "--rootfs=/var/lib/podvm/image/rootfs.img"]

def imageContainer (sandboxClass : PodSandboxClass) : Container where
  name := "podvm-image"
  image := sandboxClass.spec.podVMImage
  imagePullPolicy := .always
  volumeMounts := [{ name := volumeImage, mountPath := "/output" }]

def runnerContainer (sandbox : PodSandbox) (sandboxClass : PodSandboxClass) : Container where
  name := runnerContainerName
  image := sandboxClass.spec.runnerImage
  imagePullPolicy := .always
  args := runnerArgs sandbox sandboxClass
  resources := runnerResources sandbox sandboxClass
  securityContext := some {
    privileged := some true
    allowPrivilegeEscalation := some true
    runAsUser := some 0 }
  volumeMounts := [
    { name := volumeImage, mountPath := "/var/lib/podvm/image" },
    { name := volumeConfig, mountPath := "/var/lib/podvm/config", readOnly := true },
    { name := volumeState, mountPath := "/run/pod-sandbox" },
    { name := volumeRuntimeAssets, mountPath := "/opt/podvm-runtime", readOnly := true },
    { name := volumeKVM, mountPath := "/dev/kvm" },
    { name := volumeTUN, mountPath := "/dev/net/tun" }]
  readinessProbe := some {
    execCommand := ["/runner", "ready", runnerStateDirArg]
    initialDelaySeconds := 2
    periodSeconds := 2
    timeoutSeconds := 1 }

def runnerVolumes (sandbox : PodSandbox) (sandboxClass : PodSandboxClass) : List Volume :=
  let runtimeAssetsDir :=
    if sandboxClass.spec.runtimeAssetsDir = "" then defaultRuntimeAssetsDir
    else sandboxClass.spec.runtimeAssetsDir
  [⟨volumeImage, .emptyDir⟩,
    ⟨volumeConfig, .secret sandbox.spec.userDataSecretRef.name⟩,
    ⟨volumeState, .emptyDir⟩,
    ⟨volumeRuntimeAssets, .hostPath runtimeAssetsDir .directory⟩,
    ⟨volumeKVM, .hostPath "/dev/kvm" .charDevice⟩,
    ⟨volumeTUN, .hostPath "/dev/net/tun" .charDevice⟩]

def desiredRunner (sandbox : PodSandbox) (sandboxClass : PodSandboxClass) : Pod where
  metadata := {
    name := sandbox.metadata.name
    ns := sandbox.metadata.ns
    labels := runnerLabels sandbox sandboxClass
    annotations := runnerAnnotations sandbox sandboxClass }
  spec := {
    nodeSelector := sandboxClass.spec.nodeSelector
    tolerations := sandboxClass.spec.tolerations
    initContainers := [imageContainer sandboxClass]
    containers := [runnerContainer sandbox sandboxClass]
    volumes := runnerVolumes sandbox sandboxClass
    restartPolicy := .never
    terminationGracePeriodSeconds := some 30 }

end SandboxProvider.Controller
