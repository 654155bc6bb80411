import SandboxProvider.Api.Schema
import SandboxProvider.Controller.DesiredRunner
import SandboxProvider.Runner.Options
import SandboxProvider.Server.Handlers

/-!
# The runner understands what the controller asks for

`createSandbox` fills in the defaults of a request, `desiredRunner` renders the PodSandbox and the
class into the command line, the probe and the mounts of the runner Pod, and the runner parses them
again. The three are tied together by strings only. For every request that is accepted, and every
PodSandbox and class that the schemas admit, the runner gets the capacity that was asked for, the MTU
that `getConfig` reports, and directories that the Pod mounts.
-/

namespace SandboxProvider.Runner

open Lib Server Controller

/-- The path is the directory or lies in it. -/
def Under (dir path : String) : Prop :=
  path = dir ∨ ∃ rest, path = dir ++ "/" ++ rest

/-- The path lies where the runner container mounts this volume of the Pod. -/
def InVolume (pod : Pod) (volume path : String) : Prop :=
  (∃ v ∈ pod.spec.volumes, v.name = volume) ∧
    ∃ container ∈ pod.spec.containers, container.name = runnerContainerName ∧
      ∃ m ∈ container.volumeMounts, m.name = volume ∧ Under m.mountPath path

/-- What the runner makes of the command line of `desiredRunner`. -/
def runOptions (sandbox : PodSandbox) (sandboxClass : PodSandboxClass) : Options where
  cpus := sandbox.spec.vcpus
  memoryMiB := sandbox.spec.memoryMiB
  networkMTU := networkMTU sandboxClass
  imageDir := "/var/lib/podvm/image"
  configDir := "/var/lib/podvm/config"
  stateDir := "/run/pod-sandbox"
  runtimeAssetsDir := "/opt/podvm-runtime"
  kernelPath := "/var/lib/podvm/image/vmlinux"
  rootfsPath := "/var/lib/podvm/image/rootfs.img"

section Arguments

variable {sandbox : PodSandbox} {sandboxClass : PodSandboxClass}

theorem flagName_cpus : FlagName cpusFlag.name := ⟨by decide, by decide, by decide⟩

theorem flagName_memory : FlagName memoryFlag.name := ⟨by decide, by decide, by decide⟩

theorem flagName_networkMTU : FlagName networkMTUFlag.name := ⟨by decide, by decide, by decide⟩

/-- The MTU of an admitted class is a 64-bit integer. -/
theorem networkMTU_bounds (h : sandboxClass.spec.ValidMTU) :
    -2 ^ 63 ≤ networkMTU sandboxClass ∧ networkMTU sandboxClass < 2 ^ 63 := by
  unfold networkMTU Controller.defaultNetworkMTU
  obtain hzero | ⟨hlow, hhigh⟩ := h
  · rw [if_pos hzero]
    decide
  · split
    · decide
    · constructor
      · omega
      · omega

/-- The parser gets through the whole command line. -/
theorem parseRunOptions_runnerArgs (hs : sandbox.spec.Admitted) (hc : sandboxClass.spec.Admitted) :
    parseRunOptions (runnerArgs sandbox sandboxClass).tail =
      .ok (runOptions sandbox sandboxClass) := by
  obtain ⟨hmtuLow, hmtuHigh⟩ := networkMTU_bounds hc.networkMTU
  have hcpus := set_intVar "cpus" (fun v (opts : Options) => { opts with cpus := v })
    hs.vcpus.1.1 hs.vcpus.1.2
  have hmemory := set_intVar "memory-mib" (fun v (opts : Options) => { opts with memoryMiB := v })
    hs.memoryMiB.1.1 hs.memoryMiB.1.2
  have hmtu := set_intVar "network-mtu" (fun v (opts : Options) => { opts with networkMTU := v })
    hmtuLow hmtuHigh
  unfold parseRunOptions
  calc parseFlags runFlags (runnerArgs sandbox sandboxClass).tail {}
      = parseFlags runFlags (runnerArgs sandbox sandboxClass).tail.tail
          { cpus := sandbox.spec.vcpus } :=
        parseFlags_equals cpusFlag flagName_cpus rfl (hcpus _) _
    _ = parseFlags runFlags (runnerArgs sandbox sandboxClass).tail.tail.tail
          { cpus := sandbox.spec.vcpus, memoryMiB := sandbox.spec.memoryMiB } :=
        parseFlags_equals memoryFlag flagName_memory rfl (hmemory _) _
    _ = parseFlags runFlags (runnerArgs sandbox sandboxClass).tail.tail.tail.tail
          { cpus := sandbox.spec.vcpus, memoryMiB := sandbox.spec.memoryMiB,
            networkMTU := networkMTU sandboxClass } :=
        parseFlags_equals networkMTUFlag flagName_networkMTU rfl (hmtu _) _
    _ = .ok (runOptions sandbox sandboxClass) := rfl

theorem parseReadyOptions_probe : parseReadyOptions [runnerStateDirArg] = .ok {} := rfl

/-- What `main` does in the runner container and in its probe. -/
theorem command_runnerContainer (hs : sandbox.spec.Admitted) (hc : sandboxClass.spec.Admitted) :
    command ("/runner" :: (runnerContainer sandbox sandboxClass).args) =
        .ok (.run (runOptions sandbox sandboxClass)) ∧
      ∀ probe ∈ (runnerContainer sandbox sandboxClass).readinessProbe,
        command probe.execCommand = .ok (.ready {}) := by
  constructor
  · have hargs : (runnerContainer sandbox sandboxClass).args =
        "run" :: (runnerArgs sandbox sandboxClass).tail := rfl
    rw [hargs, command, if_pos rfl, parseRunOptions_runnerArgs hs hc]
    rfl
  · intro probe hprobe
    cases hprobe
    rfl

theorem checkOptions_runOptions (hs : sandbox.spec.Admitted) :
    checkOptions (runOptions sandbox sandboxClass) = .ok () := by
  have hcpus : 1 ≤ sandbox.spec.vcpus := hs.vcpus.2
  have hmemory : 128 ≤ sandbox.spec.memoryMiB := hs.memoryMiB.2
  unfold checkOptions runOptions
  rw [if_neg (by simp only; omega), if_neg (by simp)]

/-- The runner boots from what the Pod mounts. -/
theorem inVolume_image {path : String} (h : Under "/var/lib/podvm/image" path) :
    InVolume (desiredRunner sandbox sandboxClass) volumeImage path := by
  refine ⟨⟨⟨volumeImage, .emptyDir⟩, List.mem_cons_self, rfl⟩, ?_⟩
  refine ⟨runnerContainer sandbox sandboxClass, List.mem_cons_self, rfl, ?_⟩
  exact ⟨{ name := volumeImage, mountPath := "/var/lib/podvm/image" }, List.mem_cons_self, rfl, h⟩

theorem inVolume_config {path : String} (h : Under "/var/lib/podvm/config" path) :
    InVolume (desiredRunner sandbox sandboxClass) volumeConfig path := by
  refine ⟨⟨⟨volumeConfig, .secret sandbox.spec.userDataSecretRef.name⟩,
    List.mem_cons_of_mem _ List.mem_cons_self, rfl⟩, ?_⟩
  refine ⟨runnerContainer sandbox sandboxClass, List.mem_cons_self, rfl, ?_⟩
  exact ⟨{ name := volumeConfig, mountPath := "/var/lib/podvm/config", readOnly := true },
    List.mem_cons_of_mem _ List.mem_cons_self, rfl, h⟩

end Arguments

/-- The spec of the PodSandbox of an accepted request, with the defaults filled in. -/
theorem spec_of_prepare {access : AuthorizedAccess} {request : CreateSandboxRequest} {job : Job}
    (h : prepare access (.ok request) = .getSandbox job) :
    job.sandbox.spec.vcpus = (if request.vcpus ≤ 0 then 2 else request.vcpus) ∧
      job.sandbox.spec.memoryMiB = (if request.memoryMiB ≤ 0 then 2048 else request.memoryMiB) := by
  simp only [prepare] at h
  split at h
  · cases h
  · cases h
    exact ⟨rfl, rfl⟩

/-- **The runner contract.** For every request that createSandbox accepts, the PodSandbox it makes of
it and a class, both as the schemas admit them: the runner container runs `run` with options that the
runner's parser and its checks accept; they carry the capacity of the request (2 CPUs and 2048 MiB
where the request asks for none) and the MTU that getConfig reports for the class; image directory,
kernel and root file system lie in the image volume of the Pod and the configuration directory in its
config volume; and the readiness probe looks at the state directory of these options. -/
theorem runner_gets_what_was_asked (access : AuthorizedAccess) (request : CreateSandboxRequest)
    (job : Job) (haccepted : prepare access (.ok request) = .getSandbox job)
    (sandbox : PodSandbox) (hspec : sandbox.spec = job.sandbox.spec) (hs : sandbox.spec.Admitted)
    (sandboxClass : PodSandboxClass) (hc : sandboxClass.spec.Admitted) :
    ∃ container, container ∈ (desiredRunner sandbox sandboxClass).spec.containers ∧
    ∃ args opts, container.args = "run" :: args ∧ parseRunOptions args = .ok opts ∧
      opts.cpus = (if request.vcpus ≤ 0 then 2 else request.vcpus) ∧
      opts.memoryMiB = (if request.memoryMiB ≤ 0 then 2048 else request.memoryMiB) ∧
      opts.networkMTU = reportedMTU sandboxClass ∧
      InVolume (desiredRunner sandbox sandboxClass) volumeImage opts.imageDir ∧
      InVolume (desiredRunner sandbox sandboxClass) volumeConfig opts.configDir ∧
      InVolume (desiredRunner sandbox sandboxClass) volumeImage opts.kernelPath ∧
      InVolume (desiredRunner sandbox sandboxClass) volumeImage opts.rootfsPath ∧
      (∃ probe readyArgs ready, container.readinessProbe = some probe ∧
        probe.execCommand = "/runner" :: "ready" :: readyArgs ∧
        parseReadyOptions readyArgs = .ok ready ∧ ready.stateDir = opts.stateDir) ∧
      checkOptions opts = .ok () := by
  obtain ⟨hvcpus, hmemory⟩ := spec_of_prepare haccepted
  rw [← hspec] at hvcpus hmemory
  refine ⟨runnerContainer sandbox sandboxClass, List.mem_cons_self,
    (runnerArgs sandbox sandboxClass).tail, runOptions sandbox sandboxClass, rfl,
    parseRunOptions_runnerArgs hs hc, hvcpus, hmemory, rfl, ?_, ?_, ?_, ?_, ?_,
    checkOptions_runOptions hs⟩
  · exact inVolume_image (.inl rfl)
  · exact inVolume_config (.inl rfl)
  · exact inVolume_image (.inr ⟨"vmlinux", rfl⟩)
  · exact inVolume_image (.inr ⟨"rootfs.img", rfl⟩)
  · exact ⟨_, [runnerStateDirArg], {}, rfl, rfl, parseReadyOptions_probe, rfl⟩

/-! ## A request that leaves the capacity open -/

namespace Sample

def access : AuthorizedAccess := ⟨"kata", "provider"⟩

/-- No CPUs are asked for, and the most memory there can be. -/
def request : CreateSandboxRequest where
  workloadRef := { name := "workload" }
  sandboxID := "sandbox"
  userData := "cloud-config"
  memoryMiB := 2 ^ 63 - 1

def jumboClass : PodSandboxClass where
  metadata := { name := "kata" }
  spec := { runnerImage := "runner", podVMImage := "podvm", networkMTU := 9216 }

theorem sandbox_admitted : (Job.of access request).sandbox.spec.Admitted where
  workloadName := show "workload" ≠ "" by decide
  sandboxID := show "sandbox" ≠ "" by decide
  className := show "kata" ≠ "" by decide
  vcpus := show IsInt64 2 ∧ 1 ≤ (2 : Int) by decide
  memoryMiB := show IsInt64 (2 ^ 63 - 1) ∧ 128 ≤ (2 ^ 63 - 1 : Int) by decide

theorem jumboClass_admitted : jumboClass.spec.Admitted where
  runnerImage := show "runner" ≠ "" by decide
  podVMImage := show "podvm" ≠ "" by decide
  networkMTU := .inr (show (576 : Int) ≤ 9216 ∧ (9216 : Int) ≤ 9216 by decide)
  memoryOverheadMiB := show IsInt64 0 ∧ 0 ≤ (0 : Int) by decide

end Sample

theorem open_request_gets_defaults :
    ∃ container, container ∈ (desiredRunner (Job.of Sample.access Sample.request).sandbox
      Sample.jumboClass).spec.containers ∧
    ∃ args opts, container.args = "run" :: args ∧ parseRunOptions args = .ok opts ∧
      opts.cpus = 2 ∧ opts.memoryMiB = 2 ^ 63 - 1 ∧ opts.networkMTU = 9216 ∧
      checkOptions opts = .ok () := by
  obtain ⟨container, hmem, args, opts, hargs, hparse, hcpus, hmemory, hmtu, -, -, -, -, -, hcheck⟩ :=
    runner_gets_what_was_asked Sample.access Sample.request (Job.of Sample.access Sample.request) rfl
      (Job.of Sample.access Sample.request).sandbox rfl Sample.sandbox_admitted Sample.jumboClass
      Sample.jumboClass_admitted
  exact ⟨container, hmem, args, opts, hargs, hparse, hcpus, hmemory, hmtu, hcheck⟩

end SandboxProvider.Runner
