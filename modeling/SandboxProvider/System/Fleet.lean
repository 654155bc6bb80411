import SandboxProvider.Runner.Run
import SandboxProvider.System.Incarnation

/-!
# The runners on the nodes

The kubelet starts the runner container of a Pod once (`restartPolicy: Never`), with the Secrets of the Pod
mounted, runs the readiness probe in it, and reports the status of the Pod. A container belongs to the
`uid` of its Pod. The API socket is answered by the hypervisor that `run` started, as long as that runs.
-/

namespace SandboxProvider

open Lib FilePath Controller Runner

/-! ## Mounts -/

/-- The keys of a Secret as files of a directory. Keys are file names. -/
def mountAt (dir : String) (entries : List (Σ _ : String, String))
    (files : AList fun _ : String => String) : AList fun _ : String => String :=
  entries.foldr (fun entry files =>
    if IsName entry.1.toList then files.insert (join dir entry.1) entry.2 else files) files

/-- The Secrets among the volumes that a container mounts; a missing one keeps it from starting. -/
def mountSecrets (c : Cluster) (ns : String) (volumes : List Volume) :
    List VolumeMount → (AList fun _ : String => String) → Option (AList fun _ : String => String)
  | [], files => some files
  | mount :: rest, files =>
    match volumes.find? (·.name = mount.name) with
    | some ⟨_, .secret name⟩ => (c.secrets.get ⟨ns, name⟩).bind fun secret =>
      mountSecrets c ns volumes rest (mountAt mount.mountPath secret.data.entries files)
    | _ => mountSecrets c ns volumes rest files

/-- The files of a container of the Pod. -/
def Pod.files (pod : Pod) (c : Cluster) (container : Container)
    (image : AList fun _ : String => String) : Option (AList fun _ : String => String) :=
  mountSecrets c pod.metadata.ns pod.spec.volumes container.volumeMounts image

/-- Every key of a mounted Secret is a file. -/
theorem lookup_mountAt (dir : String) {entries : List (Σ _ : String, String)} {key value : String}
    (hkey : IsName key.toList) (hvalue : entries.dlookup key = some value)
    (files : AList fun _ : String => String) :
    (mountAt dir entries files).lookup (join dir key) = some value := by
  induction entries with
  | nil => cases hvalue
  | cons entry rest ih =>
    obtain ⟨name, content⟩ := entry
    unfold mountAt at ih ⊢
    rw [List.foldr_cons]
    by_cases hname : key = name
    · subst hname
      rw [List.dlookup_cons_eq] at hvalue
      cases hvalue
      rw [if_pos hkey, AList.lookup_insert]
    · rw [List.dlookup_cons_ne _ _ hname] at hvalue
      split
      · rename_i hisName
        rw [AList.lookup_insert_ne]
        · exact ih hvalue
        · exact fun heq => hname (join_injOn dir hkey hisName heq)
      · exact ih hvalue

/-! ## Containers -/

/-- The runner container of a Pod, as it was when the container was started. `ready` is the result of the
last readiness probe. -/
structure RunnerContainer where
  pod : Pod
  container : Container
  opts : Options
  mem : container ∈ pod.spec.containers
  runs : command ("/runner" :: container.args) = .ok (.run opts)
  process : RunnerProcess
  ready : Bool := false

namespace RunnerContainer

/-- The kubelet starts the container. -/
def launch (c : Cluster) (pod : Pod) (image : AList fun _ : String => String) :
    Option RunnerContainer :=
  match hfind : pod.spec.containers.find? (·.name = runnerContainerName) with
  | none => none
  | some container =>
    match hrun : command ("/runner" :: container.args) with
    | .ok (.run opts) => (pod.files c container image).map fun files =>
      { pod := pod
        container := container
        opts := opts
        mem := List.mem_of_find?_eq_some hfind
        runs := hrun
        process := .start opts files }
    | _ => none

/-- The socket that the readiness probe asks. -/
def probed (r : RunnerContainer) : Option String :=
  r.container.readinessProbe.bind fun probe =>
    match command probe.execCommand with
    | .ok (.ready opts) => some opts.socket
    | _ => none

/-- What the API socket can answer to the probe: anything, if it is the socket of the hypervisor and that
runs, and nothing otherwise. -/
def Answers (r : RunnerContainer) : Except String (Nat × String) → Prop
  | .error _ => True
  | .ok _ => r.process.vm = .running ∧ r.probed = some r.opts.socket

instance (r : RunnerContainer) : (info : Except String (Nat × String)) → Decidable (r.Answers info)
  | .error _ => inferInstanceAs (Decidable True)
  | .ok _ => inferInstanceAs (Decidable (_ ∧ _))

theorem launch_eq_some {c : Cluster} {pod : Pod} {image : AList fun _ : String => String}
    {r : RunnerContainer} (h : launch c pod image = some r) :
    r.pod = pod ∧ r.ready = false ∧ ∃ files,
      pod.files c r.container image = some files ∧
      r.process = .start r.opts files := by
  unfold launch at h
  split at h
  · cases h
  · split at h
    · obtain ⟨files, hfiles, rfl⟩ := Option.map_eq_some_iff.mp h
      exact ⟨rfl, rfl, files, hfiles, rfl⟩
    · cases h

end RunnerContainer

/-- A readiness probe that succeeded, with the container as it was then. -/
structure Check where
  runner : RunnerContainer
  info : Except String (Nat × String)
  dial : Except String (Option String)
  answers : runner.Answers info
  passed : readyCheck info dial = .ok ()

/-- The hypervisor that was asked was running. -/
theorem Check.asked (check : Check) : check.runner.process.vm = .running ∧
    check.runner.probed = some check.runner.opts.socket := by
  obtain ⟨⟨status, hinfo⟩, -⟩ := readyCheck_eq_ok.mp check.passed
  have hanswers := check.answers
  rw [hinfo] at hanswers
  exact hanswers

/-! ## The system -/

/-- The world and the runner containers, by the `uid` of their Pod; `checks` has the latest one first, and
no program reads it. -/
structure Fleet where
  world : World
  containers : AList fun _ : Nat => RunnerContainer := ∅
  checks : List Check := []

inductive FleetLabel
  | world (l : Label)
  /-- The kubelet starts the runner container of a Pod, with these files in its image. -/
  | launch (key : NamespacedName) (image : AList fun _ : String => String)
  | runner (uid : Nat) (l : RunnerLabel)
  /-- The kubelet runs the readiness probe. -/
  | probe (uid : Nat) (info : Except String (Nat × String)) (dial : Except String (Option String))

namespace Fleet

def put (f : Fleet) (uid : Nat) (r : RunnerContainer) : Fleet :=
  { f with containers := f.containers.insert uid r }

/-- The readiness probe has this outcome. -/
def probe (f : Fleet) (uid : Nat) (r : RunnerContainer) (info : Except String (Nat × String))
    (dial : Except String (Option String)) : Option Fleet :=
  if hanswers : r.Answers info then
    if hpassed : readyCheck info dial = .ok () then
      some { f.put uid { r with ready := true } with
        checks := ⟨r, info, dial, hanswers, hpassed⟩ :: f.checks }
    else some (f.put uid { r with ready := false })
  else none

def step (parseIP : String → Bool) (f : Fleet) : FleetLabel → Option Fleet
  | .world l => (f.world.step l).map fun w => { f with world := w }
  | .launch key image =>
    match f.world.cluster.pods.get key with
    | none => none
    | some pod =>
      if (f.containers.lookup pod.metadata.uid).isSome then none
      else (RunnerContainer.launch f.world.cluster pod image).map (f.put pod.metadata.uid)
  | .runner uid l =>
    match f.containers.lookup uid with
    | none => none
    | some r => (r.process.step parseIP r.opts l).map fun process =>
      f.put uid { r with process := process }
  | .probe uid info dial =>
    match f.containers.lookup uid with
    | none => none
    | some r => f.probe uid r info dial

/-! ## What a step can do -/

/-- The steps of the system. -/
inductive Moves (f : Fleet) : FleetLabel → Fleet → Prop
  | world {l w} (h : f.world.step l = some w) : Moves f (.world l) { f with world := w }
  | launch {key image pod files r} (hpod : f.world.cluster.pods.get key = some pod)
      (hnew : f.containers.lookup pod.metadata.uid = none) (hpodEq : r.pod = pod)
      (hready : r.ready = false)
      (hfiles : pod.files f.world.cluster r.container image = some files)
      (hprocess : r.process = .start r.opts files) :
      Moves f (.launch key image) (f.put pod.metadata.uid r)
  | runner {uid l r process} (hr : f.containers.lookup uid = some r)
      (h : RunnerProcess.Moves r.opts r.process l process) :
      Moves f (.runner uid l) (f.put uid { r with process := process })
  | passed {uid info dial r} (hr : f.containers.lookup uid = some r) (hanswers : r.Answers info)
      (hpassed : readyCheck info dial = .ok ()) :
      Moves f (.probe uid info dial) { f.put uid { r with ready := true } with
        checks := ⟨r, info, dial, hanswers, hpassed⟩ :: f.checks }
  | failed {uid info dial r} (hr : f.containers.lookup uid = some r) :
      Moves f (.probe uid info dial) (f.put uid { r with ready := false })

theorem moves {parseIP : String → Bool} {f f' : Fleet} {l : FleetLabel}
    (h : f.step parseIP l = some f') : Moves f l f' := by
  cases l with
  | world l =>
    obtain ⟨w, hw, rfl⟩ := Option.map_eq_some_iff.mp h
    exact .world hw
  | launch key image =>
    simp only [step] at h
    split at h
    · cases h
    · rename_i pod hpod
      split at h
      · cases h
      · rename_i hnew
        obtain ⟨r, hr, rfl⟩ := Option.map_eq_some_iff.mp h
        obtain ⟨hpodEq, hready, files, hfiles, hprocess⟩ := RunnerContainer.launch_eq_some hr
        exact .launch hpod (Option.not_isSome_iff_eq_none.mp hnew) hpodEq hready hfiles hprocess
  | runner uid l =>
    simp only [step] at h
    split at h
    · cases h
    · rename_i r hr
      obtain ⟨process, hprocess, rfl⟩ := Option.map_eq_some_iff.mp h
      exact .runner hr (RunnerProcess.moves hprocess)
  | probe uid info dial =>
    simp only [step] at h
    split at h
    · cases h
    · rename_i r hr
      unfold probe at h
      split at h
      · rename_i hanswers
        split at h
        · rename_i hpassed
          cases h
          exact .passed hr hanswers hpassed
        · cases h
          exact .failed hr
      · cases h

end Fleet

end SandboxProvider
