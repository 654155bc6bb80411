import SandboxProvider.Verify.NetworkMtu
import SandboxProvider.Verify.RunnerContract
import SandboxProvider.Verify.RunnerLifecycle

/-!
# From the Secret to the guest

The runner Pod mounts the userdata Secret as a directory, its command line names that directory, and
`prepareDisks` copies a file of it into the seed of the PodVM. The three meet in the names of files only.
The seed of every PodVM that the runner of a PodSandbox starts holds the userdata of the Secret, an
instance id that no other MAC address has, and the MTU of the class; and the readiness probe asks the
hypervisor that was started.
-/

namespace SandboxProvider.Runner

open Lib FilePath Server Controller

/-! ## Hardware addresses -/

theorem hexDigit_injOn : ∀ m < 16, ∀ n < 16, hexDigit m = hexDigit n → m = n := by decide

theorem hexEncode_injective : Function.Injective hexEncode := by
  intro bytes bytes' h
  induction bytes generalizing bytes' with
  | nil =>
    cases bytes' with
    | nil => rfl
    | cons => cases h
  | cons b bytes ih =>
    cases bytes' with
    | nil => cases h
    | cons b' bytes' =>
      have hb : b.toNat < 256 := b.toNat_lt
      have hb' : b'.toNat < 256 := b'.toNat_lt
      simp only [hexEncode, List.flatMap_cons, List.cons_append, List.nil_append,
        List.cons.injEq] at h
      obtain ⟨hhigh, hlow, hrest⟩ := h
      have hhigh := hexDigit_injOn _ (by omega) _ (by omega) hhigh
      have hlow := hexDigit_injOn _ (by omega) _ (by omega) hlow
      have hbyte : b = b' := UInt8.toNat.inj (by omega)
      rw [hbyte, ih hrest]

theorem colon_not_mem_hexEncode (bytes : List UInt8) : ':' ∉ hexEncode bytes := by
  intro h
  obtain ⟨n, hn, heq⟩ := hexEncode_isHex h
  revert heq
  have hdigits : ∀ n < 16, ':' ≠ hexDigit n := by decide
  exact hdigits n hn

theorem filter_intercalate (mac : List UInt8) :
    ([':'].intercalate (mac.map fun b => hexEncode [b])).filter (· ≠ ':') = hexEncode mac := by
  induction mac with
  | nil => rfl
  | cons b mac ih =>
    have hb : (hexEncode [b]).filter (· ≠ ':') = hexEncode [b] := by
      refine List.filter_eq_self.mpr fun ch hch => ?_
      exact decide_eq_true (ne_of_mem_of_not_mem hch (colon_not_mem_hexEncode [b]))
    have happend : hexEncode (b :: mac) = hexEncode [b] ++ hexEncode mac := by
      simp [hexEncode]
    cases mac with
    | nil =>
      rw [List.map_singleton, List.intercalate_singleton]
      exact hb
    | cons c mac =>
      have hcolon : [':'].filter (· ≠ ':') = [] := rfl
      rw [happend, ← ih, List.map_cons, List.map_cons, List.intercalate_cons_cons,
        List.filter_append, List.filter_append, hb, hcolon, List.append_nil]

/-- The instance id is the address in hexadecimal. -/
theorem withoutColons_hardwareAddr (mac : List UInt8) :
    withoutColons (hardwareAddr mac) = String.ofList (hexEncode mac) := by
  unfold withoutColons hardwareAddr
  rw [String.toList_ofList, filter_intercalate]

/-- PodVMs with the same instance id have the same address. -/
theorem metaData_hardwareAddr_inj {mac mac' : List UInt8}
    (h : metaData (hardwareAddr mac) = metaData (hardwareAddr mac')) : mac = mac' := by
  unfold metaData at h
  rw [withoutColons_hardwareAddr, withoutColons_hardwareAddr] at h
  have hid := (String.append_right_inj _).mp ((String.append_left_inj _).mp h)
  exact hexEncode_injective (String.ofList_injective hid)

/-! ## The user data -/

/-- The Secret volumes of a Pod in the file system of a container: every key is a file. -/
def Mounts (c : Cluster) (pod : Pod) (container : Container)
    (files : AList fun _ : String => String) : Prop :=
  ∀ mount ∈ container.volumeMounts, ∀ name, ⟨mount.name, .secret name⟩ ∈ pod.spec.volumes →
    ∀ secret, c.secrets.get ⟨pod.metadata.ns, name⟩ = some secret →
      ∀ key value, secret.data.lookup key = some value →
        files.lookup (join mount.mountPath key) = some value

/-- The file that somebody else writes. -/
def RunnerLabel.updated : RunnerLabel → Option String
  | .update path _ => some path
  | _ => none

/-- Somebody else's writes spare the files of the seed and the user data. -/
def RunnerLabel.Spares (opts : Options) (l : RunnerLabel) : Prop :=
  l.SparesSeed opts ∧ ∀ path ∈ l.updated, path ≠ opts.userDataPath

instance (opts : Options) (l : RunnerLabel) : Decidable (l.Spares opts) :=
  inferInstanceAs (Decidable (_ ∧ ∀ path ∈ l.updated, _))

/-- The user data in the config directory and what was read of it. -/
structure KeepsUserData (opts : Options) (text : String) (r : RunnerProcess) : Prop where
  file : r.files.lookup opts.userDataPath = some text
  read : ∀ {content}, .read opts.userDataPath content ∈ r.history → content = text

/-- The files of the seed are not the one in the config directory. -/
def Options.SeparateSeed (opts : Options) : Prop :=
  opts.userDataPath ≠ opts.seedFile "user-data" ∧ opts.userDataPath ≠ opts.seedFile "meta-data" ∧
    opts.userDataPath ≠ opts.seedFile "network-config"

section UserData

open RunnerProcess

variable {opts : Options} {text : String} {r r' : RunnerProcess}

theorem Options.SeparateSeed.ne_of_writes (hseparate : opts.SeparateSeed) {s s' : RunState}
    {path content : String} (h : Writes opts s path content s') : opts.userDataPath ≠ path := by
  obtain ⟨huser, hmeta, hnetwork⟩ := hseparate
  cases h with
  | userData => exact huser
  | metaData => exact hmeta
  | networkConfig => exact hnetwork

theorem KeepsUserData.history (hinv : KeepsUserData opts text r) {e : RunEvent}
    (he : ∀ content, e ≠ .read opts.userDataPath content) {content : String}
    (h : .read opts.userDataPath content ∈ e :: r.history) : content = text := by
  rcases List.mem_cons.mp h with h | h
  · exact absurd h.symm (he content)
  · exact hinv.read h

theorem KeepsUserData.write (hinv : KeepsUserData opts text r) {path content : String}
    (hne : opts.userDataPath ≠ path) : (r.files.insert path content).lookup opts.userDataPath = some text :=
  (AList.lookup_insert_ne hne).trans hinv.file

theorem KeepsUserData.leave (hinv : KeepsUserData opts text r) (err : Option String) :
    KeepsUserData opts text (r.leave err) := ⟨hinv.file, hinv.read⟩

theorem KeepsUserData.move (hinv : KeepsUserData opts text r) (hseparate : opts.SeparateSeed)
    (h : Move opts r r') : KeepsUserData opts text r' := by
  cases h with
  | pass h => exact ⟨hinv.file, hinv.read⟩
  | command h => exact ⟨hinv.file, hinv.history (by rintro _ ⟨⟩)⟩
  | write h => exact ⟨hinv.write (hseparate.ne_of_writes h), hinv.read⟩
  | drew h hbytes => exact ⟨hinv.file, hinv.history (by rintro _ ⟨⟩)⟩
  | read h hread =>
    refine ⟨hinv.file, fun {content} hmem => ?_⟩
    rcases List.mem_cons.mp hmem with heq | hmem
    · cases heq
      exact Option.some.inj (hread.symm.trans hinv.file)
    · exact hinv.read hmem
  | agentProxy h => exact ⟨hinv.file, hinv.history (by rintro _ ⟨⟩)⟩
  | httpProxy h => exact ⟨hinv.file, hinv.history (by rintro _ ⟨⟩)⟩
  | started h => exact ⟨hinv.file, hinv.history (by rintro _ ⟨⟩)⟩
  | failed h => exact hinv.leave _
  | signalled h => exact ⟨hinv.file, hinv.history (by rintro _ ⟨⟩)⟩
  | shutdown h => exact ⟨hinv.file, hinv.history (by rintro _ ⟨⟩)⟩
  | exited h hvm => exact hinv.leave _
  | expired h htime => exact ⟨hinv.file, hinv.read⟩
  | killed h => exact ⟨hinv.file, hinv.history (by rintro _ ⟨⟩)⟩
  | httpProxyClosed h => exact ⟨hinv.file, hinv.read⟩
  | agentProxyClosed h => exact ⟨hinv.file, hinv.read⟩

theorem KeepsUserData.step (hinv : KeepsUserData opts text r) (hseparate : opts.SeparateSeed)
    {l : RunnerLabel} (hok : l.Spares opts) (h : Moves opts r l r') : KeepsUserData opts text r' := by
  cases h with
  | run h => exact hinv.move hseparate h
  | exit h => exact ⟨hinv.file, hinv.read⟩
  | signal => exact ⟨hinv.file, hinv.read⟩
  | elapse => exact ⟨hinv.file, hinv.read⟩
  | update => exact ⟨hinv.write (Ne.symm (hok.2 _ rfl)), hinv.read⟩

/-- When the hypervisor was started with these arguments, its seed held this user data, and the MAC address
that the hypervisor got. -/
def SeededFrom (opts : Options) (text : String) (args : List String) (past : List RunEvent) : Prop :=
  ∃ bytes dns seed, .drew bytes ∈ past ∧ bytes.length = 6 ∧ .ran opts.seedCommand.1 seed ∈ past ∧
    SeedFiles opts ⟨guestAddress, gateway, dns, randomMAC bytes⟩ text seed ∧
    args = opts.hypervisor (randomMAC bytes)

theorem KeepsUserData.seededFrom (hkeeps : KeepsUserData opts text r) (hinv : RunnerProcess.Inv opts r)
    {newer past : List RunEvent} {args : List String} (h : r.history = newer ++ .started args :: past) :
    SeededFrom opts text args past := by
  have hstarts := hinv.starts
  rw [h] at hstarts
  obtain ⟨network, ⟨bytes, dns, hdrew, hlength, rfl⟩, hseeded, -, -, -, hargs⟩ := hstarts.holdsAt
  obtain ⟨userData, seed, hread, hran, hfiles⟩ := hseeded
  have hmem : .read opts.userDataPath userData ∈ r.history := by
    rw [h]
    exact List.mem_append_right _ (List.mem_cons_of_mem _ hread)
  rw [hkeeps.read hmem] at hfiles
  exact ⟨bytes, dns, seed, hdrew, hlength, hran, hfiles, hargs⟩

end UserData

/-! ## The runner of a PodSandbox -/

section Runner

variable {sandbox : PodSandbox} {sandboxClass : PodSandboxClass}

theorem separateSeed_runOptions : (runOptions sandbox sandboxClass).SeparateSeed := by
  refine ⟨?_, ?_, ?_⟩
  · change join "/var/lib/podvm/config" "userdata" ≠ join (join "/run/pod-sandbox" "cidata") "user-data"
    decide
  · change join "/var/lib/podvm/config" "userdata" ≠ join (join "/run/pod-sandbox" "cidata") "meta-data"
    decide
  · change join "/var/lib/podvm/config" "userdata" ≠
      join (join "/run/pod-sandbox" "cidata") "network-config"
    decide

/-- The Secret of the PodSandbox is where the runner looks for the user data. -/
theorem Mounts.userData {c : Cluster} {uid : Nat}
    {files : AList fun _ : String => String}
    (hmounts : Mounts c (asCreated uid (controlledBy sandbox (desiredRunner sandbox sandboxClass)))
      (runnerContainer sandbox sandboxClass) files) {secret : Secret} {text : String}
    (hsecret : c.secrets.get ⟨sandbox.metadata.ns, sandbox.spec.userDataSecretRef.name⟩ = some secret)
    (htext : secret.data.lookup userDataKey = some text) :
    files.lookup (runOptions sandbox sandboxClass).userDataPath = some text := by
  refine hmounts { name := volumeConfig, mountPath := "/var/lib/podvm/config", readOnly := true } ?_
    sandbox.spec.userDataSecretRef.name ?_ secret hsecret userDataKey text htext
  · exact List.mem_cons_of_mem _ List.mem_cons_self
  · exact List.mem_cons_of_mem _ List.mem_cons_self

/-- What the runner that was made for a PodSandbox boots its PodVM from. -/
theorem started_of_mounts {c : Cluster} {uid : Nat} {files : AList fun _ : String => String}
    (hmounts : Mounts c (asCreated uid (controlledBy sandbox (desiredRunner sandbox sandboxClass)))
      (runnerContainer sandbox sandboxClass) files) {secret : Secret} {text : String}
    (hsecret : c.secrets.get ⟨sandbox.metadata.ns, sandbox.spec.userDataSecretRef.name⟩ = some secret)
    (htext : secret.data.lookup userDataKey = some text) {opts : Options}
    (hopts : opts = runOptions sandbox sandboxClass) {parseIP : String → Bool}
    {ls : List RunnerLabel} {r : RunnerProcess}
    (hrun : Run (RunnerProcess.step parseIP opts) (fun _ l => l.Spares opts)
      (RunnerProcess.start opts files) ls r)
    {newer past : List RunEvent} {args : List String} (h : r.history = newer ++ .started args :: past) :
    SeededFrom opts text args past := by
  subst hopts
  have hinv : RunnerProcess.Inv (runOptions sandbox sandboxClass) r := hrun.invariant _
    (fun _ _ _ hinv hok h => hinv.step hok.1 (RunnerProcess.moves h)) (.start _ files)
  have hkeeps : KeepsUserData (runOptions sandbox sandboxClass) text r := by
    refine hrun.invariant _
      (fun _ _ _ hinv hok h => hinv.step separateSeed_runOptions hok (RunnerProcess.moves h))
      ⟨hmounts.userData hsecret htext, ?_⟩
    intro content hread
    cases hread
  exact hkeeps.seededFrom hinv h

end Runner

/-- **From the request to the guest.** In every run of the system from a store whose Secrets hold no
userdata, take a runner Pod that Reconcile created for a PodSandbox and a class that the schemas admit,
whose userdata Secret is there. Its container runs `run` with options for which, in every run over files
that hold the keys of that Secret where the container mounts it, and in which nobody else writes these
or the files of the seed: whenever the hypervisor is started, the seed was made of the userdata that a
createSandbox request posted, of the MAC address that the hypervisor gets and of the MTU of the class;
no other MAC address has this instance id; and the readiness probe of the container asks the API socket
of this hypervisor. -/
theorem guest_boots_posted_userdata (cfg : Server.Config) (c : Cluster)
    (hsecrets : ∀ k secret, c.secrets.get k = some secret → secret.data.lookup userDataKey = none)
    (steps : List Label) (w : World)
    (hworld : Run World.step (fun _ _ => True) (World.start cfg c) steps w)
    (a : Nat) (key : NamespacedName) (o : PodSandbox) (cls : PodSandboxClass) (desired p : Pod)
    (hcreated : .wrote a (.reconcile (.createRunner key o cls desired)) (.createPod p) ∈ w.history)
    (ho : o.spec.Admitted) (hcls : cls.spec.Admitted) (secret : Secret) (text : String)
    (hsecret : w.cluster.secrets.get ⟨p.metadata.ns, o.spec.userDataSecretRef.name⟩ = some secret)
    (htext : secret.data.lookup userDataKey = some text)
    (container : Container) (hcontainer : container ∈ p.spec.containers) :
    ∃ opts, command ("/runner" :: container.args) = .ok (.run opts) ∧
      opts.networkMTU = networkMTU cls ∧
      (∀ probe ∈ container.readinessProbe, ∃ ready,
        command probe.execCommand = .ok (.ready ready) ∧
        join ready.stateDir "cloud-hypervisor.sock" = opts.socket) ∧
      ∀ files, Mounts w.cluster p container files → ∀ parseIP ls r,
        Run (RunnerProcess.step parseIP opts) (fun _ l => l.Spares opts)
          (RunnerProcess.start opts files) ls r →
        ∀ newer args past, r.history = newer ++ .started args :: past →
          ∃ b header request bytes dns seed,
            .arrived b header (.createSandbox (.ok request)) ∈ w.history ∧
            .drew bytes ∈ past ∧ bytes.length = 6 ∧ .ran opts.seedCommand.1 seed ∈ past ∧
            SeedFiles opts ⟨guestAddress, gateway, dns, randomMAC bytes⟩ request.userData seed ∧
            args = opts.hypervisor (randomMAC bytes) ∧
            ∀ bytes', metaData (randomMAC bytes') = metaData (randomMAC bytes) →
              randomMAC bytes' = randomMAC bytes := by
  have hmade : World.RunnerMade w := hworld.invariant World.RunnerMade
    (fun _ _ _ hinv _ h => hinv.step h) (.start cfg c)
  have hposted : World.TraceInv w ∧ World.PostedInv w := hworld.invariant
    (fun w => World.TraceInv w ∧ World.PostedInv w)
    (fun _ _ _ hinv _ h => ⟨hinv.1.step h, hinv.2.step hinv.1 h⟩) ⟨.start cfg c, .start cfg hsecrets⟩
  obtain ⟨uid, rfl⟩ := hmade.created hcreated
  obtain rfl : container = runnerContainer o cls := List.mem_singleton.mp hcontainer
  obtain ⟨hcommand, hready⟩ := command_runnerContainer ho hcls
  refine ⟨runOptions o cls, hcommand, rfl, fun probe hprobe => ⟨{}, hready probe hprobe, rfl⟩, ?_⟩
  intro files hmounts parseIP ls r hrun newer args past hstarted
  obtain ⟨bytes, dns, seed, hdrew, hlength, hran, hfiles, hargs⟩ :=
    started_of_mounts hmounts hsecret htext rfl hrun hstarted
  obtain ⟨b, header, request, harrived, rfl⟩ := hposted.2.stored hsecret htext
  refine ⟨b, header, request, bytes, dns, seed, harrived, hdrew, hlength, hran, hfiles, hargs, ?_⟩
  intro bytes' hid
  unfold randomMAC at hid ⊢
  rw [metaData_hardwareAddr_inj hid]

/-! ## A PodSandbox whose runner boots -/

namespace Sample

/-- A class is made, a createSandbox call stores its PodSandbox and a Reconcile call creates the runner. -/
def runnerMade : List Label :=
  [.createClass "kata" jumboClass.spec { uid := 1 }, Sample.arrive 1 request] ++
    Sample.createSteps 1 1 ++ Sample.reconcileSteps 2 1

/-- The files of the runner container. -/
def mounted : AList fun _ : String => String :=
  (∅ : AList fun _ : String => String).insert "/var/lib/podvm/config/userdata" "cloud-config"

def bootOptions : Options := runOptions (Job.of access request).sandbox jumboClass

theorem mounts_mounted {c : Cluster} {o : PodSandbox} {cls : PodSandboxClass} {uid : Nat}
    {secret : Secret} (hsecret : c.secrets.get ⟨o.metadata.ns, o.spec.userDataSecretRef.name⟩ = some secret)
    (hdata : secret.data.entries = [⟨userDataKey, "cloud-config"⟩]) :
    Mounts c (asCreated uid (controlledBy o (desiredRunner o cls))) (runnerContainer o cls) mounted := by
  intro mount hmount name hvolume secret' hsecret' key value hvalue
  have hvolumes : ⟨mount.name, .secret name⟩ ∈ runnerVolumes o cls := hvolume
  simp only [runnerVolumes, List.mem_cons, Volume.mk.injEq, reduceCtorEq, and_false,
    VolumeSource.secret.injEq, List.not_mem_nil, or_false, false_or] at hvolumes
  obtain ⟨hname, rfl⟩ := hvolumes
  obtain rfl : secret = secret' := Option.some.inj (hsecret.symm.trans hsecret')
  have hmem : ⟨key, value⟩ ∈ secret.data.entries := AList.mem_lookup_iff.mp hvalue
  rw [hdata] at hmem
  cases List.mem_singleton.mp hmem
  have hpath : mount.mountPath = "/var/lib/podvm/config" := by
    have hmounts : ∀ mount ∈ (runnerContainer o cls).volumeMounts, mount.name = volumeConfig →
        mount.mountPath = "/var/lib/podvm/config" := by
      simp only [runnerContainer]
      decide
    exact hmounts mount hmount hname
  rw [hpath]
  decide

theorem admitted_jumbo {spec : PodSandboxClassSpec} (h : spec.runnerImage = "runner" ∧
    spec.podVMImage = "podvm" ∧ spec.networkMTU = 9216 ∧ spec.memoryOverheadMiB = 0) : spec.Admitted := by
  obtain ⟨hrunner, hpodVM, hmtu, hoverhead⟩ := h
  refine ⟨?_, ?_, ?_, ?_⟩
  · rw [hrunner]
    decide
  · rw [hpodVM]
    decide
  · exact .inr (by rw [hmtu]; decide)
  · rw [hoverhead]
    decide

/-- The options of a runner with these capacities. -/
theorem runOptions_eq {o : PodSandbox} {cls : PodSandboxClass}
    (ho : o.spec = (Job.of access request).sandbox.spec) (hcls : cls.spec.networkMTU = 9216) :
    runOptions o cls = bootOptions := by
  unfold bootOptions runOptions networkMTU
  rw [ho, hcls]
  rfl

end Sample

def RunEvent.isStart : RunEvent → Bool
  | .started _ => true
  | _ => false

theorem RunEvent.isStart_eq_true {e : RunEvent} (h : e.isStart = true) : ∃ args, e = .started args := by
  unfold isStart at h
  split at h
  · exact ⟨_, rfl⟩
  · cases h

set_option maxRecDepth 100000 in
theorem sample_guest_boots_posted_userdata :
    ∃ w r, Run World.step (fun _ _ => True) (World.start Sample.cfg .empty) Sample.runnerMade w ∧
      Run (RunnerProcess.step (fun _ => true) Sample.bootOptions)
        (fun _ l => l.Spares Sample.bootOptions)
        (RunnerProcess.start Sample.bootOptions Sample.mounted) (Sample.untilStarted Sample.bootOptions) r ∧
      ∃ b header request seed, .arrived b header (.createSandbox (.ok request)) ∈ w.history ∧
        .ran Sample.bootOptions.seedCommand.1 seed ∈ r.history ∧
        seed.lookup (Sample.bootOptions.seedFile "user-data") = some request.userData := by
  have hworld : (checkRun World.step (fun _ _ => True) (World.start Sample.cfg .empty)
      Sample.runnerMade).any (fun w => ∃ e ∈ w.history, ∃ m ∈ e.runnerCreated,
        m.1.spec = (Job.of Sample.access Sample.request).sandbox.spec ∧
        (m.2.1.spec.runnerImage = "runner" ∧ m.2.1.spec.podVMImage = "podvm" ∧
          m.2.1.spec.networkMTU = 9216 ∧ m.2.1.spec.memoryOverheadMiB = 0) ∧
        ∃ secret ∈ w.cluster.secrets.get ⟨m.1.metadata.ns, m.1.spec.userDataSecretRef.name⟩,
          secret.data.entries = [⟨userDataKey, "cloud-config"⟩]) = true := by
    decide +kernel
  have hrunner : (checkRun (RunnerProcess.step (fun _ => true) Sample.bootOptions)
      (fun _ l => l.Spares Sample.bootOptions)
      (RunnerProcess.start Sample.bootOptions Sample.mounted)
      (Sample.untilStarted Sample.bootOptions)).any
        (fun r => ∃ e ∈ r.history, e.isStart = true) = true := by
    decide +kernel
  obtain ⟨w, hw, e, he, ⟨o, cls, p⟩, hm, hspec, hclass, secret, hsecret, hdata⟩ :=
    Run.exists_of_checkRun _ hworld
  obtain ⟨r, hr, e', he', hstart⟩ := Run.exists_of_checkRun _ hrunner
  obtain ⟨a, key, desired, rfl⟩ := Event.runnerCreated_eq_some hm
  obtain ⟨args, rfl⟩ := RunEvent.isStart_eq_true hstart
  obtain ⟨newer, past, hhistory⟩ := List.append_of_mem he'
  have hmade : World.RunnerMade w := hw.invariant World.RunnerMade
    (fun _ _ _ hinv _ h => hinv.step h) (.start _ _)
  obtain ⟨uid, rfl⟩ := hmade.created he
  have ho : o.spec.Admitted := by
    rw [show o.spec = _ from hspec]
    exact Sample.sandbox_admitted
  have hcls : cls.spec.Admitted := Sample.admitted_jumbo hclass
  have htext : secret.data.lookup userDataKey = some "cloud-config" := by
    rw [← Option.mem_def, AList.mem_lookup_iff, hdata]
    exact List.mem_singleton.mpr rfl
  obtain ⟨opts, hcommand, -, -, hboots⟩ := guest_boots_posted_userdata Sample.cfg .empty
    (fun _ _ h => (Option.some_ne_none _ h.symm).elim) _ w hw a key o cls desired _ he ho hcls secret
    "cloud-config" hsecret htext (runnerContainer o cls) (List.mem_singleton.mpr rfl)
  obtain rfl : Sample.bootOptions = opts := by
    rw [(command_runnerContainer ho hcls).1, Sample.runOptions_eq hspec hclass.2.2.1] at hcommand
    cases hcommand
    rfl
  obtain ⟨b, header, request, bytes, dns, seed, harrived, -, -, hran, hfiles, -, -⟩ :=
    hboots Sample.mounted (Sample.mounts_mounted hsecret hdata) _ _ r hr newer args past hhistory
  refine ⟨w, r, hw, hr, b, header, request, seed, harrived, ?_, hfiles.userData⟩
  rw [hhistory]
  exact List.mem_append_right _ (List.mem_cons_of_mem _ hran)

end SandboxProvider.Runner
