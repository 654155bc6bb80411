import SandboxProvider.System.Fleet
import SandboxProvider.Verify.GuestSeed
import SandboxProvider.Verify.RunnerPods

/-!
# A created sandbox is up

A 201 is answered when the status of the PodSandbox says Ready. That status was written from a Pod that the
kubelet reported as Ready, which goes back to a readiness probe in the container of that Pod, which goes
back to the hypervisor that `run` started there, from the Secret that the createSandbox call made. The
theorem at the end follows this chain through every interleaving of the requests, the Reconcile calls, the
kubelet and the runners.
-/

namespace SandboxProvider

open Lib Server Controller Runner

/-! ## The containers of runner Pods -/

namespace MadeFrom

variable {p : Pod} {o : PodSandbox} {cls : PodSandboxClass}

theorem containers (h : MadeFrom p o cls) : p.spec.containers = [runnerContainer o cls] :=
  congrArg PodSpec.containers h.spec

theorem volumes (h : MadeFrom p o cls) : p.spec.volumes = runnerVolumes o cls :=
  congrArg PodSpec.volumes h.spec

/-- The runner finds the user data where the kubelet mounts the Secret. -/
theorem userData (h : MadeFrom p o cls) {c : Cluster} {image files : AList fun _ : String => String}
    (hfiles : p.files c (runnerContainer o cls) image = some files) :
    ∃ secret, c.secrets.get ⟨p.metadata.ns, o.spec.userDataSecretRef.name⟩ = some secret ∧
      ∀ text, secret.data.lookup userDataKey = some text →
        files.lookup (FilePath.join "/var/lib/podvm/config" userDataKey) = some text := by
  unfold Pod.files at hfiles
  rw [h.volumes] at hfiles
  -- the config volume is the only Secret among the volumes
  have hmount : mountSecrets c p.metadata.ns (runnerVolumes o cls) (runnerContainer o cls).volumeMounts
      image = (c.secrets.get ⟨p.metadata.ns, o.spec.userDataSecretRef.name⟩).bind fun secret =>
        some (mountAt "/var/lib/podvm/config" secret.data.entries image) := rfl
  rw [hmount] at hfiles
  obtain ⟨secret, hsecret, heq⟩ := Option.bind_eq_some_iff.mp hfiles
  cases heq
  exact ⟨secret, hsecret, fun text htext => lookup_mountAt _ (by decide) htext image⟩

end MadeFrom

/-- Where a runner that started looks for its files. -/
theorem paths_of_command {o : PodSandbox} {cls : PodSandboxClass} {opts : Runner.Options}
    (h : command ("/runner" :: (runnerContainer o cls).args) = .ok (.run opts)) :
    opts.configDir = "/var/lib/podvm/config" ∧ opts.stateDir = "/run/pod-sandbox" := by
  have hargs : (runnerContainer o cls).args = "run" :: (runnerArgs o cls).tail := rfl
  rw [hargs, command, if_pos rfl] at h
  have hparse : parseRunOptions (runnerArgs o cls).tail = .ok opts := by
    cases hp : parseRunOptions (runnerArgs o cls).tail with
    | error err =>
      rw [hp] at h
      cases h
    | ok opts' =>
      rw [hp] at h
      cases h
      rfl
  obtain ⟨_, hcpus, hparse⟩ := set_of_parseFlags_equals cpusFlag flagName_cpus rfl hparse
  obtain ⟨_, hmemory, hparse⟩ := set_of_parseFlags_equals memoryFlag flagName_memory rfl hparse
  obtain ⟨_, hmtu, hparse⟩ := set_of_parseFlags_equals networkMTUFlag flagName_networkMTU rfl hparse
  obtain ⟨cpus, rfl⟩ := eq_of_set_intVar hcpus
  obtain ⟨memory, rfl⟩ := eq_of_set_intVar hmemory
  obtain ⟨mtu, rfl⟩ := eq_of_set_intVar hmtu
  cases hparse
  exact ⟨rfl, rfl⟩

theorem separateSeed_of_paths {opts : Runner.Options}
    (h : opts.configDir = "/var/lib/podvm/config" ∧ opts.stateDir = "/run/pod-sandbox") :
    opts.SeparateSeed := by
  obtain ⟨hconfig, hstate⟩ := h
  unfold Runner.Options.SeparateSeed Runner.Options.userDataPath Runner.Options.seedFile
    Runner.Options.seedDir
  rw [hconfig, hstate]
  decide

/-- A hypervisor that is there was started. -/
def Runner.RunnerProcess.Launched (r : RunnerProcess) : Prop :=
  r.vm ≠ .absent → ∃ args, .started args ∈ r.history

theorem Runner.RunnerProcess.Launched.step {opts : Runner.Options} {r r' : RunnerProcess}
    (hinv : r.Launched) {l : RunnerLabel} (h : RunnerProcess.Moves opts r l r') : r'.Launched := by
  have hcons {e : RunEvent} (hvm : r.vm ≠ .absent) : ∃ args, .started args ∈ e :: r.history := by
    obtain ⟨args, hargs⟩ := hinv hvm
    exact ⟨args, List.mem_cons_of_mem _ hargs⟩
  cases h with
  | run h =>
    cases h with
    | started h => exact fun _ => ⟨_, List.mem_cons_self⟩
    | command h => exact hcons
    | drew h hbytes => exact hcons
    | read h hread => exact hcons
    | agentProxy h => exact hcons
    | httpProxy h => exact hcons
    | signalled h => exact hcons
    | shutdown h => exact hcons
    | killed h => exact hcons
    | pass h => exact hinv
    | write h => exact hinv
    | failed h => exact hinv
    | exited h hvm => exact hinv
    | expired h htime => exact hinv
    | httpProxyClosed h => exact hinv
    | agentProxyClosed h => exact hinv
  | exit h =>
    intro _
    exact hinv (by rw [h]; decide)
  | signal => exact hinv
  | elapse => exact hinv
  | update => exact hinv

/-! ## What is known of a container -/

/-- The container runs, or ran, `run` from the user data of its PodSandbox. -/
structure RunnerContainer.Faithful (w : World) (r : RunnerContainer) : Prop where
  known : r.pod.metadata.uid < w.cluster.pods.nextUid
  inv : RunnerProcess.Inv r.opts r.process
  launched : r.process.Launched
  separate : r.opts.SeparateSeed
  fed : ∀ {k p x}, w.cluster.pods.get k = some p → p.metadata.uid = r.pod.metadata.uid →
    w.cluster.sandboxes.get k = some x →
    ∃ text, w.UserData x text ∧ KeepsUserData r.opts text r.process

namespace RunnerContainer.Faithful

variable {w w' : World} {r : RunnerContainer} {classes : Table NamespacedName PodSandboxClass}

/-- The world takes a step. -/
theorem world (h : r.Faithful w) {l : Label} (hmove : World.PodsMove w w'.cluster.pods l)
    (hagreement : World.AgreementInv w) (hok : w.NoLeftovers l) (hstep : w.step l = some w') :
    r.Faithful w' where
  known := Nat.lt_of_lt_of_le h.known hmove.nextUid_le
  inv := h.inv
  launched := h.launched
  separate := h.separate
  fed {k p x} hp huid hx := by
    obtain ⟨old, hold, hsame, -⟩ | ⟨hnew, -⟩ := hmove.of_get hp
    · obtain ⟨before, hbefore, hinc⟩ :=
        World.stored_before hok hstep (World.IncarnationInv.not_nameFree_of_pod hold) hx
      obtain ⟨text, htext, hkeeps⟩ := h.fed hold (hsame.trans huid) hbefore
      exact ⟨text, htext.step hagreement hstep hbefore hinc, hkeeps⟩
    · have := h.known
      omega

/-- `run` takes a step. -/
theorem run (h : r.Faithful w) {l : RunnerLabel} (hok : l.Spares r.opts) {process : RunnerProcess}
    (hmove : RunnerProcess.Moves r.opts r.process l process) :
    ({ r with process := process } : RunnerContainer).Faithful w where
  known := h.known
  inv := h.inv.step hok.1 hmove
  launched := h.launched.step hmove
  separate := h.separate
  fed hp huid hx := by
    obtain ⟨text, htext, hkeeps⟩ := h.fed hp huid hx
    exact ⟨text, htext, hkeeps.step h.separate hok hmove⟩

theorem probed (h : r.Faithful w) (ready : Bool) :
    ({ r with ready := ready } : RunnerContainer).Faithful w :=
  ⟨h.known, h.inv, h.launched, h.separate, h.fed⟩

/-- A hypervisor that runs was started from the user data of the PodSandbox. -/
theorem seeded (h : r.Faithful w) (hvm : r.process.vm = .running) {k : NamespacedName} {p : Pod}
    {x : PodSandbox} (hp : w.cluster.pods.get k = some p)
    (huid : r.pod.metadata.uid = p.metadata.uid) (hx : w.cluster.sandboxes.get k = some x)
    {text : String} (htext : w.UserData x text) :
    ∃ newer args past, r.process.history = newer ++ .started args :: past ∧
      SeededFrom r.opts text args past := by
  obtain ⟨args, hargs⟩ := h.launched (by rw [hvm]; decide)
  obtain ⟨newer, past, hhistory⟩ := List.append_of_mem hargs
  obtain ⟨text', htext', hkeeps⟩ := h.fed hp huid.symm hx
  obtain rfl := htext.eq htext'
  exact ⟨newer, args, past, hhistory, hkeeps.seededFrom h.inv hhistory⟩

/-- The kubelet starts the container. -/
theorem launch (hrunner : World.RunnerInv classes w) (hagreement : World.AgreementInv w)
    {key : NamespacedName} {pod : Pod} {image files : AList fun _ : String => String}
    (hpod : w.cluster.pods.get key = some pod) (hr : r.pod = pod)
    (hfiles : pod.files w.cluster r.container image = some files)
    (hprocess : r.process = .start r.opts files) : r.Faithful w := by
  subst hr
  obtain ⟨o, cls, hmade, -, hagrees⟩ := hrunner.incarnation.made hpod
  have hcontainer : r.container = runnerContainer o cls := by
    have hmem := r.mem
    rw [hmade.containers] at hmem
    exact List.mem_singleton.mp hmem
  have hpaths : r.opts.configDir = "/var/lib/podvm/config" ∧ r.opts.stateDir = "/run/pod-sandbox" := by
    have hruns := r.runs
    rw [hcontainer] at hruns
    exact paths_of_command hruns
  refine {
    known := Table.uid_lt hpod
    inv := by rw [hprocess]; exact .start _ files
    launched := ?_
    separate := separateSeed_of_paths hpaths
    fed := ?_ }
  · rw [hprocess]
    exact fun hvm => absurd rfl hvm
  · intro k p x hp huid hx
    obtain rfl : key = k := Table.eq_of_uid hpod hp huid.symm
    have hsame := hagrees.stored hx
    have hprov := hagreement.secrets.provided hx (hagreement.stored hx)
    obtain ⟨secret, hsecret, hlookup⟩ := hmade.userData (by rw [← hcontainer]; exact hfiles)
    obtain ⟨secret', hsecret', hdata⟩ := hprov.hasUserdata
    have hns : r.pod.metadata.ns = x.metadata.ns :=
      congrArg NamespacedName.ns (hmade.key.trans hsame.key)
    rw [hns, hsame.spec] at hsecret
    obtain rfl : secret = secret' := Option.some.inj (hsecret.symm.trans hsecret')
    obtain ⟨text, htext⟩ := Option.isSome_iff_exists.mp hdata
    refine ⟨text, ⟨secret, hsecret, htext⟩, ?_, ?_⟩
    · rw [hprocess, Runner.Options.userDataPath, hpaths.1]
      exact hlookup text htext
    · intro content hread
      rw [hprocess] at hread
      cases hread

end RunnerContainer.Faithful

/-! ## The system -/

namespace Fleet

/-- A readiness probe in the container of this Pod succeeded. -/
def Checked (f : Fleet) (uid : Nat) : Prop := ∃ check ∈ f.checks, check.runner.pod.metadata.uid = uid

/-- The kubelet reports a Pod as Ready only when the last readiness probe in its container succeeded. -/
def ReportsChecked (f : Fleet) (l : Label) : Prop :=
  ∀ k ∈ l.reportsReady, ∀ p ∈ f.world.cluster.pods.get k,
    ∃ r ∈ f.containers.lookup p.metadata.uid, r.ready = true

/-- The runs without leftovers (and so without changes of a class or writes of a status by others) and with
one user data for each sandbox, in which the kubelet keeps to the readiness probe and nobody but the
runner writes the files of its seed. -/
def Sound (f : Fleet) : FleetLabel → Prop
  | .world l => f.world.NoLeftovers l ∧ f.world.SameUserdata l ∧ f.ReportsChecked l
  | .runner uid l => ∀ r ∈ f.containers.lookup uid, l.Spares r.opts
  | .launch .. | .probe .. => True

instance (f : Fleet) (l : Label) : Decidable (f.ReportsChecked l) :=
  inferInstanceAs (Decidable (∀ k ∈ l.reportsReady, ∀ p ∈ f.world.cluster.pods.get k,
    ∃ r ∈ f.containers.lookup p.metadata.uid, r.ready = true))

instance (f : Fleet) : (l : FleetLabel) → Decidable (f.Sound l)
  | .world l => inferInstanceAs (Decidable (f.world.NoLeftovers l ∧ f.world.SameUserdata l ∧
      f.ReportsChecked l))
  | .runner uid l => inferInstanceAs (Decidable (∀ r ∈ f.containers.lookup uid, l.Spares r.opts))
  | .launch .. | .probe .. => inferInstanceAs (Decidable True)

structure Inv (classes : Table NamespacedName PodSandboxClass) (f : Fleet) : Prop where
  trace : World.TraceInv f.world
  runner : World.RunnerInv classes f.world
  made : World.RunnerMade f.world
  agreement : World.AgreementInv f.world
  status : World.StatusInv f.Checked f.world
  container : ∀ {uid r}, f.containers.lookup uid = some r →
    r.pod.metadata.uid = uid ∧ r.Faithful f.world ∧ (r.ready = true → f.Checked uid)
  check : ∀ {check}, check ∈ f.checks → check.runner.Faithful f.world

namespace Inv

variable {classes : Table NamespacedName PodSandboxClass} {f f' : Fleet}

theorem start (cfg : Config) {c : Cluster} (hpods : ∀ k, c.pods.get k = none)
    (hsandboxes : ∀ k, c.sandboxes.get k = none) :
    Inv c.classes { world := World.start cfg c } where
  trace := .start cfg c
  runner := .start cfg hpods fun k o ho => by rw [hsandboxes k] at ho; cases ho
  made := .start cfg c
  agreement := .start cfg c hsandboxes
  status := .start cfg hpods hsandboxes
  container h := by cases h
  check h := by cases h

/-- A container is replaced by another version of itself. -/
theorem put (hinv : Inv classes f) {uid : Nat} {r : RunnerContainer} (huid : r.pod.metadata.uid = uid)
    (hfaithful : r.Faithful f.world) (hready : r.ready = true → f.Checked uid) :
    Inv classes (f.put uid r) where
  trace := hinv.trace
  runner := hinv.runner
  made := hinv.made
  agreement := hinv.agreement
  status := hinv.status
  container {uid' r'} h := by
    simp only [Fleet.put, lookup_insert_ite] at h
    split at h
    · rename_i heq
      cases h
      rw [heq]
      exact ⟨huid, hfaithful, hready⟩
    · exact hinv.container h
  check := hinv.check

/-- A readiness probe succeeds. -/
theorem passed (hinv : Inv classes f) {check : Check} (hfaithful : check.runner.Faithful f.world) :
    Inv classes { f with checks := check :: f.checks } := by
  have hmono (uid : Nat) (h : f.Checked uid) :
      ({ f with checks := check :: f.checks } : Fleet).Checked uid := by
    obtain ⟨c, hc, huid⟩ := h
    exact ⟨c, List.mem_cons_of_mem _ hc, huid⟩
  refine {
    trace := hinv.trace
    runner := hinv.runner
    made := hinv.made
    agreement := hinv.agreement
    status := hinv.status.mono hmono
    container := fun {uid r} hr => ?_
    check := fun {c} hc => ?_ }
  · obtain ⟨huid, hr', hready⟩ := hinv.container hr
    exact ⟨huid, hr', fun htrue => hmono uid (hready htrue)⟩
  · rcases List.mem_cons.mp hc with rfl | hc
    · exact hfaithful
    · exact hinv.check hc

theorem step (hinv : Inv classes f) {l : FleetLabel} (hok : f.Sound l) (h : Moves f l f') :
    Inv classes f' := by
  cases h with
  | world h =>
    obtain ⟨hleft, hsame, hreports⟩ := hok
    have hmove := World.podsMove hinv.runner hinv.made hleft h
    refine {
      trace := hinv.trace.step h
      runner := hinv.runner.step hleft h
      made := hinv.made.step h
      agreement := hinv.agreement.step hsame h
      status := hinv.status.step hinv.runner hinv.made hleft (fun k hk p hp => ?_) h
      container := fun hr => ?_
      check := fun hcheck => (hinv.check hcheck).world hmove hinv.agreement hleft h }
    · obtain ⟨r, hr, hready⟩ := hreports k hk p hp
      exact (hinv.container hr).2.2 hready
    · obtain ⟨huid, hfaithful, hready⟩ := hinv.container hr
      exact ⟨huid, hfaithful.world hmove hinv.agreement hleft h, hready⟩
  | launch hpod hnew hr hready hfiles hprocess =>
    refine hinv.put (by rw [hr]) (.launch hinv.runner hinv.agreement hpod hr hfiles hprocess) ?_
    intro htrue
    rw [hready] at htrue
    cases htrue
  | runner hr h =>
    obtain ⟨huid, hfaithful, hready⟩ := hinv.container hr
    exact hinv.put huid (hfaithful.run (hok _ hr) h) hready
  | failed hr =>
    obtain ⟨huid, hfaithful, -⟩ := hinv.container hr
    exact hinv.put huid (hfaithful.probed false) (fun htrue => by cases htrue)
  | passed hr hanswers hpassed =>
    obtain ⟨huid, hfaithful, -⟩ := hinv.container hr
    have hchecked := hinv.passed
      (show (Check.mk _ _ _ hanswers hpassed).runner.Faithful f.world from hfaithful)
    exact hchecked.put huid (hfaithful.probed true) fun _ => ⟨_, List.mem_cons_self, huid⟩

end Inv

/-! ## Answers -/

/-- When a 201 was answered from this cluster, the PodSandbox was that of a guest that was up. -/
structure Up (w : World) (checks : List Check) (c : Cluster) (response : SandboxResponse)
    (key : NamespacedName) (userData : String) (o : PodSandbox) (p : Pod) (check : Check) : Prop where
  sandbox : c.sandboxes.get key = some o
  pod : c.pods.get key = some p
  own : RunsFor p o.metadata.uid
  ips : response.ips = o.status.ips
  address : ∀ ip ∈ response.ips, w.Observed p.metadata.uid ip
  mem : check ∈ checks
  checked : check.runner.pod.metadata.uid = p.metadata.uid
  booted : ∃ newer args past, check.runner.process.history = newer ++ .started args :: past ∧
    SeededFrom check.runner.opts userData args past

/-- Every 201 was answered for a guest that was up, with the user data of its request. -/
def AnswersUp (f : Fleet) : Prop :=
  ∀ a s response c, .answered a (.serve (.create s)) (.created response) c ∈ f.world.history →
    ∃ job o p check, s.job = some job ∧
      Up f.world f.checks c response job.key job.request.userData o p check

/-- The polling loop sees a PodSandbox that is Ready. -/
theorem Inv.up {classes : Table NamespacedName PodSandboxClass} {f : Fleet} (hinv : Inv classes f)
    (response : SandboxResponse) {a : Nat} {s : CreateState} {job : Job} {o : PodSandbox}
    (ha : f.world.Creating a s)
    (hchecked : s.checked = some job) (hget : f.world.cluster.sandboxes.get job.key = some o)
    (hready : isReady o) (hips : response.ips = o.status.ips) :
    ∃ p check, Up f.world f.checks f.world.cluster response job.key job.request.userData o p check := by
  have hcond := (Bool.and_eq_true_iff.mp hready).1
  obtain ⟨p, hp, check, hmem, huid⟩ := hinv.status.ready hget hcond
  refine ⟨p, check, {
    sandbox := hget
    pod := hp
    own := hinv.runner.runsFor hp hget
    ips := hips
    address := fun ip hip => ?_
    mem := hmem
    checked := huid
    booted := (hinv.check hmem).seeded check.asked.1 hp huid hget
      (.of_checked hinv.agreement ha hchecked hget) }⟩
  rw [hips] at hip
  obtain ⟨p', hp', hobserved⟩ := hinv.status.address hget hip
  obtain rfl : p = p' := Option.some.inj (hp.symm.trans hp')
  exact hobserved

theorem AnswersUp.step {classes : Table NamespacedName PodSandboxClass} {f f' : Fleet}
    (hans : f.AnswersUp) (hinv : Inv classes f) {l : FleetLabel} (h : Moves f l f') : f'.AnswersUp := by
  cases h with
  | @world l w h =>
    intro a s response c he
    have hworld {c : Cluster} {job : Job} {o : PodSandbox} {p : Pod} {check : Check}
        (hup : Up f.world f.checks c response job.key job.request.userData o p check) :
        Up w f.checks c response job.key job.request.userData o p check :=
      { hup with address := fun ip hip => (hup.address ip hip).step h }
    have hold (he : .answered a (.serve (.create s)) (.created response) c ∈ f.world.history) :
        ∃ job o p check, s.job = some job ∧
          Up w f.checks c response job.key job.request.userData o p check := by
      obtain ⟨job, o, p, check, hjob, hup⟩ := hans a s response c he
      exact ⟨job, o, p, check, hjob, hworld hup⟩
    cases World.createStep h with
    | @own b _ ctxErr _ _ _ out hp hmove =>
      obtain ⟨reply, ⟨hnone, hreply⟩, heq⟩ | he | he := (World.mem_history_advance hmove).mp he
      · cases heq
        obtain ⟨job, before, here, o, rfl, hget, hready, rfl, rfl, rfl, -⟩ := hmove.answers hnone hreply
        obtain ⟨p, check, hup⟩ := hinv.up
          ⟨o.metadata.name, job.request.workloadRef.name, o.status.ips⟩ ⟨ctxErr, hp⟩ rfl hget hready rfl
        exact ⟨job, o, p, check, rfl, hworld hup⟩
      · cases out <;> simp [callEvents] at he
      · exact hold he
    | foreign hforeign => exact hold (hforeign.mem_history (Option.some_ne_none s) he)
  | launch => exact hans
  | runner => exact hans
  | failed => exact hans
  | passed =>
    intro a s response c he
    obtain ⟨job, o, p, check, hjob, hup⟩ := hans a s response c he
    exact ⟨job, o, p, check, hjob, { hup with mem := List.mem_cons_of_mem _ hup.mem }⟩

/-- **A created sandbox is up.** In every run from a cluster without PodSandboxes and Pods in which names
are free when a PodSandbox is stored, calls for one sandbox agree on the user data, no class changes,
nobody but Reconcile writes a status, the kubelet reports a Pod as Ready only when the last readiness
probe in its container succeeded, and nobody but the runner writes the files of its seed: when a
createSandbox request is answered with 201, the Pod under the name of the sandbox is controlled by the
PodSandbox and is not being deleted, the addresses in the answer are those that Reconcile saw for this
very Pod, and a readiness probe had succeeded in its container. At that time the hypervisor answered 200
on the socket that `run` gave it and the guest's forwarder accepted a connection; and `run` had started
this hypervisor from a seed with the user data of this request. -/
theorem created_sandbox_is_up (parseIP : String → Bool) (cfg : Config) (c : Cluster)
    (hpods : ∀ k, c.pods.get k = none) (hsandboxes : ∀ k, c.sandboxes.get k = none)
    (ls : List FleetLabel) (f : Fleet)
    (hrun : Run (Fleet.step parseIP) Fleet.Sound { world := World.start cfg c } ls f)
    (a : Nat) (s : CreateState) (response : SandboxResponse) (at_ : Cluster)
    (h : .answered a (.serve (.create s)) (.created response) at_ ∈ f.world.history) :
    ∃ header request access o p check,
      .arrived a header (.createSandbox (.ok request)) ∈ f.world.history ∧
      .authorized a access ∈ f.world.history ∧
      at_.sandboxes.get ⟨access.ns, sandboxName request.sandboxID⟩ = some o ∧
      at_.pods.get ⟨access.ns, sandboxName request.sandboxID⟩ = some p ∧
      RunsFor p o.metadata.uid ∧ (∀ ip ∈ response.ips, f.world.Observed p.metadata.uid ip) ∧
      check ∈ f.checks ∧ check.runner.pod.metadata.uid = p.metadata.uid ∧
      check.runner.process.vm = .running ∧ check.runner.probed = some check.runner.opts.socket ∧
      (∃ status, check.info = .ok (200, status)) ∧ check.dial = .ok none ∧
      ∃ newer args past, check.runner.process.history = newer ++ .started args :: past ∧
        SeededFrom check.runner.opts request.userData args past := by
  obtain ⟨hinv, hans⟩ : Inv c.classes f ∧ f.AnswersUp :=
    hrun.invariant (fun f => Inv c.classes f ∧ f.AnswersUp)
      (fun _ _ _ hinv hok hstep =>
        ⟨hinv.1.step hok (moves hstep), hinv.2.step hinv.1 (moves hstep)⟩)
      ⟨.start cfg hpods hsandboxes, fun _ _ _ _ h => (nomatch h)⟩
  obtain ⟨job, o, p, check, hjob, hup⟩ := hans a s response at_ h
  obtain ⟨⟨header, route, harrived, hfollows⟩, haccess⟩ := hinv.trace.answer h
  obtain ⟨request, rfl, hof⟩ := CreateState.Follows.job hfollows hjob
  have hkey : job.key = ⟨job.access.ns, sandboxName request.sandboxID⟩ := by
    rw [hof]
    rfl
  have htext : job.request.userData = request.userData := by
    rw [hof]
    rfl
  obtain ⟨hinfo, hdial⟩ := readyCheck_eq_ok.mp check.passed
  refine ⟨header, request, job.access, o, p, check, harrived,
    haccess _ (CreateState.access_of_job hjob), ?_, ?_, hup.own, hup.address, hup.mem, hup.checked,
    check.asked.1, check.asked.2, hinfo, hdial, ?_⟩
  · rw [← hkey]
    exact hup.sandbox
  · rw [← hkey]
    exact hup.pod
  · rw [← htext]
    exact hup.booted

end Fleet

namespace Sample

/-- A sandbox is created, its runner boots, the probe succeeds, and the Pod is reported as Ready. -/
def boot : List FleetLabel :=
  List.flatten [
    ([arrive 1 request] ++ createSteps 1 1 ++ reconcileSteps 2 1).map .world,
    [.launch key ∅],
    (Runner.Sample.untilStarted Runner.Sample.bootOptions).map (.runner 1),
    [.probe 1 (.ok (200, "200 OK")) (.ok none),
      .world (.kubelet key "node" (running "10.0.0.1")), .world (.run 2 {}), .world (.run 2 {}),
      .world (.run 1 {})]]

end Sample

set_option maxRecDepth 100000 in
theorem Fleet.booted_sandbox_is_up :
    ∃ f, Run (Fleet.step fun _ => true) Fleet.Sound
        { world := World.start Sample.cfg Sample.oneClass } Sample.boot f ∧
      ∃ s response at_, .answered 1 (.serve (.create s)) (.created response) at_ ∈ f.world.history ∧
        ∃ header request check, .arrived 1 header (.createSandbox (.ok request)) ∈ f.world.history ∧
          check ∈ f.checks ∧ check.runner.process.vm = .running ∧
          ∃ newer args past, check.runner.process.history = newer ++ .started args :: past ∧
            SeededFrom check.runner.opts request.userData args past := by
  have hcheck : (checkRun (Fleet.step fun _ => true) Fleet.Sound
      { world := World.start Sample.cfg Sample.oneClass } Sample.boot).any
        (fun f => ∃ e ∈ f.world.history, (e.createdReply 1).isSome = true) = true := by
    decide +kernel
  obtain ⟨f, hrun, e, he, hsome⟩ := Run.exists_of_checkRun _ hcheck
  obtain ⟨⟨s, response, at_⟩, hreply⟩ := Option.isSome_iff_exists.mp hsome
  rw [Event.createdReply_eq_some hreply] at he
  obtain ⟨header, request, access, o, p, check, harrived, -, -, -, -, -, hmem, -, hvm, -, -, -, hbooted⟩ :=
    Fleet.created_sandbox_is_up _ _ _ (fun _ => rfl) (fun _ => rfl) _ _ hrun 1 s response at_ he
  exact ⟨f, hrun, s, response, at_, he, header, request, check, harrived, hmem, hvm, hbooted⟩

end SandboxProvider
