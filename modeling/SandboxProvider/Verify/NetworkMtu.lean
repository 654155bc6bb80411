import SandboxProvider.Plugin.CreateInstance
import SandboxProvider.System.Reconciling
import SandboxProvider.System.Reporting
import SandboxProvider.System.Serving

/-!
# The MTU of the guest and of its runner

A plugin caps the MTU in the user data once, with the MTU that the class has when `Config` is asked;
the runner gets the MTU that the class has when Reconcile reads it. In every run of a deployment the
MTU in the user data that a runner mounts is at most the MTU reported to the `CreateInstance` call
that generated it, whatever happened to the class since.
-/

namespace SandboxProvider

open Lib Server Controller

/-- Another client posts a sandbox. -/
def Label.posts : Label → Bool
  | .arrive _ _ (.createSandbox _) => true
  | _ => false

/-! ## The Pods that Reconcile creates -/

namespace World

/-- A Reconcile call creates the runner of the PodSandbox and the class that it read. -/
structure RunnerMade (w : World) : Prop where
  desired : ∀ {a key o cls desired}, w.Reconciling a (.createRunner key o cls desired) →
    desired = controlledBy o (desiredRunner o cls)
  created : ∀ {a key o cls desired p},
    .wrote a (.reconcile (.createRunner key o cls desired)) (.createPod p) ∈ w.history →
    ∃ uid, p = asCreated uid (controlledBy o (desiredRunner o cls))

namespace RunnerMade

variable {w w' : World}

theorem start (cfg : Config) (c : Cluster) : RunnerMade (World.start cfg c) where
  desired h := by
    obtain ⟨_, h⟩ := h
    cases h
  created h := by cases h

theorem step {l : Label} (hinv : RunnerMade w) (h : w.step l = some w') : RunnerMade w' := by
  cases controlStep h with
  | outside hout =>
    refine ⟨fun ha => ?_, fun he => hinv.created (hout.wrote_mem he)⟩
    obtain ha | hs := hout.reconciling ha
    · exact hinv.desired ha
    · cases hs
  | @own a env ctxErr s s' c' out hp hmove =>
    refine ⟨fun {b key o cls d} hb => ?_, fun {b key o cls d p} he => ?_⟩
    · obtain ⟨-, rfl⟩ | ⟨-, hb⟩ := reconciling_advance.mp hb
      · -- the only way into this state is from the Secret, with the runner just computed
        generalize ht : ReconcileState.createRunner key o cls d = t at hmove
        cases hmove
        case secretRead hown =>
          cases ht
          exact setControllerReference_eq_ok hown
        case runnerRead k x y e runner _ =>
          obtain ⟨-, he⟩ | ⟨_, _, he⟩ | ⟨-, he⟩ := inspectRunner_cases env.now k x y e runner <;>
            rw [he] at ht <;> cases ht
        all_goals cases ht
      · exact hinv.desired hb
    · obtain ⟨rfl, hw⟩ | he := wrote_mem_advance he
      · cases hmove with
        | runnerFailed => cases hw
        | runnerExists => cases hw
        | runnerStored =>
          cases List.mem_singleton.mp hw
          exact ⟨env.uid, by rw [hinv.desired ⟨ctxErr, hp⟩]⟩
      · exact hinv.created he

end RunnerMade

end World

namespace Plugin

/-! ## Deployments -/

/-- The forwarder configs of the arguments have an integer MTU, of 64 bits. -/
def Generator.IntegerMTU (rt : Runtime) : Generator → Prop
  | .other _ => False
  | .cloudConfig config => ∀ file ∈ config.writeFiles,
    file.path = agentProtocolForwarderConfigPath → ∀ mtu ∈ rt.forwarderMTU file.content,
      mtu.den = 1 ∧ -2 ^ 63 ≤ mtu.num ∧ mtu.num < 2 ^ 63

instance (rt : Runtime) : (generator : Generator) → Decidable (generator.IntegerMTU rt)
  | .other _ => inferInstanceAs (Decidable False)
  | .cloudConfig config => inferInstanceAs (Decidable (∀ file ∈ config.writeFiles,
      file.path = agentProtocolForwarderConfigPath → ∀ mtu ∈ rt.forwarderMTU file.content,
        mtu.den = 1 ∧ -2 ^ 63 ≤ mtu.num ∧ mtu.num < 2 ^ 63))

/-- Sandboxes are posted by plugins only, for cloud-configs with an integer MTU, and classes have a
valid MTU. -/
def Action.Admitted (rt : Runtime) : Action → Prop
  | .world l => l.ValidMTU ∧ ¬ l.posts
  | .createInstance _ _ input => input.cloudConfig.IntegerMTU rt
  | .receive .. | .fail .. => True

instance (rt : Runtime) : (action : Action) → Decidable (action.Admitted rt)
  | .world l => inferInstanceAs (Decidable (l.ValidMTU ∧ ¬ l.posts))
  | .createInstance _ _ input => inferInstanceAs (Decidable (input.cloudConfig.IntegerMTU rt))
  | .receive .. | .fail .. => inferInstanceAs (Decidable True)

section Step

variable {rt : Runtime} {d d' : Deployment}

/-- The steps of a deployment. -/
inductive DeploymentMove (rt : Runtime) (d : Deployment) : Action → Deployment → Prop
  | world {l w} (h : d.world.step l = some w) : DeploymentMove rt d (.world l) { d with world := w }
  | returned {action i result err} :
      DeploymentMove rt d action (d.setInstance i (.returned result err))
  | asked {i a input w}
      (h : d.world.step (.arrive a input.config.authorization .getConfig) = some w) :
      DeploymentMove rt d (.createInstance i a input)
        { d with world := w, instances := d.instances.insert i (.config a input) }
  | posted {i a b refused input m userData body w}
      (hi : d.instances.lookup i = some (.config a input))
      (hreply : d.replyTo a = some (.config m))
      (huser : rt.generateUserData input.cloudConfig m = .ok userData)
      (hbody : ∀ request, body = .ok request → request.userData = userData)
      (h : d.world.step (.arrive b input.config.authorization (.createSandbox body)) = some w) :
      DeploymentMove rt d (.receive i b refused) {
        world := w
        instances := d.instances.insert i (.create b)
        generated := ⟨input, a, m, userData, b⟩ :: d.generated }

theorem afterConfig_eq_ok {input : InstanceRequest} {reply : Reply} {m : Int} {userData : String}
    (h : rt.afterConfig input reply = .ok (m, userData)) :
    configResult reply = .ok m ∧ rt.generateUserData input.cloudConfig m = .ok userData := by
  unfold Runtime.afterConfig at h
  split at h
  · cases h
  · rename_i networkMTU hconfig
    split at h
    · cases h
    · rename_i generated hgenerated
      cases h
      exact ⟨hconfig, hgenerated⟩

theorem post_eq_some {i a b : Nat} {refused : Option String} {input : InstanceRequest} {m : Int}
    {userData : String} (hi : d.instances.lookup i = some (.config a input))
    (hreply : d.replyTo a = some (.config m))
    (huser : rt.generateUserData input.cloudConfig m = .ok userData)
    (h : d.post rt i a b refused input m userData = some d') :
    DeploymentMove rt d (.receive i b refused) d' := by
  unfold Deployment.post at h
  obtain ⟨w, hw, rfl⟩ := Option.map_eq_some_iff.mp h
  refine .posted hi hreply huser (fun request hbody => ?_) hw
  cases refused with
  | none =>
    cases hbody
    rfl
  | some err => cases hbody

/-- A request for the configuration is not answered with anything else. -/
theorem config_reply {i a : Nat} {input : InstanceRequest} {reply : Reply} {m : Int}
    (hwait : ∀ {i a input}, d.instances.lookup i = some (.config a input) → d.world.Serving a .getConfig)
    (hi : d.instances.lookup i = some (.config a input)) (hreply : d.replyTo a = some reply)
    (hm : configResult reply = .ok m) : reply = .config m := by
  have hanswers : Route.Answers .getConfig reply := (hwait hi).reply hreply
  cases reply with
  | error => cases hm
  | config =>
    cases hm
    rfl
  | created =>
    obtain ⟨_, hroute, -⟩ := hanswers
    cases hroute
  | noContent =>
    obtain ⟨_, hroute⟩ := hanswers
    cases hroute

theorem Deployment.moves
    (hwait : ∀ {i a input}, d.instances.lookup i = some (.config a input) → d.world.Serving a .getConfig)
    {action : Action} (h : d.step rt action = some d') : DeploymentMove rt d action d' := by
  cases action with
  | world l =>
    obtain ⟨w, hw, rfl⟩ := Option.map_eq_some_iff.mp h
    exact .world hw
  | createInstance i a input =>
    unfold step at h
    dsimp only at h
    split at h
    · cases h
    · split at h
      · cases h
        exact .returned
      · obtain ⟨w, hw, rfl⟩ := Option.map_eq_some_iff.mp h
        exact .asked hw
  | receive i b refused =>
    unfold step at h
    dsimp only at h
    split at h
    · rename_i a input hi
      split at h
      · cases h
      · rename_i reply hreply
        split at h
        · cases h
          exact .returned
        · rename_i m userData hafter
          obtain ⟨hconfig, huser⟩ := afterConfig_eq_ok hafter
          rw [config_reply hwait hi hreply hconfig] at hreply
          exact post_eq_some hi hreply huser h
    · obtain ⟨reply, -, rfl⟩ := Option.map_eq_some_iff.mp h
      exact .returned
    · cases h
  | fail i err =>
    unfold step at h
    dsimp only at h
    split at h
    · cases h
      exact .returned
    · cases h
      exact .returned
    · cases h

end Step

/-! ## The invariant -/

/-- What holds of the world in a deployment. -/
structure WorldInv (w : World) : Prop where
  trace : w.TraceInv
  report : w.ReportInv
  posted : w.PostedInv
  made : w.RunnerMade

theorem WorldInv.step {w w' : World} {l : Label} (hinv : WorldInv w) (hl : l.ValidMTU)
    (h : w.step l = some w') : WorldInv w' where
  trace := hinv.trace.step h
  report := hinv.report.step hinv.trace hl h
  posted := hinv.posted.step hinv.trace h
  made := hinv.made.step h

/-- User data was generated with an MTU that was reported, from arguments with an integer MTU. -/
structure Generated.Sound (rt : Runtime) (w : World) (g : Generated) : Prop where
  reported : w.ReportedMTU g.a g.networkMTU
  userData : rt.generateUserData g.input.cloudConfig g.networkMTU = .ok g.userData
  integer : g.input.cloudConfig.IntegerMTU rt

structure DeploymentInv (rt : Runtime) (d : Deployment) : Prop where
  world : WorldInv d.world
  waiting : ∀ {i a input}, d.instances.lookup i = some (.config a input) →
    d.world.Serving a .getConfig ∧ input.cloudConfig.IntegerMTU rt
  arrived : ∀ {b header request},
    .arrived b header (.createSandbox (.ok request)) ∈ d.world.history →
    ∃ g ∈ d.generated, g.userData = request.userData
  generated : ∀ {g}, g ∈ d.generated → g.Sound rt d.world

namespace DeploymentInv

variable {rt : Runtime} {d d' : Deployment}

theorem start (rt : Runtime) (cfg : Server.Config) {c : Cluster}
    (hclasses : ∀ k cls, c.classes.get k = some cls → cls.spec.ValidMTU)
    (hsecrets : ∀ k secret, c.secrets.get k = some secret →
      secret.data.lookup userDataKey = none) : DeploymentInv rt (Deployment.start cfg c) where
  world := ⟨.start cfg c, .start cfg hclasses, .start cfg hsecrets, .start cfg c⟩
  waiting h := by cases h
  arrived h := by cases h
  generated h := by cases h

/-- What a step of the world keeps, whoever makes it. -/
private theorem sound_step {w w' : World} {l : Label} (h : w.step l = some w') {g : Generated}
    (hg : g.Sound rt w) : g.Sound rt w' := by
  obtain ⟨events, hhistory, -⟩ := World.step_history h
  refine ⟨hg.reported.mono fun e he => ?_, hg.userData, hg.integer⟩
  rw [hhistory]
  exact List.mem_append_right _ he

/-- A request that posts a sandbox is old, or this step's. -/
private theorem arrived_step {w w' : World} {l : Label} (h : w.step l = some w') {b : Nat}
    {header : String} {request : CreateSandboxRequest}
    (he : .arrived b header (.createSandbox (.ok request)) ∈ w'.history) :
    .arrived b header (.createSandbox (.ok request)) ∈ w.history ∨
      l = .arrive b header (.createSandbox (.ok request)) := by
  obtain ⟨events, hhistory, hnew⟩ := World.step_history h
  rw [hhistory] at he
  rcases List.mem_append.mp he with he | he
  · exact .inr (hnew he)
  · exact .inl he

private theorem world_step (hinv : DeploymentInv rt d) {l : Label} {w : World} (hl : l.ValidMTU)
    (hposts : ¬ l.posts) (h : d.world.step l = some w) :
    DeploymentInv rt { d with world := w } where
  world := hinv.world.step hl h
  waiting hi := ⟨(hinv.waiting hi).1.step h, (hinv.waiting hi).2⟩
  arrived he := by
    obtain he | rfl := arrived_step h he
    · exact hinv.arrived he
    · exact absurd rfl hposts
  generated hg := sound_step h (hinv.generated hg)

private theorem asked_step (hinv : DeploymentInv rt d) {i a : Nat} {input : InstanceRequest}
    {w : World} (hinput : input.cloudConfig.IntegerMTU rt)
    (h : d.world.step (.arrive a input.config.authorization .getConfig) = some w) :
    DeploymentInv rt
      { d with world := w, instances := d.instances.insert i (.config a input) } where
  world := hinv.world.step (by exact trivial) h
  waiting {j b x} hj := by
    simp only [lookup_insert_ite] at hj
    split at hj
    · cases hj
      exact ⟨World.serving_arrive h, hinput⟩
    · exact ⟨(hinv.waiting hj).1.step h, (hinv.waiting hj).2⟩
  arrived he := by
    obtain he | he := arrived_step h he
    · exact hinv.arrived he
    · cases he
  generated hg := sound_step h (hinv.generated hg)

private theorem posted_step (hinv : DeploymentInv rt d) {i a b : Nat} {input : InstanceRequest}
    {m : Int} {userData : String} {body : Except String CreateSandboxRequest} {w : World}
    (hi : d.instances.lookup i = some (.config a input))
    (hreply : d.replyTo a = some (.config m))
    (huser : rt.generateUserData input.cloudConfig m = .ok userData)
    (hbody : ∀ request, body = .ok request → request.userData = userData)
    (h : d.world.step (.arrive b input.config.authorization (.createSandbox body)) = some w) :
    DeploymentInv rt {
      world := w
      instances := d.instances.insert i (.create b)
      generated := ⟨input, a, m, userData, b⟩ :: d.generated } where
  world := hinv.world.step (by exact trivial) h
  waiting {j k x} hj := by
    simp only [lookup_insert_ite] at hj
    split at hj
    · cases hj
    · exact ⟨(hinv.waiting hj).1.step h, (hinv.waiting hj).2⟩
  arrived he := by
    obtain he | he := arrived_step h he
    · obtain ⟨g, hg, htext⟩ := hinv.arrived he
      exact ⟨g, List.mem_cons_of_mem _ hg, htext⟩
    · cases he
      exact ⟨_, List.mem_cons_self, (hbody _ rfl).symm⟩
  generated {g} hg := by
    rcases List.mem_cons.mp hg with rfl | hg
    · obtain ⟨p, hp, hstate⟩ := Option.bind_eq_some_iff.mp hreply
      exact sound_step h ⟨hinv.world.report.reply hp hstate, huser, (hinv.waiting hi).2⟩
    · exact sound_step h (hinv.generated hg)

theorem step (hinv : DeploymentInv rt d) {action : Action} (hok : action.Admitted rt)
    (h : d.step rt action = some d') : DeploymentInv rt d' := by
  cases Deployment.moves (fun hi => (hinv.waiting hi).1) h with
  | world hw => exact hinv.world_step hok.1 hok.2 hw
  | returned =>
    refine ⟨hinv.world, fun {j b x} hj => ?_, hinv.arrived, hinv.generated⟩
    simp only [Deployment.setInstance, lookup_insert_ite] at hj
    split at hj
    · cases hj
    · exact hinv.waiting hj
  | asked hw => exact hinv.asked_step hok hw
  | posted hi hreply huser hbody hw => exact hinv.posted_step hi hreply huser hbody hw

end DeploymentInv

/-- The MTU in generated user data is at most the one it was generated with. -/
theorem Generated.Sound.mtu_le {rt : Runtime} {readFiles : String → Option (List WriteFile)}
    {w : World} {g : Generated} (hg : g.Sound rt w) (law : rt.Lawful readFiles)
    {files : List WriteFile} (hread : readFiles g.userData = some files) {file : WriteFile}
    (hfile : file ∈ files) (hpath : file.path = agentProtocolForwarderConfigPath) {mtu : ℚ}
    (hmtu : rt.forwarderMTU file.content = some mtu) : mtu ≤ g.networkMTU := by
  obtain ⟨-, -, -, cls, -, -, -, hvalid, hm⟩ := hg.reported
  have hrange := reportedMTU_range hvalid
  rw [← hm] at hrange
  have hinteger := hg.integer
  have huser := hg.userData
  cases hgen : g.input.cloudConfig with
  | other generated =>
    rw [hgen] at hinteger
    exact hinteger.elim
  | cloudConfig config =>
    rw [hgen] at hinteger huser
    obtain ⟨original, horiginal, hpath', current, hcurrent, hcapped⟩ :=
      law.forwarderMTU_generateUserData (by omega) (by rw [abs_lt]; omega) huser hread hfile hpath
    obtain ⟨hden, hlow, hhigh⟩ := hinteger original horiginal hpath' current hcurrent
    rw [hmtu] at hcapped
    obtain rfl := Option.some.inj hcapped
    rw [← (Rat.den_eq_one_iff current).mp hden, Runtime.int_intCast hlow hhigh]
    split
    · exact le_refl _
    · rename_i hle
      exact Rat.intCast_le_intCast.mpr (not_lt.mp hle)

/-- **MTU.** In every run of `CreateInstance` calls on cloud-configs with an integer MTU, class
changes, Reconcile calls and all other steps of the system: a runner Pod that Reconcile creates is
given the MTU of the class that this call read as `--network-mtu`, and every `pod-network.mtu` in the
userdata Secret it mounts is at most the MTU that was reported, from the class as it was then, to the
`CreateInstance` call that generated this userdata. So it is at most `--network-mtu` when the class
that Reconcile read has no smaller MTU than was reported. -/
theorem userdata_mtu_le_reported (rt : Runtime) (readFiles : String → Option (List WriteFile))
    (law : rt.Lawful readFiles) (cfg : Server.Config) (c : Cluster)
    (hclasses : ∀ k cls, c.classes.get k = some cls → cls.spec.ValidMTU)
    (hsecrets : ∀ k secret, c.secrets.get k = some secret → secret.data.lookup userDataKey = none)
    (actions : List Action) (d : Deployment)
    (hrun : Run (Deployment.step rt) (fun _ action => action.Admitted rt) (Deployment.start cfg c)
      actions d)
    (a : Nat) (key : NamespacedName) (o : PodSandbox) (cls : PodSandboxClass) (desired p : Pod)
    (hcreated : .wrote a (.reconcile (.createRunner key o cls desired)) (.createPod p) ∈
      d.world.history) :
    (∃ container ∈ p.spec.containers,
      "--network-mtu=" ++ toString (networkMTU cls) ∈ container.args) ∧
    ∀ name secret text files file mtu, ⟨volumeConfig, .secret name⟩ ∈ p.spec.volumes →
      d.world.cluster.secrets.get ⟨p.metadata.ns, name⟩ = some secret →
      secret.data.lookup userDataKey = some text → readFiles text = some files → file ∈ files →
      file.path = agentProtocolForwarderConfigPath → rt.forwarderMTU file.content = some mtu →
      ∃ g ∈ d.generated, g.userData = text ∧ d.world.ReportedMTU g.a g.networkMTU ∧
        mtu ≤ g.networkMTU ∧ (g.networkMTU ≤ networkMTU cls → mtu ≤ networkMTU cls) := by
  have hinv : DeploymentInv rt d := hrun.invariant (DeploymentInv rt)
    (fun _ _ _ hi hok hstep => hi.step hok hstep) (.start rt cfg hclasses hsecrets)
  obtain ⟨uid, rfl⟩ := hinv.world.made.created hcreated
  refine ⟨⟨runnerContainer o cls, List.mem_singleton.mpr rfl, ?_⟩, ?_⟩
  · exact List.mem_of_elem_eq_true (by simp [runnerContainer, runnerArgs])
  · intro name secret text files file mtu _ hget htext hread hfile hpath hmtu
    obtain ⟨b, header, request, harrived, rfl⟩ := hinv.world.posted.stored hget htext
    obtain ⟨g, hg, htext'⟩ := hinv.arrived harrived
    have hsound := hinv.generated hg
    rw [← htext'] at hread
    have hle := hsound.mtu_le law hread hfile hpath hmtu
    exact ⟨g, hg, htext', hsound.reported, hle, fun hcls => hle.trans (Rat.intCast_le_intCast.mpr hcls)⟩

end Plugin

/-! ## Two deployments -/

/-- A Reconcile call created this Pod for this PodSandbox, with this class. -/
def Event.runnerCreated : Event → Option (PodSandbox × PodSandboxClass × Pod)
  | .wrote _ (.reconcile (.createRunner _ o cls _)) (.createPod p) => some (o, cls, p)
  | _ => none

theorem Event.runnerCreated_eq_some {e : Event} {o : PodSandbox} {cls : PodSandboxClass} {p : Pod}
    (h : e.runnerCreated = some (o, cls, p)) : ∃ a key desired,
      e = .wrote a (.reconcile (.createRunner key o cls desired)) (.createPod p) := by
  unfold runnerCreated at h
  split at h
  · cases h
    exact ⟨_, _, _, rfl⟩
  · cases h

namespace Sample

open Plugin

def forwarderText : String := "\x7b\"pod-network\":\x7b\"mtu\":1500\x7d\x7d"

def forwarderDocument (mtu : Int) : Json :=
  .object [("pod-network", .object [("mtu", .number mtu)])]

def forwarderIndented (mtu : Int) : String :=
  "\x7b\n    \"pod-network\": \x7b\n        \"mtu\": " ++ toString mtu ++ "\n    \x7d\n\x7d"

/-- The files of a generated cloud-config. -/
def generatedFiles (mtu : Int) : List WriteFile :=
  [⟨agentProtocolForwarderConfigPath, forwarderIndented mtu⟩,
    ⟨apfOrderingDropInPath, apfOrderingDropIn⟩, ⟨cdhProxyDropInPath, cdhProxyDropIn⟩]

/-- The generated cloud-config. -/
def generatedText (mtu : Int) : String :=
  "#cloud-config\n\nwrite_files:\n" ++
    "  - path: /run/peerpod/apf.json\n    content: |\n" ++
    "      \x7b\n          \"pod-network\": \x7b\n              \"mtu\": " ++ toString mtu ++
    "\n          \x7d\n      \x7d\n" ++
    "  - path: /etc/systemd/system/agent-protocol-forwarder.service.d/ordering.conf\n" ++
    "    content: |\n      [Unit]\n      Requires=netns@podns.service\n" ++
    "      After=cloud-init.service netns@podns.service\n" ++
    "  - path: /etc/systemd/system/confidential-data-hub.service.d/proxy.conf\n" ++
    "    content: |\n      [Service]\n" ++
    "      Environment=\"HTTP_PROXY=http://192.0.2.1:3128\"\n" ++
    "      Environment=\"HTTPS_PROXY=http://192.0.2.1:3128\"\n" ++
    "      Environment=\"NO_PROXY=127.0.0.1,localhost\"\n"

/-- The JSON codec and the renderer on the documents of these deployments. -/
def runtime : Runtime where
  unmarshal text :=
    if text = forwarderText ∨ text = forwarderIndented 1500 then .ok (forwarderDocument 1500)
    else if text = forwarderIndented 1400 then .ok (forwarderDocument 1400)
    else .error "unexpected end of JSON input"
  marshalIndent
    | .object [("pod-network", .object [("mtu", .number mtu)])] =>
      if mtu = (1500 : Int) then .ok (forwarderIndented 1500)
      else if mtu = (1400 : Int) then .ok (forwarderIndented 1400)
      else .error "unsupported"
    | _ => .error "unsupported"
  unmarshalForwarder _ := .ok {}
  intOutOfRange _ := -2 ^ 63
  generate config :=
    if config.writeFiles = generatedFiles 1500 then .ok (generatedText 1500)
    else if config.writeFiles = generatedFiles 1400 then .ok (generatedText 1400)
    else .error "unsupported"
  parseAddr := .ok

def readFiles (text : String) : Option (List WriteFile) :=
  if text = generatedText 1500 then some (generatedFiles 1500)
  else if text = generatedText 1400 then some (generatedFiles 1400)
  else none

theorem forwarderDocument_canonical {mtu : Int} (h : |mtu| < 2 ^ 53) :
    (forwarderDocument mtu).Canonical := by
  refine .object (List.pairwise_singleton _ _) fun e he => ?_
  obtain rfl := List.mem_singleton.mp he
  refine .object (List.pairwise_singleton _ _) fun e he => ?_
  obtain rfl := List.mem_singleton.mp he
  exact .number (Json.isFloat64_intCast h)

theorem unmarshal_1500 :
    runtime.unmarshal (forwarderIndented 1500) = .ok (forwarderDocument 1500) := by
  unfold runtime
  dsimp only
  rw [if_pos (Or.inr rfl)]

theorem unmarshal_1400 :
    runtime.unmarshal (forwarderIndented 1400) = .ok (forwarderDocument 1400) := by
  unfold runtime
  dsimp only
  rw [if_neg (by decide +kernel), if_pos rfl]

theorem readFiles_1400 : readFiles (generatedText 1400) = some (generatedFiles 1400) := by
  unfold readFiles
  rw [if_neg (by decide +kernel), if_pos rfl]

theorem runtime_lawful : runtime.Lawful readFiles where
  canonical {text d} h := by
    simp only [runtime] at h
    split at h
    · cases h
      exact forwarderDocument_canonical (by decide)
    · split at h
      · cases h
        exact forwarderDocument_canonical (by decide)
      · cases h
  roundTrip {d text} _ h := by
    simp only [runtime] at h
    split at h
    · split at h
      · rename_i hmtu
        cases h
        rw [hmtu]
        exact unmarshal_1500
      · split at h
        · rename_i hmtu
          cases h
          rw [hmtu]
          exact unmarshal_1400
        · cases h
    · cases h
  readFiles {config text} h := by
    simp only [runtime] at h
    split at h
    · rename_i hfiles
      cases h
      rw [hfiles]
      exact if_pos rfl
    · split at h
      · rename_i hfiles
        cases h
        rw [hfiles]
        exact readFiles_1400
      · cases h

def instanceRequest : InstanceRequest where
  config := ⟨"http://provider:8080", "token"⟩
  podName := "workload"
  sandboxID := "sandbox"
  cloudConfig := .cloudConfig ⟨[⟨agentProtocolForwarderConfigPath, forwarderText⟩]⟩
  spec := {}

/-- A `CreateInstance` call up to the polling loop of its create request. -/
def createInstanceSteps : List Action :=
  [.createInstance 1 1 instanceRequest, .world (.run 1 {}), .receive 1 2 none] ++
    (createSteps 2 1).map .world

/-- The class has an MTU of 1400 from the beginning. -/
def cappedInstance : List Action :=
  [.world (.updateClass "kata" { networkMTU := 1400 })] ++ createInstanceSteps ++
    (reconcileSteps 3 1).map .world

/-- The MTU of the class is lowered after the user data was generated. -/
def loweredMTU : List Action :=
  createInstanceSteps ++ [.world (.updateClass "kata" { networkMTU := 1400 })] ++
    (reconcileSteps 3 1).map .world

end Sample

namespace Plugin

/-- Some forwarder config in the user data has a larger MTU. -/
def Runtime.Exceeds (rt : Runtime) (readFiles : String → Option (List WriteFile)) (text : String)
    (bound : Int) : Prop :=
  ∃ files ∈ readFiles text, ∃ file ∈ files, file.path = agentProtocolForwarderConfigPath ∧
    ∃ mtu ∈ rt.forwarderMTU file.content, (bound : ℚ) < mtu

instance (rt : Runtime) (readFiles : String → Option (List WriteFile)) (text : String)
    (bound : Int) : Decidable (rt.Exceeds readFiles text bound) :=
  inferInstanceAs (Decidable (∃ files ∈ readFiles text, _))

theorem validMTU_oneClass : ∀ k cls, Sample.oneClass.classes.get k = some cls →
    cls.spec.ValidMTU := by
  intro k cls h
  obtain ⟨-, rfl⟩ | ⟨-, h⟩ := (Table.stores_insert _ _ ⟨rfl, by decide⟩).of_get h
  · exact .inl rfl
  · cases h

set_option maxRecDepth 100000 in
theorem capped_userdata_mtu_le_reported :
    ∃ d, Run (Deployment.step Sample.runtime) (fun _ action => action.Admitted Sample.runtime)
        (Deployment.start Sample.cfg Sample.oneClass) Sample.cappedInstance d ∧
      ∃ a key o cls desired p,
        .wrote a (.reconcile (.createRunner key o cls desired)) (.createPod p) ∈
          d.world.history ∧
        (d.world.cluster.secrets.get ⟨p.metadata.ns, secretName p.metadata.name⟩).any
          (fun secret => secret.data.lookup userDataKey =
            some (Sample.generatedText 1400)) = true ∧
        (∃ container ∈ p.spec.containers,
          "--network-mtu=" ++ toString (networkMTU cls) ∈ container.args) ∧
        ∀ name secret text files file mtu, ⟨volumeConfig, .secret name⟩ ∈ p.spec.volumes →
          d.world.cluster.secrets.get ⟨p.metadata.ns, name⟩ = some secret →
          secret.data.lookup userDataKey = some text → Sample.readFiles text = some files →
          file ∈ files → file.path = agentProtocolForwarderConfigPath →
          Sample.runtime.forwarderMTU file.content = some mtu →
          ∃ g ∈ d.generated, g.userData = text ∧ d.world.ReportedMTU g.a g.networkMTU ∧
            mtu ≤ g.networkMTU ∧ (g.networkMTU ≤ networkMTU cls → mtu ≤ networkMTU cls) := by
  obtain ⟨d, hrun, e, he, ⟨o, cls, p⟩, hr, hsecret⟩ := Run.exists_of_checkRun
    (fun d : Deployment => ∃ e ∈ d.world.history, ∃ r ∈ e.runnerCreated,
      (d.world.cluster.secrets.get ⟨r.2.2.metadata.ns, secretName r.2.2.metadata.name⟩).any
        (fun secret => secret.data.lookup userDataKey =
          some (Sample.generatedText 1400)) = true)
    (show (checkRun (Deployment.step Sample.runtime)
      (fun _ action => action.Admitted Sample.runtime)
      (Deployment.start Sample.cfg Sample.oneClass) Sample.cappedInstance).any _ = true by
        decide +kernel)
  obtain ⟨a, key, desired, rfl⟩ := Event.runnerCreated_eq_some hr
  exact ⟨d, hrun, a, key, o, cls, desired, p, he, hsecret,
    userdata_mtu_le_reported Sample.runtime Sample.readFiles Sample.runtime_lawful _ _
      validMTU_oneClass (fun _ _ h => (Option.some_ne_none _ h.symm).elim) _ d hrun a key o cls
      desired p he⟩

set_option maxRecDepth 100000 in
theorem userdata_mtu_exceeds_runner :
    ∃ d, Run (Deployment.step Sample.runtime) (fun _ action => action.Admitted Sample.runtime)
        (Deployment.start Sample.cfg Sample.oneClass) Sample.loweredMTU d ∧
      ∃ e ∈ d.world.history, ∃ r ∈ e.runnerCreated,
        ⟨volumeConfig, .secret (secretName Sample.key.name)⟩ ∈ r.2.2.spec.volumes ∧
        ∃ secret ∈ d.world.cluster.secrets.get ⟨r.2.2.metadata.ns, secretName Sample.key.name⟩,
        ∃ text ∈ secret.data.lookup userDataKey,
          Sample.runtime.Exceeds Sample.readFiles text (networkMTU r.2.1) := by
  refine Run.exists_of_checkRun _ ?_
  decide +kernel

end Plugin

end SandboxProvider
