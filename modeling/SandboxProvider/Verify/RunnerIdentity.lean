import SandboxProvider.System.Incarnation

/-!
# Ready means the PodSandbox's own runner

`Reconcile` finds the runner by name and compares a string of two generation numbers, which are the
same for a PodSandbox that was deleted and created again. In a run where a PodSandbox is stored only
under a free name, and nobody else deletes a Pod whose PodSandbox exists (`World.NoLeftovers`), every
Ready status reports a Pod that the PodSandbox controls and that is not being deleted, and so does
every 201.
-/

namespace SandboxProvider

open Lib Server Controller

/-- Requests, Reconcile calls, the kubelet, Pod deletions and garbage collection. -/
def Label.lifecycle : Label → Bool
  | .writeStatus .. | .createClass .. | .updateClass .. | .deleteClass .. => false
  | _ => true

/-- The Pod that somebody deletes. -/
def Label.deletesPod : Label → Option NamespacedName
  | .deletePod k _ => some k
  | _ => none

/-- The Pod is controlled by the PodSandbox with this `uid` and is not being deleted. -/
def RunsFor (p : Pod) (uid : Nat) : Prop :=
  p.metadata.controller.map (·.uid) = some uid ∧ p.metadata.deletionTimestamp = none

instance (p : Pod) (uid : Nat) : Decidable (RunsFor p uid) :=
  inferInstanceAs (Decidable (_ ∧ _))

namespace World

/-- A PodSandbox is stored only under a free name, and a Pod is deleted by others only when there is
no PodSandbox of its name. -/
def NoLeftovers (w : World) (l : Label) : Prop :=
  l.lifecycle ∧ w.FreshNames l ∧ ∀ k ∈ l.deletesPod, w.cluster.sandboxes.get k = none

instance (w : World) (l : Label) : Decidable (w.NoLeftovers l) :=
  inferInstanceAs (Decidable (_ ∧ _ ∧ ∀ k ∈ l.deletesPod, _))

/-- A status patch on the PodSandbox with this `uid` reported the address of a Pod of its own. -/
def Reported (w : World) (uid : Nat) (ip : String) : Prop :=
  ∃ a key base modified obs result o,
    .wrote a (.reconcile (.patchStatus key base modified (some obs) result)) (.patchSandbox o) ∈
      w.history ∧
    o.metadata.uid = uid ∧ obs.runner.status.podIP = ip ∧ RunsFor obs.runner uid

/-- The class that the PodSandbox names, in a fixed table of classes. -/
def ClassOf (classes : Table NamespacedName PodSandboxClass) (o : PodSandbox)
    (cls : PodSandboxClass) : Prop :=
  classes.get ⟨"", o.spec.className⟩ = some cls

/-- What a Reconcile call is about to do is right for the stored PodSandbox: it deletes no runner, and
the runner it reports on is the PodSandbox's own. -/
def Honest (c : Cluster) : ReconcileState → Prop
  | .deleteRunner .. => False
  | .patchStatus key _ _ (some obs) _ =>
    ∀ {x}, c.sandboxes.get key = some x → RunsFor obs.runner x.metadata.uid
  | _ => True

structure RunnerInv (t : Table NamespacedName PodSandboxClass) (w : World) : Prop where
  classes : w.cluster.classes = t
  incarnation : IncarnationInv (ClassOf t) w
  alive : ∀ {k p}, w.cluster.pods.get k = some p → p.metadata.deletionTimestamp ≠ none →
    w.cluster.sandboxes.get k = none
  honest : ∀ {a s}, w.Reconciling a s → s.Patches ∧ Honest w.cluster s
  reported : ∀ {k o ip}, w.cluster.sandboxes.get k = some o → ip ∈ o.status.ips →
    w.Reported o.metadata.uid ip
  wrote : ∀ {a key base modified seen result o},
    .wrote a (.reconcile (.patchStatus key base modified seen result)) (.patchSandbox o) ∈
      w.history →
    conditionTrue modified.status.conditions ConditionReady → ∃ obs, seen = some obs ∧
      modified.status.ips = [obs.runner.status.podIP] ∧ RunsFor obs.runner o.metadata.uid

theorem Reported.mono {w w' : World} {events : List Event} {uid : Nat} {ip : String}
    (h : w.Reported uid ip) (hhistory : w'.history = events ++ w.history) : w'.Reported uid ip := by
  obtain ⟨a, key, base, modified, obs, result, o, he, hr⟩ := h
  refine ⟨a, key, base, modified, obs, result, o, ?_, hr⟩
  rw [hhistory]
  exact List.mem_append_right _ he

namespace RunnerInv

variable {t : Table NamespacedName PodSandboxClass} {w w' : World} {l : Label}

theorem start (cfg : Config) {c : Cluster} (hpods : ∀ k, c.pods.get k = none)
    (hips : ∀ k o, c.sandboxes.get k = some o → o.status.ips = []) :
    RunnerInv c.classes (World.start cfg c) where
  classes := rfl
  incarnation := .start _ cfg hpods
  alive {k p} hp := by
    rw [show (World.start cfg c).cluster.pods.get k = none from hpods k] at hp
    cases hp
  honest h := by
    obtain ⟨_, h⟩ := h
    cases h
  reported {k o ip} ho hip := by
    rw [hips k o ho] at hip
    cases hip
  wrote h := by cases h

/-- The controller of a Pod is the stored PodSandbox of its name. -/
theorem controls (hinv : RunnerInv t w) {k : NamespacedName} {p : Pod} {x : PodSandbox}
    (hp : w.cluster.pods.get k = some p) (hx : w.cluster.sandboxes.get k = some x) :
    p.metadata.controller = some ⟨"PodSandbox", x.metadata.name, x.metadata.uid⟩ := by
  obtain ⟨o, cls, hmade, -, hagrees⟩ := hinv.incarnation.made hp
  have hsame := hagrees.stored hx
  rw [hmade.controller, hsame.name, hsame.uid]

theorem runsFor (hinv : RunnerInv t w) {k : NamespacedName} {p : Pod} {x : PodSandbox}
    (hp : w.cluster.pods.get k = some p) (hx : w.cluster.sandboxes.get k = some x) :
    RunsFor p x.metadata.uid := by
  refine ⟨by rw [hinv.controls hp hx]; rfl, ?_⟩
  by_contra hdel
  rw [hinv.alive hp hdel] at hx
  cases hx

/-- The collector takes a Pod only when there is no PodSandbox of its name. -/
theorem free_of_garbage (hinv : RunnerInv t w) {k : NamespacedName} {p : Pod}
    (hp : w.cluster.pods.get k = some p) (hgarbage : w.cluster.isGarbage p.metadata) :
    w.cluster.sandboxes.get k = none := by
  refine Option.eq_none_iff_forall_ne_some.mpr fun x hx => ?_
  refine Cluster.not_isGarbage (fun ref href => ?_) hgarbage
  rw [hinv.controls hp hx] at href
  cases href
  refine Cluster.ownerAlive_of_get (o := x) ?_ rfl
  have hkey : p.metadata.key = x.metadata.key :=
    (Table.key_of_get hp).trans (Table.key_of_get hx).symm
  have hns : p.metadata.ns = x.metadata.ns := congrArg NamespacedName.ns hkey
  rw [hns, show (⟨x.metadata.ns, x.metadata.name⟩ : NamespacedName) = k from Table.key_of_get hx]
  exact hx

/-- The Pod that a Reconcile call finds has the template it wants. -/
theorem sameTemplate (hinv : RunnerInv t w) {a : Nat} {key : NamespacedName} {o : PodSandbox}
    {cls : PodSandboxClass} {desired runner : Pod}
    (ha : w.Reconciling a (.getRunner key o cls desired))
    (hget : w.cluster.pods.get key = some runner) :
    runner.metadata.annotations = desired.metadata.annotations := by
  obtain ⟨hcls, hd⟩ := hinv.incarnation.held ha rfl rfl
  obtain ⟨o', cls', hmade, hcls', hagrees⟩ := hinv.incarnation.made hget
  have hsame := hagrees.call ha rfl rfl
  unfold ClassOf at hcls hcls'
  rw [hsame.spec, hcls] at hcls'
  cases hcls'
  rw [(hmade.congr hsame).annotations, (hd desired rfl).annotations]

/-- What a call is about to do stays right as long as no other PodSandbox appears under its key. -/
theorem honest_of_same {c c' : Cluster} {s : ReconcileState} (h : Honest c s)
    (hback : ∀ {o x}, s.sandbox = some o → c'.sandboxes.get s.key = some x →
      ∃ old, c.sandboxes.get s.key = some old ∧ SameIncarnation old x) : Honest c' s := by
  cases s with
  | patchStatus key base modified seen result =>
    cases seen with
    | none => trivial
    | some obs =>
      intro x hx
      obtain ⟨old, hold, hsame⟩ := hback rfl hx
      rw [← hsame.uid]
      exact h hold
  | deleteRunner => exact h
  | _ => trivial

/-! ### Steps from outside -/

section Outside

variable (hinv : RunnerInv t w) (hout : Outside w l w') (hok : w.NoLeftovers l)

include hinv hout hok in
/-- A Pod that is being deleted after the step was being deleted before, or has no PodSandbox. -/
private theorem outside_marked {k : NamespacedName} {p : Pod}
    (hp : w'.cluster.pods.get k = some p) (hdel : p.metadata.deletionTimestamp ≠ none) :
    w.cluster.sandboxes.get k = none := by
  cases hout.pods with
  | same hsame =>
    rw [hsame] at hp
    exact hinv.alive hp hdel
  | reported hrep =>
    obtain ⟨rfl, rfl⟩ | ⟨-, hold⟩ := hrep.of_get hp
    · exact hinv.alive hrep.stored hdel
    · exact hinv.alive hold hdel
  | collected hget hgarbage hpods =>
    rw [hpods] at hp
    obtain hold | ⟨rfl, -, -⟩ := IncarnationInv.deletePodIn_pod hget hp
    · exact hinv.alive hold hdel
    · exact hinv.free_of_garbage hget hgarbage
  | deleted hget hpods =>
    rw [hpods] at hp
    obtain hold | ⟨rfl, -, -⟩ := IncarnationInv.deletePodIn_pod hget hp
    · exact hinv.alive hold hdel
    · exact hok.2.2 _ rfl
  | removed hrem => exact hinv.alive (hrem.of_get hp).2 hdel

include hinv hout hok in
private theorem outside_reported {k : NamespacedName} {o : PodSandbox} {ip : String}
    (ho : w'.cluster.sandboxes.get k = some o) (hip : ip ∈ o.status.ips) :
    w.Reported o.metadata.uid ip := by
  cases hout.sandboxes with
  | same hsame =>
    rw [hsame] at ho
    exact hinv.reported ho hip
  | stored hp hjob hst =>
    obtain ⟨-, rfl⟩ | ⟨-, hold⟩ := hst.of_get ho
    · cases hip
    · exact hinv.reported hold hip
  | removed hrem => exact hinv.reported (hrem.of_get ho).2 hip
  | status hrep => exact absurd hok.1 Bool.false_ne_true

include hinv hout hok in
theorem outside : RunnerInv t w' where
  classes := by
    cases hout.classes with
    | same hsame => rw [hsame, hinv.classes]
    | created => exact absurd hok.1 Bool.false_ne_true
    | updated => exact absurd hok.1 Bool.false_ne_true
    | deleted => exact absurd hok.1 Bool.false_ne_true
  incarnation := hinv.incarnation.outside hout hok.2.1 fun _ h => h
  alive {k p} hp hdel := by
    refine Option.eq_none_iff_forall_ne_some.mpr fun x hx => ?_
    obtain ⟨old, hold, -⟩ | ⟨a, q, job, hl, hq, hjob, rfl⟩ := IncarnationInv.outside_stored hout hx
    · rw [hinv.outside_marked hout hok hp hdel] at hold
      cases hold
    · obtain ⟨p', hp', -⟩ := IncarnationInv.outside_pod hout hp
      exact IncarnationInv.not_nameFree_of_pod hp' (hok.2.1 a hl q hq job hjob)
  honest {a s} ha := by
    obtain ha | hs := hout.reconciling ha
    · obtain ⟨hpatches, hhonest⟩ := hinv.honest ha
      refine ⟨hpatches, honest_of_same hhonest fun {o x} ho hx => ?_⟩
      obtain hold | ⟨b, q, job, hl, hq, hjob, hkey⟩ := IncarnationInv.outside_stored hout hx
      · exact hold
      · have hfree := hok.2.1 b hl q hq job hjob
        rw [hkey] at hfree
        exact absurd hfree (IncarnationInv.not_nameFree_of_call ha ho)
    · rw [hs]
      exact ⟨trivial, trivial⟩
  reported ho hip := by
    obtain ⟨events, hhistory, -⟩ := hout.history
    exact (hinv.outside_reported hout hok ho hip).mono hhistory
  wrote he hready := hinv.wrote (hout.wrote_mem he) hready

end Outside

/-! ### Steps of a Reconcile call -/

section Own

variable {a : Nat} {env : Env} {ctxErr : Option String} {s s' : ReconcileState} {c' : Cluster}
  {out : Outcome} (hinv : RunnerInv t w)
  (hp : w.procs.lookup a = some ⟨ctxErr, .reconcile s⟩)
  (hmove : ReconcileMove env ctxErr w.cluster s s' c' out)

include hinv hp hmove in
private theorem own_marked {k : NamespacedName} {p : Pod} (hget : c'.pods.get k = some p)
    (hdel : p.metadata.deletionTimestamp ≠ none) : w.cluster.sandboxes.get k = none := by
  cases hmove.pods with
  | same hsame =>
    rw [hsame] at hget
    exact hinv.alive hget hdel
  | stored hst =>
    obtain ⟨-, rfl⟩ | ⟨-, hold⟩ := hst.of_get hget
    · exact absurd rfl hdel
    · exact hinv.alive hold hdel
  | deleted => exact (hinv.honest ⟨ctxErr, hp⟩).2.elim

include hinv hp hmove in
/-- What a Reconcile call is about to do after its step. -/
private theorem own_honest : Honest w.cluster s' := by
  cases hmove
  case runnerRead key o cls desired runner hget =>
    obtain ⟨hne, -⟩ | ⟨_, _, he⟩ | ⟨-, he⟩ :=
      inspectRunner_cases env.now key o cls desired runner
    · exact absurd (by rw [hinv.sameTemplate ⟨ctxErr, hp⟩ hget]) hne
    · rw [he]
      trivial
    · rw [he]
      exact fun hx => hinv.runsFor hget hx
  all_goals trivial

include hinv in
/-- The status patch of a call goes to the PodSandbox that the runner it saw belongs to. -/
private theorem patch_target {key : NamespacedName} {base modified x : PodSandbox}
    {seen : Option Observation} {result : Result}
    (ha : w.Reconciling a (.patchStatus key base modified seen result))
    (hx : w.cluster.sandboxes.get modified.metadata.key = some x) :
    ∀ obs, seen = some obs → RunsFor obs.runner x.metadata.uid := by
  rintro obs rfl
  obtain ⟨hpatches, hhonest⟩ := hinv.honest ha
  obtain ⟨hkey, -⟩ := hinv.incarnation.call ha rfl
  rw [hpatches.1, hkey] at hx
  exact hhonest hx

include hinv hp hmove in
private theorem own_reported {k : NamespacedName} {o : PodSandbox} {ip : String}
    (ho : c'.sandboxes.get k = some o) (hip : ip ∈ o.status.ips) :
    (w.advance a ⟨ctxErr, .reconcile s⟩ (.reconcile s') c' out).Reported o.metadata.uid ip := by
  have hold {k : NamespacedName} {x : PodSandbox} (hx : w.cluster.sandboxes.get k = some x)
      (hip : ip ∈ x.status.ips) :
      (w.advance a ⟨ctxErr, .reconcile s⟩ (.reconcile s') c' out).Reported x.metadata.uid ip :=
    (hinv.reported hx hip).mono history_reconcile
  cases hmove
  case patched key base modified seen result x t hget hrep =>
    obtain ⟨-, rfl⟩ | ⟨-, hother⟩ := hrep.of_get ho
    · replace hip : ip ∈ (x.status.merge (base.status.mergeFrom modified.status)).ips := hip
      rw [PodSandboxStatus.merge_mergeFrom_ips] at hip
      split at hip
      · exact hold (x := x) hget hip
      · -- the patch changes the addresses: it has an observation, and its address is the new one
        rename_i hne
        obtain ⟨hpatches, -⟩ := hinv.honest ⟨ctxErr, hp⟩
        cases seen with
        | none => exact absurd hpatches.2.1.symm hne
        | some obs =>
          rw [hpatches.2.2.1] at hip
          split at hip
          · cases hip
          · obtain rfl := List.mem_singleton.mp hip
            exact ⟨a, key, base, modified, obs, result, _, List.mem_cons_self, rfl, rfl,
              hinv.patch_target ⟨ctxErr, hp⟩ hget obs rfl⟩
    · exact hold hother hip
  all_goals exact hold ho hip

include hinv hp hmove in
private theorem own_wrote {key : NamespacedName} {base modified o : PodSandbox}
    {seen : Option Observation} {result : Result}
    (hs : s = .patchStatus key base modified seen result) (hw : .patchSandbox o ∈ out.writes)
    (hready : conditionTrue modified.status.conditions ConditionReady) :
    ∃ obs, seen = some obs ∧ modified.status.ips = [obs.runner.status.podIP] ∧
      RunsFor obs.runner o.metadata.uid := by
  subst hs
  obtain ⟨hpatches, -⟩ := hinv.honest ⟨ctxErr, hp⟩
  cases hmove with
  | patchFailed => cases hw
  | patched hget hrep =>
    cases List.mem_singleton.mp hw
    obtain ⟨obs, rfl, -, hips⟩ := hpatches.observed hready
    exact ⟨obs, rfl, hips, hinv.patch_target ⟨ctxErr, hp⟩ hget obs rfl⟩

include hinv hp hmove in
theorem own : RunnerInv t (w.advance a ⟨ctxErr, .reconcile s⟩ (.reconcile s') c' out) where
  classes := by
    obtain ⟨-, hclasses, -⟩ := ReconcileMove_frame hmove
    exact hclasses.trans hinv.classes
  incarnation := by
    refine hinv.incarnation.own hp hmove (fun _ h => h) fun _ _ hget => ?_
    rw [hinv.classes] at hget
    exact hget
  alive hget hdel := by
    refine Option.eq_none_iff_forall_ne_some.mpr fun x hx => ?_
    obtain ⟨old, hold, -⟩ := IncarnationInv.own_stored hmove hx
    rw [hinv.own_marked hp hmove hget hdel] at hold
    cases hold
  honest {b u} hb := by
    have hsame {u : ReconcileState} (h : Honest w.cluster u) : Honest c' u :=
      honest_of_same h fun _ hx => IncarnationInv.own_stored hmove hx
    obtain ⟨rfl, rfl⟩ | ⟨-, hb⟩ := reconciling_advance.mp hb
    · exact ⟨hmove.patches, hsame (hinv.own_honest hp hmove)⟩
    · exact ⟨(hinv.honest hb).1, hsame (hinv.honest hb).2⟩
  reported ho hip := hinv.own_reported hp hmove ho hip
  wrote he hready := by
    obtain ⟨hs, hw⟩ | he := wrote_mem_advance he
    · exact hinv.own_wrote hp hmove hs.symm hw hready
    · exact hinv.wrote he hready

end Own

theorem step (hinv : RunnerInv t w) (hok : w.NoLeftovers l) (h : w.step l = some w') :
    RunnerInv t w' := by
  cases controlStep h with
  | own hp hmove => exact hinv.own hp hmove
  | outside hout => exact hinv.outside hout hok

end RunnerInv

/-- Every address in a 201 was reported for the stored PodSandbox it was read from. -/
def AnswersReported (w : World) : Prop :=
  ∀ a s response c, .answered a (.serve (.create s)) (.created response) c ∈ w.history →
    ∃ job o, s.job = some job ∧ c.sandboxes.get job.key = some o ∧ response.ips = o.status.ips ∧
      ∀ ip ∈ response.ips, w.Reported o.metadata.uid ip

theorem AnswersReported.step {t : Table NamespacedName PodSandboxClass} {w w' : World} {l : Label}
    (hans : w.AnswersReported) (hinv : RunnerInv t w) (h : w.step l = some w') :
    w'.AnswersReported := by
  intro a s response c he
  have hold {events : List Event} (hhistory : w'.history = events ++ w.history)
      (he : .answered a (.serve (.create s)) (.created response) c ∈ w.history) :
      ∃ job o, s.job = some job ∧ c.sandboxes.get job.key = some o ∧ response.ips = o.status.ips ∧
        ∀ ip ∈ response.ips, w'.Reported o.metadata.uid ip := by
    obtain ⟨job, o, hjob, hget, hips, hrep⟩ := hans a s response c he
    exact ⟨job, o, hjob, hget, hips, fun ip hip => (hrep ip hip).mono hhistory⟩
  cases createStep h with
  | @own b _ _ _ _ _ out hp hmove =>
    have hhistory := history_advance (a := b) hmove
    obtain ⟨reply, ⟨hnone, hreply⟩, heq⟩ | he | he := (mem_history_advance hmove).mp he
    · cases heq
      obtain ⟨job, before, here, o, rfl, hget, -, rfl, rfl, rfl, -⟩ := hmove.answers hnone hreply
      exact ⟨job, o, rfl, hget, rfl, fun ip hip => (hinv.reported hget hip).mono hhistory⟩
    · cases out <;> simp [callEvents] at he
    · exact hold hhistory he
  | foreign hforeign =>
    exact hold hforeign.history (hforeign.mem_history (Option.some_ne_none s) he)

/-- **Own runner.** In every run of requests, Reconcile calls, kubelet reports, Pod deletions and
garbage collection where PodSandboxes are stored under free names and Pods of existing PodSandboxes
are not deleted by others: a status patch that says Ready carries the one address of a Pod that the
patched PodSandbox controls and that is not being deleted; and each address in a 201 is one that such
a patch reported for the PodSandbox of the reply. -/
theorem ready_reports_own_runner (cfg : Config) (c : Cluster) (hpods : ∀ k, c.pods.get k = none)
    (hips : ∀ k o, c.sandboxes.get k = some o → o.status.ips = []) (ls : List Label) (w : World)
    (hrun : Run World.step World.NoLeftovers (World.start cfg c) ls w) :
    (∀ a key base modified seen result o,
      .wrote a (.reconcile (.patchStatus key base modified seen result)) (.patchSandbox o) ∈
        w.history →
      conditionTrue modified.status.conditions ConditionReady → ∃ obs, seen = some obs ∧
        modified.status.ips = [obs.runner.status.podIP] ∧ RunsFor obs.runner o.metadata.uid) ∧
    ∀ a s response at_, .answered a (.serve (.create s)) (.created response) at_ ∈ w.history →
      ∃ job o, s.job = some job ∧ at_.sandboxes.get job.key = some o ∧
        response.ips = o.status.ips ∧ ∀ ip ∈ response.ips, w.Reported o.metadata.uid ip := by
  obtain ⟨hinv, hans⟩ : RunnerInv c.classes w ∧ w.AnswersReported :=
    hrun.invariant (fun w => RunnerInv c.classes w ∧ w.AnswersReported)
      (fun _ _ _ hi hok hstep => ⟨hi.1.step hok hstep, hi.2.step hi.1 hstep⟩)
      ⟨.start cfg hpods hips, fun _ _ _ _ h => (nomatch h)⟩
  exact ⟨fun a key base modified seen result o he hready => hinv.wrote he hready, hans⟩

end World

namespace Sample

/-- The sandbox of `runnerCreate` is deleted and created again with the same sandboxID, while its
runner Pod is still terminating. -/
def recreated : List Label :=
  runnerCreate ++
    [.arrive 3 "Bearer token" (.deleteSandbox key.name), .run 3 {}, .run 3 {},
      .collect .secret ⟨key.ns, secretName key.name⟩ {}, .collect .pod key {}, arrive 4 request] ++
    createSteps 4 2 ++ reconcileSteps 5 2 ++ [.run 5 {}, .run 5 {}, .run 4 {}]

end Sample

namespace World

set_option maxRecDepth 100000 in
theorem runner_create_reports_own_runner :
    ∃ w, Run World.step World.NoLeftovers (World.start Sample.cfg Sample.oneClass)
        Sample.runnerCreate w ∧
      (∃ e ∈ w.history, e.readySeen.isSome = true) ∧
      (∀ a key base modified seen result o,
        .wrote a (.reconcile (.patchStatus key base modified seen result)) (.patchSandbox o) ∈
          w.history →
        conditionTrue modified.status.conditions ConditionReady → ∃ obs, seen = some obs ∧
          modified.status.ips = [obs.runner.status.podIP] ∧ RunsFor obs.runner o.metadata.uid) ∧
      ∀ a s response at_, .answered a (.serve (.create s)) (.created response) at_ ∈ w.history →
        ∃ job o, s.job = some job ∧ at_.sandboxes.get job.key = some o ∧
          response.ips = o.status.ips ∧ ∀ ip ∈ response.ips, w.Reported o.metadata.uid ip := by
  obtain ⟨w, hrun, hreport⟩ := Run.exists_of_checkRun
    (fun w : World => ∃ e ∈ w.history, e.readySeen.isSome = true)
    (show (checkRun World.step World.NoLeftovers (World.start Sample.cfg Sample.oneClass)
      Sample.runnerCreate).any _ = true by decide +kernel)
  exact ⟨w, hrun, hreport, ready_reports_own_runner _ _ (fun _ => rfl)
    (fun _ _ h => (Option.some_ne_none _ h.symm).elim) _ _ hrun⟩

set_option maxRecDepth 100000 in
theorem ready_reports_previous_runner :
    ∃ w, Run World.step (fun _ l => l.lifecycle = true)
        (World.start Sample.cfg Sample.oneClass) Sample.recreated w ∧
      (∃ e ∈ w.history, ∃ r ∈ e.readySeen, r.1.status.ips = [r.2.runner.status.podIP] ∧
        r.2.runner.metadata.controller.map (·.uid) ≠ some r.1.metadata.uid ∧
        r.2.runner.metadata.deletionTimestamp ≠ none) ∧
      ∃ e ∈ w.history, ∃ r ∈ e.createdReply 4, ∃ p ∈ w.cluster.pods.get Sample.key,
        r.2.1.ips = [p.status.podIP] ∧ p.metadata.controller.map (·.uid) = some (1 : Nat) ∧
        (r.2.2.sandboxes.get Sample.key).map (·.metadata.uid) = some (2 : Nat) := by
  refine Run.exists_of_checkRun _ ?_
  decide +kernel

end World

end SandboxProvider
