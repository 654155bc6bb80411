import Mathlib.Logic.Relation
import SandboxProvider.System.Reconciling

/-!
# Reconcile converges

A Reconcile call that runs alone, without failing API calls, ends in one of a few ways (`Effect`):
nothing to do, something is missing, or a runner was found (perhaps just created) and judged. Two
calls in a row reach a state that every further call leaves as it is (`Settled`): one call settles
everything except that an outdated runner may be gone after it, and the next call then creates the
runner and reports it.

Whether a Pod deletion takes effect at once is up to the API server, Pod by Pod.
-/

namespace SandboxProvider.Controller

open Lib

/-- When the deletion of a Pod takes effect at once. Where it only marks the Pod, a second deletion
does not take effect either. -/
structure DeletionPolicy where
  atOnce : Pod → Bool
  stays : ∀ now p, atOnce p = false → atOnce (markDeleted now p) = false

/-- The Pod that the next step deletes. -/
def ReconcileState.deleting (c : Cluster) : ReconcileState → Option Pod
  | .deleteRunner _ _ runner => c.pods.get runner.metadata.key
  | _ => none

/-- A step of a Reconcile call whose context is not done. -/
def callStep (x : Cluster × ReconcileState) (env : Env) : Option (Cluster × ReconcileState) :=
  (x.2.next.step env none x.1).map fun r => (r.2.1, r.1)

/-- The API server executes the call, and deletes a Pod according to the policy. -/
def Quiet (policy : DeletionPolicy) (x : Cluster × ReconcileState) (env : Env) : Prop :=
  env.fault = none ∧ ∀ p, x.2.deleting x.1 = some p → env.immediate = policy.atOnce p

/-- A Reconcile call for the key leads from one cluster state to another. -/
def Reconciles (policy : DeletionPolicy) (key : NamespacedName) (c c' : Cluster) : Prop :=
  ∃ envs result,
    Run callStep (Quiet policy) (c, .getSandbox key) envs (c', .done key result)

/-- The same Pods, Secrets and statuses. -/
structure SameState (c c' : Cluster) : Prop where
  pods : ∀ k, c'.pods.get k = c.pods.get k
  secrets : ∀ k, c'.secrets.get k = c.secrets.get k
  status : ∀ k, (c'.sandboxes.get k).map (·.status) = (c.sandboxes.get k).map (·.status)

theorem SameState.refl (c : Cluster) : SameState c c := ⟨fun _ => rfl, fun _ => rfl, fun _ => rfl⟩

theorem SameState.trans {c c' c'' : Cluster} (h : SameState c c') (h' : SameState c' c'') :
    SameState c c'' :=
  ⟨fun k => (h'.pods k).trans (h.pods k), fun k => (h'.secrets k).trans (h.secrets k),
    fun k => (h'.status k).trans (h.status k)⟩

/-! ## Every call ends -/

/-- How many steps a call has left at most. -/
def ReconcileState.rank : ReconcileState → Nat
  | .getSandbox _ => 7
  | .getClass .. => 6
  | .getSecret .. => 5
  | .createRunner .. => 4
  | .getRunner .. => 3
  | .deleteRunner .. => 2
  | .patchStatus .. => 1
  | .done .. => 0

section Progress

variable {policy : DeletionPolicy} {c c' : Cluster} {s s' : ReconcileState} {env : Env}

theorem callStep_moves {x y : Cluster × ReconcileState} (h : callStep x env = some y) :
    ∃ out, ReconcileMove env none x.1 x.2 y.2 y.1 out := by
  obtain ⟨⟨s₁, c₁, out⟩, hstep, rfl⟩ := Option.map_eq_some_iff.mp h
  exact ⟨out, ReconcileState.moves hstep⟩

theorem inspectRunner_rank (now : Time) (key : NamespacedName) (o : PodSandbox)
    (cls : PodSandboxClass) (desired runner : Pod) :
    (inspectRunner now key o cls desired runner).rank ≤ 2 := by
  unfold inspectRunner
  split
  · exact le_refl 2
  · split
    · exact Nat.le_succ 1
    · exact Nat.le_succ 1

/-- A call comes closer to its end with every step. -/
theorem ReconcileMove.rank_lt {ctxErr : Option String} {out : Outcome}
    (h : ReconcileMove env ctxErr c s s' c' out) : s'.rank < s.rank := by
  cases h
  case runnerRead key o cls desired runner hget =>
    exact Nat.lt_succ_of_le (inspectRunner_rank ..)
  all_goals exact of_decide_eq_true rfl

/-- A call that has not ended can go on. -/
theorem exists_callStep (policy : DeletionPolicy) (c : Cluster) (s : ReconcileState)
    (hs : s.rank ≠ 0) :
    ∃ env c' s', Quiet policy (c, s) env ∧ callStep (c, s) env = some (c', s') := by
  refine ⟨{ uid := c.pods.nextUid, immediate := (s.deleting c).any policy.atOnce }, ?_⟩
  have hquiet : Quiet policy (c, s)
      { uid := c.pods.nextUid, immediate := (s.deleting c).any policy.atOnce } := by
    refine ⟨rfl, fun p hp => ?_⟩
    simp only at hp
    simp [hp]
  cases s with
  | createRunner key o cls desired =>
    simp only [callStep, ReconcileState.next, Next.step, respond, refusal, Option.or_none,
      Cluster.exec, createCall, createObject]
    by_cases hnone : c.pods.get (KubeObject.metadata desired).key = none
    · simp only [dif_pos hnone, le_refl, dite_true]
      exact ⟨_, _, hquiet, rfl⟩
    · simp only [dif_neg hnone]
      exact ⟨_, _, hquiet, rfl⟩
  | done => exact absurd rfl hs
  | _ => exact ⟨_, _, hquiet, rfl⟩

/-- A call that has begun can be brought to its end. -/
theorem exists_run (policy : DeletionPolicy) (c : Cluster) (s : ReconcileState) :
    ∃ envs c' key result, Run callStep (Quiet policy) (c, s) envs (c', .done key result) := by
  induction hn : s.rank using Nat.strong_induction_on generalizing c s with
  | _ n ih =>
    by_cases hs : s.rank = 0
    · cases s with
      | done key result => exact ⟨[], c, key, result, .nil _⟩
      | _ => cases hs
    · obtain ⟨env, c₁, s₁, hquiet, hstep⟩ := exists_callStep policy c s hs
      obtain ⟨out, hmove⟩ := callStep_moves hstep
      obtain ⟨envs, c', key, result, hrest⟩ := ih s₁.rank (hn ▸ hmove.rank_lt) c₁ s₁ rfl
      exact ⟨env :: envs, c', key, result, .cons hquiet hstep hrest⟩

/-- The key of a call does not change. -/
theorem run_key {x y : Cluster × ReconcileState} {envs : List Env}
    (h : Run callStep (Quiet policy) x envs y) : y.2.key = x.2.key := by
  induction h with
  | nil => rfl
  | @cons x y z env envs _ hstep _ ih =>
    obtain ⟨out, hmove⟩ := callStep_moves hstep
    exact ih.trans hmove.key_eq

end Progress

/-! ## What a call does -/

/-- What `fail`, `progressing` and `stopped` make of a status. -/
def notReadyStatus (now : Time) (o : PodSandbox) (reason message : String) : PodSandboxStatus :=
  { o.status with
    observedGeneration := o.metadata.generation
    conditions := setStatusCondition now (readyCondition o .false reason message)
      o.status.conditions }

/-- The class with which a call goes on to the runner, or the reason and message with which it
fails before. -/
def wanted (c : Cluster) (o : PodSandbox) : Except (String × String) PodSandboxClass :=
  match c.classes.get ⟨"", o.spec.className⟩ with
  | none => .error ("ClassUnavailable", (notFound PodSandboxClass ⟨"", o.spec.className⟩).message)
  | some cls =>
    match c.secrets.get ⟨o.metadata.ns, o.spec.userDataSecretRef.name⟩ with
    | none => .error ("UserDataUnavailable",
        (notFound Secret ⟨o.metadata.ns, o.spec.userDataSecretRef.name⟩).message)
    | some secret =>
      if secret.data.lookup "userdata" = none then
        .error ("UserDataUnavailable", "secret " ++ secret.metadata.name ++ " has no userdata key")
      else .ok cls

/-- The runner carries the template generation of the PodSandbox and the class. -/
def UpToDate (o : PodSandbox) (cls : PodSandboxClass) (p : Pod) : Prop :=
  p.metadata.annotations.getD annotationTemplateGeneration = templateGeneration o cls

/-- The runner has come to its end. -/
def Stopped (p : Pod) : Prop := p.status.phase = .failed ∨ p.status.phase = .succeeded

/-- What a call that found the runner `p` in the Pods `t` makes of the Pods and the status. -/
inductive Verdict (policy : DeletionPolicy) (o : PodSandbox) (cls : PodSandboxClass) (p : Pod)
    (t t' : Table NamespacedName Pod) (status : PodSandboxStatus) : Prop
  | outdated {env : Env} (h : ¬ UpToDate o cls p) (hpolicy : env.immediate = policy.atOnce p)
      (ht : t' = deletePodIn env t p.metadata.key)
      (hstatus : status = notReadyStatus env.now o "UpdatingRunner"
        "The Pod Sandbox runner is being updated")
  | stopped {now : Time} (h : UpToDate o cls p) (hphase : Stopped p) (ht : t' = t)
      (hstatus : status = notReadyStatus now o "RunnerFailed" (stoppedMessage p))
  | reported {now : Time} (h : UpToDate o cls p) (hphase : ¬ Stopped p) (ht : t' = t)
      (hstatus : status = observedStatus now o p)

/-- The stored PodSandbox, which is not being deleted. -/
def Alive (c : Cluster) (key : NamespacedName) (o : PodSandbox) : Prop :=
  c.sandboxes.get key = some o ∧ ¬ o.metadata.deletionTimestamp.isSome

/-- A call wrote these Pods and this status of `o`, and nothing else. -/
structure Wrote (c c' : Cluster) (o : PodSandbox) (t : Table NamespacedName Pod)
    (status : PodSandboxStatus) : Prop where
  pods : c'.pods = t
  secrets : c'.secrets = c.secrets
  classes : c'.classes = c.classes
  sandboxes : c.sandboxes.Replaces o (withStatus (fun _ => status) o) c'.sandboxes

/-- The effect of a whole call. -/
inductive Effect (policy : DeletionPolicy) (key : NamespacedName) (c c' : Cluster) : Prop
  | idle (h : ∀ o, ¬ Alive c key o) (hc : c' = c)
  | unavailable {o reason message now} (ho : Alive c key o)
      (hw : wanted c o = .error (reason, message))
      (h : Wrote c c' o c.pods (notReadyStatus now o reason message))
  | found {o cls p t status} (ho : Alive c key o) (hw : wanted c o = .ok cls)
      (hp : c.pods.get key = some p) (hv : Verdict policy o cls p c.pods t status)
      (h : Wrote c c' o t status)
  | created {o cls uid t now} (ho : Alive c key o) (hw : wanted c o = .ok cls)
      (hp : c.pods.Stores (asCreated uid (controlledBy o (desiredRunner o cls))) t)
      (h : Wrote c c' o t
        (observedStatus now o (asCreated uid (controlledBy o (desiredRunner o cls)))))

section Calls

variable {policy : DeletionPolicy} {key : NamespacedName} {c c' : Cluster} {s : ReconcileState}
  {envs : List Env} {result : Result} {env : Env} {ctx : Ctx} {err : ApiError}

theorem missing_of_fails {α : Type} [KubeObject α] {t : Table NamespacedName α}
    {k : NamespacedName} (hfault : env.fault = none) (h : Fails env none ctx t k err) :
    t.get k = none ∧ err = notFound α k := by
  obtain hrefused | hmissing := h
  · exact absurd hrefused (not_refused hfault)
  · exact hmissing

/-- The first step of a call that has not ended. -/
theorem run_cases (h : Run callStep (Quiet policy) (c, s) envs (c', .done key result)) :
    (c' = c ∧ s = .done key result) ∨
    ∃ env envs' c₁ s₁ out, Quiet policy (c, s) env ∧ ReconcileMove env none c s s₁ c₁ out ∧
      Run callStep (Quiet policy) (c₁, s₁) envs' (c', .done key result) := by
  cases h with
  | nil => exact .inl ⟨rfl, rfl⟩
  | @cons _ t _ env envs' hquiet hstep hrest =>
    obtain ⟨out, hmove⟩ := callStep_moves hstep
    exact .inr ⟨env, envs', t.1, t.2, out, hquiet, hmove, hrest⟩

/-- The rest of a call that writes a status it computed from the stored PodSandbox. -/
theorem wrote_of_patchStatus {o : PodSandbox} {status : PodSandboxStatus}
    {seen : Option Observation} {res : Result} (ho : c.sandboxes.get o.metadata.key = some o)
    (h : Run callStep (Quiet policy)
      (c, .patchStatus key o { o with status := status } seen res) envs (c', .done key result)) :
    Wrote c c' o c.pods status := by
  obtain ⟨-, hs⟩ | ⟨env, envs', c₁, s₁, out, hquiet, hmove, hrest⟩ := run_cases h
  · cases hs
  · cases hmove with
    | patchFailed hfails =>
      obtain ⟨hnone, -⟩ := missing_of_fails hquiet.1 hfails
      rw [show c.sandboxes.get o.metadata.key = none from hnone] at ho
      cases ho
    | @patched _ _ _ _ _ x t hget hrep =>
      obtain rfl : o = x := Option.some.inj (ho.symm.trans hget)
      rw [show withStatus (·.merge (PodSandboxStatus.mergeFrom o.status status)) o =
        withStatus (fun _ => status) o by
          simp only [withStatus, PodSandboxStatus.merge_mergeFrom_self]] at hrep
      obtain ⟨rfl, -⟩ | ⟨env, envs', c₁, s₁, out, -, hmove, -⟩ := run_cases hrest
      · exact ⟨rfl, rfl, rfl, hrep⟩
      · cases hmove

/-- The rest of a call that has read the runner. -/
theorem verdict_of_inspectRunner {o : PodSandbox} {cls : PodSandboxClass} {desired p : Pod}
    {now : Time} (ho : c.sandboxes.get o.metadata.key = some o)
    (hp : c.pods.get p.metadata.key = some p)
    (hd : desired.metadata.annotations = (desiredRunner o cls).metadata.annotations)
    (h : Run callStep (Quiet policy) (c, inspectRunner now key o cls desired p) envs
      (c', .done key result)) :
    ∃ t status, Verdict policy o cls p c.pods t status ∧ Wrote c c' o t status := by
  have htemplate : desired.metadata.annotations.getD annotationTemplateGeneration =
      templateGeneration o cls := by
    rw [hd]
    exact getD_annotationTemplateGeneration o cls
  unfold inspectRunner at h
  rw [htemplate] at h
  split at h
  · rename_i houtdated
    obtain ⟨-, hs⟩ | ⟨env, envs', c₁, s₁, out, hquiet, hmove, hrest⟩ := run_cases h
    · cases hs
    · cases hmove with
      | deleteFailed hrefused => exact absurd hrefused (not_refused hquiet.1)
      | deleteMissing hnone =>
        rw [hnone] at hp
        cases hp
      | deleted hget =>
        have hwrote : Wrote { c with pods := deletePodIn env c.pods p.metadata.key } c' o
            (deletePodIn env c.pods p.metadata.key) _ := wrote_of_patchStatus ho hrest
        exact ⟨_, _, .outdated houtdated (hquiet.2 p hp) rfl rfl, hwrote.pods, hwrote.secrets,
          hwrote.classes, hwrote.sandboxes⟩
  · rename_i hcurrent
    split at h
    · rename_i hphase
      exact ⟨_, _, .stopped (not_not.mp hcurrent) hphase rfl rfl, wrote_of_patchStatus ho h⟩
    · rename_i hphase
      exact ⟨_, _, .reported (not_not.mp hcurrent) hphase rfl rfl, wrote_of_patchStatus ho h⟩

/-- The rest of a call that has read PodSandbox, class and Secret. -/
theorem effect_of_createRunner {o : PodSandbox} {cls : PodSandboxClass} (ho : Alive c key o)
    (hw : wanted c o = .ok cls)
    (h : Run callStep (Quiet policy)
      (c, .createRunner key o cls (controlledBy o (desiredRunner o cls))) envs
      (c', .done key result)) : Effect policy key c c' := by
  have hkey : o.metadata.key = key := Table.key_of_get ho.1
  have hstored : c.sandboxes.get o.metadata.key = some o := by rw [hkey]; exact ho.1
  obtain ⟨-, hs⟩ | ⟨env, envs', c₁, s₁, out, hquiet, hmove, hrest⟩ := run_cases h
  · cases hs
  · cases hmove with
    | runnerFailed hrefused => exact absurd hrefused (not_refused hquiet.1)
    | @runnerExists _ _ _ _ cur err hcur =>
      replace hcur : c.pods.get key = some cur := hkey ▸ hcur
      obtain ⟨-, hs⟩ | ⟨env', envs'', c₂, s₂, out', hquiet', hmove', hrest'⟩ := run_cases hrest
      · cases hs
      · cases hmove' with
        | runnerUnread hrefused => exact absurd hrefused (not_refused hquiet'.1)
        | runnerMissing hnone =>
          rw [hcur] at hnone
          cases hnone
        | @runnerRead _ _ _ _ p hp =>
          have hp' : c.pods.get p.metadata.key = some p := by
            rw [show p.metadata.key = key from Table.key_of_get hp]
            exact hp
          obtain ⟨t, status, hv, hwrote⟩ := verdict_of_inspectRunner hstored hp' rfl hrest'
          exact .found ho hw hp hv hwrote
    | @runnerStored _ _ _ _ t hst =>
      obtain ⟨-, hs⟩ | ⟨env', envs'', c₂, s₂, out', hquiet', hmove', hrest'⟩ := run_cases hrest
      · cases hs
      · have hget : t.get key = some (asCreated env.uid (controlledBy o (desiredRunner o cls))) := by
          rw [← hkey]
          exact hst.get_self
        cases hmove' with
        | runnerUnread hrefused => exact absurd hrefused (not_refused hquiet'.1)
        | runnerMissing hnone =>
          rw [show t.get key = none from hnone] at hget
          cases hget
        | @runnerRead _ _ _ _ p hp =>
          obtain rfl : asCreated env.uid (controlledBy o (desiredRunner o cls)) = p :=
            Option.some.inj (hget.symm.trans hp)
          obtain ⟨t', status, hv, hwrote⟩ :=
            verdict_of_inspectRunner (c := { c with pods := t }) hstored hst.get_self rfl hrest'
          -- a new runner is up to date and has not run yet
          cases hv with
          | outdated houtdated =>
            exact absurd (getD_annotationTemplateGeneration o cls) houtdated
          | stopped _ hphase => exact absurd hphase (by rintro (h | h) <;> cases h)
          | reported _ _ ht hstatus =>
            subst ht hstatus
            exact .created ho hw hst ⟨hwrote.pods, hwrote.secrets, hwrote.classes, hwrote.sandboxes⟩

/-- A call that runs alone has one of the effects. -/
theorem Reconciles.effect (h : Reconciles policy key c c') : Effect policy key c c' := by
  obtain ⟨envs, result, hrun⟩ := h
  have hdone {r : Result} {envs' : List Env}
      (h : Run callStep (Quiet policy) (c, .done key r) envs' (c', .done key result)) :
      c' = c := by
    obtain ⟨hc, -⟩ | ⟨_, _, _, _, _, -, hmove, -⟩ := run_cases h
    · exact hc
    · cases hmove
  obtain ⟨-, hs⟩ | ⟨env, envs', c₁, s₁, out, hquiet, hmove, hrest⟩ := run_cases hrun
  · cases hs
  cases hmove with
  | sandboxFailed hfails =>
    obtain ⟨hnone, -⟩ := missing_of_fails hquiet.1 hfails
    refine .idle (fun o ho => ?_) (hdone hrest)
    rw [ho.1] at hnone
    cases hnone
  | sandboxTerminating hget hdel =>
    refine .idle (fun o ho => ?_) (hdone hrest)
    rw [ho.1] at hget
    cases hget
    exact ho.2 hdel
  | @sandboxRead _ o hget halive =>
    have hstored : c.sandboxes.get o.metadata.key = some o := by
      rw [show o.metadata.key = key from Table.key_of_get hget]
      exact hget
    obtain ⟨-, hs⟩ | ⟨env, envs', c₁, s₁, out, hquiet, hmove, hrest⟩ := run_cases hrest
    · cases hs
    cases hmove with
    | classFailed hfails =>
      obtain ⟨hnone, rfl⟩ := missing_of_fails hquiet.1 hfails
      refine .unavailable ⟨hget, halive⟩ ?_ (wrote_of_patchStatus hstored hrest)
      simp only [wanted, hnone]
    | @classRead _ _ cls hclass =>
      obtain ⟨-, hs⟩ | ⟨env, envs', c₁, s₁, out, hquiet, hmove, hrest⟩ := run_cases hrest
      · cases hs
      cases hmove with
      | secretFailed hfails =>
        obtain ⟨hnone, rfl⟩ := missing_of_fails hquiet.1 hfails
        refine .unavailable ⟨hget, halive⟩ ?_ (wrote_of_patchStatus hstored hrest)
        simp only [wanted, hclass, hnone]
      | secretKeyless hsecret hnokey =>
        refine .unavailable ⟨hget, halive⟩ ?_ (wrote_of_patchStatus hstored hrest)
        simp only [wanted, hclass, hsecret, hnokey, if_true]
      | runnerOwned hown => simp [setControllerReference, desiredRunner, KubeObject.metadata] at hown
      | secretRead hsecret hhas hown =>
        rw [setControllerReference_eq_ok hown] at hrest
        refine effect_of_createRunner ⟨hget, halive⟩ ?_ hrest
        simp only [wanted, hclass, hsecret, hhas, if_false]

end Calls

/-! ## Settled states -/

theorem setStatusCondition_idem (now now' : Time) (new : Condition) (cs : List Condition) :
    setStatusCondition now' new (setStatusCondition now new cs) = setStatusCondition now new cs := by
  induction cs with
  | nil => simp [setStatusCondition]
  | cons cur rest ih =>
    by_cases htype : cur.type = new.type
    · simp [setStatusCondition, htype]
    · simp only [setStatusCondition, if_neg htype, ih]

section Settled

variable (policy : DeletionPolicy)

/-- The status of `o` is what a call that finds the runner `p` writes. -/
inductive Judged (o : PodSandbox) (cls : PodSandboxClass) (p : Pod) : Prop
  | outdated (h : ¬ UpToDate o cls p) (hkept : policy.atOnce p = false)
      (hmarked : p.metadata.deletionTimestamp.isSome)
      (hstatus : ∀ now, notReadyStatus now o "UpdatingRunner"
        "The Pod Sandbox runner is being updated" = o.status)
  | stopped (h : UpToDate o cls p) (hphase : Stopped p)
      (hstatus : ∀ now, notReadyStatus now o "RunnerFailed" (stoppedMessage p) = o.status)
  | reported (h : UpToDate o cls p) (hphase : ¬ Stopped p)
      (hstatus : ∀ now, observedStatus now o p = o.status)

/-- A state that a call leaves as it is. -/
inductive Settled (key : NamespacedName) (c : Cluster) : Prop
  | idle (h : ∀ o, ¬ Alive c key o)
  | unavailable {o reason message} (ho : Alive c key o)
      (hw : wanted c o = .error (reason, message))
      (hstatus : ∀ now, notReadyStatus now o reason message = o.status)
  | judged {o cls p} (ho : Alive c key o) (hw : wanted c o = .ok cls)
      (hp : c.pods.get key = some p) (h : Judged policy o cls p)

/-- No outdated runner that a deletion would remove. -/
def Keeps (key : NamespacedName) (c : Cluster) : Prop :=
  ∀ o cls p, Alive c key o → wanted c o = .ok cls → c.pods.get key = some p →
    UpToDate o cls p ∨ policy.atOnce p = false

end Settled

section Writes

variable {c c' : Cluster} {key : NamespacedName} {o : PodSandbox} {t : Table NamespacedName Pod}
  {status : PodSandboxStatus}

theorem Alive.eq {o' : PodSandbox} (h : Alive c key o) (h' : Alive c key o') : o = o' :=
  Option.some.inj (h.1.symm.trans h'.1)

theorem Wrote.alive (h : Wrote c c' o t status) (ho : Alive c key o) :
    Alive c' key (withStatus (fun _ => status) o) := by
  refine ⟨?_, ho.2⟩
  rw [← Table.key_of_get ho.1]
  exact h.sandboxes.get_self

theorem Wrote.wanted_eq (h : Wrote c c' o t status) :
    wanted c' (withStatus (fun _ => status) o) = wanted c o := by
  simp only [wanted, withStatus, h.classes, h.secrets]

/-- Writing the status that is there changes nothing but the resource version. -/
theorem Wrote.sameState (h : Wrote c c' o t status) (hstatus : status = o.status)
    (hpods : ∀ k, t.get k = c.pods.get k) : SameState c c' where
  pods k := by rw [h.pods, hpods]
  secrets k := by rw [h.secrets]
  status k := by
    rw [h.sandboxes.get]
    split
    · rename_i hk
      rw [hk, h.sandboxes.stored, hstatus]
      rfl
    · rfl

/-- A runner is created only where there was none. -/
theorem vacant_of_created {cls : PodSandboxClass} {uid : Nat} (ho : Alive c key o)
    (h : c.pods.Stores (asCreated uid (controlledBy o (desiredRunner o cls))) t) :
    c.pods.get key = none := by
  rw [← Table.key_of_get ho.1]
  exact h.vacant

theorem notReadyStatus_idem (now now' : Time) (o : PodSandbox) (reason message : String) :
    notReadyStatus now' (withStatus (fun _ => notReadyStatus now o reason message) o) reason
      message = notReadyStatus now o reason message := by
  have hcondition := setStatusCondition_idem now now' (readyCondition o .false reason message)
    o.status.conditions
  simp only [notReadyStatus, withStatus, readyCondition] at hcondition ⊢
  rw [hcondition]

theorem observedStatus_idem (now now' : Time) (o : PodSandbox) (p : Pod) :
    observedStatus now' (withStatus (fun _ => observedStatus now o p) o) p =
      observedStatus now o p := by
  have hcondition := setStatusCondition_idem now now'
    (readyCondition o (boolCondition (runnerReady p))
      (if runnerReady p then "PodVMReady" else "PodVMStarting")
      (if runnerReady p then "The PodVM is ready" else "Waiting for the PodVM runtime"))
    o.status.conditions
  simp only [observedStatus, withStatus, readyCondition] at hcondition ⊢
  rw [hcondition]

/-- A deletion that marks a Pod leaves the other Pods alone. -/
theorem get_deletePodIn_marked {env : Env} {p : Pod} {k : NamespacedName}
    (himmediate : env.immediate = false) (hp : t.get p.metadata.key = some p) :
    (deletePodIn env t p.metadata.key).get k =
      if k = p.metadata.key then some (markDeleted env.now p) else t.get k := by
  unfold deletePodIn
  rw [if_neg (by simp [himmediate])]
  exact (replaces_modifyObject _ _ hp).get k

theorem markDeleted_of_marked {now : Time} {p : Pod}
    (h : p.metadata.deletionTimestamp.isSome) : markDeleted now p = p := by
  obtain ⟨time, htime⟩ := Option.isSome_iff_exists.mp h
  cases p with
  | mk metadata spec status =>
    cases metadata
    simp only at htime
    subst htime
    rfl

end Writes

section Effects

variable {policy : DeletionPolicy} {key : NamespacedName} {c c' : Cluster}

/-- A call keeps the PodSandbox and what it needs. -/
theorem Effect.kept (h : Effect policy key c c') {o : PodSandbox} (ho : Alive c key o) :
    ∃ status, Alive c' key (withStatus (fun _ => status) o) ∧
      wanted c' (withStatus (fun _ => status) o) = wanted c o := by
  cases h with
  | idle hidle => exact absurd ho (hidle o)
  | unavailable ho' hw hwrote =>
    obtain rfl := ho'.eq ho
    exact ⟨_, hwrote.alive ho, hwrote.wanted_eq⟩
  | found ho' hw hp hv hwrote =>
    obtain rfl := ho'.eq ho
    exact ⟨_, hwrote.alive ho, hwrote.wanted_eq⟩
  | created ho' hw hp hwrote =>
    obtain rfl := ho'.eq ho
    exact ⟨_, hwrote.alive ho, hwrote.wanted_eq⟩

/-- A call settles the state, unless it removes the runner. -/
theorem Effect.settled (h : Effect policy key c c') (hkeeps : Keeps policy key c) :
    Settled policy key c' := by
  cases h with
  | idle hidle hc =>
    subst hc
    exact .idle hidle
  | unavailable ho hw hwrote =>
    refine .unavailable (hwrote.alive ho) (hwrote.wanted_eq.trans hw) fun now' => ?_
    exact notReadyStatus_idem ..
  | @found o cls p t status ho hw hp hv hwrote =>
    have hkey : p.metadata.key = key := Table.key_of_get hp
    have hw' := hwrote.wanted_eq.trans hw
    cases hv with
    | @outdated env hout hpolicy ht hstatus =>
      subst ht hstatus
      obtain hcurrent | hkept := hkeeps o cls p ho hw hp
      · exact absurd hcurrent hout
      · have hmarked : c'.pods.get key = some (markDeleted env.now p) := by
          rw [hwrote.pods, get_deletePodIn_marked (hpolicy.trans hkept) (hkey ▸ hp), if_pos hkey.symm]
        exact .judged (hwrote.alive ho) hw' hmarked
          (.outdated hout (policy.stays _ _ hkept) rfl fun now' => notReadyStatus_idem ..)
    | stopped hcurrent hphase ht hstatus =>
      subst ht hstatus
      refine .judged (hwrote.alive ho) hw' ?_
        (.stopped hcurrent hphase fun now' => notReadyStatus_idem ..)
      rw [hwrote.pods]
      exact hp
    | reported hcurrent hphase ht hstatus =>
      subst ht hstatus
      refine .judged (hwrote.alive ho) hw' ?_
        (.reported hcurrent hphase fun now' => observedStatus_idem ..)
      rw [hwrote.pods]
      exact hp
  | @created o cls uid t now ho hw hst hwrote =>
    refine .judged (hwrote.alive ho) (hwrote.wanted_eq.trans hw) ?_
      (.reported ?_ ?_ fun now' => observedStatus_idem ..)
    · rw [hwrote.pods, ← Table.key_of_get ho.1]
      exact hst.get_self
    · exact getD_annotationTemplateGeneration o cls
    · rintro (h | h) <;> cases h

/-- A call that finds an outdated runner whose deletion takes effect at once leaves no runner. -/
theorem Effect.keeps (h : Effect policy key c c') (hremoves : ¬ Keeps policy key c) :
    Keeps policy key c' := by
  unfold Keeps at hremoves
  push Not at hremoves
  obtain ⟨o, cls, p, ho, hw, hp, houtdated, hatOnce⟩ := hremoves
  have hgone : c'.pods.get key = none := by
    cases h with
    | idle hidle => exact absurd ho (hidle o)
    | unavailable ho' hw' =>
      obtain rfl := ho'.eq ho
      rw [hw] at hw'
      cases hw'
    | @found o' cls' p' t status ho' hw' hp' hv hwrote =>
      obtain rfl := ho'.eq ho
      obtain rfl : cls' = cls := Except.ok.inj (hw'.symm.trans hw)
      obtain rfl : p' = p := Option.some.inj (hp'.symm.trans hp)
      cases hv with
      | @outdated env _ hpolicy ht =>
        have himmediate : env.immediate = true := hpolicy.trans (eq_true_of_ne_false hatOnce)
        have hkey : p'.metadata.key = key := Table.key_of_get hp
        rw [hwrote.pods, ht, deletePodIn, if_pos himmediate, hkey]
        exact ((Table.removes_erase _ hp).get key).trans (if_pos hkey.symm)
      | stopped hcurrent => exact absurd hcurrent houtdated
      | reported hcurrent => exact absurd hcurrent houtdated
    | created ho' hw' hst =>
      rw [vacant_of_created ho' hst] at hp
      cases hp
  intro o' cls' p' _ _ hp'
  rw [hgone] at hp'
  cases hp'

/-- A settled state with everything a runner needs has a runner, and the status says what a call would
make of it. -/
theorem Settled.judged_of (h : Settled policy key c) {o : PodSandbox} {cls : PodSandboxClass}
    (ho : Alive c key o) (hw : wanted c o = .ok cls) :
    ∃ p, c.pods.get key = some p ∧ Judged policy o cls p := by
  cases h with
  | idle hidle => exact absurd ho (hidle o)
  | unavailable ho' hw' =>
    obtain rfl := ho'.eq ho
    rw [hw] at hw'
    cases hw'
  | @judged o' cls' p ho' hw' hp hj =>
    obtain rfl := ho'.eq ho
    obtain rfl : cls' = cls := Except.ok.inj (hw'.symm.trans hw)
    exact ⟨p, hp, hj⟩

theorem Settled.keeps (h : Settled policy key c) : Keeps policy key c := by
  intro o cls p ho hw hp
  obtain ⟨p', hp', hj⟩ := h.judged_of ho hw
  obtain rfl : p' = p := Option.some.inj (hp'.symm.trans hp)
  cases hj with
  | outdated _ hkept => exact .inr hkept
  | stopped hcurrent => exact .inl hcurrent
  | reported hcurrent => exact .inl hcurrent

/-- What a call makes of the runner is there already. -/
theorem Judged.sameState {o : PodSandbox} {cls : PodSandboxClass} {p : Pod}
    {t : Table NamespacedName Pod} {status : PodSandboxStatus} (hj : Judged policy o cls p)
    (hp : c.pods.get key = some p) (hv : Verdict policy o cls p c.pods t status)
    (hwrote : Wrote c c' o t status) : SameState c c' := by
  cases hv with
  | @outdated env hout hpolicy ht hst =>
    cases hj with
    | outdated _ hkept hmarked hstatus =>
      subst ht hst
      refine hwrote.sameState (hstatus env.now) fun k => ?_
      have hkey : p.metadata.key = key := Table.key_of_get hp
      rw [get_deletePodIn_marked (hpolicy.trans hkept) (hkey ▸ hp), markDeleted_of_marked hmarked]
      split
      · rename_i hk
        rw [hk, hkey, hp]
      · rfl
    | stopped hcurrent => exact absurd hcurrent hout
    | reported hcurrent => exact absurd hcurrent hout
  | @stopped now hcurrent hphase ht hst =>
    subst ht hst
    cases hj with
    | outdated hout => exact absurd hcurrent hout
    | stopped _ _ hstatus => exact hwrote.sameState (hstatus now) fun _ => rfl
    | reported _ hrunning => exact absurd hphase hrunning
  | @reported now hcurrent hphase ht hst =>
    subst ht hst
    cases hj with
    | outdated hout => exact absurd hcurrent hout
    | stopped _ hstopped => exact absurd hstopped hphase
    | reported _ _ hstatus => exact hwrote.sameState (hstatus now) fun _ => rfl

/-- A call leaves a settled state as it is. -/
theorem Settled.sameState (h : Settled policy key c) (heffect : Effect policy key c c') :
    SameState c c' := by
  cases heffect with
  | idle hidle hc =>
    subst hc
    exact .refl _
  | @unavailable o reason message now ho hw hwrote =>
    cases h with
    | idle hidle => exact absurd ho (hidle o)
    | unavailable ho' hw' hstatus =>
      obtain rfl := ho'.eq ho
      rw [hw] at hw'
      cases hw'
      exact hwrote.sameState (hstatus now) fun _ => rfl
    | judged ho' hw' =>
      obtain rfl := ho'.eq ho
      rw [hw] at hw'
      cases hw'
  | @found o cls p t status ho hw hp hv hwrote =>
    obtain ⟨p', hp', hj⟩ := h.judged_of ho hw
    obtain rfl : p' = p := Option.some.inj (hp'.symm.trans hp)
    exact hj.sameState hp hv hwrote
  | @created o cls uid t now ho hw hst hwrote =>
    obtain ⟨p, hp, -⟩ := h.judged_of ho hw
    rw [vacant_of_created ho hst] at hp
    cases hp

/-- Two calls settle every state. -/
theorem settled_of_two {c₁ c₂ : Cluster} (h₁ : Reconciles policy key c c₁)
    (h₂ : Reconciles policy key c₁ c₂) : Settled policy key c₂ := by
  by_cases hkeeps : Keeps policy key c
  · exact h₂.effect.settled (h₁.effect.settled hkeeps).keeps
  · exact h₂.effect.settled (h₁.effect.keeps hkeeps)

/-- Any number of calls leave a settled state as it is. -/
theorem Settled.run (h : Settled policy key c)
    (hcalls : Relation.ReflTransGen (Reconciles policy key) c c') :
    SameState c c' ∧ Settled policy key c' := by
  induction hcalls with
  | refl => exact ⟨.refl c, h⟩
  | tail _ hcall ih =>
    obtain ⟨hsame, hsettled⟩ := ih
    exact ⟨hsame.trans (hsettled.sameState hcall.effect), hcall.effect.settled hsettled.keeps⟩

end Effects

/-- **Reconcile converges.** From every cluster state, with API calls failing only with NotFound or
AlreadyExists and nobody else acting: every call ends; after two calls, every further call leaves
Pods, Secrets and statuses (with their transition times) as they are; and if the PodSandbox is there
and not being deleted, with its class and its userdata, there is a runner then, which carries the
template generation or is still being deleted. -/
theorem reconcile_converges (policy : DeletionPolicy) (key : NamespacedName) (c : Cluster) :
    (∀ c, ∃ c', Reconciles policy key c c') ∧
    ∀ c₁ c₂, Reconciles policy key c c₁ → Reconciles policy key c₁ c₂ →
      (∀ c', Relation.ReflTransGen (Reconciles policy key) c₂ c' → SameState c₂ c') ∧
      ∀ o cls secret, c.sandboxes.get key = some o → o.metadata.deletionTimestamp = none →
        c.classes.get ⟨"", o.spec.className⟩ = some cls →
        c.secrets.get ⟨o.metadata.ns, o.spec.userDataSecretRef.name⟩ = some secret →
        secret.data.lookup "userdata" ≠ none →
        ∃ p, c₂.pods.get key = some p ∧
          (p.metadata.annotations.getD annotationTemplateGeneration = templateGeneration o cls ∨
            p.metadata.deletionTimestamp.isSome) := by
  refine ⟨fun c => ?_, fun c₁ c₂ h₁ h₂ => ⟨fun c' hcalls => ?_, ?_⟩⟩
  · obtain ⟨envs, c', key', result, hrun⟩ := exists_run policy c (.getSandbox key)
    obtain rfl : key' = key := run_key hrun
    exact ⟨c', envs, result, hrun⟩
  · exact ((settled_of_two h₁ h₂).run hcalls).1
  · intro o cls secret ho hdel hcls hsecret hkey
    have halive : Alive c key o := ⟨ho, by rw [hdel]; decide⟩
    have hw : wanted c o = .ok cls := by simp only [wanted, hcls, hsecret, if_neg hkey]
    obtain ⟨status₁, halive₁, hw₁⟩ := h₁.effect.kept halive
    obtain ⟨status₂, halive₂, hw₂⟩ := h₂.effect.kept halive₁
    rw [hw₁, hw] at hw₂
    cases settled_of_two h₁ h₂ with
    | idle hidle => exact absurd halive₂ (hidle _)
    | unavailable ho' hw' =>
      obtain rfl := ho'.eq halive₂
      rw [hw₂] at hw'
      cases hw'
    | @judged o' cls' p ho' hw' hp hj =>
      obtain rfl := ho'.eq halive₂
      obtain rfl : cls' = cls := Except.ok.inj (hw'.symm.trans hw₂)
      refine ⟨p, hp, ?_⟩
      cases hj with
      | outdated _ _ hmarked => exact .inr hmarked
      | stopped hcurrent => exact .inl hcurrent
      | reported hcurrent => exact .inl hcurrent

end SandboxProvider.Controller
