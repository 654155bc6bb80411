import SandboxProvider.Controller.Reconcile

/-!
# What a step of Reconcile can do

One constructor for each outcome of the client call a state waits for, and the theorem that a step
of the program is one of them.
-/

namespace SandboxProvider.Controller

open Lib

section Moves

variable (env : Env) (ctxErr : Option String) (c : Cluster)

/-- The steps of `Reconcile`. -/
inductive ReconcileMove : ReconcileState → ReconcileState → Cluster → Outcome → Prop
  | sandboxFailed {key err} (h : Fails env ctxErr .request c.sandboxes key err) :
      ReconcileMove (.getSandbox key) (.done key (ignoreNotFound err)) c (.error err)
  | sandboxTerminating {key o} (h : c.sandboxes.get key = some o)
      (hdel : o.metadata.deletionTimestamp.isSome) :
      ReconcileMove (.getSandbox key) (.done key {}) c (.ok [])
  | sandboxRead {key o} (h : c.sandboxes.get key = some o)
      (hdel : ¬ o.metadata.deletionTimestamp.isSome) :
      ReconcileMove (.getSandbox key) (.getClass key o) c (.ok [])
  | classFailed {key sandbox err}
      (h : Fails env ctxErr .request c.classes ⟨"", sandbox.spec.className⟩ err) :
      ReconcileMove (.getClass key sandbox)
        (fail env.now key sandbox "ClassUnavailable" err.message) c (.error err)
  | classRead {key sandbox o} (h : c.classes.get ⟨"", sandbox.spec.className⟩ = some o) :
      ReconcileMove (.getClass key sandbox) (.getSecret key sandbox o) c (.ok [])
  | secretFailed {key sandbox sandboxClass err}
      (h : Fails env ctxErr .request c.secrets
        ⟨sandbox.metadata.ns, sandbox.spec.userDataSecretRef.name⟩ err) :
      ReconcileMove (.getSecret key sandbox sandboxClass)
        (fail env.now key sandbox "UserDataUnavailable" err.message) c (.error err)
  | secretKeyless {key sandbox sandboxClass secret}
      (h : c.secrets.get ⟨sandbox.metadata.ns, sandbox.spec.userDataSecretRef.name⟩ = some secret)
      (hkey : secret.data.lookup "userdata" = none) :
      ReconcileMove (.getSecret key sandbox sandboxClass)
        (fail env.now key sandbox "UserDataUnavailable"
          ("secret " ++ secret.metadata.name ++ " has no userdata key")) c (.ok [])
  | runnerOwned {key sandbox sandboxClass err}
      (h : setControllerReference sandbox (desiredRunner sandbox sandboxClass) = .error err) :
      ReconcileMove (.getSecret key sandbox sandboxClass) (.done key ⟨none, some err⟩) c (.ok [])
  | secretRead {key sandbox sandboxClass secret desired}
      (h : c.secrets.get ⟨sandbox.metadata.ns, sandbox.spec.userDataSecretRef.name⟩ = some secret)
      (hkey : secret.data.lookup "userdata" ≠ none)
      (hown : setControllerReference sandbox (desiredRunner sandbox sandboxClass) = .ok desired) :
      ReconcileMove (.getSecret key sandbox sandboxClass)
        (.createRunner key sandbox sandboxClass desired) c (.ok [])
  | runnerFailed {key sandbox sandboxClass desired err} (h : Refused env ctxErr .request err) :
      ReconcileMove (.createRunner key sandbox sandboxClass desired)
        (fail env.now key sandbox "RunnerCreateFailed" err.message) c (.error err)
  | runnerExists {key sandbox sandboxClass desired cur err}
      (h : c.pods.get desired.metadata.key = some cur) :
      ReconcileMove (.createRunner key sandbox sandboxClass desired)
        (.getRunner key sandbox sandboxClass desired) c (.error err)
  | runnerStored {key sandbox sandboxClass desired t}
      (h : c.pods.Stores (asCreated env.uid desired) t) :
      ReconcileMove (.createRunner key sandbox sandboxClass desired)
        (.getRunner key sandbox sandboxClass (asCreated env.uid desired)) { c with pods := t }
        (.ok [.createPod (asCreated env.uid desired)])
  | runnerUnread {key sandbox sandboxClass desired err} (h : Refused env ctxErr .request err) :
      ReconcileMove (.getRunner key sandbox sandboxClass desired)
        (.done key ⟨none, some err.message⟩) c (.error err)
  | runnerMissing {key sandbox sandboxClass desired} (h : c.pods.get key = none) :
      ReconcileMove (.getRunner key sandbox sandboxClass desired)
        (progressing env.now key sandbox "WaitingForRunner"
          "The Pod Sandbox runner is being scheduled") c (.error (notFound Pod key))
  | runnerRead {key sandbox sandboxClass desired runner} (h : c.pods.get key = some runner) :
      ReconcileMove (.getRunner key sandbox sandboxClass desired)
        (inspectRunner env.now key sandbox sandboxClass desired runner) c (.ok [])
  | deleteFailed {key sandbox runner err} (h : Refused env ctxErr .request err) :
      ReconcileMove (.deleteRunner key sandbox runner)
        (fail env.now key sandbox "RunnerDeleteFailed" err.message) c (.error err)
  | deleteMissing {key sandbox runner} (h : c.pods.get runner.metadata.key = none) :
      ReconcileMove (.deleteRunner key sandbox runner)
        (progressing env.now key sandbox "UpdatingRunner"
          "The Pod Sandbox runner is being updated") c (.error (notFound Pod runner.metadata.key))
  | deleted {key sandbox runner o} (h : c.pods.get runner.metadata.key = some o) :
      ReconcileMove (.deleteRunner key sandbox runner)
        (progressing env.now key sandbox "UpdatingRunner"
          "The Pod Sandbox runner is being updated")
        { c with pods := deletePodIn env c.pods runner.metadata.key } (.ok [.deletePod o])
  | patchFailed {key base modified seen result err}
      (h : Fails env ctxErr .request c.sandboxes modified.metadata.key err) :
      ReconcileMove (.patchStatus key base modified seen result) (.done key (ignoreNotFound err)) c
        (.error err)
  | patched {key base modified seen result o t}
      (hget : c.sandboxes.get modified.metadata.key = some o)
      (h : c.sandboxes.Replaces o
        (withStatus (·.merge (PodSandboxStatus.mergeFrom base.status modified.status)) o) t) :
      ReconcileMove (.patchStatus key base modified seen result) (.done key result)
        { c with sandboxes := t }
        (.ok [.patchSandbox
          (withStatus (·.merge (PodSandboxStatus.mergeFrom base.status modified.status)) o)])

end Moves

section Inversion

variable {env : Env} {ctxErr : Option String} {c c' : Cluster} {out : Outcome}

theorem ReconcileState.moves {s s' : ReconcileState}
    (h : s.next.step env ctxErr c = some (s', c', out)) :
    ReconcileMove env ctxErr c s s' c' out := by
  cases s with
  | getSandbox key =>
    obtain ⟨err, hr, rfl, rfl, rfl⟩ | ⟨res, ws, hx, rfl, rfl⟩ := Next.step_call h
    · exact .sandboxFailed (.inl hr)
    · obtain ⟨hnone, hget⟩ | ⟨o, ho, hget⟩ := getObject_cases c.sandboxes key <;>
        simp only [Cluster.exec, hget, Option.some.injEq, Prod.mk.injEq] at hx <;>
        obtain ⟨rfl, rfl, rfl⟩ := hx
      · exact .sandboxFailed (.inr ⟨hnone, rfl⟩)
      · dsimp only
        split
        · rename_i hdel
          exact .sandboxTerminating ho hdel
        · rename_i hdel
          exact .sandboxRead ho hdel
  | getClass key sandbox =>
    obtain ⟨err, hr, rfl, rfl, rfl⟩ | ⟨res, ws, hx, rfl, rfl⟩ := Next.step_call h
    · exact .classFailed (.inl hr)
    · obtain ⟨hnone, hget⟩ | ⟨o, ho, hget⟩ :=
        getObject_cases c.classes ⟨"", sandbox.spec.className⟩ <;>
        simp only [Cluster.exec, hget, Option.some.injEq, Prod.mk.injEq] at hx <;>
        obtain ⟨rfl, rfl, rfl⟩ := hx
      · exact .classFailed (.inr ⟨hnone, rfl⟩)
      · exact .classRead ho
  | getSecret key sandbox sandboxClass =>
    obtain ⟨err, hr, rfl, rfl, rfl⟩ | ⟨res, ws, hx, rfl, rfl⟩ := Next.step_call h
    · exact .secretFailed (.inl hr)
    · obtain ⟨hnone, hget⟩ | ⟨secret, hs, hget⟩ := getObject_cases c.secrets
        ⟨sandbox.metadata.ns, sandbox.spec.userDataSecretRef.name⟩ <;>
        simp only [Cluster.exec, hget, Option.some.injEq, Prod.mk.injEq] at hx <;>
        obtain ⟨rfl, rfl, rfl⟩ := hx
      · exact .secretFailed (.inr ⟨hnone, rfl⟩)
      · dsimp only
        split
        · rename_i hkey
          exact .secretKeyless hs (Option.isNone_iff_eq_none.mp hkey)
        · rename_i hkey
          split
          · rename_i err hown
            exact .runnerOwned hown
          · rename_i desired hown
            exact .secretRead hs (fun e => hkey (Option.isNone_iff_eq_none.mpr e)) hown
  | createRunner key sandbox sandboxClass desired =>
    obtain ⟨err, hr, rfl, rfl, rfl⟩ | ⟨res, ws, hx, rfl, rfl⟩ := Next.step_call h
    · dsimp only
      rw [if_neg (by rw [hr.isAlreadyExists]; decide)]
      exact .runnerFailed hr
    · obtain ⟨cur, hcur, rfl, rfl, rfl⟩ | ⟨t, hst, rfl, rfl, rfl⟩ := createCall_cases hx
      · exact .runnerExists hcur
      · exact .runnerStored hst
  | getRunner key sandbox sandboxClass desired =>
    obtain ⟨err, hr, rfl, rfl, rfl⟩ | ⟨res, ws, hx, rfl, rfl⟩ := Next.step_call h
    · dsimp only
      rw [if_neg (by rw [hr.isNotFound]; decide)]
      exact .runnerUnread hr
    · obtain ⟨hnone, hget⟩ | ⟨o, ho, hget⟩ := getObject_cases c.pods key <;>
        simp only [Cluster.exec, hget, Option.some.injEq, Prod.mk.injEq] at hx <;>
        obtain ⟨rfl, rfl, rfl⟩ := hx
      · exact .runnerMissing hnone
      · exact .runnerRead ho
  | deleteRunner key sandbox runner =>
    obtain ⟨err, hr, rfl, rfl, rfl⟩ | ⟨res, ws, hx, rfl, rfl⟩ := Next.step_call h
    · dsimp only
      rw [if_neg (by rw [hr.isNotFound]; decide)]
      exact .deleteFailed hr
    · obtain ⟨hnone, rfl, rfl, rfl⟩ | ⟨o, ho, hf⟩ := onObject_cases (Option.some.inj hx)
      · exact .deleteMissing hnone
      · cases hf
        exact .deleted ho
  | patchStatus key base modified seen result =>
    obtain ⟨err, hr, rfl, rfl, rfl⟩ | ⟨res, ws, hx, rfl, rfl⟩ := Next.step_call h
    · exact .patchFailed (.inl hr)
    · obtain ⟨hnone, rfl, rfl, rfl⟩ | ⟨o, ho, hf⟩ := onObject_cases (Option.some.inj hx)
      · exact .patchFailed (.inr ⟨hnone, rfl⟩)
      · cases hf
        exact .patched ho (replaces_modifyObject _ _ ho)
  | done key result => cases h

end Inversion

end SandboxProvider.Controller
