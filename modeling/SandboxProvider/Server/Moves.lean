import SandboxProvider.Server.Handlers

/-!
# What a step of the API server can do

`CreateMove`, `DeleteMove`, `ConfigMove` and `CallMove` say it once, with one constructor for each
outcome of the client call a state waits for. Every invariant is proved by cases on them; the
handlers' programs are not unfolded again.
-/

namespace SandboxProvider.Server

open Lib

section Moves

variable (env : Env) (ctxErr : Option String) (c : Cluster)

/-- The steps of `createSandbox`. -/
inductive CreateMove : CreateState → CreateState → Cluster → Outcome → Prop
  | classFailed {access body err}
      (h : Fails env ctxErr .request c.classes ⟨"", access.className⟩ err) :
      CreateMove (.getClass access body)
        (.rejected (.error 503 (classError access.className err))) c (.error err)
  | classRead {access body o} (h : c.classes.get ⟨"", access.className⟩ = some o) :
      CreateMove (.getClass access body) (prepare access body) c (.ok [])
  | sandboxUnread {job err} (h : Refused env ctxErr .request err) :
      CreateMove (.getSandbox job) (.done job {} (.error 500 err.message)) c (.error err)
  | sandboxMissing {job} (h : c.sandboxes.get job.key = none) :
      CreateMove (.getSandbox job) (.createSecret job) c (.error (notFound PodSandbox job.key))
  | sandboxFound {job o} (h : c.sandboxes.get job.key = some o) (hid : job.sameIdentity o) :
      CreateMove (.getSandbox job) (.poll job o false) c (.ok [])
  | sandboxConflict {job o} (h : c.sandboxes.get job.key = some o) (hid : ¬ job.sameIdentity o) :
      CreateMove (.getSandbox job) (.done job o (.error 409 "sandbox identity conflict")) c (.ok [])
  | secretFailed {job err} (h : Refused env ctxErr .request err) :
      CreateMove (.createSecret job) (.done job {} (.error 500 err.message)) c (.error err)
  | secretExists {job cur err} (h : c.secrets.get job.secretKey = some cur) :
      CreateMove (.createSecret job) (.createSandbox job job.secret) c (.error err)
  | secretStored {job t} (h : c.secrets.Stores (asCreated env.uid job.secret) t) :
      CreateMove (.createSecret job) (.createSandbox job (asCreated env.uid job.secret))
        { c with secrets := t } (.ok [.createSecret (asCreated env.uid job.secret)])
  | sandboxFailed {job secret err}
      (h : Refused env ctxErr .request err ∨ ∃ cur, c.sandboxes.get job.key = some cur) :
      CreateMove (.createSandbox job secret) (.deleteSecret job secret err.message) c (.error err)
  | sandboxStored {job secret t} (h : c.sandboxes.Stores (asCreated env.uid job.sandbox) t) :
      CreateMove (.createSandbox job secret) (adopt job (asCreated env.uid job.sandbox) secret)
        { c with sandboxes := t } (.ok [.createSandbox (asCreated env.uid job.sandbox)])
  | secretKept {job secret message err}
      (h : Fails env ctxErr .request c.secrets secret.metadata.key err) :
      CreateMove (.deleteSecret job secret message)
        (.done job job.sandbox (.error 500 message)) c (.error err)
  | secretDeleted {job secret message o t} (hget : c.secrets.get secret.metadata.key = some o)
      (h : c.secrets.Removes o t) :
      CreateMove (.deleteSecret job secret message)
        (.done job job.sandbox (.error 500 message)) { c with secrets := t }
        (.ok [.deleteSecret o])
  | secretUnowned {job sandbox secret err}
      (h : Fails env ctxErr .request c.secrets secret.metadata.key err ∨
        ∃ cur, c.secrets.get secret.metadata.key = some cur ∧
          updateRefusal cur secret = some err) :
      CreateMove (.updateSecret job sandbox secret) (.poll job sandbox true) c (.error err)
  | secretOwned {job sandbox secret cur t} (hget : c.secrets.get secret.metadata.key = some cur)
      (hok : updateRefusal cur secret = none)
      (h : c.secrets.Replaces cur (updatedSecret secret cur) t) :
      CreateMove (.updateSecret job sandbox secret) (.poll job sandbox true)
        { c with secrets := t } (.ok [.updateSecret (updatedSecret secret cur)])
  | pollFailed {job sandbox createdHere err}
      (h : Fails env ctxErr .request c.sandboxes job.key err) :
      CreateMove (.poll job sandbox createdHere)
        (finish job sandbox createdHere (.error 500 err.message)) c (.error err)
  | polled {job sandbox createdHere o} (h : c.sandboxes.get job.key = some o) :
      CreateMove (.poll job sandbox createdHere) (afterPoll job createdHere o) c (.ok [])
  | expired {job sandbox createdHere err} (h : ctxErr = some err) :
      CreateMove (.wait job sandbox createdHere)
        (finish job sandbox createdHere (.error 504 err)) c (.ok [])
  | ticked {job sandbox createdHere} :
      CreateMove (.wait job sandbox createdHere) (.poll job sandbox createdHere) c (.ok [])
  | rollbackFailed {job sandbox reply err}
      (h : Fails env ctxErr .withoutCancel c.sandboxes sandbox.metadata.key err) :
      CreateMove (.rollback job sandbox reply) (.done job sandbox reply) c (.error err)
  | rolledBack {job sandbox reply o t} (hget : c.sandboxes.get sandbox.metadata.key = some o)
      (h : c.sandboxes.Removes o t) :
      CreateMove (.rollback job sandbox reply) (.done job sandbox reply)
        { c with sandboxes := t } (.ok [.deleteSandbox o])

/-- The steps of `deleteSandbox`. -/
inductive DeleteMove : DeleteState → DeleteState → Cluster → Outcome → Prop
  | unread {access id err} (h : Refused env ctxErr .request err) :
      DeleteMove (.getSandbox access id) (.done (.error 500 err.message)) c (.error err)
  | missing {access id} (h : c.sandboxes.get ⟨access.ns, id⟩ = none) :
      DeleteMove (.getSandbox access id) (.done .noContent) c
        (.error (notFound PodSandbox ⟨access.ns, id⟩))
  | forbidden {access id o} (h : c.sandboxes.get ⟨access.ns, id⟩ = some o)
      (hclass : o.spec.className ≠ access.className) :
      DeleteMove (.getSandbox access id) (.done (.error 403 "forbidden")) c (.ok [])
  | found {access id o} (h : c.sandboxes.get ⟨access.ns, id⟩ = some o)
      (hclass : o.spec.className = access.className) :
      DeleteMove (.getSandbox access id) (.deleteSandbox access o) c (.ok [])
  | failed {access sandbox err} (h : Refused env ctxErr .request err) :
      DeleteMove (.deleteSandbox access sandbox) (.done (.error 500 err.message)) c (.error err)
  | gone {access sandbox} (h : c.sandboxes.get sandbox.metadata.key = none) :
      DeleteMove (.deleteSandbox access sandbox) (.done .noContent) c
        (.error (notFound PodSandbox sandbox.metadata.key))
  | deleted {access sandbox o t} (hget : c.sandboxes.get sandbox.metadata.key = some o)
      (h : c.sandboxes.Removes o t) :
      DeleteMove (.deleteSandbox access sandbox) (.done .noContent) { c with sandboxes := t }
        (.ok [.deleteSandbox o])

/-- The steps of `getConfig`. -/
inductive ConfigMove : ConfigState → ConfigState → Cluster → Outcome → Prop
  | failed {access err} (h : Fails env ctxErr .request c.classes ⟨"", access.className⟩ err) :
      ConfigMove (.getClass access) (.done (.error 503 (classError access.className err))) c
        (.error err)
  | read {access o} (h : c.classes.get ⟨"", access.className⟩ = some o) :
      ConfigMove (.getClass access) (.done (.config (reportedMTU o))) c (.ok [])

/-- The steps of a request, from `authorize` on. -/
inductive CallMove (cfg : Config) : CallState → CallState → Cluster → Outcome → Prop
  | tokenFailed {got route err} (h : Fails env ctxErr .request c.secrets cfg.tokenKey err) :
      CallMove cfg (.getToken got route) (compareToken cfg got route (.error err.message)) c
        (.error err)
  | tokenRead {got route secret} (h : c.secrets.get cfg.tokenKey = some secret) :
      CallMove cfg (.getToken got route) (compareToken cfg got route (secretToken secret)) c (.ok [])
  | accessesFailed {got route err} (h : Refused env ctxErr .request err) :
      CallMove cfg (.listAccesses got route)
        (authorized route (.error ("list Pod Sandbox API access secrets: " ++ err.message))) c
        (.error err)
  | accessesRead {got route} :
      CallMove cfg (.listAccesses got route)
        (authorized route (matchAccess got {} (accessSecrets cfg c))) c (.ok [])
  | config {s s' c' out} (h : ConfigMove env ctxErr c s s' c' out) :
      CallMove cfg (.config s) (.config s') c' out
  | create {s s' c' out} (h : CreateMove env ctxErr c s s' c' out) :
      CallMove cfg (.create s) (.create s') c' out
  | delete {s s' c' out} (h : DeleteMove env ctxErr c s s' c' out) :
      CallMove cfg (.delete s) (.delete s') c' out

end Moves

section Inversion

variable {env : Env} {ctxErr : Option String} {c c' : Cluster} {out : Outcome}

theorem CreateState.moves {s s' : CreateState} (h : s.next.step env ctxErr c = some (s', c', out)) :
    CreateMove env ctxErr c s s' c' out := by
  cases s with
  | getClass access body =>
    obtain ⟨err, hr, rfl, rfl, rfl⟩ | ⟨res, ws, hx, rfl, rfl⟩ := Next.step_call h
    · exact .classFailed (.inl hr)
    · obtain ⟨hnone, hget⟩ | ⟨o, ho, hget⟩ := getObject_cases c.classes ⟨"", access.className⟩ <;>
        simp only [Cluster.exec, hget, Option.some.injEq, Prod.mk.injEq] at hx <;>
        obtain ⟨rfl, rfl, rfl⟩ := hx
      · exact .classFailed (.inr ⟨hnone, rfl⟩)
      · exact .classRead ho
  | getSandbox job =>
    obtain ⟨err, hr, rfl, rfl, rfl⟩ | ⟨res, ws, hx, rfl, rfl⟩ := Next.step_call h
    · dsimp only
      rw [if_neg (by rw [hr.isNotFound]; decide)]
      exact .sandboxUnread hr
    · obtain ⟨hnone, hget⟩ | ⟨o, ho, hget⟩ := getObject_cases c.sandboxes job.key <;>
        simp only [Cluster.exec, hget, Option.some.injEq, Prod.mk.injEq] at hx <;>
        obtain ⟨rfl, rfl, rfl⟩ := hx
      · exact .sandboxMissing hnone
      · dsimp only
        split
        · rename_i hid
          exact .sandboxFound ho hid
        · rename_i hid
          exact .sandboxConflict ho hid
  | createSecret job =>
    obtain ⟨err, hr, rfl, rfl, rfl⟩ | ⟨res, ws, hx, rfl, rfl⟩ := Next.step_call h
    · dsimp only
      rw [if_neg (by rw [hr.isAlreadyExists]; decide)]
      exact .secretFailed hr
    · obtain ⟨cur, hcur, rfl, rfl, rfl⟩ | ⟨t, hst, rfl, rfl, rfl⟩ := createCall_cases hx
      · exact .secretExists hcur
      · exact .secretStored hst
  | createSandbox job secret =>
    obtain ⟨err, hr, rfl, rfl, rfl⟩ | ⟨res, ws, hx, rfl, rfl⟩ := Next.step_call h
    · exact .sandboxFailed (.inl hr)
    · obtain ⟨cur, hcur, rfl, rfl, rfl⟩ | ⟨t, hst, rfl, rfl, rfl⟩ := createCall_cases hx
      · exact .sandboxFailed (.inr ⟨cur, hcur⟩)
      · exact .sandboxStored hst
  | deleteSecret job secret message =>
    obtain ⟨err, hr, rfl, rfl, rfl⟩ | ⟨res, ws, hx, rfl, rfl⟩ := Next.step_call h
    · exact .secretKept (.inl hr)
    · obtain ⟨hnone, rfl, rfl, rfl⟩ | ⟨o, ho, hf⟩ := onObject_cases (Option.some.inj hx)
      · exact .secretKept (.inr ⟨hnone, rfl⟩)
      · cases hf
        exact .secretDeleted ho (Table.removes_erase _ ho)
  | updateSecret job sandbox secret =>
    obtain ⟨err, hr, rfl, rfl, rfl⟩ | ⟨res, ws, hx, rfl, rfl⟩ := Next.step_call h
    · exact .secretUnowned (.inl (.inl hr))
    · obtain ⟨hnone, rfl, rfl, rfl⟩ | ⟨cur, hcur, hf⟩ := onObject_cases (Option.some.inj hx)
      · exact .secretUnowned (.inl (.inr ⟨hnone, rfl⟩))
      · split at hf
        · rename_i err herr
          cases hf
          exact .secretUnowned (.inr ⟨cur, hcur, herr⟩)
        · rename_i hok
          cases hf
          exact .secretOwned hcur hok (replaces_modifyObject _ _ hcur)
  | poll job sandbox createdHere =>
    obtain ⟨err, hr, rfl, rfl, rfl⟩ | ⟨res, ws, hx, rfl, rfl⟩ := Next.step_call h
    · exact .pollFailed (.inl hr)
    · obtain ⟨hnone, hget⟩ | ⟨o, ho, hget⟩ := getObject_cases c.sandboxes job.key <;>
        simp only [Cluster.exec, hget, Option.some.injEq, Prod.mk.injEq] at hx <;>
        obtain ⟨rfl, rfl, rfl⟩ := hx
      · exact .pollFailed (.inr ⟨hnone, rfl⟩)
      · exact .polled ho
  | wait job sandbox createdHere =>
    simp only [CreateState.next, Next.step] at h
    split at h
    · split at h
      · cases h
        exact .expired rfl
      · cases h
    · cases h
      exact .ticked
  | rollback job sandbox reply =>
    obtain ⟨err, hr, rfl, rfl, rfl⟩ | ⟨res, ws, hx, rfl, rfl⟩ := Next.step_call h
    · exact .rollbackFailed (.inl hr)
    · obtain ⟨hnone, rfl, rfl, rfl⟩ | ⟨o, ho, hf⟩ := onObject_cases (Option.some.inj hx)
      · exact .rollbackFailed (.inr ⟨hnone, rfl⟩)
      · cases hf
        exact .rolledBack ho (Table.removes_erase _ ho)
  | done job sandbox reply => cases h
  | rejected reply => cases h

theorem DeleteState.moves {s s' : DeleteState} (h : s.next.step env ctxErr c = some (s', c', out)) :
    DeleteMove env ctxErr c s s' c' out := by
  cases s with
  | getSandbox access id =>
    obtain ⟨err, hr, rfl, rfl, rfl⟩ | ⟨res, ws, hx, rfl, rfl⟩ := Next.step_call h
    · dsimp only
      rw [if_neg (by rw [hr.isNotFound]; decide)]
      exact .unread hr
    · obtain ⟨hnone, hget⟩ | ⟨o, ho, hget⟩ := getObject_cases c.sandboxes ⟨access.ns, id⟩ <;>
        simp only [Cluster.exec, hget, Option.some.injEq, Prod.mk.injEq] at hx <;>
        obtain ⟨rfl, rfl, rfl⟩ := hx
      · exact .missing hnone
      · dsimp only
        split
        · rename_i hclass
          exact .forbidden ho hclass
        · rename_i hclass
          exact .found ho (not_not.mp hclass)
  | deleteSandbox access sandbox =>
    obtain ⟨err, hr, rfl, rfl, rfl⟩ | ⟨res, ws, hx, rfl, rfl⟩ := Next.step_call h
    · dsimp only
      rw [if_neg (by rw [hr.isNotFound]; decide)]
      exact .failed hr
    · obtain ⟨hnone, rfl, rfl, rfl⟩ | ⟨o, ho, hf⟩ := onObject_cases (Option.some.inj hx)
      · exact .gone hnone
      · cases hf
        exact .deleted ho (Table.removes_erase _ ho)
  | done reply => cases h

theorem ConfigState.moves {s s' : ConfigState} (h : s.next.step env ctxErr c = some (s', c', out)) :
    ConfigMove env ctxErr c s s' c' out := by
  cases s with
  | getClass access =>
    obtain ⟨err, hr, rfl, rfl, rfl⟩ | ⟨res, ws, hx, rfl, rfl⟩ := Next.step_call h
    · exact .failed (.inl hr)
    · obtain ⟨hnone, hget⟩ | ⟨o, ho, hget⟩ := getObject_cases c.classes ⟨"", access.className⟩ <;>
        simp only [Cluster.exec, hget, Option.some.injEq, Prod.mk.injEq] at hx <;>
        obtain ⟨rfl, rfl, rfl⟩ := hx
      · exact .failed (.inr ⟨hnone, rfl⟩)
      · exact .read ho
  | done reply => cases h

theorem CallState.moves {cfg : Config} {s s' : CallState}
    (h : (s.next cfg).step env ctxErr c = some (s', c', out)) :
    CallMove env ctxErr c cfg s s' c' out := by
  cases s with
  | getToken got route =>
    obtain ⟨err, hr, rfl, rfl, rfl⟩ | ⟨res, ws, hx, rfl, rfl⟩ := Next.step_call h
    · exact .tokenFailed (.inl hr)
    · obtain ⟨hnone, hget⟩ | ⟨o, ho, hget⟩ := getObject_cases c.secrets cfg.tokenKey <;>
        simp only [Cluster.exec, hget, Option.some.injEq, Prod.mk.injEq] at hx <;>
        obtain ⟨rfl, rfl, rfl⟩ := hx
      · exact .tokenFailed (.inr ⟨hnone, rfl⟩)
      · exact .tokenRead ho
  | listAccesses got route =>
    obtain ⟨err, hr, rfl, rfl, rfl⟩ | ⟨res, ws, hx, rfl, rfl⟩ := Next.step_call h
    · exact .accessesFailed hr
    · cases hx
      exact .accessesRead
  | config s =>
    rw [CallState.next, Next.step_map] at h
    obtain ⟨⟨t, c₁, out₁⟩, ht, he⟩ := Option.map_eq_some_iff.mp h
    cases he
    exact .config (ConfigState.moves ht)
  | create s =>
    rw [CallState.next, Next.step_map] at h
    obtain ⟨⟨t, c₁, out₁⟩, ht, he⟩ := Option.map_eq_some_iff.mp h
    cases he
    exact .create (CreateState.moves ht)
  | delete s =>
    rw [CallState.next, Next.step_map] at h
    obtain ⟨⟨t, c₁, out₁⟩, ht, he⟩ := Option.map_eq_some_iff.mp h
    cases he
    exact .delete (DeleteState.moves ht)
  | replied reply => cases h

/-- A step of a request changes no class and no Pod. -/
theorem CallMove.frame {cfg : Config} {s s' : CallState}
    (h : CallMove env ctxErr c cfg s s' c' out) : c'.classes = c.classes ∧ c'.pods = c.pods := by
  cases h with
  | tokenFailed => exact ⟨rfl, rfl⟩
  | tokenRead => exact ⟨rfl, rfl⟩
  | accessesFailed => exact ⟨rfl, rfl⟩
  | accessesRead => exact ⟨rfl, rfl⟩
  | config h => cases h <;> exact ⟨rfl, rfl⟩
  | create h => cases h <;> exact ⟨rfl, rfl⟩
  | delete h => cases h <;> exact ⟨rfl, rfl⟩

end Inversion

/-! ## Facts about the steps of createSandbox -/

section Create

variable {env : Env} {ctxErr : Option String} {c c' : Cluster} {out : Outcome}
  {s s' : CreateState} {job : Job} {sandbox : PodSandbox} {reply : Reply} {createdHere : Bool}

theorem finish_owned {j : Job} {o : PodSandbox}
    (h : (finish job sandbox createdHere reply).owned = some (j, o)) :
    createdHere = true ∧ j = job ∧ o = sandbox := by
  unfold finish at h
  split at h
  · rename_i hc
    cases h
    exact ⟨hc, rfl, rfl⟩
  · cases h

theorem finish_checked : (finish job sandbox createdHere reply).checked = none := by
  unfold finish
  split <;> rfl

theorem finish_pending : (finish job sandbox createdHere reply).pending = none := by
  unfold finish
  split <;> rfl

theorem finish_reply : (finish job sandbox createdHere reply).reply = some reply := by
  unfold finish
  split <;> rfl

theorem finish_job : (finish job sandbox createdHere reply).job = some job := by
  unfold finish
  split <;> rfl

theorem afterPoll_job {o : PodSandbox} : (afterPoll job createdHere o).job = some job := by
  unfold afterPoll
  split
  · rfl
  · split
    · split
      · exact finish_job
      · rfl
    · rfl

theorem adopt_job {secret : Secret} : (adopt job sandbox secret).job = some job := by
  unfold adopt
  split <;> rfl

/-- A call keeps its job. -/
theorem CreateMove.job_eq (h : CreateMove env ctxErr c s s' c' out) (hjob : s.job = some job) :
    s'.job = some job := by
  cases h
  case classFailed => cases hjob
  case classRead => cases hjob
  all_goals cases hjob
  case sandboxStored => exact adopt_job
  case pollFailed => exact finish_job
  case polled => exact afterPoll_job
  case expired => exact finish_job
  all_goals rfl

/-- The three ways out of an iteration of the polling loop. -/
theorem afterPoll_cases (job : Job) (createdHere : Bool) (o : PodSandbox) :
    (isReady o ∧ afterPoll job createdHere o =
      .done job o (.created ⟨o.metadata.name, job.request.workloadRef.name, o.status.ips⟩)) ∨
    (∃ message, runnerFailed o ∧
      afterPoll job createdHere o = finish job o createdHere (.error 500 message)) ∨
    afterPoll job createdHere o = .wait job o createdHere := by
  unfold afterPoll
  split
  · rename_i hready
    refine .inl ⟨?_, rfl⟩
    simpa [isReady] using hready
  · split
    · rename_i condition hcondition
      split
      · rename_i hfailed
        refine .inr (.inl ⟨_, ?_, rfl⟩)
        simp [runnerFailed, hcondition, hfailed]
      · exact .inr (.inr rfl)
    · exact .inr (.inr rfl)

theorem adopt_cases (job : Job) (sandbox : PodSandbox) (secret : Secret) :
    (∃ owned, setControllerReference sandbox secret = .ok owned ∧
      adopt job sandbox secret = .updateSecret job sandbox owned) ∨
    adopt job sandbox secret = .poll job sandbox true := by
  unfold adopt
  split
  · rename_i owned howned
    exact .inl ⟨owned, howned, rfl⟩
  · exact .inr rfl

theorem prepare_cases (access : AuthorizedAccess) (body : Except String CreateSandboxRequest) :
    (∃ reply, reply.status = 400 ∧ prepare access body = .rejected reply) ∨
    (∃ request, body = .ok request ∧ request.workloadRef.name ≠ "" ∧ request.sandboxID ≠ "" ∧
      request.userData ≠ "" ∧ prepare access body = .getSandbox (.of access request)) := by
  unfold prepare
  split
  · exact .inl ⟨_, rfl, rfl⟩
  · rename_i request
    split
    · exact .inl ⟨_, rfl, rfl⟩
    · rename_i hok
      simp only [not_or] at hok
      exact .inr ⟨request, rfl, hok.1, hok.2.1, hok.2.2, rfl⟩

/-- A call can delete a PodSandbox because it could before, and looked at the stored one at most, or
because it stores it now. -/
theorem CreateMove.owned_cases (h : CreateMove env ctxErr c s s' c' out)
    (howned : s'.owned = some (job, sandbox)) :
    (∃ before, s.owned = some (job, before) ∧
      (sandbox = before ∨ c.sandboxes.get job.key = some sandbox)) ∨
    (∃ secret, s = .createSandbox job secret ∧ sandbox = asCreated env.uid job.sandbox ∧
      c.sandboxes.Stores sandbox c'.sandboxes ∧ out = .ok [.createSandbox sandbox]) := by
  cases h
  case classRead access body o h =>
    obtain ⟨_, _, he⟩ | ⟨_, _, _, _, _, he⟩ := prepare_cases access body <;> rw [he] at howned <;>
      cases howned
  case sandboxStored j secret t h =>
    obtain ⟨_, _, he⟩ | he := adopt_cases j (asCreated env.uid j.sandbox) secret <;>
      rw [he] at howned <;> cases howned <;> exact .inr ⟨secret, rfl, rfl, h, rfl⟩
  case secretUnowned => cases howned; exact .inl ⟨_, rfl, .inl rfl⟩
  case secretOwned => cases howned; exact .inl ⟨_, rfl, .inl rfl⟩
  case pollFailed =>
    obtain ⟨rfl, rfl, rfl⟩ := finish_owned howned
    exact .inl ⟨_, rfl, .inl rfl⟩
  case polled j before b o h =>
    obtain ⟨_, he⟩ | ⟨_, -, he⟩ | he := afterPoll_cases j b o <;> rw [he] at howned
    · cases howned
    · obtain ⟨rfl, rfl, rfl⟩ := finish_owned howned
      exact .inl ⟨_, rfl, .inr h⟩
    · cases b <;> cases howned
      exact .inl ⟨_, rfl, .inr h⟩
  case expired =>
    obtain ⟨rfl, rfl, rfl⟩ := finish_owned howned
    exact .inl ⟨_, rfl, .inl rfl⟩
  case ticked j before b =>
    cases b <;> cases howned
    exact .inl ⟨_, rfl, .inl rfl⟩
  all_goals cases howned

/-- A call is past the identity check because it was before, because the stored PodSandbox passes it
now, or because it stores its own. -/
theorem CreateMove.checked_cases (h : CreateMove env ctxErr c s s' c' out)
    (hchecked : s'.checked = some job) :
    s.checked = some job ∨
    (∃ o, s = .getSandbox job ∧ c.sandboxes.get job.key = some o ∧ job.sameIdentity o ∧ c' = c) ∨
    (∃ secret, s = .createSandbox job secret ∧
      c.sandboxes.Stores (asCreated env.uid job.sandbox) c'.sandboxes) := by
  cases h
  case classRead access body o h =>
    obtain ⟨_, _, he⟩ | ⟨_, _, _, _, _, he⟩ := prepare_cases access body <;>
      rw [he] at hchecked <;> cases hchecked
  case sandboxFound o h hid =>
    cases hchecked
    exact .inr (.inl ⟨o, rfl, h, hid, rfl⟩)
  case sandboxStored j secret t h =>
    obtain ⟨_, _, he⟩ | he := adopt_cases j (asCreated env.uid j.sandbox) secret <;>
      rw [he] at hchecked <;> cases hchecked <;> exact .inr (.inr ⟨secret, rfl, h⟩)
  case secretUnowned => exact .inl hchecked
  case secretOwned => exact .inl hchecked
  case polled j before b o h =>
    obtain ⟨_, he⟩ | ⟨_, -, he⟩ | he := afterPoll_cases j b o <;> rw [he] at hchecked
    · cases hchecked
    · rw [finish_checked] at hchecked
      cases hchecked
    · exact .inl hchecked
  case pollFailed =>
    rw [finish_checked] at hchecked
    cases hchecked
  case expired =>
    rw [finish_checked] at hchecked
    cases hchecked
  case ticked => exact .inl hchecked
  all_goals cases hchecked

/-- The PodSandboxes change only where a call stores its own or rolls back. -/
inductive OwnSandboxes (env : Env) (c c' : Cluster) (after : CreateState) :
    CreateState → Outcome → Prop
  | same {state result} (h : c'.sandboxes = c.sandboxes)
      (hwrites : ∀ o, .createSandbox o ∉ Outcome.writes result ∧
        .deleteSandbox o ∉ Outcome.writes result) : OwnSandboxes env c c' after state result
  | stored {j secret} (h : c.sandboxes.Stores (asCreated env.uid j.sandbox) c'.sandboxes)
      (hafter : after = adopt j (asCreated env.uid j.sandbox) secret) :
      OwnSandboxes env c c' after (.createSandbox j secret)
        (.ok [.createSandbox (asCreated env.uid j.sandbox)])
  | rolledBack {j o r cur} (hget : c.sandboxes.get o.metadata.key = some cur)
      (h : c.sandboxes.Removes cur c'.sandboxes) :
      OwnSandboxes env c c' after (.rollback j o r) (.ok [.deleteSandbox cur])

theorem CreateMove.sandboxes (h : CreateMove env ctxErr c s s' c' out) :
    OwnSandboxes env c c' s' s out := by
  cases h
  case sandboxStored h => exact .stored h rfl
  case rolledBack hget h => exact .rolledBack hget h
  all_goals exact .same rfl (by simp [Outcome.writes])

/-- The Secrets change only where a call creates its own, deletes it or makes the PodSandbox its
owner. -/
inductive OwnSecrets (env : Env) (c c' : Cluster) : CreateState → Prop
  | same {state} (h : c'.secrets = c.secrets) : OwnSecrets env c c' state
  | stored {j} (h : c.secrets.Stores (asCreated env.uid j.secret) c'.secrets) :
      OwnSecrets env c c' (.createSecret j)
  | deleted {j secret message o} (hget : c.secrets.get secret.metadata.key = some o)
      (h : c.secrets.Removes o c'.secrets) : OwnSecrets env c c' (.deleteSecret j secret message)
  | owned {j o secret cur} (hget : c.secrets.get secret.metadata.key = some cur)
      (h : c.secrets.Replaces cur (updatedSecret secret cur) c'.secrets) :
      OwnSecrets env c c' (.updateSecret j o secret)

theorem CreateMove.secrets (h : CreateMove env ctxErr c s s' c' out) : OwnSecrets env c c' s := by
  cases h
  case secretStored h => exact .stored h
  case secretDeleted hget h => exact .deleted hget h
  case secretOwned hget _ h => exact .owned hget h
  all_goals exact .same rfl

/-- How a call comes to hold a Secret: it just created or found it, or it held it while it tried to
store the PodSandbox. -/
theorem CreateMove.pending_cases (h : CreateMove env ctxErr c s s' c' out)
    (hpending : s'.pending = some job) :
    (s = .createSecret job ∧ ((∃ cur, c.secrets.get job.secretKey = some cur) ∨
      (s' = .createSandbox job (asCreated env.uid job.secret) ∧
        c.secrets.Stores (asCreated env.uid job.secret) c'.secrets))) ∨
    (∃ secret, s = .createSandbox job secret ∧ c'.secrets = c.secrets ∧
      ((∃ message, s' = .deleteSecret job secret message) ∨
        (c.sandboxes.Stores (asCreated env.uid job.sandbox) c'.sandboxes ∧
          ∃ owned, setControllerReference (asCreated env.uid job.sandbox) secret = .ok owned ∧
            s' = .updateSecret job (asCreated env.uid job.sandbox) owned))) := by
  cases h
  case classRead access body o h =>
    obtain ⟨_, _, he⟩ | ⟨_, _, _, _, _, he⟩ := prepare_cases access body <;>
      rw [he] at hpending <;> cases hpending
  case secretExists h =>
    cases hpending
    exact .inl ⟨rfl, .inl ⟨_, h⟩⟩
  case secretStored h =>
    cases hpending
    exact .inl ⟨rfl, .inr ⟨rfl, h⟩⟩
  case sandboxFailed =>
    cases hpending
    exact .inr ⟨_, rfl, rfl, .inl ⟨_, rfl⟩⟩
  case sandboxStored j secret t h =>
    obtain ⟨owned, howned, he⟩ | he := adopt_cases j (asCreated env.uid j.sandbox) secret <;>
      rw [he] at hpending <;> cases hpending
    exact .inr ⟨secret, rfl, rfl, .inr ⟨h, owned, howned, he⟩⟩
  case polled j before b o h =>
    obtain ⟨_, he⟩ | ⟨_, -, he⟩ | he := afterPoll_cases j b o <;> rw [he] at hpending
    · cases hpending
    · rw [finish_pending] at hpending
      cases hpending
    · cases hpending
  case pollFailed =>
    rw [finish_pending] at hpending
    cases hpending
  case expired =>
    rw [finish_pending] at hpending
    cases hpending
  all_goals cases hpending

/-- Where a reply comes from: it was there, it is an error, or the polling loop has read a PodSandbox
that is ready. -/
theorem CreateMove.reply_cases (h : CreateMove env ctxErr c s s' c' out)
    (hreply : s'.reply = some reply) :
    s.reply = some reply ∨ (∃ status message, reply = .error status message) ∨
    (∃ job before createdHere o, s = .poll job before createdHere ∧
      c.sandboxes.get job.key = some o ∧ isReady o ∧ s' = .done job o reply ∧
      reply = .created ⟨o.metadata.name, job.request.workloadRef.name, o.status.ips⟩ ∧ c' = c ∧
      out = .ok []) := by
  have hfinish {job : Job} {sandbox : PodSandbox} {createdHere : Bool} {status : Nat}
      {message : String}
      (h : (finish job sandbox createdHere (.error status message)).reply = some reply) :
      ∃ status message, reply = .error status message := by
    rw [finish_reply] at h
    cases h
    exact ⟨status, message, rfl⟩
  cases h
  case classRead access body o h =>
    obtain ⟨r, hr, he⟩ | ⟨_, _, _, _, _, he⟩ := prepare_cases access body <;> rw [he] at hreply
    · cases hreply
      cases reply with
      | error status message => exact .inr (.inl ⟨status, message, rfl⟩)
      | config => cases hr
      | created => cases hr
      | noContent => cases hr
    · cases hreply
  case sandboxStored j secret t h =>
    obtain ⟨_, _, he⟩ | he := adopt_cases j (asCreated env.uid j.sandbox) secret <;>
      rw [he] at hreply <;> cases hreply
  case polled j before b o h =>
    obtain ⟨hready, he⟩ | ⟨_, -, he⟩ | he := afterPoll_cases j b o <;> rw [he] at hreply
    · cases hreply
      exact .inr (.inr ⟨j, before, b, o, rfl, h, hready, he, rfl, rfl, rfl⟩)
    · exact .inr (.inl (hfinish hreply))
    · cases hreply
  case pollFailed => exact .inr (.inl (hfinish hreply))
  case expired => exact .inr (.inl (hfinish hreply))
  case rollbackFailed => exact .inl hreply
  case rolledBack => exact .inl hreply
  all_goals cases hreply
  all_goals exact .inr (.inl ⟨_, _, rfl⟩)

/-- A 201 is answered for the PodSandbox that the polling loop just read. -/
theorem CreateMove.answers (h : CreateMove env ctxErr c s s' c' out) (hnone : s.reply = none)
    {response : SandboxResponse} (hreply : s'.reply = some (.created response)) :
    ∃ job before createdHere o, s = .poll job before createdHere ∧
      c.sandboxes.get job.key = some o ∧ isReady o ∧ s' = .done job o (.created response) ∧
      response = ⟨o.metadata.name, job.request.workloadRef.name, o.status.ips⟩ ∧ c' = c ∧
      out = .ok [] := by
  rcases h.reply_cases hreply with hbefore | ⟨_, _, herror⟩ |
    ⟨job, before, createdHere, o, hs, hget, hready, hs', hresponse, hc, hout⟩
  · rw [hnone] at hbefore
    cases hbefore
  · cases herror
  · cases hresponse
    exact ⟨job, before, createdHere, o, hs, hget, hready, hs', rfl, hc, hout⟩

theorem CreateState.access_of_job (hjob : s.job = some job) : s.access = some job.access := by
  cases s <;> cases hjob <;> rfl

/-- A call got its access from `authorize`. -/
theorem CreateMove.access_eq (h : CreateMove env ctxErr c s s' c' out) {access : AuthorizedAccess}
    (haccess : s'.access = some access) : s.access = some access := by
  cases hj : s.job with
  | some job =>
    rw [CreateState.access_of_job (h.job_eq hj)] at haccess
    rw [CreateState.access_of_job hj, haccess]
  | none =>
    cases h
    case classFailed => cases haccess
    case classRead a body o hget =>
      obtain ⟨reply, -, he⟩ | ⟨request, -, -, -, -, he⟩ := prepare_cases a body <;>
        rw [he] at haccess <;> cases haccess
      rfl
    all_goals cases hj

end Create

/-- The access of a call does not change. -/
theorem CallMove.access_eq {env : Env} {ctxErr : Option String} {c c' : Cluster} {out : Outcome}
    {cfg : Config} {s s' : CallState} (h : CallMove env ctxErr c cfg s s' c' out)
    {x y : AuthorizedAccess} (hx : s.access = some x) (hy : s'.access = some y) : y = x := by
  cases h with
  | tokenFailed => cases hx
  | tokenRead => cases hx
  | accessesFailed => cases hx
  | accessesRead => cases hx
  | config h => cases h <;> cases hy
  | delete h => cases h <;> cases hx <;> cases hy; rfl
  | create h => exact Option.some.inj ((h.access_eq hy).symm.trans hx)

/-! ## Where authorize leaves a request -/

/-- The states in which `authorize` leaves a request for a route: it still reads Secrets, it is
rejected, or the handler of the route starts. -/
inductive Entry : Route → CallState → Prop
  | getToken {got route} : Entry route (.getToken got route)
  | listAccesses {got route} : Entry route (.listAccesses got route)
  | rejected {route status message} : Entry route (.replied (.error status message))
  | getConfig {access} : Entry .getConfig (.config (.getClass access))
  | createSandbox {access body} : Entry (.createSandbox body) (.create (.getClass access body))
  | invalidID {id status message} :
      Entry (.deleteSandbox id) (.delete (.done (.error status message)))
  | deleteSandbox {access id} : Entry (.deleteSandbox id) (.delete (.getSandbox access id))

theorem authorized_entry (route : Route) (access : Except String AuthorizedAccess) :
    Entry route (authorized route access) := by
  unfold authorized
  split
  · exact .rejected
  · split
    · exact .rejected
    · unfold handler
      split
      · exact .getConfig
      · exact .createSandbox
      · split
        · exact .invalidID
        · exact .deleteSandbox

theorem compareToken_entry (cfg : Config) (got : String) (route : Route)
    (expected : Except String String) : Entry route (compareToken cfg got route expected) := by
  unfold compareToken
  split
  · exact authorized_entry _ _
  · split
    · exact authorized_entry _ _
    · exact .listAccesses

theorem authorize_entry (cfg : Config) (header : String) (route : Route) :
    Entry route (authorize cfg header route) := by
  unfold authorize
  dsimp only
  split
  · exact compareToken_entry _ _ _ _
  · exact .getToken

/-- `createSandbox` starts by reading the class. -/
theorem Entry.create {route : Route} {s : CallState} (h : Entry route s) {t : CreateState}
    (hs : s = .create t) : ∃ access body, t = .getClass access body := by
  cases h <;> cases hs
  exact ⟨_, _, rfl⟩

/-- `deleteSandbox` starts by reading the PodSandbox, or by rejecting the id. -/
theorem Entry.delete {route : Route} {s : CallState} (h : Entry route s) {access : AuthorizedAccess}
    {sandbox : PodSandbox} : s ≠ .delete (.deleteSandbox access sandbox) := by
  intro hs
  cases h <;> cases hs

/-- A deleteSandbox call comes to its removal by reading a PodSandbox of its class. -/
theorem CallMove.removing {env : Env} {ctxErr : Option String} {c c' : Cluster} {out : Outcome}
    {cfg : Config} {s s' : CallState} (h : CallMove env ctxErr c cfg s s' c' out)
    {access : AuthorizedAccess} {sandbox : PodSandbox}
    (hs : s' = .delete (.deleteSandbox access sandbox)) :
    c'.sandboxes.get sandbox.metadata.key = some sandbox ∧
      sandbox.spec.className = access.className := by
  cases h with
  | tokenFailed => exact absurd hs (compareToken_entry _ _ _ _).delete
  | tokenRead => exact absurd hs (compareToken_entry _ _ _ _).delete
  | accessesFailed => exact absurd hs (authorized_entry _ _).delete
  | accessesRead => exact absurd hs (authorized_entry _ _).delete
  | config => cases hs
  | create => cases hs
  | delete h =>
    cases h with
    | found hget hclass =>
      cases hs
      have hkey : sandbox.metadata.key = _ := Table.key_of_get hget
      exact ⟨by rw [hkey]; exact hget, hclass⟩
    | _ => cases hs

end SandboxProvider.Server
