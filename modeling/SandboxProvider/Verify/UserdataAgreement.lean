import SandboxProvider.System.Provenance
import SandboxProvider.Verify.Userdata

/-!
# The userdata of a 201

The Secret's name depends on the sandboxID only, and neither an existing Secret nor an existing
PodSandbox is compared with the userdata of the request. In a run where a call never finds its
Secret already there, attaches to a PodSandbox only with the userdata its Secret holds, and stores a
PodSandbox only when the other calls polling its name carry the same userdata
(`World.SameUserdata`), the Secret holds the userdata of the request whenever a 201 is answered.
-/

namespace SandboxProvider

open Lib Server

/-- A createSandbox call is about to look for an existing PodSandbox. -/
def State.looking (s : State) : Option Job :=
  match s.creating with
  | some (.getSandbox job) => some job
  | _ => none

/-- The Secret under the key of the job holds its userdata. -/
def Cluster.Holds (c : Cluster) (job : Job) : Prop :=
  ∃ secret, c.secrets.get job.secretKey = some secret ∧
    secret.data.lookup userDataKey = some job.request.userData

namespace World

/-- A call that finds a PodSandbox carries the userdata that its Secret holds. -/
def AttachesAgreeing (w : World) (l : Label) : Prop :=
  ∀ a ∈ l.runs, ∀ p ∈ w.procs.lookup a, ∀ job ∈ p.state.looking,
    ∀ o ∈ w.cluster.sandboxes.get job.key,
      ∀ secret ∈ w.cluster.secrets.get ⟨o.metadata.ns, o.spec.userDataSecretRef.name⟩,
        secret.data.lookup userDataKey = some job.request.userData

/-- A call stores a PodSandbox only when every other call that is past its identity check under the
same key carries the same userdata. -/
def StoresAgreeing (w : World) (l : Label) : Prop :=
  ∀ a ∈ l.runs, ∀ p ∈ w.procs.lookup a, ∀ job ∈ p.state.storing,
    ∀ b q, w.procs.lookup b = some q → b ≠ a →
      ∀ s ∈ q.state.creating, ∀ other ∈ s.checked, other.key = job.key →
        other.request.userData = job.request.userData

def SameUserdata (w : World) (l : Label) : Prop :=
  w.FreshSecrets l ∧ w.AttachesAgreeing l ∧ w.StoresAgreeing l

instance (w : World) (l : Label) : Decidable (w.AttachesAgreeing l) :=
  inferInstanceAs (Decidable (∀ a ∈ l.runs, ∀ p ∈ w.procs.lookup a, _))

instance (w : World) (l : Label) : Decidable (w.StoresAgreeing l) :=
  inferInstanceAs (Decidable (∀ a ∈ l.runs, ∀ p ∈ w.procs.lookup a, _))

instance (w : World) (l : Label) : Decidable (w.SameUserdata l) :=
  inferInstanceAs (Decidable (_ ∧ _ ∧ _))

structure AgreementInv (w : World) : Prop where
  secrets : SecretInv w
  stored : ∀ {k o}, w.cluster.sandboxes.get k = some o → w.StoredByCall o
  agrees : ∀ {a s job o}, w.Creating a s → s.checked = some job →
    w.cluster.sandboxes.get job.key = some o → w.cluster.Holds job
  answered : ∀ {a s response c}, .answered a (.serve (.create s)) (.created response) c ∈ w.history →
    ∃ job o, s.job = some job ∧ c.sandboxes.get job.key = some o ∧
      o.spec.userDataSecretRef.name = secretName job.key.name ∧ c.Holds job

namespace AgreementInv

theorem start (cfg : Config) (c : Cluster) (hempty : ∀ k, c.sandboxes.get k = none) :
    AgreementInv (World.start cfg c) where
  secrets := .start cfg c
  stored {k o} h := by
    rw [World.start, hempty k] at h
    cases h
  agrees h := by
    obtain ⟨_, h⟩ := h
    cases h
  answered h := by cases h

variable {w w' : World}

/-- What a stored PodSandbox can rely on, under the key of a job. -/
theorem provided_secret (hinv : AgreementInv w) {job : Job} {o : PodSandbox}
    (hget : w.cluster.sandboxes.get job.key = some o) :
    w.Provided o ∧ (⟨o.metadata.ns, secretName o.metadata.name⟩ : NamespacedName) = job.secretKey ∧
      o.spec.userDataSecretRef.name = secretName job.key.name := by
  have hprov := hinv.secrets.provided hget (hinv.stored hget)
  have hkey : o.metadata.key = job.key := Table.key_of_get hget
  refine ⟨hprov, ?_, ?_⟩
  · rw [Job.secretKey, ← hkey]
    rfl
  · rw [hprov.ref, ← hkey]
    rfl

theorem foreign (hinv : AgreementInv w) {events : List Event} (h : Foreign w w' events) :
    AgreementInv w' where
  secrets := hinv.secrets.foreign h
  stored {k o} hget := by
    obtain ⟨old, hold, -, huid, -⟩ := h.sandboxes.of_get hget
    obtain ⟨e, he, r, hr, hru⟩ := hinv.stored hold
    refine ⟨e, ?_, r, hr, hru.trans huid.symm⟩
    rw [h.history]
    exact List.mem_append_right _ he
  agrees {a s job o} ha hchecked hget := by
    obtain ⟨old, hold, -, -, -⟩ := h.sandboxes.of_get hget
    obtain ha | ⟨access, body, rfl⟩ := h.creating ha
    · obtain ⟨secret, hsecret, hdata⟩ := hinv.agrees ha hchecked hold
      obtain ⟨hprov, hkey, -⟩ := hinv.provided_secret hold
      refine ⟨secret, SecretInv.foreign_get h.secrets hsecret ?_, hdata⟩
      rw [← hkey] at hsecret
      exact hprov.not_isGarbage hold hsecret
    · cases hchecked
  answered {a s response c} he := hinv.answered (h.mem_history (Option.some_ne_none s) he)

section Own

variable {a : Nat} {env : Env} {ctxErr : Option String} {s s' : CreateState} {c' : Cluster}
  {out : Outcome} (hinv : AgreementInv w)
  (hp : w.procs.lookup a = some ⟨ctxErr, .serve (.create s)⟩)
  (hmove : CreateMove env ctxErr w.cluster s s' c' out) (hok : w.SameUserdata (.run a env))

include hinv hp hmove in
/-- Userdata that a call agreed with stays, as long as the PodSandbox is stored. -/
private theorem own_holds {job : Job} {o : PodSandbox}
    (hget : w.cluster.sandboxes.get job.key = some o) (hholds : w.cluster.Holds job) :
    c'.Holds job := by
  obtain ⟨secret, hsecret, hdata⟩ := hholds
  obtain ⟨hprov, hkey, -⟩ := hinv.provided_secret hget
  rw [← hkey] at hsecret
  obtain ⟨secret', hsecret', hsame, -⟩ := SecretInv.own_secret hinv.secrets hp hmove hprov hsecret
  exact ⟨secret', by rw [← hkey]; exact hsecret', hsame.trans hdata⟩

include hinv hp hmove in
/-- A call that stores its PodSandbox holds the Secret with its own userdata. -/
private theorem own_holds_stored {job : Job} {secret : Secret}
    (hs : s = .createSandbox job secret) : c'.Holds job := by
  subst hs
  obtain ⟨uid, hget⟩ := (hinv.secrets.pending ⟨ctxErr, hp⟩).get rfl
  cases hmove.secrets with
  | same h => exact ⟨asCreated uid job.secret, by rw [h]; exact hget, job.lookup_secret⟩

include hinv hp hmove hok in
private theorem own_agrees {b : Nat} {t : CreateState} {job : Job} {o : PodSandbox}
    (hb : (w.advance a ⟨ctxErr, .serve (.create s)⟩ (.serve (.create s')) c' out).Creating b t)
    (hchecked : t.checked = some job) (hget : c'.sandboxes.get job.key = some o) :
    c'.Holds job := by
  -- the PodSandbox was there before, or this call stores it
  have hbefore (hold : ∀ x, w.cluster.sandboxes.get job.key = some x → w.cluster.Holds job)
      (hnew : ∀ j secret, s = .createSandbox j secret → job.key = j.key → c'.Holds job) :
      c'.Holds job := by
    cases hmove.sandboxes with
    | same h _ =>
      rw [h] at hget
      exact own_holds hinv hp hmove hget (hold o hget)
    | rolledBack _ h =>
      have hget := (h.of_get hget).2
      exact own_holds hinv hp hmove hget (hold o hget)
    | @stored j secret h _ =>
      obtain ⟨hkey, -⟩ | ⟨-, hget⟩ := h.of_get hget
      · exact hnew j secret rfl hkey
      · exact own_holds hinv hp hmove hget (hold o hget)
  obtain ⟨hfresh, hattach, hstore⟩ := hok
  obtain ⟨rfl, rfl⟩ | ⟨hne, hother⟩ := creating_advance.mp hb
  · obtain hs | ⟨x, rfl, hx, -, rfl⟩ | ⟨secret, hs, -⟩ := hmove.checked_cases hchecked
    · refine hbefore (fun x hx => hinv.agrees ⟨ctxErr, hp⟩ hs hx) ?_
      rintro j secret rfl
      cases hs
    · obtain ⟨hprov, hkey, hname⟩ := hinv.provided_secret hx
      obtain ⟨secret, hsecret, -⟩ := hprov.secret
      refine ⟨secret, by rw [← hkey]; exact hsecret, hattach b rfl _ hp job rfl x hx secret ?_⟩
      rw [hprov.ref]
      exact hsecret
    · exact own_holds_stored hinv hp hmove hs
  · refine hbefore (fun x hx => hinv.agrees hother hchecked hx) ?_
    rintro j secret rfl hkey
    obtain ⟨stored, hsecret, hdata⟩ := own_holds_stored hinv hp hmove rfl
    obtain ⟨ctxErr', hq⟩ := hother
    have hsame := hstore a rfl _ hp j rfl b _ hq hne t rfl job hchecked hkey
    refine ⟨stored, ?_, by rw [hsame]; exact hdata⟩
    rw [Job.secretKey, hkey]
    exact hsecret

include hinv hp hmove hok in
theorem own : AgreementInv
    (w.advance a ⟨ctxErr, .serve (.create s)⟩ (.serve (.create s')) c' out) where
  secrets := hinv.secrets.own hp hmove hok.1
  stored {k o} hget := by
    have hold (hget : w.cluster.sandboxes.get k = some o) : (w.advance a
        ⟨ctxErr, .serve (.create s)⟩ (.serve (.create s')) c' out).StoredByCall o := by
      obtain ⟨e, he, hr⟩ := hinv.stored hget
      exact ⟨e, List.mem_append_right _ he, hr⟩
    cases hmove.sandboxes with
    | same h _ =>
      refine hold ?_
      rw [← h]
      exact hget
    | rolledBack _ h => exact hold (h.of_get hget).2
    | @stored job secret h _ =>
      obtain ⟨-, rfl⟩ | ⟨-, hget⟩ := h.of_get hget
      · refine ⟨.wrote a (.serve (.create (.createSandbox job secret)))
          (.createSandbox (asCreated env.uid job.sandbox)), ?_, _, rfl, rfl⟩
        exact List.mem_append_left _ (List.mem_append_right _ (List.mem_singleton.mpr rfl))
      · exact hold hget
  agrees hb hchecked hget := own_agrees hinv hp hmove hok hb hchecked hget
  answered {b t response c} he := by
    obtain ⟨reply, ⟨hnone, hreply⟩, heq⟩ | he | he := (mem_history_advance hmove).mp he
    · cases heq
      obtain ⟨job, before, here, o, rfl, hget, -, rfl, -, rfl, -⟩ := hmove.answers hnone hreply
      obtain ⟨-, -, href⟩ := hinv.provided_secret hget
      exact ⟨job, o, rfl, hget, href, hinv.agrees ⟨ctxErr, hp⟩ rfl hget⟩
    · cases out <;> simp [callEvents] at he
    · exact hinv.answered he

end Own

theorem step {l : Label} (hinv : AgreementInv w) (hok : w.SameUserdata l)
    (h : w.step l = some w') : AgreementInv w' := by
  cases createStep h with
  | own hp hmove => exact hinv.own hp hmove hok
  | foreign hforeign => exact hinv.foreign hforeign

end AgreementInv

/-- **Userdata agreement.** In every run from a store without PodSandboxes that meets
`SameUserdata`, whenever a 201 is answered, the Secret that the answered PodSandbox refers to holds
the userdata of the request that arrived. -/
theorem created_answers_with_userdata (cfg : Config) (c : Cluster)
    (hempty : ∀ k, c.sandboxes.get k = none) (ls : List Label) (w : World)
    (hrun : Run World.step World.SameUserdata (World.start cfg c) ls w) (a : Nat) (s : CreateState)
    (response : SandboxResponse) (at_ : Cluster)
    (h : .answered a (.serve (.create s)) (.created response) at_ ∈ w.history) :
    ∃ header request access o secret,
      .arrived a header (.createSandbox (.ok request)) ∈ w.history ∧
      at_.sandboxes.get ⟨access.ns, sandboxName request.sandboxID⟩ = some o ∧
      .authorized a access ∈ w.history ∧
      at_.secrets.get ⟨o.metadata.ns, o.spec.userDataSecretRef.name⟩ = some secret ∧
      secret.data.lookup userDataKey = some request.userData := by
  have hinv : AgreementInv w := hrun.invariant AgreementInv
    (fun _ _ _ hi hok hstep => hi.step hok hstep) (AgreementInv.start cfg c hempty)
  have htrace : TraceInv w := hrun.invariant TraceInv
    (fun _ _ _ hi _ hstep => hi.step hstep) (TraceInv.start cfg c)
  obtain ⟨job, o, hjob, hget, href, secret, hsecret, hdata⟩ := hinv.answered h
  obtain ⟨⟨header, route, harr, hf⟩, hacc⟩ := htrace.answer h
  obtain ⟨request, rfl, hof⟩ := CreateState.Follows.job hf hjob
  have haccess : s.access = some job.access := by cases s <;> cases hjob <;> rfl
  have hkey : job.key = ⟨job.access.ns, sandboxName request.sandboxID⟩ := by rw [hof]; rfl
  have hokey : o.metadata.key = job.key := Table.key_of_get hget
  refine ⟨header, request, job.access, o, secret, harr, ?_, hacc _ haccess, ?_, ?_⟩
  · rw [← hkey]
    exact hget
  · rw [href, show o.metadata.ns = job.key.ns from congrArg NamespacedName.ns hokey]
    exact hsecret
  · rw [hdata, hof]
    rfl

set_option maxRecDepth 100000 in
theorem plain_create_answers_with_userdata :
    ∃ w, Run World.step World.SameUserdata (World.start Sample.cfg .empty) Sample.plainCreate w ∧
      ∃ s response at_, .answered 1 (.serve (.create s)) (.created response) at_ ∈ w.history ∧
        ∃ header request access o secret,
          .arrived 1 header (.createSandbox (.ok request)) ∈ w.history ∧
          at_.sandboxes.get ⟨access.ns, sandboxName request.sandboxID⟩ = some o ∧
          .authorized 1 access ∈ w.history ∧
          at_.secrets.get ⟨o.metadata.ns, o.spec.userDataSecretRef.name⟩ = some secret ∧
          secret.data.lookup userDataKey = some request.userData := by
  obtain ⟨w, hrun, e, he, hsome⟩ := Run.exists_of_checkRun
    (fun w : World => ∃ e ∈ w.history, (e.createdReply 1).isSome = true)
    (show (checkRun World.step World.SameUserdata (World.start Sample.cfg .empty)
      Sample.plainCreate).any _ = true by decide +kernel)
  obtain ⟨⟨s, response, at_⟩, hreply⟩ := Option.isSome_iff_exists.mp hsome
  rw [Event.createdReply_eq_some hreply] at he
  exact ⟨w, hrun, s, response, at_, he,
    created_answers_with_userdata _ _ (fun _ => rfl) _ _ hrun 1 s response at_ he⟩

/-- A first attempt creates its Secret, then fails to store the PodSandbox and to delete the Secret;
a retry with other userdata finds that Secret. -/
def staleSecret : List Label :=
  [.createClass "kata" {} { uid := 1 },
    Sample.arrive 1 Sample.request, .run 1 {}, .run 1 {}, .run 1 { uid := 1 },
    .run 1 { fault := some "timeout" }, .run 1 { fault := some "timeout" },
    Sample.arrive 2 { Sample.request with userData := "other-config" }] ++ Sample.createSteps 2 2 ++
    [.writeStatus Sample.key (Sample.ready "10.0.0.1"), .run 2 {}]

set_option maxRecDepth 100000 in
theorem created_answers_with_stale_userdata :
    ∃ w, Run World.step (fun _ _ => True) (World.start Sample.cfg .empty) staleSecret w ∧
      ∃ e ∈ w.history, ∃ r ∈ e.createdReply 2, ∃ o ∈ r.2.2.sandboxes.get Sample.key,
        ∃ secret ∈ r.2.2.secrets.get ⟨o.metadata.ns, o.spec.userDataSecretRef.name⟩,
          secret.data.lookup userDataKey ≠ some "other-config" := by
  refine Run.exists_of_checkRun _ ?_
  decide +kernel

end World

end SandboxProvider
