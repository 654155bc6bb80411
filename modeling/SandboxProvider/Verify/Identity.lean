import SandboxProvider.System.Creating
import SandboxProvider.System.Provenance

/-!
# A 201 answers for the right sandbox

`createSandbox` compares the identity of an existing PodSandbox once, on its first `Get`, and builds
its reply from a later one. In a run where a PodSandbox is stored under a name only when every other
call that polls this name asks for the same identity (`World.OneIdentity`), the PodSandbox in the
reply has the identity the request asked for. Nothing is assumed about collisions of `sandboxName`.
-/

namespace SandboxProvider

open Lib Server

namespace World

/-- A createSandbox call stores a PodSandbox only when every other call that is past its identity
check under the same key asks for the same identity. -/
def OneIdentity (w : World) (l : Label) : Prop :=
  ∀ a ∈ l.runs, ∀ p ∈ w.procs.lookup a, ∀ job ∈ p.state.storing,
    ∀ b q, w.procs.lookup b = some q → b ≠ a →
      ∀ s ∈ q.state.creating, ∀ other ∈ s.checked, other.key = job.key →
        other.sameIdentity job.sandbox

instance (w : World) (l : Label) : Decidable (w.OneIdentity l) :=
  inferInstanceAs (Decidable (∀ a ∈ l.runs, ∀ p ∈ w.procs.lookup a, _))

structure IdentityInv (w : World) : Prop where
  checked : ∀ {a s job o}, w.Creating a s → s.checked = some job →
    w.cluster.sandboxes.get job.key = some o → job.sameIdentity o
  answered : ∀ {a s response c}, .answered a (.serve (.create s)) (.created response) c ∈ w.history →
    ∃ job o, s.job = some job ∧ c.sandboxes.get job.key = some o ∧ job.sameIdentity o ∧
      response = ⟨o.metadata.name, job.request.workloadRef.name, o.status.ips⟩

namespace IdentityInv

theorem start (cfg : Config) (c : Cluster) : IdentityInv (World.start cfg c) where
  checked h := by
    obtain ⟨_, h⟩ := h
    cases h
  answered h := by cases h

variable {w w' : World}

theorem foreign (hinv : IdentityInv w) {events : List Event} (h : Foreign w w' events) :
    IdentityInv w' where
  checked {a s job o} ha hchecked hget := by
    obtain ⟨old, hold, -, -, hspec⟩ := h.sandboxes.of_get hget
    obtain ha | ⟨access, body, rfl⟩ := h.creating ha
    · unfold Job.sameIdentity
      rw [hspec]
      exact hinv.checked ha hchecked hold
    · cases hchecked
  answered {a s response c} he := hinv.answered (h.mem_history (Option.some_ne_none s) he)

section Own

variable {a : Nat} {env : Env} {ctxErr : Option String} {s s' : CreateState} {c' : Cluster}
  {out : Outcome} (hinv : IdentityInv w)
  (hp : w.procs.lookup a = some ⟨ctxErr, .serve (.create s)⟩)
  (hmove : CreateMove env ctxErr w.cluster s s' c' out) (hok : w.OneIdentity (.run a env))

include hinv hp hmove hok in
/-- The PodSandbox under the key of a call past its check, after a step of some call. -/
private theorem own_checked {b : Nat} {t : CreateState} {job : Job} {o : PodSandbox}
    (hb : (w.advance a ⟨ctxErr, .serve (.create s)⟩ (.serve (.create s')) c' out).Creating b t)
    (hchecked : t.checked = some job) (hget : c'.sandboxes.get job.key = some o) :
    job.sameIdentity o := by
  -- what the table holds under the key: what it held before, or what this call stores
  have hbefore (hold : ∀ x, w.cluster.sandboxes.get job.key = some x → job.sameIdentity x)
      (hnew : ∀ j secret, s = .createSandbox j secret → job.key = j.key →
        job.sameIdentity j.sandbox) : job.sameIdentity o := by
    cases hmove.sandboxes with
    | same h _ => exact hold o (by rw [← h]; exact hget)
    | rolledBack _ h => exact hold o (h.of_get hget).2
    | @stored j secret h _ =>
      obtain ⟨hkey, rfl⟩ | ⟨-, hget⟩ := h.of_get hget
      · exact hnew j secret rfl hkey
      · exact hold o hget
  obtain ⟨rfl, rfl⟩ | ⟨hne, hother⟩ := creating_advance.mp hb
  · obtain hs | ⟨x, rfl, hx, hid, rfl⟩ | ⟨secret, rfl, hst⟩ := hmove.checked_cases hchecked
    · refine hbefore (fun x hx => hinv.checked ⟨ctxErr, hp⟩ hs hx) ?_
      rintro j secret rfl
      cases hs
    · rw [hx] at hget
      cases hget
      exact hid
    · have hself : c'.sandboxes.get job.key = some (asCreated env.uid job.sandbox) := hst.get_self
      rw [hself] at hget
      cases hget
      exact ⟨rfl, rfl, rfl⟩
  · refine hbefore (fun x hx => hinv.checked hother hchecked hx) ?_
    rintro j secret rfl hkey
    obtain ⟨ctxErr', hq⟩ := hother
    exact hok a rfl _ hp j rfl b _ hq hne t rfl job hchecked hkey

include hinv hp hmove hok in
theorem own : IdentityInv
    (w.advance a ⟨ctxErr, .serve (.create s)⟩ (.serve (.create s')) c' out) where
  checked hb hchecked hget := own_checked hinv hp hmove hok hb hchecked hget
  answered {b t response c} he := by
    obtain ⟨reply, ⟨hnone, hreply⟩, heq⟩ | he | he := (mem_history_advance hmove).mp he
    · cases heq
      obtain ⟨job, before, here, o, rfl, hget, -, rfl, hresp, rfl, -⟩ :=
        hmove.answers hnone hreply
      exact ⟨job, o, rfl, hget, hinv.checked ⟨ctxErr, hp⟩ rfl hget, hresp⟩
    · cases out <;> simp [callEvents] at he
    · exact hinv.answered he

end Own

theorem step {l : Label} (hinv : IdentityInv w) (hok : w.OneIdentity l)
    (h : w.step l = some w') : IdentityInv w' := by
  cases createStep h with
  | own hp hmove => exact hinv.own hp hmove hok
  | foreign hforeign => exact hinv.foreign hforeign

end IdentityInv

/-- **Identity.** In every run where a PodSandbox is stored only when the other calls polling its
name ask for the same identity, a 201 is built from a stored PodSandbox with the sandboxID and the
workload of the request that arrived and the class of the token that was accepted. -/
theorem created_answers_requested_sandbox (cfg : Config) (c : Cluster) (ls : List Label) (w : World)
    (hrun : Run World.step World.OneIdentity (World.start cfg c) ls w) (a : Nat) (s : CreateState)
    (response : SandboxResponse) (at_ : Cluster)
    (h : .answered a (.serve (.create s)) (.created response) at_ ∈ w.history) :
    ∃ header request access o,
      .arrived a header (.createSandbox (.ok request)) ∈ w.history ∧
      .authorized a access ∈ w.history ∧
      at_.sandboxes.get ⟨access.ns, sandboxName request.sandboxID⟩ = some o ∧
      response = ⟨o.metadata.name, request.workloadRef.name, o.status.ips⟩ ∧
      o.spec.sandboxID = request.sandboxID ∧ o.spec.className = access.className ∧
      o.spec.workloadRef = request.workloadRef := by
  have hinv : IdentityInv w := hrun.invariant IdentityInv
    (fun _ _ _ hi hok hstep => hi.step hok hstep) (IdentityInv.start cfg c)
  have htrace : TraceInv w := hrun.invariant TraceInv
    (fun _ _ _ hi _ hstep => hi.step hstep) (TraceInv.start cfg c)
  obtain ⟨job, o, hjob, hget, ⟨hid, hclass, hwork⟩, hresp⟩ := hinv.answered h
  obtain ⟨⟨header, route, harr, hf⟩, hacc⟩ := htrace.answer h
  obtain ⟨request, rfl, hof⟩ := CreateState.Follows.job hf hjob
  have haccess : s.access = some job.access := CreateState.access_of_job hjob
  have hkey : job.key = ⟨job.access.ns, sandboxName request.sandboxID⟩ := by rw [hof]; rfl
  have hreq : job.request = request.withDefaults := by rw [hof]; rfl
  refine ⟨header, request, job.access, o, harr, hacc _ haccess, by rw [← hkey]; exact hget, ?_⟩
  rw [hreq] at hid hwork hresp
  exact ⟨hresp, hid, hclass, hwork⟩

set_option maxRecDepth 100000 in
theorem plain_create_answers_requested_sandbox :
    ∃ w, Run World.step World.OneIdentity (World.start Sample.cfg .empty) Sample.plainCreate w ∧
      ∃ s response at_, .answered 1 (.serve (.create s)) (.created response) at_ ∈ w.history ∧
        ∃ header request access o,
          .arrived 1 header (.createSandbox (.ok request)) ∈ w.history ∧
          .authorized 1 access ∈ w.history ∧
          at_.sandboxes.get ⟨access.ns, sandboxName request.sandboxID⟩ = some o ∧
          response = ⟨o.metadata.name, request.workloadRef.name, o.status.ips⟩ ∧
          o.spec.sandboxID = request.sandboxID ∧ o.spec.className = access.className ∧
          o.spec.workloadRef = request.workloadRef := by
  obtain ⟨w, hrun, e, he, hsome⟩ := Run.exists_of_checkRun
    (fun w : World => ∃ e ∈ w.history, (e.createdReply 1).isSome = true)
    (show (checkRun World.step World.OneIdentity (World.start Sample.cfg .empty)
      Sample.plainCreate).any _ = true by decide +kernel)
  obtain ⟨⟨s, response, at_⟩, hreply⟩ := Option.isSome_iff_exists.mp hsome
  rw [Event.createdReply_eq_some hreply] at he
  exact ⟨w, hrun, s, response, at_, he,
    created_answers_requested_sandbox _ _ _ _ hrun 1 s response at_ he⟩

/-- The PodSandbox of the first call is deleted, and a second call with the same sandboxID stores
one for another workload, which becomes ready; the first call, still polling, reads that one. -/
def replacedSandbox : List Label :=
  [.createClass "kata" {} { uid := 1 }, Sample.arrive 1 Sample.request] ++ Sample.createSteps 1 1 ++
    [.arrive 2 "Bearer token" (.deleteSandbox Sample.key.name), .run 2 {}, .run 2 {},
      .collect .secret ⟨Sample.key.ns, secretName Sample.key.name⟩ {},
      Sample.arrive 3 { Sample.request with workloadRef := { name := "other" } }] ++
    Sample.createSteps 3 2 ++ [.writeStatus Sample.key (Sample.ready "10.0.0.2"), .run 1 {}]

set_option maxRecDepth 100000 in
theorem created_answers_other_workload :
    ∃ w, Run World.step (fun _ _ => True) (World.start Sample.cfg .empty) replacedSandbox w ∧
      ∃ e ∈ w.history, ∃ r ∈ e.createdReply 1, ∃ o ∈ r.2.2.sandboxes.get Sample.key,
        r.2.1.ips = o.status.ips ∧ o.spec.workloadRef ≠ Sample.request.workloadRef := by
  refine Run.exists_of_checkRun _ ?_
  decide +kernel

end World

end SandboxProvider
