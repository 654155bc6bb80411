import SandboxProvider.System.Step

/-!
# Where a call comes from

Every state of a request belongs to the request that arrived under its number: its job was made
from the body of that request, and the access it works with is the one that `authorize` accepted.
-/

namespace SandboxProvider

open Lib Server

/-- The state belongs to a request for this route. -/
def Server.CreateState.Follows (route : Route) : CreateState → Prop
  | .getClass _ body => route = .createSandbox body
  | s => ∀ job ∈ s.job, ∃ body, route = .createSandbox (.ok body) ∧ job = .of job.access body

def Server.DeleteState.Follows (route : Route) : DeleteState → Prop
  | .getSandbox _ id => route = .deleteSandbox id
  | .deleteSandbox access sandbox =>
    route = .deleteSandbox sandbox.metadata.name ∧ sandbox.metadata.ns = access.ns
  | .done _ => True

def Server.CallState.Follows (route : Route) : CallState → Prop
  | .getToken _ r | .listAccesses _ r => r = route
  | .config _ => route = .getConfig
  | .create s => s.Follows route
  | .delete s => s.Follows route
  | .replied _ => True

section Follows

variable {env : Env} {ctxErr : Option String} {c c' : Cluster} {out : Outcome} {route : Route}
  {cfg : Config}

theorem Server.CreateState.follows_of_job {s : CreateState} {job : Job} (hjob : s.job = some job)
    (h : ∃ body, route = .createSandbox (.ok body) ∧ job = .of job.access body) :
    s.Follows route := by
  cases s <;> cases hjob <;> (intro j hj; cases hj; exact h)

theorem Server.CreateState.Follows.job {s : CreateState} {job : Job} (h : s.Follows route)
    (hjob : s.job = some job) :
    ∃ body, route = .createSandbox (.ok body) ∧ job = .of job.access body := by
  cases s <;> cases hjob <;> exact h _ rfl

theorem Server.CreateMove.follows {s s' : CreateState} (h : CreateMove env ctxErr c s s' c' out)
    (hf : s.Follows route) : s'.Follows route := by
  cases hj : s.job with
  | some job => exact CreateState.follows_of_job (h.job_eq hj) (hf.job hj)
  | none =>
    cases h
    case classFailed => exact fun job hjob => (by cases hjob)
    case classRead access body o hget =>
      obtain ⟨reply, -, he⟩ | ⟨request, rfl, -, -, -, he⟩ := prepare_cases access body
      · rw [he]
        exact fun job hjob => (by cases hjob)
      · rw [he]
        exact CreateState.follows_of_job rfl ⟨request, hf, rfl⟩
    all_goals cases hj

theorem Server.DeleteMove.follows {s s' : DeleteState} (h : DeleteMove env ctxErr c s s' c' out)
    (hf : s.Follows route) : s'.Follows route := by
  cases h
  case found access id o hget hclass =>
    have hkey : o.metadata.key = ⟨access.ns, id⟩ := Table.key_of_get hget
    obtain ⟨hns, hname⟩ := NamespacedName.mk.inj hkey
    refine ⟨?_, hns⟩
    rw [hname]
    exact hf
  all_goals exact trivial

theorem Server.Entry.follows {s : CallState} (h : Entry route s) : s.Follows route := by
  cases h <;> first | exact trivial | exact rfl

theorem Server.CallMove.follows {s s' : CallState} (h : CallMove env ctxErr c cfg s s' c' out)
    (hf : s.Follows route) : s'.Follows route := by
  cases h with
  | tokenFailed => cases hf; exact (compareToken_entry _ _ _ _).follows
  | tokenRead => cases hf; exact (compareToken_entry _ _ _ _).follows
  | accessesFailed => cases hf; exact (authorized_entry _ _).follows
  | accessesRead => cases hf; exact (authorized_entry _ _).follows
  | config => exact hf
  | create h => exact h.follows hf
  | delete h => exact h.follows hf

end Follows

namespace World

/-- The state of the call `a` belongs to the request that arrived under this number, and its access
was accepted. -/
def Traced (w : World) (a : Nat) (s : CallState) : Prop :=
  (∃ header route, .arrived a header route ∈ w.history ∧ s.Follows route) ∧
  ∀ access ∈ s.access, .authorized a access ∈ w.history

structure TraceInv (w : World) : Prop where
  call : ∀ {a ctxErr s}, w.procs.lookup a = some ⟨ctxErr, .serve s⟩ → w.Traced a s
  answer : ∀ {a s reply c}, .answered a (.serve s) reply c ∈ w.history → w.Traced a s

theorem Traced.mono {w w' : World} {a : Nat} {s : CallState} (h : w.Traced a s)
    (hgrow : ∀ e ∈ w.history, e ∈ w'.history) : w'.Traced a s := by
  obtain ⟨⟨header, route, harr, hf⟩, hacc⟩ := h
  exact ⟨⟨header, route, hgrow _ harr, hf⟩, fun access h => hgrow _ (hacc access h)⟩

namespace TraceInv

theorem start (cfg : Config) (c : Cluster) : TraceInv (World.start cfg c) where
  call h := by cases h
  answer h := by cases h

variable {w w' : World}

theorem authorized_mem_reachEvents {a : Nat} {before : Option State} {after : State} {c : Cluster}
    {access : AuthorizedAccess} (hbefore : before.bind State.access = none)
    (hafter : after.access = some access) :
    .authorized a access ∈ reachEvents a before after c := by
  refine List.mem_append_right _ (List.mem_map.mpr ⟨access, ?_, rfl⟩)
  exact mem_newly.mpr ⟨hbefore, hafter⟩

/-- The new state of the program that moves. -/
theorem advance_traced (hinv : TraceInv w) {a : Nat} {env : Env} {ctxErr : Option String}
    {s s' : CallState} {c' : Cluster} {out : Outcome}
    (hp : w.procs.lookup a = some ⟨ctxErr, .serve s⟩)
    (hmove : CallMove env ctxErr w.cluster w.cfg s s' c' out) :
    (w.advance a ⟨ctxErr, .serve s⟩ (.serve s') c' out).Traced a s' := by
  obtain ⟨⟨header, route, harr, hf⟩, hacc⟩ := hinv.call hp
  refine ⟨⟨header, route, List.mem_append_right _ harr, hmove.follows hf⟩, fun y hy => ?_⟩
  cases hx : s.access with
  | none => exact List.mem_append_left _ (List.mem_append_left _ (authorized_mem_reachEvents hx hy))
  | some x =>
    rw [hmove.access_eq hx hy]
    exact List.mem_append_right _ (hacc x hx)

/-- The state that a request reaches in a step. -/
theorem reaches_traced (hinv : TraceInv w) {l : Label} {a : Nat} {s : CallState}
    (h : w.Reaches a l w' s) : w'.Traced a s := by
  cases h with
  | @arrived header route =>
    refine ⟨⟨header, route, ?_, (authorize_entry _ _ _).follows⟩, fun access haccess => ?_⟩
    · exact List.mem_append_left _ (List.mem_append_right _ (List.mem_singleton.mpr rfl))
    · exact List.mem_append_left _ (List.mem_append_left _ (authorized_mem_reachEvents rfl haccess))
  | ran hp hmove => exact hinv.advance_traced hp hmove

theorem step {l : Label} (hinv : TraceInv w) (h : w.step l = some w') : TraceInv w' where
  call ha := by
    obtain ⟨ctxErr, hold⟩ | hreach := (moves h).serve_cases ha
    · exact (hinv.call hold).mono (history_subset h)
    · exact hinv.reaches_traced hreach
  answer he := by
    obtain hold | hreach := (moves h).answered_cases he
    · exact (hinv.answer hold).mono (history_subset h)
    · exact hinv.reaches_traced hreach

end TraceInv

end World

end SandboxProvider
