import SandboxProvider.Server.Credentials
import SandboxProvider.System.Step

/-!
# Tokens are isolated

The token of a request stands for a class and a namespace. Whatever requests run and however they
interleave: a request writes in the namespace of its token only, no request changes what any token
stands for, and what the requests of one class and namespace write and answer does not depend on the
rest of the store, nor on the requests of other namespaces. The provider's own namespace, which holds
the credentials, is no exception. It does depend on requests with a token for another class in the same
namespace: the names of the PodSandboxes there are shared.
-/

namespace SandboxProvider

open Lib Server

/-! ## Runs of requests -/

namespace World

/-- The steps of the API server's requests. The controller shows in the statuses it writes. -/
inductive Requested (w : World) : Label → World → Prop
  | arrive {a header route} (hnew : w.procs.lookup a = none) :
      Requested w (.arrive a header route) { w with
        procs := w.procs.insert a { state := .serve (authorize w.cfg header route) }
        history := reachEvents a none (.serve (authorize w.cfg header route)) w.cluster ++
          [.arrived a header route] ++ w.history }
  | run {a env ctxErr s s' c' out} (hp : w.procs.lookup a = some ⟨ctxErr, .serve s⟩)
      (h : (s.next w.cfg).step env ctxErr w.cluster = some (s', c', out)) :
      Requested w (.run a env) (w.advance a ⟨ctxErr, .serve s⟩ (.serve s') c' out)
  | cancel {a err p} (hp : w.procs.lookup a = some p) :
      Requested w (.cancel a err) { w with procs := w.procs.insert a { p with ctxErr := some err } }
  | status {k status o t} (hget : w.cluster.sandboxes.get k = some o)
      (h : w.cluster.sandboxes.Replaces o (withStatus (fun _ => status) o) t) :
      Requested w (.writeStatus k status) { w with cluster := { w.cluster with sandboxes := t } }
  | idle {k status} (hget : w.cluster.sandboxes.get k = none) : Requested w (.writeStatus k status) w

/-- Requests and the status writes of the controller. -/
def ofRequests : Label → Bool
  | .arrive .. | .run .. | .cancel .. | .writeStatus .. => true
  | _ => false

theorem requested {w w' : World} {l : Label} (h : w.step l = some w') (hl : ofRequests l)
    (hserve : ∀ {a p}, w.procs.lookup a = some p → ∃ s, p.state = .serve s) :
    w.Requested l w' := by
  cases l with
  | arrive a header route =>
    obtain ⟨hnew, rfl⟩ := spawn_eq_some h
    exact .arrive hnew
  | run a env =>
    obtain ⟨ctxErr, state, s', c', out, hp, hs, rfl⟩ := step_run h
    obtain ⟨s, rfl⟩ := hserve hp
    obtain ⟨t, rfl, ht⟩ := step_serve hs
    exact .run hp ht
  | cancel a err =>
    obtain ⟨p, hp, rfl⟩ := step_cancel h
    exact .cancel hp
  | writeStatus k status =>
    cases h
    cases ho : w.cluster.sandboxes.get k with
    | none =>
      rw [modifyObject_of_none _ _ ho]
      exact .idle ho
    | some o => exact .status ho (replaces_modifyObject _ _ ho)
  | _ => cases hl

end World

/-! ## One step of a request -/

section Step

variable {cfg : Config} {env : Env} {ctxErr : Option String} {c c' c₁ c₂ c₁' c₂' : Cluster}
  {s s' s₁ s₂ : CallState} {out out₁ out₂ : Outcome} {access : AuthorizedAccess}

/-- Before a request is authorized, it reads. -/
theorem Server.CallMove.of_unauthorized (h : CallMove env ctxErr c cfg s s' c' out)
    (hnone : s.access = none) : c' = c ∧ out.writes = [] := by
  cases h with
  | tokenFailed => exact ⟨rfl, rfl⟩
  | tokenRead => exact ⟨rfl, rfl⟩
  | accessesFailed => exact ⟨rfl, rfl⟩
  | accessesRead => exact ⟨rfl, rfl⟩
  | config h => cases h <;> cases hnone
  | create h => cases h <;> cases hnone
  | delete h => cases h <;> cases hnone

/-- What a step of a request changes: nothing, or something in the scope of its access. -/
theorem Server.CallState.Sound.step_confined (hs : s.Sound)
    (h : (s.next cfg).step env ctxErr c = some (s', c', out)) :
    (c' = c ∧ out.writes = []) ∨
    ∃ access, s.access = some access ∧ Cluster.Confined access c c' ∧
      ∀ wr ∈ out.writes, wr.ns = access.ns := by
  cases haccess : s.access with
  | none => exact .inl ((CallState.moves h).of_unauthorized haccess)
  | some access =>
    obtain ⟨hc, hw⟩ := Next.step_confined (hs.within haccess) h
    exact .inr ⟨access, rfl, hc, hw⟩

/-- A request whose access is (or will be) `access` takes the same step in two clusters that agree
on the scope of `access` and on the credentials. -/
theorem Server.CallState.Sound.step_agree (hs : s.Sound)
    (hgrant : ∀ x, s.access = some x → x = access)
    (hcred : Cluster.SameCredentials cfg c₁ c₂) (hagree : Cluster.Agree access c₁ c₂)
    (h₁ : (s.next cfg).step env ctxErr c₁ = some (s₁, c₁', out₁))
    (h₂ : (s.next cfg).step env ctxErr c₂ = some (s₂, c₂', out₂)) :
    s₁ = s₂ ∧ out₁ = out₂ ∧ Cluster.Agree access c₁' c₂' := by
  cases haccess : s.access with
  | some x =>
    cases hgrant x haccess
    exact Next.step_agree (hs.within haccess) hagree h₁ h₂
  | none =>
    cases s with
    | getToken got route =>
      simp only [CallState.next, Next.step, respond, Cluster.exec, getObject, hcred.token] at h₁ h₂
      cases hr : refusal env ctxErr .request <;> simp only [hr] at h₁ h₂ <;> cases h₁ <;> cases h₂ <;>
        exact ⟨rfl, rfl, hagree⟩
    | listAccesses got route =>
      simp only [CallState.next, Next.step, respond, Cluster.exec] at h₁ h₂
      cases hr : refusal env ctxErr .request with
      | some message =>
        simp only [hr] at h₁ h₂
        cases h₁
        cases h₂
        exact ⟨rfl, rfl, hagree⟩
      | none =>
        simp only [hr] at h₁ h₂
        cases h₁
        cases h₂
        exact ⟨congrArg _ (hcred.matchAccess got).symm, rfl, hagree⟩
    | config s => cases s <;> cases haccess; cases h₁
    | create s => cases s <;> cases haccess; cases h₁
    | delete s => cases s <;> cases haccess; cases h₁
    | replied => cases h₁

end Step

/-! ## What every request may work with -/

namespace World

/-- Every request is sound, and the access it has or will be given satisfies `P`; the credentials
cannot be mistaken for userdata. -/
structure CallInv (P : Nat → AuthorizedAccess → Prop) (w : World) : Prop where
  names : w.cluster.CredentialNames w.cfg
  call : ∀ {a p}, w.procs.lookup a = some p →
    ∃ s, p.state = .serve s ∧ s.Sound ∧ s.Grants w.cfg w.cluster (P a)

namespace CallInv

variable {P Q : Nat → AuthorizedAccess → Prop} {w w' : World} {l : Label}

theorem start (P : Nat → AuthorizedAccess → Prop) (cfg : Config) {c : Cluster}
    (hnames : c.CredentialNames cfg) : CallInv P (World.start cfg c) where
  names := hnames
  call h := by cases h

theorem serve (h : CallInv P w) {a : Nat} {p : Proc} (hp : w.procs.lookup a = some p) :
    ∃ s, p.state = .serve s := by
  obtain ⟨s, hs, -⟩ := h.call hp
  exact ⟨s, hs⟩

/-- The world changes, but not the credentials and the requests other than `a`. -/
theorem insert (h : CallInv P w) (hcfg : w'.cfg = w.cfg)
    (hcred : Cluster.SameCredentials w.cfg w.cluster w'.cluster) {a : Nat} {p : Proc}
    (hprocs : w'.procs = w.procs.insert a p)
    (hnew : ∃ s, p.state = .serve s ∧ s.Sound ∧ s.Grants w.cfg w.cluster (P a)) :
    CallInv P w' where
  names := by
    rw [hcfg]
    exact hcred.names h.names
  call {b q} hq := by
    have hold : ∃ s, q.state = .serve s ∧ s.Sound ∧ s.Grants w.cfg w.cluster (P b) := by
      rw [hprocs, lookup_insert_ite] at hq
      split at hq
      · rename_i hba
        cases hq
        rw [hba]
        exact hnew
      · exact h.call hq
    obtain ⟨s, hs, hsound, hgrants⟩ := hold
    rw [hcfg]
    exact ⟨s, hs, hsound, hgrants.mono (fun _ hx => hx) hcred⟩

/-- The credentials survive a step of a request. -/
theorem sameCredentials (h : CallInv P w) (hstep : w.Requested l w') :
    Cluster.SameCredentials w.cfg w.cluster w'.cluster := by
  cases hstep with
  | arrive => exact .refl _ _
  | run hp hrun =>
    obtain ⟨s, hs, hsound, -⟩ := h.call hp
    cases hs
    obtain ⟨hc, -⟩ | ⟨access, -, hc, -⟩ := hsound.step_confined hrun
    · show Cluster.SameCredentials w.cfg w.cluster _
      rw [hc]
      exact .refl _ _
    · exact hc.sameCredentials h.names
  | cancel => exact .refl _ _
  | status => exact ⟨rfl, fun _ => .rfl⟩
  | idle => exact .refl _ _

theorem step (h : CallInv P w) (hstep : w.Requested l w')
    (harrive : ∀ {a header route}, l = .arrive a header route → ∀ access,
      authorizedAccess w.cfg w.cluster (trimPrefix header "Bearer ") = .ok access → P a access) :
    CallInv P w' := by
  have hcred := h.sameCredentials hstep
  cases hstep with
  | arrive hnew =>
    exact h.insert rfl hcred rfl
      ⟨_, rfl, (authorize_entry _ _ _).sound, authorize_grants (harrive rfl)⟩
  | run hp hrun =>
    obtain ⟨s, hs, hsound, hgrants⟩ := h.call hp
    cases hs
    have hmove := CallState.moves hrun
    exact h.insert rfl hcred rfl ⟨_, rfl, hmove.sound hsound, hmove.grants hgrants⟩
  | cancel hp =>
    obtain ⟨s, hs, hrest⟩ := h.call hp
    exact h.insert rfl hcred rfl ⟨s, hs, hrest⟩
  | status =>
    refine ⟨hcred.names h.names, fun hp => ?_⟩
    obtain ⟨s, hs, hsound, hgrants⟩ := h.call hp
    exact ⟨s, hs, hsound, hgrants.mono (fun _ hx => hx) hcred⟩
  | idle => exact h

end CallInv

/-! ## Writes stay in the namespace of the token -/

/-- The token that the request `a` came with stands for this access. -/
def Granted (w : World) (a : Nat) (access : AuthorizedAccess) : Prop :=
  ∃ header route, .arrived a header route ∈ w.history ∧
    authorizedAccess w.cfg w.cluster (trimPrefix header "Bearer ") = .ok access

structure TokenInv (w : World) : Prop where
  calls : CallInv w.Granted w
  wrote : ∀ {a before wr}, .wrote a before wr ∈ w.history →
    ∃ access, w.Granted a access ∧ wr.ns = access.ns

namespace TokenInv

variable {w w' : World} {l : Label}

theorem granted_mono {a : Nat} {access : AuthorizedAccess} (hcfg : w'.cfg = w.cfg)
    (hcred : Cluster.SameCredentials w.cfg w.cluster w'.cluster)
    (hgrow : ∀ e ∈ w.history, e ∈ w'.history) (h : w.Granted a access) : w'.Granted a access := by
  obtain ⟨header, route, harr, haccess⟩ := h
  refine ⟨header, route, hgrow _ harr, ?_⟩
  rw [hcfg, hcred.authorizedAccess]
  exact haccess

theorem cfg_requested (hstep : w.Requested l w') : w'.cfg = w.cfg := by
  cases hstep <;> rfl

theorem history_requested (hstep : w.Requested l w') : ∀ e ∈ w.history, e ∈ w'.history := by
  intro e he
  cases hstep with
  | arrive => exact List.mem_append_right _ he
  | run => exact List.mem_append_right _ he
  | cancel => exact he
  | status => exact he
  | idle => exact he

theorem wrote_not_mem_reachEvents {a b : Nat} {before : Option State} {after s : State} {c : Cluster}
    {wr : Write} : .wrote b s wr ∉ reachEvents a before after c := by
  intro h
  rcases List.mem_append.mp h with h | h
  · obtain ⟨_, -, heq⟩ := List.mem_map.mp h
    cases heq
  · obtain ⟨_, -, heq⟩ := List.mem_map.mp h
    cases heq

theorem step (h : TokenInv w) (hstep : w.Requested l w') : TokenInv w' := by
  have hcred := h.calls.sameCredentials hstep
  have hgranted {a : Nat} {access : AuthorizedAccess} : w.Granted a access → w'.Granted a access :=
    granted_mono (cfg_requested hstep) hcred (history_requested hstep)
  have hcalls : CallInv w'.Granted w :=
    ⟨h.calls.names, fun hp => by
      obtain ⟨s, hs, hsound, hgrants⟩ := h.calls.call hp
      exact ⟨s, hs, hsound, hgrants.mono (fun _ => hgranted) (.refl _ _)⟩⟩
  refine ⟨hcalls.step hstep ?_, ?_⟩
  · rintro a header route rfl access haccess
    cases hstep with
    | arrive hnew =>
      refine ⟨header, route, ?_, haccess⟩
      exact List.mem_append_left _ (List.mem_append_right _ (List.mem_singleton.mpr rfl))
  · intro a before wr he
    have hold : .wrote a before wr ∈ w.history → ∃ access, w'.Granted a access ∧ wr.ns = access.ns := by
      intro he
      obtain ⟨access, hg, hns⟩ := h.wrote he
      exact ⟨access, hgranted hg, hns⟩
    cases hstep with
    | arrive =>
      rcases List.mem_append.mp he with he | he
      · rcases List.mem_append.mp he with he | he
        · exact absurd he wrote_not_mem_reachEvents
        · simp at he
      · exact hold he
    | run hp hrun =>
      rcases List.mem_append.mp he with he | he
      · rcases List.mem_append.mp he with he | he
        · exact absurd he wrote_not_mem_reachEvents
        · obtain ⟨rfl, -, hwr⟩ := wrote_mem_callEvents.mp he
          obtain ⟨s, hs, hsound, hgrants⟩ := hcalls.call hp
          cases hs
          obtain ⟨-, hnone⟩ | ⟨access, haccess, -, hns⟩ := hsound.step_confined hrun
          · rw [hnone] at hwr
            cases hwr
          · exact ⟨access, hgrants.of_access haccess, hns wr hwr⟩
      · exact hold he
    | cancel => exact hold he
    | status => exact hold he
    | idle => exact hold he

end TokenInv

end World

/-! ## What the requests of one scope show -/

/-- A write or a reply of one of the `low` requests. -/
def Event.output (low : Nat → Bool) : Event → Option (Nat × (Write ⊕ Reply))
  | .wrote a _ wr => if low a then some (a, .inl wr) else none
  | .answered a _ reply _ => if low a then some (a, .inr reply) else none
  | _ => none

/-- The labels of the `low` requests and of the status writes in a namespace. -/
def Label.low (low : Nat → Bool) (ns : String) : Label → Bool
  | .arrive a _ _ | .run a _ | .cancel a _ => low a
  | .writeStatus k _ => k.ns = ns
  | _ => false

namespace World

/-- The writes and replies of the `low` requests, the latest first. -/
def outputs (low : Nat → Bool) (w : World) : List (Nat × (Write ⊕ Reply)) :=
  w.history.filterMap (Event.output low)

/-- The `low` requests belong to `access`, the others to other namespaces. -/
def Belongs (access : AuthorizedAccess) (low : Nat → Bool) (a : Nat) (x : AuthorizedAccess) : Prop :=
  if low a then x = access else x.ns ≠ access.ns

/-- A `low` request comes with a token for `access`, another one with a token for another namespace
(or for none). -/
def Tenancy (access : AuthorizedAccess) (low : Nat → Bool) (w : World) : Label → Prop
  | .arrive a header _ => ∀ x,
      authorizedAccess w.cfg w.cluster (trimPrefix header "Bearer ") = .ok x → Belongs access low a x
  | .run .. | .cancel .. | .writeStatus .. => True
  | _ => False

theorem Tenancy.ofRequests {access : AuthorizedAccess} {low : Nat → Bool} {w : World} {l : Label}
    (h : w.Tenancy access low l) : ofRequests l := by
  cases l <;> first | rfl | exact h.elim

section Outputs

variable {low : Nat → Bool} {a : Nat} {before : Option State} {after : State} {c c' : Cluster}

/-- An output does not tell the cluster it was made in. -/
theorem output_reachEvents (low : Nat → Bool) (a : Nat) (before : Option State) (after : State)
    (c c' : Cluster) :
    (reachEvents a before after c).filterMap (Event.output low) =
      (reachEvents a before after c').filterMap (Event.output low) := by
  unfold reachEvents
  simp only [List.filterMap_append, List.filterMap_map]
  rfl

theorem output_reachEvents_of_high (hlow : low a = false) :
    (reachEvents a before after c).filterMap (Event.output low) = [] := by
  refine List.filterMap_eq_nil_iff.mpr fun e he => ?_
  rcases List.mem_append.mp he with he | he
  · obtain ⟨_, -, rfl⟩ := List.mem_map.mp he
    simp [Event.output, hlow]
  · obtain ⟨_, -, rfl⟩ := List.mem_map.mp he
    rfl

theorem output_callEvents_of_high (hlow : low a = false) {s : State} {out : Outcome} :
    (callEvents a s out).filterMap (Event.output low) = [] := by
  refine List.filterMap_eq_nil_iff.mpr fun e he => ?_
  cases out with
  | ok ws =>
    obtain ⟨_, -, rfl⟩ := List.mem_map.mp he
    simp [Event.output, hlow]
  | error err =>
    cases List.mem_singleton.mp he
    rfl

end Outputs

/-- Two worlds that the requests of `access` cannot tell apart. -/
structure LowEq (access : AuthorizedAccess) (low : Nat → Bool) (w₁ w₂ : World) : Prop where
  left : CallInv (Belongs access low) w₁
  right : CallInv (Belongs access low) w₂
  cfg : w₁.cfg = w₂.cfg
  credentials : Cluster.SameCredentials w₁.cfg w₁.cluster w₂.cluster
  agree : Cluster.Agree access w₁.cluster w₂.cluster
  procs : ∀ {a}, low a → w₁.procs.lookup a = w₂.procs.lookup a
  outputs : w₁.outputs low = w₂.outputs low

namespace LowEq

variable {access : AuthorizedAccess} {low : Nat → Bool} {w₁ w₂ w₁' w₂' : World} {l : Label}

theorem symm (h : LowEq access low w₁ w₂) : LowEq access low w₂ w₁ where
  left := h.right
  right := h.left
  cfg := h.cfg.symm
  credentials := by
    rw [← h.cfg]
    exact h.credentials.symm
  agree := h.agree.symm
  procs hlow := (h.procs hlow).symm
  outputs := h.outputs.symm

/-- The unary part of a step. -/
theorem callInv_step {w w' : World} (h : CallInv (Belongs access low) w)
    (hok : w.Tenancy access low l) (hstep : w.Requested l w') : CallInv (Belongs access low) w' := by
  refine h.step hstep ?_
  rintro a header route rfl
  exact hok

/-- **Local respect.** A step of another request, or a status in another namespace, does not show. -/
theorem high (h : LowEq access low w₁ w₂) (hlow : l.low low access.ns = false)
    (hok : w₁.Tenancy access low l) (hstep : w₁.Requested l w₁') : LowEq access low w₁' w₂ := by
  have hleft := callInv_step h.left hok hstep
  have hcred := (h.left.sameCredentials hstep).symm.trans h.credentials
  have hprocs {a b : Nat} {p : Proc} (ha : low a = false) (hb : low b) :
      (w₁.procs.insert a p).lookup b = w₂.procs.lookup b := by
    rw [AList.lookup_insert_ne (by rintro rfl; rw [ha] at hb; cases hb)]
    exact h.procs hb
  cases hstep with
  | arrive hnew =>
    refine ⟨hleft, h.right, h.cfg, hcred, h.agree, hprocs hlow, ?_⟩
    refine Eq.trans ?_ h.outputs
    simp only [World.outputs, List.filterMap_append, output_reachEvents_of_high hlow]
    rfl
  | @run a env ctxErr s s' c' out hp hrun =>
    obtain ⟨t, ht, hsound, hgrants⟩ := h.left.call hp
    cases ht
    have hagree : Cluster.Agree access c' w₂.cluster := by
      obtain ⟨hc, -⟩ | ⟨x, hx, hc, -⟩ := hsound.step_confined hrun
      · rw [hc]
        exact h.agree
      · have hbelongs : Belongs access low a x := hgrants.of_access hx
        rw [Belongs, show low a = false from hlow] at hbelongs
        exact h.agree.of_confined hc hbelongs
    refine ⟨hleft, h.right, h.cfg, hcred, hagree, hprocs hlow, ?_⟩
    refine Eq.trans ?_ h.outputs
    simp only [World.outputs, advance, List.filterMap_append, output_reachEvents_of_high hlow,
      output_callEvents_of_high hlow]
    rfl
  | cancel hp => exact ⟨hleft, h.right, h.cfg, hcred, h.agree, hprocs hlow, h.outputs⟩
  | @status k status o t hget hrep =>
    refine ⟨hleft, h.right, h.cfg, hcred, { h.agree with sandboxes := fun {k'} hk' => ?_ }, h.procs,
      h.outputs⟩
    refine (hrep.get_ne ?_).trans (h.agree.sandboxes hk')
    rw [Table.key_of_get hget]
    rintro rfl
    simp [Label.low, hk'] at hlow
  | idle => exact h

/-- **Step consistency.** A step of a request of `access`, or a status in its namespace, has the same
effect in both worlds. -/
theorem both (h : LowEq access low w₁ w₂) (hlow : l.low low access.ns = true)
    (hok₁ : w₁.Tenancy access low l) (hok₂ : w₂.Tenancy access low l)
    (hstep₁ : w₁.Requested l w₁') (hstep₂ : w₂.Requested l w₂') : LowEq access low w₁' w₂' := by
  have hleft := callInv_step h.left hok₁ hstep₁
  have hright := callInv_step h.right hok₂ hstep₂
  have hcred : Cluster.SameCredentials w₁.cfg w₁'.cluster w₂'.cluster := by
    have hcred₂ := h.right.sameCredentials hstep₂
    rw [← h.cfg] at hcred₂
    exact ((h.left.sameCredentials hstep₁).symm.trans h.credentials).trans hcred₂
  have hprocs {a b : Nat} {p q : Proc} (hpq : p = q) (hb : low b) :
      (w₁.procs.insert a p).lookup b = (w₂.procs.insert a q).lookup b := by
    rw [hpq, lookup_insert_ite, lookup_insert_ite, h.procs hb]
  have houtputs := h.outputs
  unfold World.outputs at houtputs
  cases hstep₁ with
  | @arrive a header route =>
    cases hstep₂ with
    | arrive =>
      refine ⟨hleft, hright, h.cfg, hcred, h.agree, hprocs (by rw [h.cfg]), ?_⟩
      simp only [World.outputs, List.filterMap_append, houtputs, h.cfg]
      rw [output_reachEvents low a _ _ w₁.cluster w₂.cluster]
  | @run a env ctxErr s s₁ c₁ out₁ hp₁ hrun₁ =>
    cases hstep₂ with
    | @run _ _ _ _ _ c₂ _ hp₂ hrun₂ =>
      cases (hp₁.symm.trans (h.procs hlow)).trans hp₂
      rw [← h.cfg] at hrun₂
      obtain ⟨t, ht, hsound, hgrants⟩ := h.left.call hp₁
      cases ht
      have hgrant (x : AuthorizedAccess) (hx : s.access = some x) : x = access := by
        have hbelongs : Belongs access low a x := hgrants.of_access hx
        rw [Belongs, show low a = true from hlow] at hbelongs
        exact hbelongs
      obtain ⟨rfl, rfl, hagree⟩ := hsound.step_agree hgrant h.credentials h.agree hrun₁ hrun₂
      refine ⟨hleft, hright, h.cfg, hcred, hagree, hprocs rfl, ?_⟩
      simp only [World.outputs, advance, List.filterMap_append, houtputs]
      rw [output_reachEvents low a _ _ c₁ c₂]
  | cancel hp₁ =>
    cases hstep₂ with
    | cancel hp₂ =>
      cases (hp₁.symm.trans (h.procs hlow)).trans hp₂
      exact ⟨hleft, hright, h.cfg, hcred, h.agree, hprocs rfl, h.outputs⟩
  | @status k status o₁ t₁ hget₁ hrep₁ =>
    have hk : w₁.cluster.sandboxes.get k = w₂.cluster.sandboxes.get k :=
      h.agree.sandboxes (of_decide_eq_true hlow)
    cases hstep₂ with
    | status hget₂ hrep₂ =>
      cases (hget₁.symm.trans hk).trans hget₂
      refine ⟨hleft, hright, h.cfg, hcred, { h.agree with sandboxes := fun {k'} hk' => ?_ }, h.procs,
        h.outputs⟩
      refine (hrep₁.get k').trans ?_
      rw [h.agree.sandboxes hk']
      exact (hrep₂.get k').symm
    | idle hnone => exact absurd ((hget₁.symm.trans hk).trans hnone) (Option.some_ne_none _)
  | idle hnone =>
    cases hstep₂ with
    | status hget₂ =>
      have hk := h.agree.sandboxes (of_decide_eq_true hlow)
      exact absurd ((hget₂.symm.trans hk.symm).trans hnone) (Option.some_ne_none _)
    | idle => exact h

end LowEq

/-- **Isolation of tokens.** Let no token-bearing Secret of the store have the name of a userdata
Secret. Along every run of requests, a request writes only in the namespace that its token stands
for, and every token keeps standing for what it stood for. Two runs with the same requests of one
class and namespace, in stores that agree on this scope and on the token-bearing Secrets, show the
same writes and replies of these requests, whatever requests of other namespaces run beside them. -/
theorem tokens_are_isolated (cfg : Config) (c : Cluster) (hnames : c.CredentialNames cfg) :
    (∀ ls w, Run World.step (fun _ l => ofRequests l) (World.start cfg c) ls w →
      (∀ a before wr, .wrote a before wr ∈ w.history → ∃ header route access,
        .arrived a header route ∈ w.history ∧
        authorizedAccess cfg c (trimPrefix header "Bearer ") = .ok access ∧ wr.ns = access.ns) ∧
      ∀ got, authorizedAccess cfg w.cluster got = authorizedAccess cfg c got) ∧
    ∀ access low c', Cluster.SameCredentials cfg c c' → Cluster.Agree access c c' →
      ∀ ls w ls' w', Run World.step (World.Tenancy access low) (World.start cfg c) ls w →
        Run World.step (World.Tenancy access low) (World.start cfg c') ls' w' →
        ls.filter (Label.low low access.ns) = ls'.filter (Label.low low access.ns) →
        w.outputs low = w'.outputs low := by
  refine ⟨fun ls w hrun => ?_, ?_⟩
  · obtain ⟨hinv, hcfg, hcred⟩ := hrun.invariant
      (fun w => TokenInv w ∧ w.cfg = cfg ∧ Cluster.SameCredentials cfg c w.cluster)
      (fun s l t ⟨hinv, hcfg, hcred⟩ hok hstep => by
        have hreq := requested hstep hok hinv.calls.serve
        refine ⟨hinv.step hreq, (TokenInv.cfg_requested hreq).trans hcfg, hcred.trans ?_⟩
        rw [← hcfg]
        exact hinv.calls.sameCredentials hreq)
      ⟨⟨.start _ cfg hnames, fun he => nomatch he⟩, rfl, .refl cfg c⟩
    refine ⟨fun a before wr he => ?_, hcred.authorizedAccess⟩
    obtain ⟨access, ⟨header, route, harr, haccess⟩, hns⟩ := hinv.wrote he
    rw [hcfg, hcred.authorizedAccess] at haccess
    exact ⟨header, route, access, harr, haccess, hns⟩
  · intro access low c' hsame hagree ls w ls' w' hrun hrun' hlow
    have hstart : LowEq access low (World.start cfg c) (World.start cfg c') :=
      ⟨.start _ cfg hnames, .start _ cfg (hsame.names hnames), rfl, hsame, hagree, fun _ => rfl, rfl⟩
    have hend : LowEq access low w w' := by
      refine Run.unwinding (R := LowEq access low) LowEq.symm ?_ ?_ hrun hrun' hlow hstart
      · intro s₁ s₂ l t₁ hl h hok hstep
        exact h.high hl hok (requested hstep hok.ofRequests h.left.serve)
      · intro s₁ s₂ l t₁ t₂ hl h hok₁ hok₂ hstep₁ hstep₂
        exact h.both hl hok₁ hok₂ (requested hstep₁ hok₁.ofRequests h.left.serve)
          (requested hstep₂ hok₂.ofRequests h.right.serve)
    exact hend.outputs

end World

/-! ## Two tenants -/

namespace Sample

/-- A token for the namespace `tenant`. -/
def tenantAccess : Secret where
  metadata := {
    name := "tenant-access", ns := "provider", uid := 1
    labels := StringMap.ofList [(AccessSecretLabel, AccessSecretLabelValue)] }
  data := StringMap.ofList [(AccessSecretTokenKey, "tenant-token"), (AccessSecretClassKey, "kata"),
    (AccessSecretNamespaceKey, "tenant")]

/-- A provider with one tenant. -/
def oneTenant : Cluster :=
  { oneClass with secrets := Table.empty.insert tenantAccess ⟨rfl, by decide⟩ }

def otherSandbox : PodSandbox where
  metadata := { name := "psb-0", ns := "provider", uid := 7 }

/-- The same with a PodSandbox in the provider's own namespace. -/
def occupied : Cluster :=
  { oneTenant with sandboxes := Table.empty.insert otherSandbox ⟨rfl, by decide⟩ }

/-- The tenant creates a PodSandbox, which becomes ready. -/
def tenantCreate : List Label :=
  [.arrive 1 "Bearer tenant-token" (.createSandbox (.ok request)), .run 1 {}] ++
    createSteps 1 10 ++
    [.writeStatus ⟨"tenant", key.name⟩ (ready "10.0.0.1"), .run 1 {}]

/-- Before that, a request with the provider's own token creates one in its namespace. -/
def bothCreate : List Label :=
  [arrive 2 request] ++ createSteps 2 5 ++ tenantCreate

theorem oneTenant_credentialNames : oneTenant.CredentialNames cfg where
  token h := absurd h.psb (by decide)
  accesses {k x} hget _ h := by
    have hstores : Table.empty.Stores tenantAccess oneTenant.secrets :=
      Table.stores_insert _ _ ⟨rfl, by decide⟩
    obtain ⟨rfl, -⟩ | ⟨-, hget⟩ := hstores.of_get hget
    · exact absurd h.psb (by decide)
    · cases hget

end Sample

namespace World

instance (access : AuthorizedAccess) (low : Nat → Bool) (a : Nat) (x : AuthorizedAccess) :
    Decidable (Belongs access low a x) :=
  inferInstanceAs (Decidable (if low a then x = access else x.ns ≠ access.ns))

instance (access : AuthorizedAccess) (low : Nat → Bool) (w : World) :
    (l : Label) → Decidable (w.Tenancy access low l)
  | .arrive a header _ =>
    match h : authorizedAccess w.cfg w.cluster (trimPrefix header "Bearer ") with
    | .ok x => decidable_of_iff (Belongs access low a x)
        ⟨fun hx y hy => (by rw [h] at hy; cases hy; exact hx), fun hall => hall x h⟩
    | .error _ => .isTrue fun y hy => (by rw [h] at hy; cases hy)
  | .run .. | .cancel .. | .writeStatus .. => .isTrue trivial
  | .reconcile .. | .collect .. | .kubelet .. | .deletePod .. | .removePod .. | .createClass ..
  | .updateClass .. | .deleteClass .. => .isFalse id

set_option maxRecDepth 100000 in
theorem tenant_create_isolated :
    Sample.oneTenant.CredentialNames Sample.cfg ∧
    ∃ w w',
      Run World.step (World.Tenancy ⟨"kata", "tenant"⟩ (· == 1))
        (World.start Sample.cfg Sample.oneTenant) Sample.bothCreate w ∧
      Run World.step (World.Tenancy ⟨"kata", "tenant"⟩ (· == 1))
        (World.start Sample.cfg Sample.occupied) Sample.tenantCreate w' ∧
      w.outputs (· == 1) = w'.outputs (· == 1) ∧ (w.outputs (· == 1)).length = 4 ∧
      ∀ got, authorizedAccess Sample.cfg w.cluster got =
        authorizedAccess Sample.cfg Sample.oneTenant got := by
  refine ⟨Sample.oneTenant_credentialNames, ?_⟩
  obtain ⟨w, hrun, hlen⟩ := Run.exists_of_checkRun
    (fun w : World => (w.outputs (· == 1)).length = 4)
    (show (checkRun World.step (World.Tenancy ⟨"kata", "tenant"⟩ (· == 1))
      (World.start Sample.cfg Sample.oneTenant) Sample.bothCreate).any _ = true by decide +kernel)
  obtain ⟨w', hrun', -⟩ := Run.exists_of_checkRun
    (fun _ : World => True)
    (show (checkRun World.step (World.Tenancy ⟨"kata", "tenant"⟩ (· == 1))
      (World.start Sample.cfg Sample.occupied) Sample.tenantCreate).any _ = true by decide +kernel)
  obtain ⟨hone, htwo⟩ :=
    tokens_are_isolated Sample.cfg Sample.oneTenant Sample.oneTenant_credentialNames
  refine ⟨w, w', hrun, hrun', ?_, hlen, ?_⟩
  · refine htwo ⟨"kata", "tenant"⟩ (· == 1) Sample.occupied ⟨rfl, fun _ => .rfl⟩ ?_
      _ w _ w' hrun hrun' rfl
    have hstores : Table.empty.Stores Sample.otherSandbox Sample.occupied.sandboxes :=
      Table.stores_insert _ _ ⟨rfl, by decide⟩
    refine ⟨fun {k} hk => ?_, fun _ => rfl, rfl⟩
    rw [hstores.get, if_neg]
    · rfl
    · rintro rfl
      exact absurd hk (by decide)
  · exact (hone _ w (hrun.mono fun _ _ hok => hok.ofRequests)).2

end World

/-! ## Two classes in one namespace -/

namespace Sample

/-- A token for another class in the namespace `tenant`. -/
def guestAccess : Secret where
  metadata := {
    name := "guest-access", ns := "provider", uid := 2
    labels := StringMap.ofList [(AccessSecretLabel, AccessSecretLabelValue)] }
  data := StringMap.ofList [(AccessSecretTokenKey, "guest-token"), (AccessSecretClassKey, "guest"),
    (AccessSecretNamespaceKey, "tenant")]

/-- Both tokens, but only one of the two classes. -/
def twoTokens : Cluster :=
  { oneTenant with secrets := oneTenant.secrets.insert guestAccess ⟨rfl, by decide⟩ }

/-- Both tokens and both classes. -/
def bothClasses : Cluster :=
  { twoTokens with
    classes := twoTokens.classes.insert (asCreated 2 { metadata := { name := "guest" } })
      ⟨rfl, by decide⟩ }

def guestArrives : Label := .arrive 2 "Bearer guest-token" (.createSandbox (.ok request))

/-- Without its class the second token creates nothing, and the tenant's request goes through. -/
def guestRefused : List Label :=
  [guestArrives, .run 2 {}, .run 2 {}] ++ tenantCreate

/-- With its class it creates the PodSandbox before the tenant does. -/
def guestFirst : List Label :=
  [guestArrives, .run 2 {}] ++ createSteps 2 5 ++
    [.arrive 1 "Bearer tenant-token" (.createSandbox (.ok request)), .run 1 {}, .run 1 {}, .run 1 {}]

theorem twoTokens_credentialNames : twoTokens.CredentialNames cfg where
  token h := absurd h.psb (by decide)
  accesses {k x} hget hx h := by
    have hstores : oneTenant.secrets.Stores guestAccess twoTokens.secrets :=
      Table.stores_insert _ _ ⟨rfl, by decide⟩
    obtain ⟨rfl, -⟩ | ⟨-, hget⟩ := hstores.of_get hget
    · exact absurd h.psb (by decide)
    · exact oneTenant_credentialNames.accesses hget hx h

end Sample

namespace World

/-- The requests of a run, in their order. -/
def arrivals (ls : List Label) : List (Nat × String × Route) :=
  ls.filterMap fun
    | .arrive a header route => some (a, header, route)
    | _ => none

/-- The statuses that a request is answered with. -/
def statuses (a : Nat) (w : World) : List Nat :=
  ((w.outputs (· == a)).filterMap (·.2.getRight?)).map Reply.status

set_option maxRecDepth 100000 in
/-- The same two requests, in two stores that agree on the namespace, on the class of one of them and on
the credentials: whether the other class exists decides about the reply. -/
theorem other_class_changes_reply :
    Sample.twoTokens.CredentialNames Sample.cfg ∧
    authorizedAccess Sample.cfg Sample.twoTokens "tenant-token" = .ok ⟨"kata", "tenant"⟩ ∧
    authorizedAccess Sample.cfg Sample.twoTokens "guest-token" = .ok ⟨"guest", "tenant"⟩ ∧
    Cluster.SameCredentials Sample.cfg Sample.twoTokens Sample.bothClasses ∧
    Cluster.Agree ⟨"kata", "tenant"⟩ Sample.twoTokens Sample.bothClasses ∧
    arrivals Sample.guestRefused = arrivals Sample.guestFirst ∧
    ∃ w w',
      Run World.step (fun _ l => ofRequests l) (World.start Sample.cfg Sample.twoTokens)
        Sample.guestRefused w ∧
      Run World.step (fun _ l => ofRequests l) (World.start Sample.cfg Sample.bothClasses)
        Sample.guestFirst w' ∧
      w.statuses 1 = [201] ∧ w'.statuses 1 = [409] := by
  refine ⟨Sample.twoTokens_credentialNames, by decide +kernel, by decide +kernel,
    ⟨rfl, fun _ => .rfl⟩, ⟨fun _ => rfl, fun _ => rfl, rfl⟩, rfl, ?_⟩
  obtain ⟨w, hrun, hcreated⟩ := Run.exists_of_checkRun (fun w : World => w.statuses 1 = [201])
    (show (checkRun World.step (fun _ l => ofRequests l)
      (World.start Sample.cfg Sample.twoTokens) Sample.guestRefused).any _ = true by decide +kernel)
  obtain ⟨w', hrun', hconflict⟩ := Run.exists_of_checkRun (fun w : World => w.statuses 1 = [409])
    (show (checkRun World.step (fun _ l => ofRequests l)
      (World.start Sample.cfg Sample.bothClasses) Sample.guestFirst).any _ = true by decide +kernel)
  exact ⟨w, w', hrun, hrun', hcreated, hconflict⟩

end World

end SandboxProvider
