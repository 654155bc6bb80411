import SandboxProvider.Api.Schema
import SandboxProvider.System.Creating
import SandboxProvider.System.Provenance

/-!
# What was reported and what was posted

Every MTU in a reply was read from a stored class by the request that it answers, and every userdata
in a Secret was posted in the body of a createSandbox request.
-/

namespace SandboxProvider

open Lib Server Controller

theorem Server.reportedMTU_range {cls : PodSandboxClass} (h : cls.spec.ValidMTU) :
    576 ≤ reportedMTU cls ∧ reportedMTU cls ≤ 9216 := by
  unfold reportedMTU defaultNetworkMTU
  rcases h with h | h
  · rw [if_pos h]
    decide
  · have hne : cls.spec.networkMTU ≠ 0 := by omega
    rw [if_neg hne]
    exact h

/-- The step stores a class only with a valid MTU. -/
def Label.ValidMTU : Label → Prop
  | .createClass _ spec _ | .updateClass _ spec => spec.ValidMTU
  | _ => True

instance : (l : Label) → Decidable l.ValidMTU
  | .createClass _ spec _ => inferInstanceAs (Decidable spec.ValidMTU)
  | .updateClass _ spec => inferInstanceAs (Decidable spec.ValidMTU)
  | .arrive .. | .reconcile .. | .run .. | .cancel .. | .collect .. | .kubelet .. | .deletePod ..
  | .removePod .. | .writeStatus .. | .deleteClass .. => inferInstanceAs (Decidable True)

/-! ## Configuration replies -/

section Replies

variable {env : Env} {ctxErr : Option String} {c c' : Cluster} {out : Outcome} {cfg : Config}
  {m : Int}

theorem Server.CreateMove.reply_config {s s' : CreateState}
    (h : CreateMove env ctxErr c s s' c' out) (hreply : s'.reply = some (.config m)) :
    s.reply = some (.config m) := by
  rcases h.reply_cases hreply with hbefore | ⟨_, _, herror⟩ | ⟨_, _, _, _, -, -, -, -, hcreated, -⟩
  · exact hbefore
  · cases herror
  · cases hcreated

theorem Server.Entry.reply_config {route : Route} {s : CallState} (h : Entry route s) :
    s.reply ≠ some (.config m) := by
  intro hreply
  cases h <;> cases hreply

/-- An MTU is reported by `getConfig`, from the class it reads. -/
theorem Server.CallMove.reply_config {s s' : CallState}
    (h : CallMove env ctxErr c cfg s s' c' out) (hreply : s'.reply = some (.config m)) :
    s.reply = some (.config m) ∨
    (s.reply = none ∧ c' = c ∧ ∃ access cls, s.access = some access ∧
      c.classes.get ⟨"", access.className⟩ = some cls ∧ m = reportedMTU cls) := by
  cases h with
  | tokenFailed => exact absurd hreply (compareToken_entry _ _ _ _).reply_config
  | tokenRead => exact absurd hreply (compareToken_entry _ _ _ _).reply_config
  | accessesFailed => exact absurd hreply (authorized_entry _ _).reply_config
  | accessesRead => exact absurd hreply (authorized_entry _ _).reply_config
  | config h =>
    cases h with
    | failed => cases hreply
    | read hget =>
      cases hreply
      exact .inr ⟨rfl, rfl, _, _, rfl, hget, rfl⟩
  | create h => exact .inl (h.reply_config hreply)
  | delete h => cases h <;> cases hreply

/-- The Secret that a call holds has the data of its request. -/
def Server.CreateState.HoldsOwn : CreateState → Prop
  | .createSandbox job secret | .deleteSecret job secret _ | .updateSecret job _ secret =>
    secret.data = job.secret.data
  | _ => True

theorem finish_holdsOwn {job : Job} {sandbox : PodSandbox} {createdHere : Bool} {reply : Reply} :
    (finish job sandbox createdHere reply).HoldsOwn := by
  unfold finish
  split <;> trivial

theorem Server.CreateMove.holdsOwn {s s' : CreateState} (h : CreateMove env ctxErr c s s' c' out)
    (hs : s.HoldsOwn) : s'.HoldsOwn := by
  cases h
  case classRead access body o h =>
    obtain ⟨_, _, he⟩ | ⟨_, _, _, _, _, he⟩ := prepare_cases access body <;> rw [he] <;> trivial
  case secretExists => exact rfl
  case secretStored => exact rfl
  case sandboxFailed => exact hs
  case sandboxStored j secret t h =>
    obtain ⟨owned, howned, he⟩ | he := adopt_cases j (asCreated env.uid j.sandbox) secret <;> rw [he]
    · rw [setControllerReference_eq_ok howned]
      exact hs
    · trivial
  case polled j before b o h =>
    obtain ⟨_, he⟩ | ⟨_, -, he⟩ | he := afterPoll_cases j b o <;> rw [he]
    · trivial
    · exact finish_holdsOwn
    · trivial
  case pollFailed => exact finish_holdsOwn
  case expired => exact finish_holdsOwn
  all_goals trivial

end Replies

namespace World

/-- The request `a` was answered with this MTU, which the class of its access had at that time. -/
def ReportedMTU (w : World) (a : Nat) (m : Int) : Prop :=
  ∃ access s c cls, .authorized a access ∈ w.history ∧
    .answered a (.serve s) (.config m) c ∈ w.history ∧
    c.classes.get ⟨"", access.className⟩ = some cls ∧ cls.spec.ValidMTU ∧ m = reportedMTU cls

theorem ReportedMTU.mono {w w' : World} {a : Nat} {m : Int} (h : w.ReportedMTU a m)
    (hgrow : ∀ e ∈ w.history, e ∈ w'.history) : w'.ReportedMTU a m := by
  obtain ⟨access, s, c, cls, haccess, hanswer, hrest⟩ := h
  exact ⟨access, s, c, cls, hgrow _ haccess, hgrow _ hanswer, hrest⟩

structure ReportInv (w : World) : Prop where
  classes : ∀ {k cls}, w.cluster.classes.get k = some cls → cls.spec.ValidMTU
  reply : ∀ {a p m}, w.procs.lookup a = some p → p.state.reply = some (.config m) →
    w.ReportedMTU a m

namespace ReportInv

variable {w w' : World}

theorem start (cfg : Config) {c : Cluster}
    (hclasses : ∀ k cls, c.classes.get k = some cls → cls.spec.ValidMTU) :
    ReportInv (World.start cfg c) where
  classes h := hclasses _ _ h
  reply h := by cases h

/-- The classes after a step have a valid MTU. -/
private theorem step_classes (hinv : ReportInv w) {l : Label} (hl : l.ValidMTU)
    (h : EnvMove w.cluster l c') {k : NamespacedName} {cls : PodSandboxClass}
    (hget : c'.classes.get k = some cls) : cls.spec.ValidMTU := by
  cases h
  case classCreated hst =>
    obtain ⟨-, rfl⟩ | ⟨-, hold⟩ := hst.of_get hget
    · exact hl
    · exact hinv.classes hold
  case classUpdated hrep =>
    obtain ⟨-, rfl⟩ | ⟨-, hold⟩ := hrep.of_get hget
    · exact hl
    · exact hinv.classes hold
  case classDeleted hrem => exact hinv.classes (hrem.of_get hget).2
  all_goals exact hinv.classes hget

/-- The reply of the program that moves. -/
private theorem advance_reply (hinv : ReportInv w) (htrace : TraceInv w) {a : Nat} {env : Env}
    {ctxErr : Option String} {s s' : CallState} {c' : Cluster} {out : Outcome} {m : Int}
    (hp : w.procs.lookup a = some ⟨ctxErr, .serve s⟩)
    (hmove : CallMove env ctxErr w.cluster w.cfg s s' c' out)
    (hreply : s'.reply = some (.config m)) :
    (w.advance a ⟨ctxErr, .serve s⟩ (.serve s') c' out).ReportedMTU a m := by
  obtain hold | ⟨hnone, rfl, access, cls, haccess, hget, rfl⟩ := hmove.reply_config hreply
  · exact (hinv.reply hp hold).mono fun e he => List.mem_append_right _ he
  · refine ⟨access, s', w.cluster, cls, ?_, ?_, hget, hinv.classes hget, rfl⟩
    · exact List.mem_append_right _ ((htrace.call hp).2 access haccess)
    · refine List.mem_append_left _ (List.mem_append_left _ (List.mem_append_left _ ?_))
      exact List.mem_map.mpr ⟨_, mem_newly.mpr ⟨hnone, hreply⟩, rfl⟩

/-- The reply of a request after a step. -/
private theorem step_reply (hinv : ReportInv w) (htrace : TraceInv w) {l : Label}
    (h : w.step l = some w') {a : Nat} {ctxErr : Option String} {s : CallState} {m : Int}
    (ha : w'.procs.lookup a = some ⟨ctxErr, .serve s⟩) (hreply : s.reply = some (.config m)) :
    w'.ReportedMTU a m := by
  obtain ⟨ctxErr', hold⟩ | hreach := (moves h).serve_cases ha
  · exact (hinv.reply hold hreply).mono (history_subset h)
  · cases hreach with
    | arrived => exact absurd hreply (authorize_entry _ _ _).reply_config
    | ran hp hmove => exact hinv.advance_reply htrace hp hmove hreply

theorem step {l : Label} (hinv : ReportInv w) (htrace : TraceInv w) (hl : l.ValidMTU)
    (h : w.step l = some w') : ReportInv w' where
  classes {k cls} hget := by
    cases moves h with
    | arrive => exact hinv.classes hget
    | reconcile => exact hinv.classes hget
    | @serve _ _ _ _ _ c' _ hp hmove =>
      replace hget : c'.classes.get k = some cls := hget
      rw [hmove.frame.1] at hget
      exact hinv.classes hget
    | @control _ _ _ _ _ c' _ hp hmove =>
      obtain ⟨-, hclasses, -⟩ := ReconcileMove_frame hmove
      replace hget : c'.classes.get k = some cls := hget
      rw [hclasses] at hget
      exact hinv.classes hget
    | cancel => exact hinv.classes hget
    | env henv => exact hinv.step_classes hl henv hget
  reply {a p m} ha hreply := by
    obtain ⟨ctxErr, s | s⟩ := p
    · exact hinv.step_reply htrace h ha hreply
    · cases hreply

end ReportInv

/-! ## Posted userdata -/

/-- A createSandbox request with this userdata arrived. -/
def Posted (w : World) (text : String) : Prop :=
  ∃ b header request, .arrived b header (.createSandbox (.ok request)) ∈ w.history ∧
    request.userData = text

theorem Posted.mono {w w' : World} {text : String} (h : w.Posted text)
    (hgrow : ∀ e ∈ w.history, e ∈ w'.history) : w'.Posted text := by
  obtain ⟨b, header, request, he, htext⟩ := h
  exact ⟨b, header, request, hgrow _ he, htext⟩

structure PostedInv (w : World) : Prop where
  stored : ∀ {k secret text}, w.cluster.secrets.get k = some secret →
    secret.data.lookup userDataKey = some text → w.Posted text
  held : ∀ {a s}, w.Creating a s → s.HoldsOwn

/-- The userdata of a call's job was posted in its request. -/
theorem TraceInv.posted {w : World} (htrace : TraceInv w) {a : Nat} {ctxErr : Option String}
    {s : CreateState} {job : Job} (hp : w.procs.lookup a = some ⟨ctxErr, .serve (.create s)⟩)
    (hjob : s.job = some job) {text : String}
    (htext : job.secret.data.lookup userDataKey = some text) : w.Posted text := by
  obtain ⟨⟨header, route, harrived, hfollows⟩, -⟩ := htrace.call hp
  obtain ⟨body, rfl, hof⟩ := CreateState.Follows.job hfollows hjob
  refine ⟨a, header, body, harrived, ?_⟩
  rw [Job.lookup_secret, hof] at htext
  exact Option.some.inj htext

namespace PostedInv

variable {w w' : World}

theorem start (cfg : Config) {c : Cluster} (hsecrets : ∀ k secret, c.secrets.get k = some secret →
    secret.data.lookup userDataKey = none) : PostedInv (World.start cfg c) where
  stored {k secret text} hget htext := by
    rw [hsecrets k secret hget] at htext
    cases htext
  held h := by
    obtain ⟨_, h⟩ := h
    cases h

theorem foreign (hinv : PostedInv w) {events : List Event} (h : Foreign w w' events) :
    PostedInv w' where
  stored {k secret text} hget htext := by
    have hold : w.cluster.secrets.get k = some secret := by
      cases h.secrets with
      | same hsame => rw [← hsame]; exact hget
      | collected hrem _ => exact (hrem.of_get hget).2
    refine (hinv.stored hold htext).mono fun e he => ?_
    rw [h.history]
    exact List.mem_append_right _ he
  held ha := by
    obtain ha | ⟨access, body, rfl⟩ := h.creating ha
    · exact hinv.held ha
    · trivial

theorem own (hinv : PostedInv w) (htrace : TraceInv w) {a : Nat} {env : Env}
    {ctxErr : Option String} {s s' : CreateState} {c' : Cluster} {out : Outcome}
    (hp : w.procs.lookup a = some ⟨ctxErr, .serve (.create s)⟩)
    (hmove : CreateMove env ctxErr w.cluster s s' c' out) :
    PostedInv (w.advance a ⟨ctxErr, .serve (.create s)⟩ (.serve (.create s')) c' out) where
  stored {k secret text} hget htext := by
    have hposted : w.Posted text := by
      cases hmove.secrets with
      | same hsame =>
        replace hget : c'.secrets.get k = some secret := hget
        rw [hsame] at hget
        exact hinv.stored hget htext
      | stored hst =>
        obtain ⟨-, rfl⟩ | ⟨-, hold⟩ := hst.of_get hget
        · exact htrace.posted hp rfl htext
        · exact hinv.stored hold htext
      | deleted _ hrem => exact hinv.stored (hrem.of_get hget).2 htext
      | @owned job sandbox held cur _ hrep =>
        obtain ⟨-, rfl⟩ | ⟨-, hold⟩ := hrep.of_get hget
        · -- the update writes the data that the call built for its request
          have hdata : held.data = job.secret.data := hinv.held ⟨ctxErr, hp⟩
          refine htrace.posted hp rfl ?_
          rw [← hdata]
          exact htext
        · exact hinv.stored hold htext
    exact hposted.mono fun e he => List.mem_append_right _ he
  held hb := by
    obtain ⟨rfl, rfl⟩ | ⟨-, hb⟩ := creating_advance.mp hb
    · exact hmove.holdsOwn (hinv.held ⟨ctxErr, hp⟩)
    · exact hinv.held hb

theorem step {l : Label} (hinv : PostedInv w) (htrace : TraceInv w) (h : w.step l = some w') :
    PostedInv w' := by
  cases createStep h with
  | own hp hmove => exact hinv.own htrace hp hmove
  | foreign hforeign => exact hinv.foreign hforeign

end PostedInv

end World

end SandboxProvider
