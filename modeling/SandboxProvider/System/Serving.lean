import SandboxProvider.System.Provenance

/-!
# What a request is answered with

A handler answers with an error of status 400 or more, or with the success of its route: a 201 of
`createSandbox` names the PodSandbox of the posted sandbox id, and a 204 of `deleteSandbox` says that
the PodSandbox is not stored.
-/

namespace SandboxProvider

open Lib Server

namespace Server

/-- The replies that the route of a request leads to. -/
def Route.Answers (route : Route) : Reply → Prop
  | .error status _ => 400 ≤ status
  | .config _ => route = .getConfig
  | .created response => ∃ request, route = .createSandbox (.ok request) ∧
      response.id = sandboxName request.sandboxID
  | .noContent => ∃ id, route = .deleteSandbox id

/-- The state belongs to a request for this route, and has its replies. -/
structure CallState.Serves (route : Route) (s : CallState) : Prop where
  follows : s.Follows route
  answers : ∀ {reply}, s.reply = some reply → route.Answers reply

section Moves

variable {env : Env} {ctxErr : Option String} {c c' : Cluster} {out : Outcome} {cfg : Config}
  {route : Route} {reply : Reply}

theorem Route.answers_error {status : Nat} {message : String} (h : 400 ≤ status) :
    route.Answers (.error status message) := h

theorem finish_answers {job : Job} {sandbox : PodSandbox} {createdHere : Bool} {status : Nat}
    {message : String} (hstatus : 400 ≤ status)
    (h : (finish job sandbox createdHere (.error status message)).reply = some reply) :
    route.Answers reply := by
  rw [finish_reply] at h
  cases h
  exact hstatus

theorem prepare_answers {access : AuthorizedAccess} {body : Except String CreateSandboxRequest}
    (h : (prepare access body).reply = some reply) : route.Answers reply := by
  obtain ⟨r, hr, he⟩ | ⟨_, _, _, _, _, he⟩ := prepare_cases access body
  · rw [he] at h
    cases h
    cases reply with
    | error status message => exact Nat.le_of_eq (Eq.symm hr)
    | config => cases hr
    | created => cases hr
    | noContent => cases hr
  · rw [he] at h
    cases h

/-- A 201 names the PodSandbox that the polling loop read under the key of the job. -/
theorem afterPoll_answers {job : Job} {createdHere : Bool} {o : PodSandbox}
    {request : CreateSandboxRequest} (hroute : route = .createSandbox (.ok request))
    (hjob : job = .of job.access request) (hget : c.sandboxes.get job.key = some o)
    (h : (afterPoll job createdHere o).reply = some reply) : route.Answers reply := by
  obtain ⟨-, he⟩ | ⟨_, -, he⟩ | he := afterPoll_cases job createdHere o
  · rw [he] at h
    cases h
    refine ⟨request, hroute, ?_⟩
    have hkey : o.metadata.key = job.key := Table.key_of_get hget
    have hname : o.metadata.name = job.key.name := congrArg NamespacedName.name hkey
    rw [hjob] at hname
    exact hname
  · rw [he] at h
    exact finish_answers (by decide) h
  · rw [he] at h
    cases h

theorem CreateMove.answers_route {s s' : CreateState} (h : CreateMove env ctxErr c s s' c' out)
    (hf : s.Follows route) (hold : ∀ reply, s.reply = some reply → route.Answers reply)
    (hreply : s'.reply = some reply) : route.Answers reply := by
  cases h
  case classRead => exact prepare_answers hreply
  case sandboxStored job secret t h =>
    obtain ⟨_, _, he⟩ | he := adopt_cases job (asCreated env.uid job.sandbox) secret
    · rw [he] at hreply
      cases hreply
    · rw [he] at hreply
      cases hreply
  case polled job before createdHere o hget =>
    obtain ⟨request, hroute, hjob⟩ := hf.job rfl
    exact afterPoll_answers hroute hjob hget hreply
  case pollFailed => exact finish_answers (by decide) hreply
  case expired => exact finish_answers (by decide) hreply
  case rollbackFailed => exact hold _ hreply
  case rolledBack => exact hold _ hreply
  all_goals cases hreply
  all_goals exact Route.answers_error (by decide)

/-- The route of a deleteSandbox call that has not replied. -/
theorem DeleteState.Follows.exists_id {s : DeleteState} (h : s.Follows route) (hnone : s.reply = none) :
    ∃ id, route = .deleteSandbox id := by
  cases s with
  | getSandbox access id => exact ⟨id, h⟩
  | deleteSandbox access sandbox => exact ⟨_, h.1⟩
  | done => cases hnone

theorem DeleteMove.answers_route {s s' : DeleteState} (h : DeleteMove env ctxErr c s s' c' out)
    (hf : s.Follows route) (hreply : s'.reply = some reply) : route.Answers reply := by
  have hnone : s.reply = none := by cases h <;> rfl
  have hroute := DeleteState.Follows.exists_id hf hnone
  cases h <;> cases hreply
  case missing => exact hroute
  case gone => exact hroute
  case deleted => exact hroute
  all_goals exact Route.answers_error (by decide)

/-- `authorize` rejects with 401 or 503, and `deleteSandbox` an id with 400. -/
theorem authorized_answers {access : Except String AuthorizedAccess}
    (h : (authorized route access).reply = some reply) : route.Answers reply := by
  unfold authorized at h
  split at h
  · cases h
    exact Route.answers_error (by decide)
  · split at h
    · cases h
      exact Route.answers_error (by decide)
    · unfold handler at h
      split at h
      · cases h
      · cases h
      · split at h
        · cases h
          exact Route.answers_error (by decide)
        · cases h

theorem compareToken_answers {got : String} {expected : Except String String}
    (h : (compareToken cfg got route expected).reply = some reply) : route.Answers reply := by
  unfold compareToken at h
  split at h
  · exact authorized_answers h
  · split at h
    · exact authorized_answers h
    · cases h

theorem authorize_serves (cfg : Config) (header : String) (route : Route) :
    (authorize cfg header route).Serves route where
  follows := (authorize_entry cfg header route).follows
  answers h := by
    unfold authorize at h
    dsimp only at h
    split at h
    · exact compareToken_answers h
    · cases h

theorem CallMove.serves {s s' : CallState} (h : CallMove env ctxErr c cfg s s' c' out)
    (hs : s.Serves route) : s'.Serves route where
  follows := h.follows hs.follows
  answers {reply} hreply := by
    obtain ⟨hf, hold⟩ := hs
    cases h with
    | tokenFailed => cases hf; exact compareToken_answers hreply
    | tokenRead => cases hf; exact compareToken_answers hreply
    | accessesFailed => cases hf; exact authorized_answers hreply
    | accessesRead => cases hf; exact authorized_answers hreply
    | config h =>
      cases h with
      | failed => cases hreply; exact Route.answers_error (by decide)
      | read => cases hreply; exact hf
    | create h => exact h.answers_route hf (fun _ => hold) hreply
    | delete h => exact h.answers_route hf hreply

end Moves

end Server

namespace World

/-- The program `a` is a request for the route. -/
def Serving (w : World) (a : Nat) (route : Route) : Prop :=
  ∃ ctxErr s, w.procs.lookup a = some ⟨ctxErr, .serve s⟩ ∧ s.Serves route

/-- A request that has arrived stays: it keeps its state, or takes a step. -/
theorem serve_next {w w' : World} {l : Label} {a : Nat} {ctxErr : Option String} {s : CallState}
    (h : w.step l = some w') (ha : w.procs.lookup a = some ⟨ctxErr, .serve s⟩) :
    ∃ ctxErr' s', w'.procs.lookup a = some ⟨ctxErr', .serve s'⟩ ∧
      (s' = s ∨ ∃ env c' out, CallMove env ctxErr w.cluster w.cfg s s' c' out ∧
        w' = w.advance a ⟨ctxErr, .serve s⟩ (.serve s') c' out) := by
  cases moves h with
  | @arrive b header route hnew =>
    have hne : a ≠ b := fun e => by rw [e, hnew] at ha; cases ha
    exact ⟨ctxErr, s, by simp only [lookup_insert_ite, if_neg hne]; exact ha, .inl rfl⟩
  | @reconcile b key hnew =>
    have hne : a ≠ b := fun e => by rw [e, hnew] at ha; cases ha
    exact ⟨ctxErr, s, by simp only [lookup_insert_ite, if_neg hne]; exact ha, .inl rfl⟩
  | @serve b env ctxErr' t t' c' out hp hmove =>
    by_cases hb : a = b
    · subst hb
      rw [hp] at ha
      cases ha
      exact ⟨ctxErr, t', AList.lookup_insert _, .inr ⟨env, c', out, hmove, rfl⟩⟩
    · exact ⟨ctxErr, s, by simp only [advance, lookup_insert_ite, if_neg hb]; exact ha, .inl rfl⟩
  | @control b env ctxErr' t t' c' out hp hmove =>
    have hne : a ≠ b := fun e => by rw [e, hp] at ha; cases ha
    exact ⟨ctxErr, s, by simp only [advance, lookup_insert_ite, if_neg hne]; exact ha, .inl rfl⟩
  | @cancel b err p hp =>
    by_cases hb : a = b
    · rw [hb, hp] at ha
      cases ha
      exact ⟨some err, s, by simp only [lookup_insert_ite, if_pos hb], .inl rfl⟩
    · exact ⟨ctxErr, s, by simp only [lookup_insert_ite, if_neg hb]; exact ha, .inl rfl⟩
  | env henv => exact ⟨ctxErr, s, ha, .inl rfl⟩

theorem Serving.step {w w' : World} {l : Label} {a : Nat} {route : Route} (ha : w.Serving a route)
    (h : w.step l = some w') : w'.Serving a route := by
  obtain ⟨ctxErr, s, ha, hs⟩ := ha
  obtain ⟨ctxErr', s', ha', rfl | ⟨env, c', out, hmove, -⟩⟩ := serve_next h ha
  · exact ⟨ctxErr', s', ha', hs⟩
  · exact ⟨ctxErr', s', ha', hmove.serves hs⟩

theorem serving_arrive {w w' : World} {a : Nat} {header : String} {route : Route}
    (h : w.step (.arrive a header route) = some w') : w'.Serving a route := by
  obtain ⟨-, rfl⟩ := spawn_eq_some h
  exact ⟨none, authorize w.cfg header route, AList.lookup_insert _, authorize_serves _ _ _⟩

/-- The reply to a request belongs to its route. -/
theorem Serving.reply {w : World} {a : Nat} {route : Route} {reply : Reply} (h : w.Serving a route)
    (hreply : (w.procs.lookup a).bind (·.state.reply) = some reply) : route.Answers reply := by
  obtain ⟨ctxErr, s, ha, hs⟩ := h
  rw [ha] at hreply
  exact hs.answers hreply

/-! ## Deletes -/

/-- The delete `a` of this name was answered with a 204 when no PodSandbox of the name was stored in the
namespace of its access. -/
def Removed (w : World) (a : Nat) (id : String) : Prop :=
  ∃ header access s c, .arrived a header (.deleteSandbox id) ∈ w.history ∧
    .authorized a access ∈ w.history ∧ .answered a (.serve s) .noContent c ∈ w.history ∧
    c.sandboxes.get ⟨access.ns, id⟩ = none

theorem Removed.mono {w w' : World} {a : Nat} {id : String} (h : w.Removed a id)
    (hgrow : ∀ e ∈ w.history, e ∈ w'.history) : w'.Removed a id := by
  obtain ⟨header, access, s, c, harrived, haccess, hanswer, hget⟩ := h
  exact ⟨header, access, s, c, hgrow _ harrived, hgrow _ haccess, hgrow _ hanswer, hget⟩

/-- The program `a` is a delete of this name. -/
def Deleting (w : World) (a : Nat) (id : String) : Prop :=
  (∃ header, .arrived a header (.deleteSandbox id) ∈ w.history) ∧
  ∃ ctxErr s, w.procs.lookup a = some ⟨ctxErr, .serve s⟩ ∧ s.Serves (.deleteSandbox id) ∧
    (s.reply = some .noContent → w.Removed a id)

end World

/-- A delete that ends with a 204 leaves no PodSandbox of its name. -/
theorem Server.DeleteMove.removed {env : Env} {ctxErr : Option String} {c c' : Cluster} {out : Outcome}
    {s s' : DeleteState} {id : String} (h : DeleteMove env ctxErr c s s' c' out)
    (hf : s.Follows (.deleteSandbox id)) (hreply : s'.reply = some .noContent) :
    s.reply = none ∧ ∃ access, s.access = some access ∧ c'.sandboxes.get ⟨access.ns, id⟩ = none := by
  cases h <;> cases hreply
  case missing access name hget =>
    cases hf
    exact ⟨rfl, access, rfl, hget⟩
  case gone access sandbox hget =>
    obtain ⟨hid, hns⟩ := hf
    cases hid
    exact ⟨rfl, access, rfl, by rw [← hns]; exact hget⟩
  case deleted access sandbox o t hget hrem =>
    obtain ⟨hid, hns⟩ := hf
    cases hid
    refine ⟨rfl, access, rfl, ?_⟩
    rw [← hns]
    exact (hrem.get _).trans (if_pos (Table.key_of_get hget).symm)

theorem Server.Entry.reply_ne_noContent {route : Route} {s : CallState} (h : Entry route s) :
    s.reply ≠ some .noContent := by
  intro hreply
  cases h <;> cases hreply

/-- A call that takes a step of `createSandbox` was made for its route. -/
theorem Server.CreateMove.exists_body {env : Env} {ctxErr : Option String} {c c' : Cluster}
    {out : Outcome} {s s' : CreateState} {route : Route} (h : CreateMove env ctxErr c s s' c' out)
    (hf : s.Follows route) : ∃ body, route = .createSandbox body := by
  cases hjob : s.job with
  | some job =>
    obtain ⟨request, hroute, -⟩ := hf.job hjob
    exact ⟨.ok request, hroute⟩
  | none =>
    cases h
    case classFailed => exact ⟨_, hf⟩
    case classRead => exact ⟨_, hf⟩
    all_goals cases hjob

theorem Server.CallMove.removed {env : Env} {ctxErr : Option String} {c c' : Cluster} {out : Outcome}
    {cfg : Config} {s s' : CallState} {id : String} (h : CallMove env ctxErr c cfg s s' c' out)
    (hs : s.Serves (.deleteSandbox id)) (hreply : s'.reply = some .noContent) :
    s.reply = none ∧ ∃ access, s.access = some access ∧ c'.sandboxes.get ⟨access.ns, id⟩ = none := by
  cases h with
  | tokenFailed => exact absurd hreply (compareToken_entry _ _ _ _).reply_ne_noContent
  | tokenRead => exact absurd hreply (compareToken_entry _ _ _ _).reply_ne_noContent
  | accessesFailed => exact absurd hreply (authorized_entry _ _).reply_ne_noContent
  | accessesRead => exact absurd hreply (authorized_entry _ _).reply_ne_noContent
  | config h => cases hs.follows
  | create h =>
    obtain ⟨body, hroute⟩ := h.exists_body hs.follows
    cases hroute
  | delete h => exact h.removed hs.follows hreply

namespace World

theorem Deleting.step {w w' : World} {l : Label} {a : Nat} {id : String} (ha : w.Deleting a id)
    (htrace : w.TraceInv) (h : w.step l = some w') : w'.Deleting a id := by
  obtain ⟨⟨header, harrived⟩, ctxErr, s, ha, hs, hremoved⟩ := ha
  refine ⟨⟨header, history_subset h _ harrived⟩, ?_⟩
  obtain ⟨ctxErr', s', ha', rfl | ⟨env, c', out, hmove, rfl⟩⟩ := serve_next h ha
  · exact ⟨ctxErr', s', ha', hs, fun hreply => (hremoved hreply).mono (history_subset h)⟩
  · refine ⟨ctxErr', s', ha', hmove.serves hs, fun hreply => ?_⟩
    obtain ⟨hnone, access, haccess, hget⟩ := hmove.removed hs hreply
    refine ⟨header, access, s', c', history_subset h _ harrived, ?_, ?_, hget⟩
    · exact List.mem_append_right _ ((htrace.call ha).2 access haccess)
    · refine List.mem_append_left _ (List.mem_append_left _ (List.mem_append_left _ ?_))
      exact List.mem_map.mpr ⟨_, mem_newly.mpr ⟨hnone, hreply⟩, rfl⟩

theorem deleting_arrive {w w' : World} {a : Nat} {header id : String}
    (h : w.step (.arrive a header (.deleteSandbox id)) = some w') : w'.Deleting a id := by
  obtain ⟨-, rfl⟩ := spawn_eq_some h
  refine ⟨⟨header, ?_⟩, none, _, AList.lookup_insert _, authorize_serves _ _ _, fun hreply => ?_⟩
  · exact List.mem_append_left _ (List.mem_append_right _ (List.mem_singleton_self _))
  · exact absurd hreply (authorize_entry _ _ _).reply_ne_noContent

theorem Deleting.reply {w : World} {a : Nat} {id : String} {reply : Reply} (h : w.Deleting a id)
    (hreply : (w.procs.lookup a).bind (·.state.reply) = some reply) :
    (∃ status message, reply = .error status message ∧ 400 ≤ status) ∨
      reply = .noContent ∧ w.Removed a id := by
  obtain ⟨-, ctxErr, s, ha, hs, hremoved⟩ := h
  rw [ha] at hreply
  have hanswers := hs.answers hreply
  cases reply with
  | error status message => exact .inl ⟨status, message, rfl, hanswers⟩
  | config => cases hanswers
  | created =>
    obtain ⟨request, hroute, -⟩ := hanswers
    cases hroute
  | noContent => exact .inr ⟨rfl, hremoved hreply⟩

end World

end SandboxProvider
