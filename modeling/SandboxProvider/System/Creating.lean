import SandboxProvider.System.Step

/-!
# The system as the createSandbox calls see it

A step of the system is a step of one createSandbox call, or it is foreign: it starts at most a new
call, changes at most the status of a PodSandbox, deletes at most one PodSandbox through
`deleteSandbox`, and removes at most one Secret whose owner is gone.
-/

namespace SandboxProvider

open Lib Server Controller

/-- The state of a createSandbox call past its authorization. -/
def State.creating : State → Option CreateState
  | .serve (.create s) => some s
  | _ => none

theorem State.creating_eq_some {s : State} {t : CreateState} :
    s.creating = some t ↔ s = .serve (.create t) := by
  unfold creating
  split
  · simp [eq_comm]
  · rename_i hne
    simp only [reduceCtorEq, false_iff]
    exact hne t

/-- The program that a label runs. -/
def Label.runs : Label → Option Nat
  | .run a _ => some a
  | _ => none

/-- A createSandbox call is about to create its Secret. -/
def State.saving (s : State) : Option Job :=
  match s.creating with
  | some (.createSecret job) => some job
  | _ => none

/-- A createSandbox call is about to store its PodSandbox. -/
def State.storing (s : State) : Option Job :=
  match s.creating with
  | some (.createSandbox job _) => some job
  | _ => none

/-- A createSandbox call is about to read the PodSandbox in its polling loop. -/
def State.polling (s : State) : Option Job :=
  match s.creating with
  | some (.poll job _ _) => some job
  | _ => none

/-- The event is of a createSandbox call past its authorization. -/
def Event.OfCreate : Event → Prop
  | .wrote _ s _ | .failed _ s _ | .answered _ s _ _ => s.creating ≠ none
  | _ => False

/-! ## What the events say about createSandbox calls -/

namespace Event

/-- A createSandbox call stored a PodSandbox. -/
def created : Event → Option (Nat × PodSandbox)
  | .wrote a (.serve (.create _)) (.createSandbox o) => some (a, o)
  | _ => none

/-- The deferred function of a createSandbox call deleted a PodSandbox. -/
def rolledBack : Event → Option (Nat × PodSandbox)
  | .wrote a (.serve (.create _)) (.deleteSandbox o) => some (a, o)
  | _ => none

/-- A deleteSandbox call deleted a PodSandbox. -/
def deleted : Event → Option PodSandbox
  | .wrote _ (.serve (.delete _)) (.deleteSandbox o) => some o
  | _ => none

/-- A createSandbox call answered 201, with this as its last reading of the PodSandbox. -/
def answeredFor : Event → Option PodSandbox
  | .answered _ (.serve (.create (.done _ sandbox _))) (.created _) _ => some sandbox
  | _ => none

/-- The 201 of the call `a`: its last state, its reply and the cluster at that time. -/
def createdReply (a : Nat) : Event → Option (CreateState × SandboxResponse × Cluster)
  | .answered b (.serve (.create s)) (.created response) c =>
    if b = a then some (s, response, c) else none
  | _ => none

theorem created_eq_some {e : Event} {a : Nat} {o : PodSandbox} :
    e.created = some (a, o) ↔ ∃ s, e = .wrote a (.serve (.create s)) (.createSandbox o) := by
  unfold created
  split
  · simp
  · rename_i hne
    simp only [reduceCtorEq, false_iff, not_exists]
    intro s
    exact hne a s o

theorem rolledBack_eq_some {e : Event} {a : Nat} {o : PodSandbox} :
    e.rolledBack = some (a, o) ↔ ∃ s, e = .wrote a (.serve (.create s)) (.deleteSandbox o) := by
  unfold rolledBack
  split
  · simp
  · rename_i hne
    simp only [reduceCtorEq, false_iff, not_exists]
    intro s
    exact hne a s o

theorem answeredFor_eq_some {e : Event} {o : PodSandbox} :
    e.answeredFor = some o ↔ ∃ a job reply response c,
      e = .answered a (.serve (.create (.done job o reply))) (.created response) c := by
  unfold answeredFor
  split
  · simp
  · rename_i hne
    simp only [reduceCtorEq, false_iff, not_exists]
    intro a job reply response c
    exact hne a job o reply response c

theorem createdReply_eq_some {a : Nat} {e : Event} {s : CreateState} {response : SandboxResponse}
    {c : Cluster} (h : e.createdReply a = some (s, response, c)) :
    e = .answered a (.serve (.create s)) (.created response) c := by
  unfold createdReply at h
  split at h
  · split at h
    · rename_i hb
      cases h
      rw [hb]
    · cases h
  · cases h

/-- Events that are not of createSandbox calls say nothing about what such calls did. -/
theorem foreign_none {e : Event} (h : ¬ e.OfCreate) :
    e.created = none ∧ e.rolledBack = none ∧ e.answeredFor = none := by
  refine ⟨?_, ?_, ?_⟩
  · refine Option.eq_none_iff_forall_ne_some.mpr fun ⟨a, o⟩ he => h ?_
    obtain ⟨s, rfl⟩ := created_eq_some.mp he
    exact Option.some_ne_none s
  · refine Option.eq_none_iff_forall_ne_some.mpr fun ⟨a, o⟩ he => h ?_
    obtain ⟨s, rfl⟩ := rolledBack_eq_some.mp he
    exact Option.some_ne_none s
  · refine Option.eq_none_iff_forall_ne_some.mpr fun o he => h ?_
    obtain ⟨a, job, reply, response, c, rfl⟩ := answeredFor_eq_some.mp he
    exact Option.some_ne_none _

end Event

namespace World

/-- The call `a` is a createSandbox call in the state `s`. -/
def Creating (w : World) (a : Nat) (s : CreateState) : Prop :=
  ∃ ctxErr, w.procs.lookup a = some ⟨ctxErr, .serve (.create s)⟩

/-- How the PodSandboxes change in a foreign step with these events. -/
inductive ForeignSandboxes (w w' : World) (events : List Event) : Prop
  | same (h : w'.cluster.sandboxes = w.cluster.sandboxes)
  | status {o f} (h : w.cluster.sandboxes.Replaces o (withStatus f o) w'.cluster.sandboxes)
  | deleted {b access sandbox o} (h : w.cluster.sandboxes.Removes o w'.cluster.sandboxes)
      (hevent : .wrote b (.serve (.delete (.deleteSandbox access sandbox))) (.deleteSandbox o) ∈
        events)

/-- How the Secrets change in a foreign step. -/
inductive ForeignSecrets (w w' : World) : Prop
  | same (h : w'.cluster.secrets = w.cluster.secrets)
  | collected {o} (h : w.cluster.secrets.Removes o w'.cluster.secrets)
      (hgarbage : w.cluster.isGarbage o.metadata)

/-- A step that no createSandbox call makes, with these events. -/
structure Foreign (w w' : World) (events : List Event) : Prop where
  creating : ∀ {a s}, w'.Creating a s → w.Creating a s ∨ ∃ access body, s = .getClass access body
  history : w'.history = events ++ w.history
  not_ofCreate : ∀ e ∈ events, ¬ e.OfCreate
  sandboxes : ForeignSandboxes w w' events
  secrets : ForeignSecrets w w'

/-- What a createSandbox call did was done before a foreign step. -/
theorem Foreign.mem_history {w w' : World} {events : List Event} (h : Foreign w w' events) {e : Event}
    (hof : e.OfCreate) (he : e ∈ w'.history) : e ∈ w.history := by
  rw [h.history] at he
  rcases List.mem_append.mp he with he | he
  · exact absurd hof (h.not_ofCreate e he)
  · exact he

/-- A step of the world, as the createSandbox calls see it. -/
inductive CreateStep (w : World) : Label → World → Prop
  | own {a env ctxErr s s' c' out} (hp : w.procs.lookup a = some ⟨ctxErr, .serve (.create s)⟩)
      (h : CreateMove env ctxErr w.cluster s s' c' out) :
      CreateStep w (.run a env)
        (w.advance a ⟨ctxErr, .serve (.create s)⟩ (.serve (.create s')) c' out)
  | foreign {l w' events} (h : Foreign w w' events) : CreateStep w l w'

/-! ## A step of one call -/

section Own

variable {w : World} {a b : Nat} {env : Env} {ctxErr : Option String} {s s' t : CreateState}
  {c' : Cluster} {out : Outcome}

theorem creating_advance :
    (w.advance a ⟨ctxErr, .serve (.create s)⟩ (.serve (.create s')) c' out).Creating b t ↔
      (b = a ∧ t = s') ∨ (b ≠ a ∧ w.Creating b t) := by
  unfold Creating advance
  simp only [lookup_insert_ite]
  by_cases hb : b = a
  · subst hb
    simp [eq_comm]
  · simp [hb]

/-- The events of a step of a createSandbox call: its reply, if that is written now, and its client
call. -/
theorem history_advance (h : CreateMove env ctxErr w.cluster s s' c' out) :
    (w.advance a ⟨ctxErr, .serve (.create s)⟩ (.serve (.create s')) c' out).history =
      (newly s.reply s'.reply).map (.answered a (.serve (.create s')) · c') ++
        callEvents a (.serve (.create s)) out ++ w.history := by
  obtain ⟨access, haccess⟩ : ∃ access, s.access = some access := by
    cases h <;> exact ⟨_, rfl⟩
  have hnone : newly s.access s'.access = [] := by rw [haccess]; rfl
  simp only [advance, reachEvents, Option.bind_some, State.access, State.reply, CallState.access,
    CallState.reply, hnone, List.map_nil, List.append_nil]

theorem mem_history_advance (h : CreateMove env ctxErr w.cluster s s' c' out) {e : Event} :
    e ∈ (w.advance a ⟨ctxErr, .serve (.create s)⟩ (.serve (.create s')) c' out).history ↔
      (∃ reply, (s.reply = none ∧ s'.reply = some reply) ∧
        .answered a (.serve (.create s')) reply c' = e) ∨
      e ∈ callEvents a (.serve (.create s)) out ∨ e ∈ w.history := by
  rw [history_advance h, List.mem_append, List.mem_append, List.mem_map, or_assoc]
  simp only [mem_newly]

theorem created_mem_advance (h : CreateMove env ctxErr w.cluster s s' c' out) {e : Event}
    (he : e ∈ (w.advance a ⟨ctxErr, .serve (.create s)⟩ (.serve (.create s')) c' out).history)
    {o : PodSandbox} (hcreated : e.created = some (b, o)) :
    e ∈ w.history ∨ (b = a ∧ .createSandbox o ∈ out.writes) := by
  obtain ⟨t, rfl⟩ := Event.created_eq_some.mp hcreated
  obtain ⟨reply, -, heq⟩ | he | he := (mem_history_advance h).mp he
  · cases heq
  · obtain ⟨rfl, -, hwrite⟩ := wrote_mem_callEvents.mp he
    exact .inr ⟨rfl, hwrite⟩
  · exact .inl he

end Own

/-- A foreign step adds no PodSandbox and changes none but in its status. -/
theorem ForeignSandboxes.of_get {w w' : World} {events : List Event} {k : NamespacedName}
    {o : PodSandbox} (h : ForeignSandboxes w w' events)
    (hget : w'.cluster.sandboxes.get k = some o) :
    ∃ old, w.cluster.sandboxes.get k = some old ∧ o.metadata.key = old.metadata.key ∧
      o.metadata.uid = old.metadata.uid ∧ o.spec = old.spec := by
  cases h with
  | same h =>
    rw [h] at hget
    exact ⟨o, hget, rfl, rfl, rfl⟩
  | status h =>
    obtain ⟨rfl, rfl⟩ | ⟨-, hget⟩ := h.of_get hget
    · exact ⟨_, h.stored, rfl, rfl, rfl⟩
    · exact ⟨o, hget, rfl, rfl, rfl⟩
  | deleted h hevent => exact ⟨o, (h.of_get hget).2, rfl, rfl, rfl⟩

theorem ForeignSandboxes.nextUid_le {w w' : World} {events : List Event}
    (h : ForeignSandboxes w w' events) :
    w.cluster.sandboxes.nextUid ≤ w'.cluster.sandboxes.nextUid := by
  cases h with
  | same h => rw [h]
  | status h => exact Nat.le_of_eq h.nextUid.symm
  | deleted h hevent => exact Nat.le_of_eq h.nextUid.symm

/-! ## Every step is one or the other -/

theorem reachEvents_not_ofCreate {a : Nat} {before : Option State} {after : State} {c : Cluster}
    (hafter : ∀ s, after = .serve (.create s) → s.reply = none) :
    ∀ e ∈ reachEvents a before after c, ¬ e.OfCreate := by
  intro e he hof
  unfold reachEvents at he
  rcases List.mem_append.mp he with he | he
  · obtain ⟨reply, hreply, rfl⟩ := List.mem_map.mp he
    obtain ⟨-, hreply⟩ := mem_newly.mp hreply
    obtain ⟨s, hs⟩ := Option.ne_none_iff_exists'.mp hof
    obtain rfl := State.creating_eq_some.mp hs
    rw [State.reply, CallState.reply, hafter s rfl] at hreply
    cases hreply
  · obtain ⟨access, -, rfl⟩ := List.mem_map.mp he
    exact hof

theorem callEvents_not_ofCreate {a : Nat} {before : State} {out : Outcome}
    (hbefore : before.creating = none) : ∀ e ∈ callEvents a before out, ¬ e.OfCreate := by
  intro e he hof
  cases out with
  | ok ws =>
    obtain ⟨wr, -, rfl⟩ := List.mem_map.mp he
    exact hof hbefore
  | error err =>
    obtain rfl := List.mem_singleton.mp he
    exact hof hbefore

/-- A program that is no createSandbox call, before the step, makes a foreign one. -/
theorem Foreign.of_advance {w : World} {a : Nat} {p : Proc} {s' : State} {c' : Cluster}
    {out : Outcome} (hbefore : p.state.creating = none)
    (hafter : ∀ s, s' = .serve (.create s) → ∃ access body, s = .getClass access body)
    (hsandboxes : ForeignSandboxes w (w.advance a p s' c' out)
      (reachEvents a (some p.state) s' c' ++ callEvents a p.state out))
    (hsecrets : ForeignSecrets w (w.advance a p s' c' out)) :
    Foreign w (w.advance a p s' c' out)
      (reachEvents a (some p.state) s' c' ++ callEvents a p.state out) where
  creating {b s} h := by
    obtain ⟨ctxErr, h⟩ := h
    simp only [advance, lookup_insert_ite] at h
    split at h
    · cases h
      exact .inr (hafter s rfl)
    · exact .inl ⟨ctxErr, h⟩
  history := rfl
  not_ofCreate e he := by
    rcases List.mem_append.mp he with he | he
    · refine reachEvents_not_ofCreate (fun s hs => ?_) e he
      obtain ⟨access, body, rfl⟩ := hafter s hs
      rfl
    · exact callEvents_not_ofCreate hbefore e he
  sandboxes := hsandboxes
  secrets := hsecrets

/-- Reconcile touches no Secret, and of the PodSandboxes only their status. -/
theorem ReconcileMove_frame {env : Env} {ctxErr : Option String} {c c' : Cluster}
    {s s' : ReconcileState} {out : Outcome} (h : ReconcileMove env ctxErr c s s' c' out) :
    c'.secrets = c.secrets ∧ c'.classes = c.classes ∧ (c'.sandboxes = c.sandboxes ∨
      ∃ o f, c.sandboxes.Replaces o (withStatus f o) c'.sandboxes) := by
  cases h
  case patched o t hget h => exact ⟨rfl, rfl, .inr ⟨o, _, h⟩⟩
  all_goals exact ⟨rfl, rfl, .inl rfl⟩

theorem EnvMove_frame {w : World} {l : Label} {c' : Cluster} (h : EnvMove w.cluster l c') :
    ForeignSandboxes w { w with cluster := c' } [] ∧
      ForeignSecrets w { w with cluster := c' } := by
  cases h
  case secretCollected o t hget hgarbage h => exact ⟨.same rfl, .collected h hgarbage⟩
  case statusWritten o t hget h => exact ⟨.status h, .same rfl⟩
  all_goals exact ⟨.same rfl, .same rfl⟩

theorem createStep {w w' : World} {l : Label} (h : w.step l = some w') : CreateStep w l w' := by
  cases moves h with
  | arrive hnew =>
    refine .foreign ⟨fun {b s} hb => ?_, rfl, fun e he => ?_, .same rfl, .same rfl⟩
    · obtain ⟨ctxErr, hb⟩ := hb
      simp only [lookup_insert_ite] at hb
      split at hb
      · simp only [Option.some.injEq, Proc.mk.injEq, State.serve.injEq] at hb
        exact .inr ((authorize_entry _ _ _).create hb.2)
      · exact .inl ⟨ctxErr, hb⟩
    · rcases List.mem_append.mp he with he | he
      · refine reachEvents_not_ofCreate (fun s hs => ?_) e he
        obtain ⟨access, body, rfl⟩ := (authorize_entry _ _ _).create (State.serve.inj hs)
        rfl
      · rw [List.mem_singleton] at he
        subst he
        exact id
  | reconcile hnew =>
    refine .foreign (show Foreign w _ [] from
      ⟨fun {b s} hb => ?_, rfl, fun e he => ?_, .same rfl, .same rfl⟩)
    · obtain ⟨ctxErr, hb⟩ := hb
      simp only [lookup_insert_ite] at hb
      split at hb
      · cases hb
      · exact .inl ⟨ctxErr, hb⟩
    · cases he
  | serve hp hmove =>
    cases hmove with
    | create hmove => exact .own hp hmove
    | tokenFailed =>
      refine .foreign (.of_advance rfl (fun s hs => ?_) (.same rfl) (.same rfl))
      exact (compareToken_entry _ _ _ _).create (State.serve.inj hs)
    | tokenRead =>
      refine .foreign (.of_advance rfl (fun s hs => ?_) (.same rfl) (.same rfl))
      exact (compareToken_entry _ _ _ _).create (State.serve.inj hs)
    | accessesFailed =>
      refine .foreign (.of_advance rfl (fun s hs => ?_) (.same rfl) (.same rfl))
      exact (authorized_entry _ _).create (State.serve.inj hs)
    | accessesRead =>
      refine .foreign (.of_advance rfl (fun s hs => ?_) (.same rfl) (.same rfl))
      exact (authorized_entry _ _).create (State.serve.inj hs)
    | config hmove =>
      cases hmove <;> exact .foreign (.of_advance rfl (by simp) (.same rfl) (.same rfl))
    | delete hmove =>
      cases hmove
      case deleted o t hget hrem =>
        exact .foreign (.of_advance rfl (by simp)
          (.deleted hrem (List.mem_append_right _ (List.mem_singleton.mpr rfl))) (.same rfl))
      all_goals exact .foreign (.of_advance rfl (by simp) (.same rfl) (.same rfl))
  | control hp hmove =>
    obtain ⟨hsecrets, -, hsame | ⟨o, f, hrep⟩⟩ := ReconcileMove_frame hmove
    · exact .foreign (.of_advance rfl (by simp) (.same hsame) (.same hsecrets))
    · exact .foreign (.of_advance rfl (by simp) (.status hrep) (.same hsecrets))
  | cancel hp =>
    refine .foreign (show Foreign w _ [] from
      ⟨fun {b s} hb => ?_, rfl, fun e he => ?_, .same rfl, .same rfl⟩)
    · obtain ⟨ctxErr, hb⟩ := hb
      simp only [lookup_insert_ite] at hb
      split at hb
      · rename_i p hba
        simp only [Option.some.injEq, Proc.mk.injEq] at hb
        rw [hba]
        refine .inl ⟨p.ctxErr, ?_⟩
        rw [← hb.2]
        exact hp
      · exact .inl ⟨ctxErr, hb⟩
    · cases he
  | env henv =>
    obtain ⟨hsandboxes, hsecrets⟩ := EnvMove_frame henv
    exact .foreign ⟨fun hb => .inl hb, rfl, fun e he => (by cases he), hsandboxes, hsecrets⟩

end World

end SandboxProvider
