import SandboxProvider.Controller.Moves
import SandboxProvider.Server.Moves
import SandboxProvider.System.World

/-!
# What a step of the system can do

`EnvMove` for the steps of the environment, `World.Moves` for all steps. A proof about a run is an
invariant whose preservation is shown by cases on these.
-/

namespace SandboxProvider

open Lib Server Controller

/-! ## The environment -/

/-- The steps of the environment, as far as they have an effect. -/
inductive EnvMove (c : Cluster) : Label → Cluster → Prop
  | idle {l} : EnvMove c l c
  | secretCollected {key env o t} (hget : c.secrets.get key = some o)
      (hgarbage : c.isGarbage o.metadata) (h : c.secrets.Removes o t) :
      EnvMove c (.collect .secret key env) { c with secrets := t }
  | podCollected {key env o} (hget : c.pods.get key = some o) (hgarbage : c.isGarbage o.metadata) :
      EnvMove c (.collect .pod key env) { c with pods := deletePodIn env c.pods key }
  | kubelet {key nodeName status o t} (hget : c.pods.get key = some o)
      (h : c.pods.Replaces o (setPodStatus nodeName status o) t) :
      EnvMove c (.kubelet key nodeName status) { c with pods := t }
  | podDeleted {key env o} (hget : c.pods.get key = some o) :
      EnvMove c (.deletePod key env) { c with pods := deletePodIn env c.pods key }
  | podRemoved {key o t} (hget : c.pods.get key = some o)
      (hdel : o.metadata.deletionTimestamp.isSome) (h : c.pods.Removes o t) :
      EnvMove c (.removePod key) { c with pods := t }
  | statusWritten {key status o t} (hget : c.sandboxes.get key = some o)
      (h : c.sandboxes.Replaces o (withStatus (fun _ => status) o) t) :
      EnvMove c (.writeStatus key status) { c with sandboxes := t }
  | classCreated {name spec env t}
      (h : c.classes.Stores (asCreated env.uid { metadata := { name := name }, spec := spec }) t) :
      EnvMove c (.createClass name spec env) { c with classes := t }
  | classUpdated {name spec o t} (hget : c.classes.get ⟨"", name⟩ = some o)
      (h : c.classes.Replaces o (setClassSpec spec o) t) :
      EnvMove c (.updateClass name spec) { c with classes := t }
  | classDeleted {name o t} (hget : c.classes.get ⟨"", name⟩ = some o)
      (h : c.classes.Removes o t) :
      EnvMove c (.deleteClass name) { c with classes := t }

/-- A deleted Pod is gone, or marked. -/
theorem deletePodIn_cases {env : Env} {t : Table NamespacedName Pod} {key : NamespacedName}
    {o : Pod} (h : t.get key = some o) :
    t.Removes o (deletePodIn env t key) ∨
    t.Replaces o (markDeleted env.now o) (deletePodIn env t key) := by
  unfold deletePodIn
  split
  · exact .inl (Table.removes_erase t h)
  · exact .inr (replaces_modifyObject _ _ h)

theorem deletePodIn_of_none {env : Env} {t : Table NamespacedName Pod} {key : NamespacedName}
    (h : t.get key = none) : deletePodIn env t key = t := by
  unfold deletePodIn
  split
  · exact Table.erase_of_get_none h
  · exact modifyObject_of_none _ _ h

theorem Cluster.envMoves {c c' : Cluster} {l : Label} (h : c.envStep l = some c') :
    EnvMove c l c' := by
  cases l with
  | collect kind key env =>
    cases kind with
    | secret =>
      simp only [Cluster.envStep, Cluster.collect] at h
      split at h
      · rename_i hg
        cases h
        obtain ⟨o, ho, hgo⟩ := (Option.any_eq_true _ _).mp hg
        exact .secretCollected ho hgo (Table.removes_erase _ ho)
      · cases h
    | pod =>
      simp only [Cluster.envStep, Cluster.collect] at h
      split at h
      · rename_i hg
        cases h
        obtain ⟨o, ho, hgo⟩ := (Option.any_eq_true _ _).mp hg
        exact .podCollected ho hgo
      · cases h
  | kubelet key nodeName status =>
    cases h
    cases ho : c.pods.get key with
    | none => rw [modifyObject_of_none _ _ ho]; exact .idle
    | some o => exact .kubelet ho (replaces_modifyObject _ _ ho)
  | deletePod key env =>
    cases h
    cases ho : c.pods.get key with
    | none => rw [deletePodIn_of_none ho]; exact .idle
    | some o => exact .podDeleted ho
  | removePod key =>
    simp only [Cluster.envStep] at h
    split at h
    · rename_i hdel
      cases h
      obtain ⟨o, ho, hdel⟩ := (Option.any_eq_true _ _).mp hdel
      exact .podRemoved ho hdel (Table.removes_erase _ ho)
    · cases h
  | writeStatus key status =>
    cases h
    cases ho : c.sandboxes.get key with
    | none => rw [modifyObject_of_none _ _ ho]; exact .idle
    | some o => exact .statusWritten ho (replaces_modifyObject _ _ ho)
  | createClass name spec env =>
    simp only [Cluster.envStep] at h
    split at h
    · rename_i stored t hcreate
      cases h
      exact .classCreated (stores_of_createObject hcreate).2
    · cases h
  | updateClass name spec =>
    cases h
    cases ho : c.classes.get ⟨"", name⟩ with
    | none => rw [modifyObject_of_none _ _ ho]; exact .idle
    | some o => exact .classUpdated ho (replaces_modifyObject _ _ ho)
  | deleteClass name =>
    cases h
    cases ho : c.classes.get ⟨"", name⟩ with
    | none => rw [Table.erase_of_get_none ho]; exact .idle
    | some o => exact .classDeleted ho (Table.removes_erase _ ho)
  | arrive => cases h
  | reconcile => cases h
  | run => cases h
  | cancel => cases h

/-! ## The world -/

namespace World

/-- The steps of the world. -/
inductive Moves (w : World) : Label → World → Prop
  | arrive {a header route} (hnew : w.procs.lookup a = none) :
      Moves w (.arrive a header route) { w with
        procs := w.procs.insert a { state := .serve (authorize w.cfg header route) }
        history := reachEvents a none (.serve (authorize w.cfg header route)) w.cluster ++
          [.arrived a header route] ++ w.history }
  | reconcile {a key} (hnew : w.procs.lookup a = none) :
      Moves w (.reconcile a key) { w with
        procs := w.procs.insert a { state := .reconcile (.getSandbox key) } }
  | serve {a env ctxErr s s' c' out} (hp : w.procs.lookup a = some ⟨ctxErr, .serve s⟩)
      (h : CallMove env ctxErr w.cluster w.cfg s s' c' out) :
      Moves w (.run a env) (w.advance a ⟨ctxErr, .serve s⟩ (.serve s') c' out)
  | control {a env ctxErr s s' c' out} (hp : w.procs.lookup a = some ⟨ctxErr, .reconcile s⟩)
      (h : ReconcileMove env ctxErr w.cluster s s' c' out) :
      Moves w (.run a env) (w.advance a ⟨ctxErr, .reconcile s⟩ (.reconcile s') c' out)
  | cancel {a err p} (hp : w.procs.lookup a = some p) :
      Moves w (.cancel a err) { w with procs := w.procs.insert a { p with ctxErr := some err } }
  | env {l c'} (h : EnvMove w.cluster l c') : Moves w l { w with cluster := c' }

theorem spawn_eq_some {w w' : World} {a : Nat} {s : State} {events : List Event}
    (h : w.spawn a s events = some w') :
    w.procs.lookup a = none ∧ w' = { w with
      procs := w.procs.insert a { state := s }
      history := reachEvents a none s w.cluster ++ events ++ w.history } := by
  unfold spawn at h
  split at h
  · cases h
  · rename_i hnew
    cases h
    exact ⟨hnew, rfl⟩

theorem step_run {w w' : World} {a : Nat} {env : Env} (h : w.step (.run a env) = some w') :
    ∃ ctxErr state s' c' out, w.procs.lookup a = some ⟨ctxErr, state⟩ ∧
      (state.next w.cfg).step env ctxErr w.cluster = some (s', c', out) ∧
      w' = w.advance a ⟨ctxErr, state⟩ s' c' out := by
  simp only [step] at h
  split at h
  · cases h
  · rename_i p hp
    obtain ⟨⟨s', c', out⟩, hs, rfl⟩ := Option.map_eq_some_iff.mp h
    exact ⟨p.ctxErr, p.state, s', c', out, hp, hs, rfl⟩

theorem step_cancel {w w' : World} {a : Nat} {err : String}
    (h : w.step (.cancel a err) = some w') :
    ∃ p, w.procs.lookup a = some p ∧
      w' = { w with procs := w.procs.insert a { p with ctxErr := some err } } := by
  simp only [step] at h
  split at h
  · cases h
  · rename_i p hp
    cases h
    exact ⟨p, hp, rfl⟩

/-- A request takes the steps of its handler. -/
theorem step_serve {cfg : Config} {env : Env} {ctxErr : Option String} {c c' : Cluster}
    {s : CallState} {state : State} {out : Outcome}
    (h : ((State.serve s).next cfg).step env ctxErr c = some (state, c', out)) :
    ∃ s', state = .serve s' ∧ (s.next cfg).step env ctxErr c = some (s', c', out) := by
  rw [State.next, Next.step_map] at h
  obtain ⟨⟨s', c₁, out₁⟩, hs, heq⟩ := Option.map_eq_some_iff.mp h
  cases heq
  exact ⟨s', rfl, hs⟩

theorem moves {w w' : World} {l : Label} (h : w.step l = some w') : w.Moves l w' := by
  have henv (hl : (w.cluster.envStep l).map (fun c => { w with cluster := c }) = some w') :
      w.Moves l w' := by
    obtain ⟨c', hc, rfl⟩ := Option.map_eq_some_iff.mp hl
    exact .env (Cluster.envMoves hc)
  cases l with
  | arrive a header route =>
    obtain ⟨hnew, rfl⟩ := spawn_eq_some h
    exact .arrive hnew
  | reconcile a key =>
    obtain ⟨hnew, rfl⟩ := spawn_eq_some h
    exact .reconcile hnew
  | run a env =>
    obtain ⟨ctxErr, state, s', c', out, hp, hs, rfl⟩ := step_run h
    cases state with
    | serve s =>
      obtain ⟨t, rfl, ht⟩ := step_serve hs
      exact .serve hp (CallState.moves ht)
    | reconcile s =>
      rw [State.next, Next.step_map] at hs
      obtain ⟨⟨t, c₁, out₁⟩, ht, he⟩ := Option.map_eq_some_iff.mp hs
      cases he
      exact .control hp (ReconcileState.moves ht)
  | cancel a err =>
    obtain ⟨p, hp, rfl⟩ := step_cancel h
    exact .cancel hp
  | collect => exact henv h
  | kubelet => exact henv h
  | deletePod => exact henv h
  | removePod => exact henv h
  | writeStatus => exact henv h
  | createClass => exact henv h
  | updateClass => exact henv h
  | deleteClass => exact henv h

/-! ## Requests and the history after a step -/

/-- The history grows, and requests arrive by their own label. -/
theorem step_history {w w' : World} {l : Label} (h : w.step l = some w') :
    ∃ events, w'.history = events ++ w.history ∧
      ∀ {b header route}, .arrived b header route ∈ events → l = .arrive b header route := by
  have hreach {a b : Nat} {before : Option State} {after : State} {c : Cluster} {header : String}
      {route : Route} : .arrived b header route ∉ reachEvents a before after c := by
    simp [reachEvents]
  have hcall {a b : Nat} {before : State} {out : Outcome} {header : String} {route : Route} :
      .arrived b header route ∉ callEvents a before out := by
    cases out <;> simp [callEvents]
  cases moves h with
  | arrive hnew =>
    refine ⟨_, rfl, fun he => ?_⟩
    rcases List.mem_append.mp he with he | he
    · exact absurd he hreach
    · cases List.mem_singleton.mp he
      rfl
  | reconcile hnew => exact ⟨[], rfl, fun he => absurd he List.not_mem_nil⟩
  | serve hp hmove =>
    refine ⟨_, rfl, fun he => ?_⟩
    rcases List.mem_append.mp he with he | he
    · exact absurd he hreach
    · exact absurd he hcall
  | control hp hmove => exact ⟨_, rfl, fun he => absurd he hcall⟩
  | cancel hp => exact ⟨[], rfl, fun he => absurd he List.not_mem_nil⟩
  | env henv => exact ⟨[], rfl, fun he => absurd he List.not_mem_nil⟩

theorem history_subset {w w' : World} {l : Label} (h : w.step l = some w') :
    ∀ e ∈ w.history, e ∈ w'.history := by
  obtain ⟨events, hhistory, -⟩ := step_history h
  intro e he
  rw [hhistory]
  exact List.mem_append_right _ he

theorem answered_mem_reachEvents {a b : Nat} {before : Option State} {after s : State}
    {c c' : Cluster} {reply : Reply} (h : .answered b s reply c' ∈ reachEvents a before after c) :
    b = a ∧ s = after := by
  rcases List.mem_append.mp h with h | h
  · obtain ⟨r, -, heq⟩ := List.mem_map.mp h
    cases heq
    exact ⟨rfl, rfl⟩
  · obtain ⟨x, -, heq⟩ := List.mem_map.mp h
    cases heq

theorem answered_not_mem_callEvents {a b : Nat} {before s : State} {out : Outcome} {reply : Reply}
    {c : Cluster} : .answered b s reply c ∉ callEvents a before out := by
  cases out <;> simp [callEvents]

/-- The request `b` comes to a state in the step: it arrives, or its program runs. -/
inductive Reaches (w : World) (b : Nat) : Label → World → CallState → Prop
  | arrived {header route} :
      Reaches w b (.arrive b header route) { w with
        procs := w.procs.insert b { state := .serve (authorize w.cfg header route) }
        history := reachEvents b none (.serve (authorize w.cfg header route)) w.cluster ++
          [.arrived b header route] ++ w.history } (authorize w.cfg header route)
  | ran {env ctxErr s s' c' out} (hp : w.procs.lookup b = some ⟨ctxErr, .serve s⟩)
      (h : CallMove env ctxErr w.cluster w.cfg s s' c' out) :
      Reaches w b (.run b env) (w.advance b ⟨ctxErr, .serve s⟩ (.serve s') c' out) s'

section Requests

variable {w w' : World} {l : Label} {b : Nat} {s : CallState}

/-- Where a request is after a step, it was before, or it came there in the step. -/
theorem Moves.serve_cases (h : w.Moves l w') {ctxErr : Option String}
    (hb : w'.procs.lookup b = some ⟨ctxErr, .serve s⟩) :
    (∃ ctxErr', w.procs.lookup b = some ⟨ctxErr', .serve s⟩) ∨ w.Reaches b l w' s := by
  cases h with
  | arrive hnew =>
    obtain ⟨rfl, hp⟩ | ⟨-, hb⟩ := lookup_insert_cases hb
    · cases hp
      exact .inr .arrived
    · exact .inl ⟨ctxErr, hb⟩
  | reconcile hnew =>
    obtain ⟨-, hp⟩ | ⟨-, hb⟩ := lookup_insert_cases hb
    · cases hp
    · exact .inl ⟨ctxErr, hb⟩
  | serve hp hmove =>
    obtain ⟨rfl, he⟩ | ⟨-, hb⟩ := lookup_insert_cases hb
    · cases he
      exact .inr (.ran hp hmove)
    · exact .inl ⟨ctxErr, hb⟩
  | control hp hmove =>
    obtain ⟨-, he⟩ | ⟨-, hb⟩ := lookup_insert_cases hb
    · cases he
    · exact .inl ⟨ctxErr, hb⟩
  | @cancel a err p hp =>
    obtain ⟨rfl, he⟩ | ⟨-, hb⟩ := lookup_insert_cases hb
    · obtain ⟨-, hs⟩ := Proc.mk.inj he
      exact .inl ⟨p.ctxErr, by rw [hs]; exact hp⟩
    · exact .inl ⟨ctxErr, hb⟩
  | env henv => exact .inl ⟨ctxErr, hb⟩

/-- A reply was written before the step, or from the state that its request comes to. -/
theorem Moves.answered_cases (h : w.Moves l w') {reply : Reply} {c : Cluster}
    (he : .answered b (.serve s) reply c ∈ w'.history) :
    .answered b (.serve s) reply c ∈ w.history ∨ w.Reaches b l w' s := by
  cases h with
  | arrive hnew =>
    rcases List.mem_append.mp he with he | he
    · rcases List.mem_append.mp he with he | he
      · obtain ⟨rfl, hs⟩ := answered_mem_reachEvents he
        cases hs
        exact .inr .arrived
      · simp at he
    · exact .inl he
  | reconcile hnew => exact .inl he
  | serve hp hmove =>
    rcases List.mem_append.mp he with he | he
    · rcases List.mem_append.mp he with he | he
      · obtain ⟨rfl, hs⟩ := answered_mem_reachEvents he
        cases hs
        exact .inr (.ran hp hmove)
      · exact absurd he answered_not_mem_callEvents
    · exact .inl he
  | control hp hmove =>
    rcases List.mem_append.mp he with he | he
    · exact absurd he answered_not_mem_callEvents
    · exact .inl he
  | cancel hp => exact .inl he
  | env henv => exact .inl he

/-- A write was made before the step, or the program that runs makes it. -/
theorem Moves.wrote_by (h : w.Moves l w') {before : State} {wr : Write}
    (he : .wrote b before wr ∈ w'.history) :
    .wrote b before wr ∈ w.history ∨
    ∃ env ctxErr, l = .run b env ∧ w.procs.lookup b = some ⟨ctxErr, before⟩ ∧
      ∀ s, before = .serve s →
        ∃ s' c' out, CallMove env ctxErr w.cluster w.cfg s s' c' out ∧ wr ∈ out.writes := by
  have hreach {a : Nat} {start : Option State} {after : State} {c : Cluster} :
      .wrote b before wr ∉ reachEvents a start after c := by
    simp [reachEvents]
  cases h with
  | arrive hnew =>
    rcases List.mem_append.mp he with he | he
    · rcases List.mem_append.mp he with he | he
      · exact absurd he hreach
      · simp at he
    · exact .inl he
  | reconcile hnew => exact .inl he
  | serve hp hmove =>
    rcases List.mem_append.mp he with he | he
    · rcases List.mem_append.mp he with he | he
      · exact absurd he hreach
      · obtain ⟨rfl, rfl, hw⟩ := wrote_mem_callEvents.mp he
        refine .inr ⟨_, _, rfl, hp, fun s hs => ?_⟩
        cases hs
        exact ⟨_, _, _, hmove, hw⟩
    · exact .inl he
  | control hp hmove =>
    rcases List.mem_append.mp he with he | he
    · obtain ⟨rfl, rfl, -⟩ := wrote_mem_callEvents.mp he
      refine .inr ⟨_, _, rfl, hp, fun s hs => ?_⟩
      cases hs
    · exact .inl he
  | cancel hp => exact .inl he
  | env henv => exact .inl he

theorem Moves.wrote_cases (h : w.Moves l w') {wr : Write}
    (he : .wrote b (.serve s) wr ∈ w'.history) :
    .wrote b (.serve s) wr ∈ w.history ∨
    ∃ env ctxErr s' c' out, l = .run b env ∧ w.procs.lookup b = some ⟨ctxErr, .serve s⟩ ∧
      CallMove env ctxErr w.cluster w.cfg s s' c' out ∧ wr ∈ out.writes := by
  rcases h.wrote_by he with he | ⟨env, ctxErr, hl, hb, hcall⟩
  · exact .inl he
  · obtain ⟨s', c', out, hmove, hw⟩ := hcall s rfl
    exact .inr ⟨env, ctxErr, s', c', out, hl, hb, hmove, hw⟩

end Requests

end World

end SandboxProvider
