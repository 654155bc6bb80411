import SandboxProvider.Server.Replaying
import SandboxProvider.System.Step

/-!
# Replayed create requests

A createSandbox call whose first `Get` finds a PodSandbox writes nothing, however it ends. Once a call
has answered 201, replays of its request find that PodSandbox, pass the identity check and answer the
same, as long as nothing else happens and the call has not overwritten the credentials that it was
authorized with: a Secret under the name of its userdata Secret, which the call did not create, is
updated all the same.
-/

namespace SandboxProvider

open Lib Server

/-! ## Calls that write nothing -/

namespace World

section Quiet

variable {w w' : World} {l : Label} {b : Nat}

/-- Where a program is after a step: where it was, or it ran. -/
theorem Moves.lookup_cases (h : w.Moves l w') {ctxErr : Option String} {state : State}
    (hb : w.procs.lookup b = some ⟨ctxErr, state⟩) :
    (∃ ctxErr', w'.procs.lookup b = some ⟨ctxErr', state⟩) ∨
    (∃ env s s' c' out, state = .serve s ∧ CallMove env ctxErr w.cluster w.cfg s s' c' out ∧
      w'.procs.lookup b = some ⟨ctxErr, .serve s'⟩) ∨
    ∃ s s', state = .reconcile s ∧ w'.procs.lookup b = some ⟨ctxErr, .reconcile s'⟩ := by
  have hold {a : Nat} (hnew : w.procs.lookup a = none) : b ≠ a := by
    rintro rfl
    rw [hb] at hnew
    cases hnew
  cases h with
  | arrive hnew => exact .inl ⟨ctxErr, (AList.lookup_insert_ne (hold hnew)).trans hb⟩
  | reconcile hnew => exact .inl ⟨ctxErr, (AList.lookup_insert_ne (hold hnew)).trans hb⟩
  | @serve a env ctxErr' s s' c' out hp hmove =>
    by_cases hab : b = a
    · subst hab
      rw [hb] at hp
      cases hp
      exact .inr (.inl ⟨env, s, s', c', out, rfl, hmove, AList.lookup_insert _⟩)
    · exact .inl ⟨ctxErr, (AList.lookup_insert_ne hab).trans hb⟩
  | @control a env ctxErr' s s' c' out hp hmove =>
    by_cases hab : b = a
    · subst hab
      rw [hb] at hp
      cases hp
      exact .inr (.inr ⟨s, s', rfl, AList.lookup_insert _⟩)
    · exact .inl ⟨ctxErr, (AList.lookup_insert_ne hab).trans hb⟩
  | @cancel a err p hp =>
    by_cases hab : b = a
    · subst hab
      rw [hb] at hp
      cases hp
      exact .inl ⟨some err, AList.lookup_insert _⟩
    · exact .inl ⟨ctxErr, (AList.lookup_insert_ne hab).trans hb⟩
  | env => exact .inl ⟨ctxErr, hb⟩

/-- The program has not passed its first `Get` of the PodSandbox. -/
def early (w : World) (b : Nat) : Prop :=
  ∀ ctxErr state, w.procs.lookup b = some ⟨ctxErr, state⟩ → ∃ s, state = .serve s ∧ s.early = true

/-- A program that is past its first `Get` stays past it. -/
theorem Moves.early_of_early (h : w.Moves l w') (hearly : w'.early b) : w.early b := by
  intro ctxErr state hb
  rcases h.lookup_cases hb with ⟨ctxErr', hb'⟩ | ⟨env, s, s', c', out, rfl, hmove, hb'⟩ |
    ⟨s, s', rfl, hb'⟩
  · exact hearly ctxErr' state hb'
  · obtain ⟨t, ht, ht'⟩ := hearly ctxErr (.serve s') hb'
    cases ht
    exact ⟨s, rfl, hmove.early_of_early ht'⟩
  · obtain ⟨t, ht, -⟩ := hearly ctxErr (.reconcile s') hb'
    cases ht

def NoWrites (b : Nat) (w : World) : Prop := ∀ before wr, .wrote b before wr ∉ w.history

/-- Up to its first `Get` of the PodSandbox a call has not written. -/
theorem Moves.noWrites_of_early (h : w.Moves l w') (hquiet : w.early b → w.NoWrites b)
    (hearly : w'.early b) : w'.NoWrites b := by
  have hbefore := h.early_of_early hearly
  intro before wr he
  rcases h.wrote_by he with he | ⟨env, ctxErr, -, hb, hcall⟩
  · exact hquiet hbefore before wr he
  · obtain ⟨s, rfl, hs⟩ := hbefore ctxErr before hb
    obtain ⟨s', c', out, hmove, hwr⟩ := hcall s rfl
    rw [(hmove.quiet_of_early hs).2] at hwr
    cases hwr

/-- The call has found its PodSandbox and has not written. -/
def Harmless (b : Nat) (w : World) : Prop :=
  (∃ ctxErr s, w.procs.lookup b = some ⟨ctxErr, .serve s⟩ ∧ s.found = true) ∧ w.NoWrites b

theorem Harmless.step (h : w.Harmless b) (hmove : w.Moves l w') : w'.Harmless b := by
  obtain ⟨⟨ctxErr, s, hb, hfound⟩, hquiet⟩ := h
  refine ⟨?_, fun before wr he => ?_⟩
  · rcases hmove.lookup_cases hb with ⟨ctxErr', hb'⟩ | ⟨env, t, t', c', out, ht, hcall, hb'⟩ |
      ⟨t, t', ht, hb'⟩
    · exact ⟨ctxErr', s, hb', hfound⟩
    · cases ht
      exact ⟨ctxErr, t', hb', (hcall.quiet_of_found hfound).1⟩
    · cases ht
  · rcases hmove.wrote_by he with he | ⟨env, ctxErr', -, hb', hcall⟩
    · exact hquiet before wr he
    · rw [hb] at hb'
      cases hb'
      obtain ⟨s', c', out, hstep, hwr⟩ := hcall s rfl
      rw [(hstep.quiet_of_found hfound).2.2] at hwr
      cases hwr

/-- **A call that finds its PodSandbox writes nothing**, in any run and however it ends. -/
theorem noWrites_of_found {cfg : Config} {c : Cluster} {ls ls' : List Label} {w w' w'' : World}
    {ctxErr : Option String} {job : Job} {o : PodSandbox} {env : Env}
    (hrun : Run World.step (fun _ _ => True) (World.start cfg c) ls w)
    (hb : w.procs.lookup b = some ⟨ctxErr, .serve (.create (.getSandbox job))⟩)
    (hget : w.cluster.sandboxes.get job.key = some o)
    (hreached : refusal env ctxErr .request = none)
    (hstep : w.step (.run b env) = some w')
    (hrest : Run World.step (fun _ _ => True) w' ls' w'') : w''.NoWrites b := by
  have hearly : w.early b := by
    intro ctxErr' state hb'
    rw [hb] at hb'
    cases hb'
    exact ⟨_, rfl, rfl⟩
  have hquiet : w.NoWrites b := by
    refine hrun.invariant (fun w => w.early b → w.NoWrites b) (fun _ _ _ h _ hstep => ?_) ?_ hearly
    · exact (moves hstep).noWrites_of_early h
    · exact fun _ _ _ he => nomatch he
  have hharmless : w'.Harmless b := by
    have hmoves := moves hstep
    have hquiet' : w'.NoWrites b := by
      intro before wr he
      rcases hmoves.wrote_by he with he | ⟨env', ctxErr', -, hb', hcall⟩
      · exact hquiet before wr he
      · rw [hb] at hb'
        cases hb'
        obtain ⟨s', c', out, hcall, hwr⟩ := hcall _ rfl
        rw [(hcall.quiet_of_early rfl).2] at hwr
        cases hwr
    refine ⟨?_, hquiet'⟩
    obtain ⟨ctxErr', state, s', c', out, hp, hs, rfl⟩ := step_run hstep
    rw [hb] at hp
    cases hp
    obtain ⟨t, rfl, ht⟩ := step_serve hs
    cases CallState.moves ht with
    | create hcreate =>
      exact ⟨ctxErr, _, AList.lookup_insert _, hcreate.found_of_get hget hreached⟩
  exact (hrest.invariant (Harmless b) (fun _ _ _ h _ hstep => h.step (moves hstep)) hharmless).2

end Quiet

end World

/-! ## Runs of a call and of its replays -/

/-- The steps of one call, and status writes. -/
def Label.OfCall (a : Nat) : Label → Prop
  | .run b _ => b = a
  | .writeStatus .. => True
  | _ => False

instance (a : Nat) : (l : Label) → Decidable (l.OfCall a)
  | .run b _ => inferInstanceAs (Decidable (b = a))
  | .writeStatus .. => isTrue trivial
  | .arrive .. | .reconcile .. | .cancel .. | .collect .. | .kubelet .. | .deletePod ..
  | .removePod _ | .createClass .. | .updateClass .. | .deleteClass _ => isFalse id

namespace World

/-- The reply to a request. -/
def replyOf (w : World) (a : Nat) : Option Reply := (w.procs.lookup a).bind (·.state.reply)

/-- From `w` on, only replays of the request arrive and run. -/
def Replays (w : World) (header : String) (request : CreateSandboxRequest) : Label → Prop
  | .arrive _ header' route => header' = header ∧
      ∃ vcpus memoryMiB arch, route = .createSandbox (.ok (request.resized vcpus memoryMiB arch))
  | .run b env => w.procs.lookup b = none ∧ env.fault = none
  | _ => False

section FirstCall

variable {w₀ w w' : World} {a : Nat} {header : String} {request : CreateSandboxRequest}

/-- The call `a`, which arrived in `w₀`. -/
def Attends (w₀ : World) (a : Nat) (header : String) (request : CreateSandboxRequest) (w : World) :
    Prop :=
  w.cfg = w₀.cfg ∧ ∃ ctxErr s, w.procs.lookup a = some ⟨ctxErr, .serve s⟩ ∧
    s.Attends w₀.cfg w₀.cluster (trimPrefix header "Bearer ") request w.cluster

theorem Attends.step {l : Label}
    (hspared : Spared w₀.cfg w₀.cluster (trimPrefix header "Bearer ") request)
    (h : Attends w₀ a header request w) (hl : l.OfCall a) (hstep : w.step l = some w') :
    Attends w₀ a header request w' := by
  obtain ⟨hcfg, ctxErr, s, ha, hs⟩ := h
  cases l with
  | run b env =>
    cases hl
    obtain ⟨ctxErr', state, state', c', out, hp, hnext, rfl⟩ := step_run hstep
    rw [ha] at hp
    cases hp
    obtain ⟨s', rfl, hserve⟩ := step_serve hnext
    rw [hcfg] at hserve
    exact ⟨hcfg, ctxErr, s', AList.lookup_insert _, (CallState.moves hserve).attends hspared hs⟩
  | writeStatus key status =>
    have hwrite : (w.cluster.envStep (.writeStatus key status)).map
        (fun c => { w with cluster := c }) = some w' := hstep
    obtain ⟨c', hc, rfl⟩ := Option.map_eq_some_iff.mp hwrite
    refine ⟨hcfg, ctxErr, s, ha, ?_⟩
    cases Cluster.envMoves hc with
    | idle => exact hs
    | @statusWritten _ _ o t hget hrep =>
      refine hs.statusWritten rfl rfl fun {k x} hx => ?_
      by_cases hk : k = Keyed.key o
      · subst hk
        rw [hrep.stored] at hx
        cases hx
        exact ⟨_, hrep.get_self, rfl⟩
      · exact ⟨x, (hrep.get_ne hk).trans hx, rfl⟩
  | _ => exact hl.elim

/-- A call that has just answered 201. -/
theorem established_of_answer {ls : List Label} {env : Env} {response : SandboxResponse}
    (hspared : Spared w₀.cfg w₀.cluster (trimPrefix header "Bearer ") request)
    {w₁ : World} (harrive : w₀.step (.arrive a header (.createSandbox (.ok request))) = some w₁)
    (hcall : Run step (fun _ l => l.OfCall a) w₁ ls w) (hpending : w.replyOf a = none)
    (hanswer : w.step (.run a env) = some w') (hreply : w'.replyOf a = some (.created response)) :
    w'.cfg = w₀.cfg ∧ ∃ access sandboxClass o,
      Established w₀.cfg w'.cluster (trimPrefix header "Bearer ") request response access
        sandboxClass o := by
  have hattends : Attends w₀ a header request w := by
    refine hcall.invariant (Attends w₀ a header request) (fun _ _ _ h hl hstep => h.step hspared hl hstep) ?_
    obtain ⟨-, rfl⟩ := spawn_eq_some harrive
    exact ⟨rfl, none, _, AList.lookup_insert _, authorize_attends hspared⟩
  obtain ⟨hcfg, ctxErr, s, ha, hs⟩ := hattends
  obtain ⟨ctxErr', state, state', c', out, hp, hnext, rfl⟩ := step_run hanswer
  rw [ha] at hp
  cases hp
  obtain ⟨s', rfl, hserve⟩ := step_serve hnext
  rw [hcfg] at hserve
  have hnone : s.reply = none := by simpa [replyOf, ha, State.reply] using hpending
  have hcreated : s'.reply = some (.created response) := by
    simpa [replyOf, World.advance, State.reply] using hreply
  exact ⟨hcfg, (CallState.moves hserve).establishes hs hnone hcreated⟩

end FirstCall

section Replays

variable {w w₁ w₂ : World} {header : String} {request : CreateSandboxRequest} {cfg : Config}
  {response : SandboxResponse} {access : AuthorizedAccess} {sandboxClass : PodSandboxClass}
  {o : PodSandbox}

/-- The calls that arrived after `w` are replays, on the same cluster. -/
structure Replayed (cfg : Config) (w : World) (header : String) (request : CreateSandboxRequest)
    (response : SandboxResponse) (access : AuthorizedAccess) (w₁ : World) : Prop where
  sameCfg : w₁.cfg = cfg
  sameCluster : w₁.cluster = w.cluster
  replays : ∀ b p, w.procs.lookup b = none → w₁.procs.lookup b = some p →
    p.ctxErr = none ∧ ∃ vcpus memoryMiB arch n s, p.state = .serve s ∧
      Replaying cfg w.cluster (trimPrefix header "Bearer ") access
        (request.resized vcpus memoryMiB arch) (.created response) n s

/-- A replay runs: it comes closer to its reply, and everything else stays. -/
theorem Replayed.run (he : Established cfg w.cluster (trimPrefix header "Bearer ") request response
      access sandboxClass o)
    (h : Replayed cfg w header request response access w₁) {b : Nat} {env : Env}
    (hfault : env.fault = none) {vcpus memoryMiB : Int} {arch : String} {n : Nat} {s : CallState}
    (hb : w₁.procs.lookup b = some ⟨none, .serve s⟩)
    (hs : Replaying cfg w.cluster (trimPrefix header "Bearer ") access
      (request.resized vcpus memoryMiB arch) (.created response) (n + 1) s) :
    ∃ w₂, w₁.step (.run b env) = some w₂ ∧ Replayed cfg w header request response access w₂ ∧
      ∃ m ≤ n, ∃ s', w₂.procs.lookup b = some ⟨none, .serve s'⟩ ∧
        Replaying cfg w.cluster (trimPrefix header "Bearer ") access
          (request.resized vcpus memoryMiB arch) (.created response) m s' := by
  obtain ⟨m, hm, s', hstep, hs'⟩ := he.replay_step hfault hs
  have hworld : w₁.step (.run b env) =
      some (w₁.advance b ⟨none, .serve s⟩ (.serve s') w.cluster (.ok [])) := by
    simp only [World.step, hb, State.next, Next.step_map, h.sameCfg, h.sameCluster, hstep, Option.map_some]
  refine ⟨_, hworld, ⟨h.sameCfg, rfl, fun b' p hnew hp => ?_⟩, m, hm, s', AList.lookup_insert _, hs'⟩
  obtain ⟨rfl, rfl⟩ | ⟨-, hp⟩ := lookup_insert_cases hp
  · exact ⟨rfl, vcpus, memoryMiB, arch, m, s', rfl, hs'⟩
  · exact h.replays b' p hnew hp

theorem Replayed.step (he : Established cfg w.cluster (trimPrefix header "Bearer ") request response
      access sandboxClass o)
    (h : Replayed cfg w header request response access w₁) {l : Label}
    (hl : w.Replays header request l) (hstep : w₁.step l = some w₂) :
    Replayed cfg w header request response access w₂ := by
  cases l with
  | arrive b header' route =>
    obtain ⟨rfl, vcpus, memoryMiB, arch, rfl⟩ := hl
    obtain ⟨-, rfl⟩ := spawn_eq_some hstep
    refine ⟨h.sameCfg, h.sameCluster, fun b' p hnew hp => ?_⟩
    obtain ⟨rfl, rfl⟩ | ⟨-, hp⟩ := lookup_insert_cases hp
    · have hauthorize : ∃ n, Replaying cfg w.cluster (trimPrefix header' "Bearer ") access
          (request.resized vcpus memoryMiB arch) (.created response) n (authorize cfg header'
            (.createSandbox (.ok (request.resized vcpus memoryMiB arch)))) :=
        authorize_replaying he.admits (.created response)
      obtain ⟨n, hn⟩ := hauthorize
      rw [h.sameCfg]
      exact ⟨rfl, vcpus, memoryMiB, arch, n, _, rfl, hn⟩
    · exact h.replays b' p hnew hp
  | run b env =>
    obtain ⟨hnew, hfault⟩ := hl
    obtain ⟨ctxErr, state, state', c', out, hb, hnext, rfl⟩ := step_run hstep
    obtain ⟨rfl, vcpus, memoryMiB, arch, n, s, rfl, hs⟩ := h.replays b _ hnew hb
    cases n with
    | zero =>
      obtain ⟨s', rfl, hserve⟩ := step_serve hnext
      rw [h.sameCfg, h.sameCluster, hs.step_zero] at hserve
      cases hserve
    | succ n =>
      obtain ⟨w₃, hrun, hreplayed, -⟩ := h.run he hfault hb hs
      rw [hstep] at hrun
      cases hrun
      exact hreplayed
  | _ => exact hl.elim

/-- A replay that is left alone answers. -/
theorem Replayed.answers (he : Established cfg w.cluster (trimPrefix header "Bearer ") request
      response access sandboxClass o)
    (h : Replayed cfg w header request response access w₁) {b : Nat} (hnew : w.procs.lookup b = none)
    {vcpus memoryMiB : Int} {arch : String} {n : Nat} {s : CallState}
    (hb : w₁.procs.lookup b = some ⟨none, .serve s⟩)
    (hs : Replaying cfg w.cluster (trimPrefix header "Bearer ") access
      (request.resized vcpus memoryMiB arch) (.created response) n s) :
    ∃ k w₂, Run World.step (fun _ l => w.Replays header request l) w₁
        (List.replicate k (.run b {})) w₂ ∧
      w₂.replyOf b = some (.created response) := by
  induction n using Nat.strongRecOn generalizing w₁ s with
  | ind n ih =>
    cases n with
    | zero =>
      refine ⟨0, w₁, .nil w₁, ?_⟩
      simp [replyOf, hb, State.reply, hs.reply_eq]
    | succ n =>
      have hfault : ({} : Env).fault = none := rfl
      obtain ⟨w₂, hstep, hreplayed, m, hm, s', hb', hs'⟩ := h.run he hfault hb hs
      obtain ⟨k, w₃, hrun, hreply⟩ := ih m (by omega) hreplayed hb' hs'
      exact ⟨k + 1, w₃, .cons ⟨hnew, rfl⟩ hstep hrun, hreply⟩

end Replays

/-- **Replays are harmless.** In every run, a createSandbox call whose first `Get` finds a PodSandbox
writes nothing, whichever way it ends. And after any call that has just answered 201, interleaved with
nothing but its own steps and status writes, every number of replays, with any values of the optional
fields and in any interleaving, leaves the cluster as it is; a replay that has answered has answered
the same 201, and one that has not does so after some more of its own steps. The condition is on the
cluster in which the first call arrives: the Secret under the name of the call's userdata Secret, if
there is one, is not one that requests are authorized with. -/
theorem replays_are_harmless (header : String) (request : CreateSandboxRequest) :
    (∀ (cfg : Config) (c : Cluster) (ls ls' : List Label) (w w' w'' : World) (b : Nat)
      (ctxErr : Option String) (job : Job) (o : PodSandbox) (env : Env),
      Run step (fun _ _ => True) (World.start cfg c) ls w →
      w.procs.lookup b = some ⟨ctxErr, .serve (.create (.getSandbox job))⟩ →
      w.cluster.sandboxes.get job.key = some o → refusal env ctxErr .request = none →
      w.step (.run b env) = some w' → Run step (fun _ _ => True) w' ls' w'' →
      ∀ before wr, .wrote b before wr ∉ w''.history) ∧
    (∀ (w₀ w₁ w w' : World) (a : Nat) (ls : List Label) (env : Env) (response : SandboxResponse),
      w₀.step (.arrive a header (.createSandbox (.ok request))) = some w₁ →
      Run step (fun _ l => l.OfCall a) w₁ ls w → w.replyOf a = none →
      w.step (.run a env) = some w' → w'.replyOf a = some (.created response) →
      Spared w₀.cfg w₀.cluster (trimPrefix header "Bearer ") request →
      ∀ (ls' : List Label) (w'' : World),
        Run step (fun _ l => w'.Replays header request l) w' ls' w'' →
        w''.cluster = w'.cluster ∧
        ∀ b, w'.procs.lookup b = none → w''.procs.lookup b ≠ none →
          (∀ reply, w''.replyOf b = some reply → reply = .created response) ∧
          ∃ k w₃, Run step (fun _ l => w'.Replays header request l) w''
              (List.replicate k (.run b {})) w₃ ∧
            w₃.replyOf b = some (.created response)) := by
  refine ⟨?_, ?_⟩
  · intro cfg c ls ls' w w' w'' b ctxErr job o env hrun hb hget hreached hstep hrest
    exact noWrites_of_found hrun hb hget hreached hstep hrest
  · intro w₀ w₁ w w' a ls env response harrive hcall hpending hanswer hreply hspared
      ls' w'' hreplays
    obtain ⟨hcfg, access, sandboxClass, o, he⟩ :=
      established_of_answer hspared harrive hcall hpending hanswer hreply
    have hstart : Replayed w₀.cfg w' header request response access w' := by
      refine ⟨hcfg, rfl, fun b p hnew hp => ?_⟩
      rw [hnew] at hp
      cases hp
    have hreplayed : Replayed w₀.cfg w' header request response access w'' :=
      hreplays.invariant _ (fun _ _ _ h hl hstep => h.step he hl hstep) hstart
    refine ⟨hreplayed.sameCluster, fun b hnew hstarted => ?_⟩
    obtain ⟨⟨ctxErr, state⟩, hb⟩ := Option.ne_none_iff_exists'.mp hstarted
    obtain ⟨rfl, vcpus, memoryMiB, arch, n, s, rfl, hs⟩ := hreplayed.replays b _ hnew hb
    refine ⟨fun reply hr => ?_, hreplayed.answers he hnew hb hs⟩
    have hreply' : s.reply = some reply := by simpa [replyOf, hb, State.reply] using hr
    rw [hs.reply_eq] at hreply'
    split at hreply'
    · exact (Option.some.inj hreply').symm
    · cases hreply'

end World

/-! ## A replay, and one that is refused -/

namespace Sample

/-- A createSandbox call up to the step that answers 201. -/
def untilReady : List Label := createSteps 1 1 ++ [.writeStatus key (ready "10.0.0.1")]

/-- The same request with another size. -/
def resized : Label :=
  .arrive 2 "Bearer token" (.createSandbox (.ok (request.resized 8 4096 "arm64")))

def created : SandboxResponse := ⟨key.name, "workload", ["10.0.0.1"]⟩

/-- A Secret that grants access, under the name of the userdata Secret of the request. -/
def accessNamedAsUserdata : Secret where
  metadata := { name := secretName key.name, ns := "provider"
                labels := StringMap.ofList [(AccessSecretLabel, AccessSecretLabelValue)] }
  data := StringMap.ofList [("token", "tenant-token"), ("className", "kata"),
    ("namespace", "provider")]

def accessCluster : Cluster :=
  { oneClass with
    secrets := Table.empty.insert (asCreated 1 accessNamedAsUserdata) ⟨rfl, by decide⟩ }

def tenantArrive (a : Nat) : Label :=
  .arrive a "Bearer tenant-token" (.createSandbox (.ok request))

/-- A call is authorized with that Secret and overwrites it; the same call arrives again. -/
def overwrittenAccess : List Label :=
  [tenantArrive 1] ++ List.replicate 6 (.run 1 { uid := 5 }) ++
    [.writeStatus key (ready "10.0.0.1"), .run 1 {}, tenantArrive 2, .run 2 {}]

end Sample

namespace World

theorem spared_oneClass : Spared Sample.cfg Sample.oneClass (trimPrefix "Bearer token" "Bearer ")
    Sample.request := by
  intro access _
  exact ⟨fun htoken => absurd htoken (by decide), fun x hx => nomatch hx⟩

/-- A request that is about to look for its PodSandbox, with the PodSandbox that it will find. -/
def atFirstGet (w : World) (b : Nat) : Option (Job × PodSandbox) :=
  match w.procs.lookup b with
  | some ⟨none, .serve (.create (.getSandbox job))⟩ =>
    (w.cluster.sandboxes.get job.key).map fun o => (job, o)
  | _ => none

theorem of_atFirstGet {w : World} {b : Nat} {job : Job} {o : PodSandbox}
    (h : w.atFirstGet b = some (job, o)) :
    w.procs.lookup b = some ⟨none, .serve (.create (.getSandbox job))⟩ ∧
      w.cluster.sandboxes.get job.key = some o := by
  unfold atFirstGet at h
  split at h
  · rename_i hb
    obtain ⟨o', ho', heq⟩ := Option.map_eq_some_iff.mp h
    cases heq
    exact ⟨hb, ho'⟩
  · cases h

set_option maxRecDepth 100000 in
theorem resized_replay_answers_the_same :
    (∃ w w', Run step (fun _ _ => True) (World.start Sample.cfg Sample.oneClass)
        (Sample.arrive 1 Sample.request :: Sample.untilReady ++
          [.run 1 {}, Sample.resized, .run 2 {}]) w ∧
      w.step (.run 2 {}) = some w' ∧ ∀ before wr, .wrote 2 before wr ∉ w'.history) ∧
    ∃ w₁ w w' w'', (World.start Sample.cfg Sample.oneClass).step (Sample.arrive 1 Sample.request) =
        some w₁ ∧
      Run step (fun _ l => l.OfCall 1) w₁ Sample.untilReady w ∧ w.step (.run 1 {}) = some w' ∧
      w'.step Sample.resized = some w'' ∧ w''.cluster = w'.cluster ∧
      ∃ k w₃, Run step (fun _ l => w'.Replays "Bearer token" Sample.request l) w''
          (List.replicate k (.run 2 {})) w₃ ∧
        w₃.replyOf 2 = some (.created Sample.created) := by
  obtain ⟨hquiet, hreplays⟩ := replays_are_harmless "Bearer token" Sample.request
  constructor
  · obtain ⟨w, hrun, ⟨job, o⟩, hget, w', hstep, -⟩ := Run.exists_of_checkRun
      (fun w : World => ∃ found ∈ w.atFirstGet 2, ∃ w' ∈ w.step (.run 2 {}), True)
      (show (checkRun step (fun _ _ => True) (World.start Sample.cfg Sample.oneClass)
        (Sample.arrive 1 Sample.request :: Sample.untilReady ++
          [.run 1 {}, Sample.resized, .run 2 {}])).any _ = true by decide +kernel)
    obtain ⟨hb, hstored⟩ := of_atFirstGet hget
    exact ⟨w, w', hrun, hstep,
      hquiet _ _ _ [] w w' w' 2 none job o {} hrun hb hstored rfl hstep (.nil w')⟩
  · obtain ⟨w₁, harrive, w, hcall, hpending, w', hanswer, hreply, hnew, w'', hresized, -⟩ :
        ∃ w₁ ∈ (World.start Sample.cfg Sample.oneClass).step (Sample.arrive 1 Sample.request),
          ∃ w ∈ checkRun step (fun _ l => l.OfCall 1) w₁ Sample.untilReady, w.replyOf 1 = none ∧
            ∃ w' ∈ w.step (.run 1 {}), w'.replyOf 1 = some (.created Sample.created) ∧
              (w'.procs.lookup 2).isNone ∧ ∃ w'' ∈ w'.step Sample.resized, True := by
      decide +kernel
    have hreplay : Run step (fun _ l => w'.Replays "Bearer token" Sample.request l) w'
        [Sample.resized] w'' :=
      .cons ⟨rfl, 8, 4096, "arm64", rfl⟩ hresized (.nil w'')
    obtain ⟨hcluster, hall⟩ := hreplays _ w₁ w w' 1 _ {} _ harrive
      (.of_checkRun hcall) hpending hanswer hreply spared_oneClass _ w'' hreplay
    have hstarted : w''.procs.lookup 2 ≠ none := by
      obtain ⟨-, rfl⟩ := spawn_eq_some hresized
      simp [AList.lookup_insert]
    exact ⟨w₁, w, w', w'', harrive, .of_checkRun hcall, hanswer, hresized, hcluster,
      (hall 2 (Option.isNone_iff_eq_none.mp hnew) hstarted).2⟩

set_option maxRecDepth 100000 in
theorem replay_of_overwritten_access_is_refused :
    ∃ w, Run step (fun _ _ => True) (World.start Sample.cfg Sample.accessCluster)
        Sample.overwrittenAccess w ∧
      w.replyOf 1 = some (.created Sample.created) ∧
      w.replyOf 2 = some (.error 401 "unauthorized") := by
  refine Run.exists_of_checkRun _ ?_
  decide +kernel

end World

end SandboxProvider
