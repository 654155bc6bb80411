import SandboxProvider.System.Cached
import SandboxProvider.System.World

/-!
# A create and the reads behind it

createSandbox reads its own PodSandbox back in its first poll, from a cache that need not have seen it:
then the poll fails with NotFound, and the call answers 500 and deletes what it has just created. If the
cache has seen the PodSandbox by the first poll (`CachedCall.CaughtUp`), no later poll misses it, and
only a failed runner ends the call that way.
-/

namespace SandboxProvider.CachedCall

open Lib Server

/-! ## The runs -/

/-- No call fails, except for a read of something that the cache has not seen, and nobody deletes the
PodSandbox under `key`. -/
def Undisturbed (key : NamespacedName) (w : CachedCall) : CachedLabel → Prop
  | .run env => env.fault = none ∧
      (w.state.next.writes = true →
        ∀ r ∈ w.state.next.cachedStep env none w.caches, r.2.2.toBool = true)
  | .sync _ => True
  | .outside f => (w.caches.store.sandboxes.get key).isSome = true →
      ((f w.caches.store).sandboxes.get key).isSome = true

/-- The call is about to read back what it created. -/
def firstPoll (w : CachedCall) : Bool :=
  match w.state with
  | .poll _ _ true => !w.found
  | _ => false

/-- Besides, the cache has seen the PodSandbox by the first poll after its creation. -/
def CaughtUp (key : NamespacedName) (w : CachedCall) : CachedLabel → Prop
  | .run env => w.Undisturbed key (.run env) ∧
      (w.firstPoll = true → (w.caches.sandboxes.seen.get key).isSome = true)
  | .sync kind => w.Undisturbed key (.sync kind)
  | .outside f => w.Undisturbed key (.outside f)

instance (key : NamespacedName) (w : CachedCall) : (l : CachedLabel) →
    Decidable (w.Undisturbed key l)
  | .run env => inferInstanceAs (Decidable (env.fault = none ∧ (w.state.next.writes = true →
      ∀ r ∈ w.state.next.cachedStep env none w.caches, r.2.2.toBool = true)))
  | .sync _ => isTrue trivial
  | .outside f => inferInstanceAs (Decidable ((w.caches.store.sandboxes.get key).isSome = true →
      ((f w.caches.store).sandboxes.get key).isSome = true))

instance (key : NamespacedName) (w : CachedCall) : (l : CachedLabel) → Decidable (w.CaughtUp key l)
  | .run env => inferInstanceAs (Decidable (w.Undisturbed key (.run env) ∧
      (w.firstPoll = true → (w.caches.sandboxes.seen.get key).isSome = true)))
  | .sync kind => inferInstanceAs (Decidable (w.Undisturbed key (.sync kind)))
  | .outside f => inferInstanceAs (Decidable (w.Undisturbed key (.outside f)))

/-- Some version of the PodSandbox says that its runner failed. -/
def RunnerFailed (key : NamespacedName) (w : CachedCall) : Prop :=
  ∃ t ∈ w.caches.sandboxes.versions, (t.get key).any runnerFailed = true

instance (key : NamespacedName) (w : CachedCall) : Decidable (w.RunnerFailed key) :=
  inferInstanceAs (Decidable (∃ t ∈ w.caches.sandboxes.versions, (t.get key).any runnerFailed = true))

/-- No version from the cache to the store holds the PodSandbox. -/
def Fresh (key : NamespacedName) (k : Caches) : Prop :=
  ∀ t ∈ k.sandboxes.seen :: k.sandboxes.pending, t.get key = none

/-! ## What a run keeps -/

/-- Where the call can be as long as no runner failed. -/
def Expected (key : NamespacedName) (found : Bool) : CreateState → Prop
  | .getClass access body =>
    ∃ request, body = .ok request ∧ key = ⟨access.ns, sandboxName request.sandboxID⟩
  | .getSandbox job | .createSecret job | .createSandbox job _ | .updateSecret job _ _ =>
    job.key = key
  | .poll job _ createdHere => job.key = key ∧ (createdHere = false → found = true)
  | .wait job _ _ => job.key = key ∧ found = true
  | .done _ _ reply | .rejected reply => reply.status ≠ 500
  | .deleteSecret .. | .rollback .. => False

theorem Expected.status_ne {key : NamespacedName} {found : Bool} {s : CreateState} {reply : Reply}
    (h : Expected key found s) (hreply : s.reply = some reply) : reply.status ≠ 500 := by
  cases s with
  | done =>
    cases hreply
    exact h
  | rejected =>
    cases hreply
    exact h
  | rollback => exact h.elim
  | _ => cases hreply

structure Healthy (key : NamespacedName) (w : CachedCall) : Prop where
  state : Expected key w.found w.state
  /-- Once there, the PodSandbox is there in every later version. -/
  keeps : w.caches.sandboxes.Keeps fun t => (t.get key).isSome = true
  found : w.found = true → (w.caches.sandboxes.seen.get key).isSome = true
  writes : ∀ o, .deleteSandbox o ∉ w.writes

section Step

variable {key : NamespacedName} {w w' : CachedCall} {l : CachedLabel}

theorem RunnerFailed.step (h : w.RunnerFailed key) (hmove : Moves w l w') :
    w'.RunnerFailed key := by
  obtain ⟨t, ht, hfailed⟩ := h
  refine ⟨t, ?_, hfailed⟩
  cases hmove with
  | read => exact ht
  | write => exact Lagging.mem_versions_push ht _
  | outside => exact Lagging.mem_versions_push ht _
  | @sync kind k hsync =>
    show t ∈ k.sandboxes.versions
    rcases Caches.sync_sandboxes hsync with hsame | hadvance
    · rw [hsame]
      exact ht
    · rw [Lagging.versions_advance hadvance]
      exact ht

/-- The first poll, and every later one, finds the PodSandbox. -/
theorem Healthy.seen_of_poll (h : w.Healthy key) {job : Job} {sandbox : PodSandbox}
    {createdHere : Bool} (hstate : w.state = .poll job sandbox createdHere)
    (hcaught : w.firstPoll = true → (w.caches.sandboxes.seen.get key).isSome = true) :
    (w.caches.sandboxes.seen.get key).isSome = true := by
  have hexpected := h.state
  rw [hstate] at hexpected
  cases hfound : w.found with
  | true => exact h.found hfound
  | false =>
    cases createdHere with
    | true => exact hcaught (by simp [firstPoll, hstate, hfound])
    | false =>
      have htrue := hexpected.2 rfl
      rw [hfound] at htrue
      cases htrue

/-- The call's own step, given what it changes. -/
theorem Healthy.next (h : w.Healthy key) {k : Caches} {s' : CreateState} {out : Outcome}
    (hstate : Expected key (w.found || (w.state.readsSandbox && out.toBool)) s')
    (hkeeps : k.sandboxes.Keeps fun t => (t.get key).isSome = true)
    (hseen : k.sandboxes.seen = w.caches.sandboxes.seen)
    (hfound : w.state.readsSandbox = true → out.toBool = true →
      (w.caches.sandboxes.seen.get key).isSome = true)
    (hwrites : ∀ o, .deleteSandbox o ∉ out.writes) : (w.next k s' out).Healthy key where
  state := hstate
  keeps := hkeeps
  found hnow := by
    show (k.sandboxes.seen.get key).isSome = true
    rw [hseen]
    rcases (Bool.or_eq_true _ _).mp hnow with hbefore | hnow
    · exact h.found hbefore
    · rw [Bool.and_eq_true] at hnow
      exact hfound hnow.1 hnow.2
  writes o hmem := by
    rcases List.mem_append.mp hmem with hnew | hold
    · exact hwrites o hnew
    · exact h.writes o hold

/-- A step that writes nothing. -/
theorem Healthy.stay (h : w.Healthy key) {s' : CreateState} {out : Outcome} (hout : out.writes = [])
    (hstate : Expected key (w.found || (w.state.readsSandbox && out.toBool)) s')
    (hfound : w.state.readsSandbox = true → out.toBool = true →
      (w.caches.sandboxes.seen.get key).isSome = true) : (w.next w.caches s' out).Healthy key := by
  refine h.next hstate h.keeps rfl hfound fun o => ?_
  rw [hout]
  exact List.not_mem_nil

/-- A poll that finds the PodSandbox: ready, failed or neither. -/
theorem Healthy.poll (h : w.Healthy key) {job : Job} {sandbox o : PodSandbox} {createdHere : Bool}
    (hstate : w.state = .poll job sandbox createdHere)
    (hget : w.caches.sandboxes.seen.get key = some o) :
    (w.next w.caches (afterPoll job createdHere o) (.ok [])).Healthy key ∨
      (w.next w.caches (afterPoll job createdHere o) (.ok [])).RunnerFailed key := by
  have hexpected := h.state
  rw [hstate] at hexpected
  have hsome : (w.caches.sandboxes.seen.get key).isSome = true := by
    rw [hget]
    rfl
  obtain ⟨-, he⟩ | ⟨message, hfailed, -⟩ | he := afterPoll_cases job createdHere o
  · have hstatus : (201 : Nat) ≠ 500 := by decide
    rw [he]
    exact .inl (h.stay rfl hstatus fun _ _ => hsome)
  · refine .inr ⟨_, Lagging.seen_mem_versions _, ?_⟩
    show (w.caches.sandboxes.seen.get key).any runnerFailed = true
    rw [hget]
    exact hfailed
  · rw [he]
    refine .inl (h.stay rfl ⟨hexpected.1, ?_⟩ fun _ _ => hsome)
    rw [hstate]
    exact Bool.or_true _

theorem Healthy.read (h : w.Healthy key) {env : Env} {s' : CreateState} {c' : Cluster}
    {out : Outcome} (hfault : env.fault = none)
    (hcaught : w.firstPoll = true → (w.caches.sandboxes.seen.get key).isSome = true)
    (hread : w.state.next.writes = false)
    (hmove : CreateMove env none w.caches.cache w.state s' c' out) :
    (w.next w.caches s' out).Healthy key ∨ (w.next w.caches s' out).RunnerFailed key := by
  obtain ⟨k, s, found, writes⟩ := w
  have hexpected := h.state
  simp only at hmove hread hexpected
  have hsome {job : Job} {o : PodSandbox} (hkey : job.key = key)
      (hget : k.sandboxes.seen.get job.key = some o) :
      (k.sandboxes.seen.get key).isSome = true := by
    rw [← hkey, hget]
    rfl
  cases hmove with
  | classFailed =>
    have hstatus : (503 : Nat) ≠ 500 := by decide
    exact .inl (h.stay rfl hstatus fun hreads => by cases hreads)
  | @classRead access body o hclass =>
    refine .inl (h.stay rfl ?_ fun hreads => by cases hreads)
    obtain ⟨request, rfl, hkey⟩ := hexpected
    obtain ⟨reply, hstatus, he⟩ | ⟨request', hbody, -, -, -, he⟩ := prepare_cases access (.ok request)
    · rw [he]
      show reply.status ≠ 500
      rw [hstatus]
      decide
    · cases hbody
      rw [he]
      exact hkey.symm
  | sandboxUnread hrefused => exact absurd hrefused (not_refused hfault)
  | sandboxMissing hget => exact .inl (h.stay rfl hexpected fun _ hok => by cases hok)
  | sandboxFound hget hid =>
    have hnow : (found || true) = true := Bool.or_true _
    exact .inl (h.stay rfl ⟨hexpected, fun _ => hnow⟩ fun _ _ => hsome hexpected hget)
  | sandboxConflict hget hid =>
    have hstatus : (409 : Nat) ≠ 500 := by decide
    exact .inl (h.stay rfl hstatus fun _ _ => hsome hexpected hget)
  | pollFailed hfails =>
    rcases hfails with hrefused | ⟨hnone, -⟩
    · exact absurd hrefused (not_refused hfault)
    · have hseen := h.seen_of_poll rfl hcaught
      rw [← hexpected.1, show k.sandboxes.seen.get _ = none from hnone] at hseen
      cases hseen
  | polled hget =>
    rw [hexpected.1] at hget
    exact h.poll rfl hget
  | expired hexpired => cases hexpired
  | ticked =>
    refine .inl (h.stay rfl ⟨hexpected.1, fun _ => ?_⟩ fun hreads => by cases hreads)
    rw [show found = true from hexpected.2]
    rfl
  | _ => cases hread

theorem Healthy.write (h : w.Healthy key) {env : Env} {s' : CreateState} {c' : Cluster}
    {out : Outcome} (hok : out.toBool = true) (hwrite : w.state.next.writes = true)
    (hmove : CreateMove env none w.caches.store w.state s' c' out) :
    (w.next (w.caches.push c') s' out).Healthy key := by
  obtain ⟨k, s, found, writes⟩ := w
  have hexpected := h.state
  simp only at hmove hwrite hexpected
  have hsame : (k.sandboxes.push k.store.sandboxes).Keeps fun t => (t.get key).isSome = true :=
    h.keeps.push id
  cases hmove with
  | secretStored =>
    exact h.next hexpected hsame rfl (fun hreads => by cases hreads) (by simp [Outcome.writes])
  | @sandboxStored job secret t hstores =>
    have hkey : job.key = key := hexpected
    have hthere : (t.get key).isSome = true := by
      rw [← hkey]
      exact Option.isSome_iff_exists.mpr ⟨_, hstores.get_self⟩
    have hkeeps : (k.sandboxes.push t).Keeps fun t => (t.get key).isSome = true :=
      h.keeps.push fun _ => hthere
    obtain ⟨owned, -, he⟩ | he := adopt_cases job (asCreated env.uid job.sandbox) secret
    · rw [he]
      exact h.next hkey hkeeps rfl (fun hreads => by cases hreads) (by simp [Outcome.writes])
    · rw [he]
      refine h.next ⟨hkey, fun hfalse => by cases hfalse⟩ hkeeps rfl
        (fun hreads => by cases hreads) (by simp [Outcome.writes])
  | secretOwned =>
    exact h.next ⟨hexpected, fun hfalse => by cases hfalse⟩ hsame rfl
      (fun hreads => by cases hreads) (by simp [Outcome.writes])
  | secretDeleted => exact hexpected.elim
  | rolledBack => exact hexpected.elim
  | secretFailed => cases hok
  | secretExists => cases hok
  | sandboxFailed => cases hok
  | secretKept => cases hok
  | secretUnowned => cases hok
  | rollbackFailed => cases hok
  | _ => cases hwrite

/-- One step keeps the call healthy, or a runner failed. -/
theorem Healthy.step (h : w.Healthy key) (hok : w.CaughtUp key l) (hmove : Moves w l w') :
    w'.Healthy key ∨ w'.RunnerFailed key := by
  cases hmove with
  | read hread hown => exact h.read hok.1.1 hok.2 hread hown
  | write hwrite hstep hown => exact .inl (h.write (hok.1.2 hwrite _ hstep) hwrite hown)
  | @sync kind k hsync =>
    refine .inl ?_
    rcases Caches.sync_sandboxes hsync with hsame | hadvance
    · refine ⟨h.state, ?_, ?_, h.writes⟩
      · rw [hsame]
        exact h.keeps
      · rw [hsame]
        exact h.found
    · exact ⟨h.state, h.keeps.advance hadvance,
        fun hfound => h.keeps.seen_advance hadvance (h.found hfound), h.writes⟩
  | outside => exact .inl ⟨h.state, h.keeps.push hok, h.found, h.writes⟩

end Step

theorem Healthy.start {key : NamespacedName} {k : Caches} {access : AuthorizedAccess}
    {request : CreateSandboxRequest} (hkey : key = ⟨access.ns, sandboxName request.sandboxID⟩)
    (hfresh : Fresh key k) : (CachedCall.start k access request).Healthy key where
  state := ⟨request, rfl, hkey⟩
  keeps := by
    refine .of_not fun t ht => ?_
    rw [hfresh t ht]
    exact Bool.false_ne_true
  found hfound := by cases hfound
  writes _ := List.not_mem_nil

/-- Only a failed runner makes the call answer 500 or delete a PodSandbox, however far the caches lag
behind otherwise. -/
theorem create_survives_lag (k : Caches) (access : AuthorizedAccess)
    (request : CreateSandboxRequest) (key : NamespacedName)
    (hkey : key = ⟨access.ns, sandboxName request.sandboxID⟩) (hfresh : Fresh key k)
    (ls : List CachedLabel) (w : CachedCall)
    (h : Run step (CaughtUp key) (start k access request) ls w) :
    (∀ message, w.state.reply = some (.error 500 message) → w.RunnerFailed key) ∧
      (∀ o, .deleteSandbox o ∈ w.writes → w.RunnerFailed key) := by
  have hinv := h.invariant (fun w => w.Healthy key ∨ w.RunnerFailed key)
    (fun w l w' hi hok hstep => by
      rcases hi with hhealthy | hfailed
      · exact hhealthy.step hok (moves hstep)
      · exact .inr (hfailed.step (moves hstep)))
    (.inl (.start hkey hfresh))
  rcases hinv with hhealthy | hfailed
  · refine ⟨fun message hreply => ?_, fun o ho => absurd ho (hhealthy.writes o)⟩
    exact absurd rfl (hhealthy.state.status_ne hreply)
  · exact ⟨fun _ _ => hfailed, fun _ _ => hfailed⟩

/-! ## Two runs -/

section Sample

/-- The access of the provider's own token. -/
def sampleAccess : AuthorizedAccess := ⟨"kata", "provider"⟩

/-- Nothing but a class is stored, and the caches know. -/
def sampleStart : CachedCall := start (.synced Sample.oneClass) sampleAccess Sample.request

/-- The call up to its polling loop. -/
def createRun : List CachedLabel :=
  [.run {}, .run {}, .run { uid := 1 }, .run { uid := 1 }, .run {}]

def failedStatus : PodSandboxStatus where
  conditions := [{ type := ConditionReady, status := .false, reason := "RunnerFailed" }]

/-- The reconciler reports that the runner failed. -/
def reportFailure (c : Cluster) : Cluster :=
  { c with
    sandboxes := modifyObject c.sandboxes Sample.key (withStatus fun _ => failedStatus)
      fun _ => ⟨rfl, rfl⟩ }

/-- The cache follows, and the call reads that its runner failed. -/
def failedRun : List CachedLabel :=
  createRun ++ [.sync .sandboxes, .sync .sandboxes, .sync .sandboxes, .run {}, .run {},
    .outside reportFailure, .sync .sandboxes, .run {}]

/-- The call polls before the cache has seen its PodSandbox, and deletes it. -/
def laggingRun : List CachedLabel := createRun ++ [.run {}, .run {}]

theorem fresh_sampleStart : Fresh Sample.key sampleStart.caches := by
  intro t ht
  rw [List.mem_singleton.mp ht]
  rfl

set_option maxRecDepth 100000 in
theorem failed_runner_ends_create :
    ∃ w, Run step (CaughtUp Sample.key) sampleStart failedRun w ∧
      w.state.reply = some (.error 500 "") ∧ w.RunnerFailed Sample.key := by
  obtain ⟨w, hrun, hreply⟩ := Run.exists_of_checkRun
    (fun w : CachedCall => w.state.reply = some (.error 500 ""))
    (show (checkRun step (CaughtUp Sample.key) sampleStart failedRun).any _ = true by
      decide +kernel)
  have hlag := create_survives_lag _ _ _ Sample.key rfl fresh_sampleStart _ _ hrun
  exact ⟨w, hrun, hreply, hlag.1 "" hreply⟩

/-- The PodSandbox that a write stores or removes. -/
def created : Write → Option PodSandbox
  | .createSandbox o => some o
  | _ => none

def deleted : Write → Option PodSandbox
  | .deleteSandbox o => some o
  | _ => none

theorem mem_of_created {ws : List Write} {o : PodSandbox} (h : o ∈ ws.filterMap created) :
    .createSandbox o ∈ ws := by
  obtain ⟨x, hx, ho⟩ := List.mem_filterMap.mp h
  unfold created at ho
  split at ho
  · cases ho
    exact hx
  · cases ho

theorem mem_of_deleted {ws : List Write} {o : PodSandbox} (h : o ∈ ws.filterMap deleted) :
    .deleteSandbox o ∈ ws := by
  obtain ⟨x, hx, ho⟩ := List.mem_filterMap.mp h
  unfold deleted at ho
  split at ho
  · cases ho
    exact hx
  · cases ho

set_option maxRecDepth 100000 in
theorem lagging_cache_undoes_create :
    Fresh Sample.key sampleStart.caches ∧
      sampleStart.caches.cache.secrets.get ⟨"provider", secretName Sample.key.name⟩ = none ∧
      sampleStart.caches.store.secrets.get ⟨"provider", secretName Sample.key.name⟩ = none ∧
      ∃ w, Run step (Undisturbed Sample.key) sampleStart laggingRun w ∧
        w.state.reply.map Reply.status = some 500 ∧
        (∃ o o', .createSandbox o ∈ w.writes ∧ .deleteSandbox o' ∈ w.writes ∧
          o'.metadata.uid = o.metadata.uid) ∧
        ¬ w.RunnerFailed Sample.key := by
  refine ⟨fresh_sampleStart, rfl, rfl, ?_⟩
  obtain ⟨w, hrun, hreply, ⟨o, hcreated, o', hdeleted, huid⟩, hfailed⟩ := Run.exists_of_checkRun
    (fun w : CachedCall =>
      w.state.reply.map Reply.status = some 500 ∧
      (∃ o ∈ w.writes.filterMap created, ∃ o' ∈ w.writes.filterMap deleted,
        o'.metadata.uid = o.metadata.uid) ∧
      ¬ w.RunnerFailed Sample.key)
    (show (checkRun step (Undisturbed Sample.key) sampleStart laggingRun).any _ = true by
      decide +kernel)
  exact ⟨w, hrun, hreply, ⟨o, o', mem_of_created hcreated, mem_of_deleted hdeleted, huid⟩, hfailed⟩

end Sample

end SandboxProvider.CachedCall
