import SandboxProvider.System.Manager
import SandboxProvider.Verify.Convergence

/-!
# What a Reconcile call has read

A Reconcile call works on what the cache showed when it read. `Reads` says that this is still what the
cache shows, and that it leads to what the call is about to write; a step of the call keeps it
(`reads_of_read`, `reads_of_write`), and so does a change of the cache that does not concern the key
(`SameFor.reads`). A call that ends without an error and without asking to be called again has written
what it concluded, and a write that changes the PodSandbox is a version that the cache has yet to see.
-/

namespace SandboxProvider

open Lib Controller Server

/-! ## Objects up to their version -/

section Content

variable {α : Type} [KubeObject α] {t t' t'' : Table NamespacedName α} {key : NamespacedName} {o : α}

/-- The table shows this object under the key. -/
def Shows (t : Table NamespacedName α) (key : NamespacedName) (o : α) : Prop :=
  (t.get key).map content = some (content o)

/-- The two tables do not differ under the key. -/
def Unchanged (t t' : Table NamespacedName α) (key : NamespacedName) : Prop :=
  (t.get key).map content = (t'.get key).map content

theorem Shows.of_get (h : t.get key = some o) : Shows t key o := by
  rw [Shows, h]
  rfl

theorem Shows.get (h : Shows t key o) : ∃ o', t.get key = some o' ∧ content o' = content o :=
  Option.map_eq_some_iff.mp h

theorem Unchanged.shows (h : Unchanged t t' key) (ho : Shows t key o) : Shows t' key o :=
  h.symm.trans ho

theorem mem_changes [DecidableEq α] (h : ¬ Unchanged t t' key) :
    ⟨t.get key, t'.get key⟩ ∈ changes t t' := by
  have hlisted {s : Table NamespacedName α} {x : α} (hx : s.get key = some x) :
      key ∈ s.list.map fun o => (KubeObject.metadata o).key := by
    have hkey : Keyed.key x = key := Table.key_of_get hx
    refine List.mem_map.mpr ⟨x, Table.mem_list.mpr ?_, hkey⟩
    rw [hkey]
    exact hx
  refine List.mem_filterMap.mpr ⟨key, ?_, if_neg h⟩
  rw [keysOf, List.mem_append]
  cases hold : t.get key with
  | some x => exact .inl (hlisted hold)
  | none =>
    cases hnew : t'.get key with
    | some x => exact .inr (List.mem_filter.mpr ⟨hlisted hnew, by rw [hold]; rfl⟩)
    | none =>
      refine absurd ?_ h
      rw [Unchanged, hold, hnew]

/-- No version to come differs under the key from the one that is shown. -/
def Stable (l : Lagging (Table NamespacedName α)) (key : NamespacedName) : Prop :=
  ∀ t ∈ l.pending, Unchanged l.seen t key

theorem Stable.latest {l : Lagging (Table NamespacedName α)} (h : Stable l key) :
    Unchanged l.seen l.latest key := by
  have hmem : l.latest ∈ l.seen :: l.pending := List.getLast_mem _
  rcases List.mem_cons.mp hmem with heq | hpending
  · rw [heq]
    rfl
  · exact h _ hpending

theorem Stable.of_push {l : Lagging (Table NamespacedName α)} (h : Stable (l.push t) key) :
    Stable l key ∧ Unchanged l.seen t key := by
  refine ⟨fun v hv => h v ?_, h t ?_⟩
  · exact List.mem_append_left _ hv
  · exact List.mem_append_right _ (List.mem_singleton_self t)

theorem Stable.of_advance {l l' : Lagging (Table NamespacedName α)} (hadvance : l.advance = some l')
    (hsame : Unchanged l.seen l'.seen key) (h : Stable l' key) : Stable l key := by
  obtain ⟨next, pending, hpending, rfl⟩ := Lagging.advance_eq_some hadvance
  intro v hv
  rw [hpending] at hv
  rcases List.mem_cons.mp hv with rfl | hv
  · exact hsame
  · exact hsame.trans (h v hv)

end Content

theorem fields_of_content {o o' : PodSandbox} (h : content o = content o') :
    o.metadata.key = o'.metadata.key ∧ o.spec = o'.spec ∧ o.status = o'.status := by
  have hmeta : (content o).metadata.key = (content o').metadata.key := by rw [h]
  have hspec : (content o).spec = (content o').spec := by rw [h]
  have hstatus : (content o).status = (content o').status := by rw [h]
  exact ⟨hmeta, hspec, hstatus⟩

/-! ## What a call concludes -/

/-- A call that found the runner `p` and is not called again: the runner is up to date, and the status says
that it has stopped or that it is ready. -/
def Concluded (o : PodSandbox) (cls : PodSandboxClass) (p : Pod) (status : PodSandboxStatus) : Prop :=
  UpToDate o cls p ∧
    ((Stopped p ∧ ∃ now, status = notReadyStatus now o "RunnerFailed" (stoppedMessage p)) ∨
      (¬ Stopped p ∧ runnerReady p ∧ ∃ now, status = observedStatus now o p))

theorem concluded_content {o : PodSandbox} {cls : PodSandboxClass} {p : Pod} {status : PodSandboxStatus} :
    Concluded (content o) (content cls) (content p) status ↔ Concluded o cls p status :=
  Iff.rfl

theorem Concluded.congr {o o' : PodSandbox} {cls cls' : PodSandboxClass} {p p' : Pod}
    {status : PodSandboxStatus} (h : Concluded o cls p status) (ho : content o' = content o)
    (hcls : content cls' = content cls) (hp : content p' = content p) : Concluded o' cls' p' status := by
  rw [← concluded_content, ho, hcls, hp]
  exact h

/-- The class and the runner that the cluster shows for a PodSandbox lead to a status. -/
def Supports (c : Cluster) (key : NamespacedName) (o : PodSandbox) (status : PodSandboxStatus) : Prop :=
  ∃ cls p, Shows c.classes ⟨"", o.spec.className⟩ cls ∧ Shows c.pods key p ∧ Concluded o cls p status

/-- The status under a key is the one that the cluster leads to. -/
def Reported (c : Cluster) (key : NamespacedName) : Prop :=
  ∀ o, Alive c key o → Supports c key o o.status

/-- What a call that has read a PodSandbox still finds there. -/
def SandboxRead (c : Cluster) (key : NamespacedName) (o : PodSandbox) : Prop :=
  ¬ o.metadata.deletionTimestamp.isSome ∧ Shows c.sandboxes key o

theorem SandboxRead.key_eq {c : Cluster} {key : NamespacedName} {o : PodSandbox}
    (h : SandboxRead c key o) : o.metadata.key = key := by
  obtain ⟨o', hget, hcontent⟩ := h.2.get
  rw [← (fields_of_content hcontent).1]
  exact Table.key_of_get hget

/-- What a state of a call has read is still what the cache shows, and leads to what it is about to
write. Calls that will be made again anyway may be wrong. -/
def Reads (k : Caches) (key : NamespacedName) : ReconcileState → Prop
  | .getSandbox _ => True
  | .getClass _ sandbox | .deleteRunner _ sandbox _ => SandboxRead k.cache key sandbox
  | .getSecret _ sandbox cls =>
    SandboxRead k.cache key sandbox ∧ Shows k.cache.classes ⟨"", sandbox.spec.className⟩ cls
  | .createRunner _ sandbox cls desired | .getRunner _ sandbox cls desired =>
    SandboxRead k.cache key sandbox ∧ Shows k.cache.classes ⟨"", sandbox.spec.className⟩ cls ∧
      desired.metadata.annotations.getD annotationTemplateGeneration = templateGeneration sandbox cls
  | .patchStatus _ base modified _ result =>
    modified.metadata = base.metadata ∧ SandboxRead k.cache key base ∧
      (result.requeues ∨ Supports k.cache key base modified.status)
  | .done _ result => result.requeues ∨ (Stable k.sandboxes key → Reported k.cache key)

section Calls

variable {env : Env} {k : Caches} {key : NamespacedName} {s s' : ReconcileState} {c' : Cluster}
  {out : Outcome}

theorem Refused.requeues {ctx : Ctx} {err : ApiError} (h : Refused env none ctx err) :
    (ignoreNotFound err).requeues = true := by
  unfold ignoreNotFound Result.requeues
  rw [h.isNotFound]
  rfl

theorem reads_inspectRunner {sandbox : PodSandbox} {cls : PodSandboxClass} {desired runner : Pod}
    (hs : Reads k key (.getRunner key sandbox cls desired)) (hget : k.cache.pods.get key = some runner) :
    Reads k key (inspectRunner env.now key sandbox cls desired runner) := by
  obtain ⟨hsandbox, hclass, hdesired⟩ := hs
  unfold inspectRunner
  rw [hdesired]
  split
  · exact hsandbox
  · rename_i hsame
    have hupToDate : UpToDate sandbox cls runner := not_not.mp hsame
    split
    · rename_i hstopped
      exact ⟨rfl, hsandbox, .inr ⟨cls, runner, hclass, .of_get hget,
        hupToDate, .inl ⟨hstopped, env.now, rfl⟩⟩⟩
    · rename_i hrunning
      refine ⟨rfl, hsandbox, ?_⟩
      by_cases hready : runnerReady runner
      · exact .inr ⟨cls, runner, hclass, .of_get hget,
          hupToDate, .inr ⟨hrunning, hready, env.now, rfl⟩⟩
      · rw [if_neg hready]
        exact .inl rfl

/-- A call that reads goes on with what the cache shows. -/
theorem reads_of_read (hread : s.next.writes = false) (hkey : s.key = key) (hs : Reads k key s)
    (h : ReconcileMove env none k.cache s s' c' out) : Reads k key s' := by
  cases h with
  | sandboxFailed h =>
    rcases h with hrefused | ⟨hmissing, -⟩
    · exact .inl hrefused.requeues
    · refine .inr fun _ o ho => ?_
      cases hkey
      exact absurd (ho.1.symm.trans hmissing) (Option.some_ne_none _)
  | sandboxTerminating h hdel =>
    refine .inr fun _ o ho => ?_
    cases hkey
    obtain rfl : _ = o := Option.some.inj (h.symm.trans ho.1)
    exact absurd hdel ho.2
  | sandboxRead h hdel =>
    cases hkey
    exact ⟨hdel, .of_get h⟩
  | classFailed => exact ⟨rfl, hs, .inl rfl⟩
  | secretFailed | secretKeyless | runnerMissing => exact ⟨rfl, hs.1, .inl rfl⟩
  | runnerOwned | runnerUnread => exact .inl rfl
  | classRead h => exact ⟨hs, .of_get h⟩
  | secretRead h hdata hown =>
    refine ⟨hs.1, hs.2, ?_⟩
    rw [setControllerReference_eq_ok hown]
    exact getD_annotationTemplateGeneration ..
  | runnerRead h =>
    cases hkey
    exact reads_inspectRunner hs h
  | runnerFailed | runnerExists | runnerStored | deleteFailed | deleteMissing | deleted | patchFailed
  | patched => cases hread

/-- A status that was written is the one the cache shows, unless a change is still to come. -/
theorem reported_of_patched {base modified o : PodSandbox} {t : Table NamespacedName PodSandbox}
    (hmeta : modified.metadata = base.metadata) (hbase : SandboxRead k.cache key base)
    (hsupports : Supports k.cache key base modified.status)
    (hget : k.store.sandboxes.get modified.metadata.key = some o)
    (hreplaces : k.store.sandboxes.Replaces o
      (withStatus (·.merge (PodSandboxStatus.mergeFrom base.status modified.status)) o) t)
    (hstable : Stable (k.sandboxes.push t) key) : Reported k.cache key := by
  obtain ⟨hbefore, hafter⟩ := hstable.of_push
  obtain ⟨shown, hshown, hcontent⟩ := hbase.2.get
  have hkey : modified.metadata.key = key := by rw [hmeta, hbase.key_eq]
  rw [hkey] at hget
  -- the store held what the call had read, so the patch stores exactly the modified status
  have hstored : content o = content shown := by
    have hlatest : Unchanged k.cache.sandboxes k.store.sandboxes key := hbefore.latest
    rw [Unchanged, hshown, hget] at hlatest
    exact (Option.some.inj hlatest).symm
  have hstatus : o.status = base.status := (fields_of_content (hstored.trans hcontent)).2.2
  have hself : t.get key = some
      (withStatus (·.merge (PodSandboxStatus.mergeFrom base.status modified.status)) o) := by
    have hokey : Keyed.key o = key := Table.key_of_get hget
    rw [← hokey]
    exact hreplaces.get_self
  have hwritten : shown.status = modified.status := by
    have hsame : Unchanged k.cache.sandboxes t key := hafter
    rw [Unchanged, hshown, hself] at hsame
    have hmerge : shown.status =
        o.status.merge (PodSandboxStatus.mergeFrom base.status modified.status) :=
      (fields_of_content (Option.some.inj hsame)).2.2
    rw [hmerge, hstatus, PodSandboxStatus.merge_mergeFrom_self]
  intro x hx
  obtain rfl : shown = x := Option.some.inj (hshown.symm.trans hx.1)
  obtain ⟨cls, p, hcls, hp, hconcluded⟩ := hsupports
  have hspec : shown.spec = base.spec := (fields_of_content hcontent).2.1
  rw [hwritten]
  refine ⟨cls, p, ?_, hp, hconcluded.congr hcontent rfl rfl⟩
  rw [hspec]
  exact hcls

/-- A call that writes: what it writes is a new version of the store, and the cache stays. -/
theorem reads_of_write (hwrite : s.next.writes = true) (hs : Reads k key s)
    (h : ReconcileMove env none k.store s s' c' out) : Reads (k.push c') key s' := by
  cases h with
  | runnerFailed => exact ⟨rfl, hs.1, .inl rfl⟩
  | deleteFailed | deleteMissing | deleted => exact ⟨rfl, hs, .inl rfl⟩
  | runnerExists => exact hs
  | runnerStored => exact hs
  | patchFailed h =>
    obtain ⟨hmeta, hbase, -⟩ := hs
    rcases h with hrefused | ⟨hmissing, -⟩
    · exact .inl hrefused.requeues
    · -- the PodSandbox is gone, which the cache has not seen yet
      refine .inr fun hstable => ?_
      have hlatest : Unchanged k.cache.sandboxes k.store.sandboxes key := hstable.of_push.1.latest
      obtain ⟨o, ho, -⟩ := (hlatest.shows hbase.2).get
      rw [hmeta, hbase.key_eq] at hmissing
      exact absurd (ho.symm.trans hmissing) (Option.some_ne_none _)
  | patched hget hreplaces =>
    obtain ⟨hmeta, hbase, hrequeues | hsupports⟩ := hs
    · exact .inl hrequeues
    · exact .inr (reported_of_patched hmeta hbase hsupports hget hreplaces)
  | sandboxFailed | sandboxTerminating | sandboxRead | classFailed | classRead | secretFailed
  | secretKeyless | runnerOwned | secretRead | runnerUnread | runnerMissing | runnerRead => cases hwrite

theorem Reads.push (hs : Reads k key s) (c : Cluster) : Reads (k.push c) key s := by
  cases s with
  | done k result => exact hs.imp_right fun hreported hstable => hreported hstable.of_push.1
  | getSandbox | getClass | getSecret | createRunner | getRunner | deleteRunner | patchStatus => exact hs

end Calls

/-! ## Caches that show the same -/

/-- The two clusters show the same PodSandbox under the key, the same Pod and the same class. -/
structure SameFor (key : NamespacedName) (c c' : Cluster) : Prop where
  sandbox : Unchanged c.sandboxes c'.sandboxes key
  pod : Unchanged c.pods c'.pods key
  sandboxClass : ∀ o, Shows c.sandboxes key o → Unchanged c.classes c'.classes ⟨"", o.spec.className⟩

section Same

variable {key : NamespacedName} {c c' : Cluster} {k k' : Caches}

theorem SameFor.sandboxRead (h : SameFor key c c') {o : PodSandbox} (ho : SandboxRead c key o) :
    SandboxRead c' key o :=
  ⟨ho.1, h.sandbox.shows ho.2⟩

theorem SameFor.supports (h : SameFor key c c') {o : PodSandbox} {status : PodSandboxStatus}
    (ho : Shows c.sandboxes key o) (hs : Supports c key o status) : Supports c' key o status := by
  obtain ⟨cls, p, hcls, hp, hconcluded⟩ := hs
  exact ⟨cls, p, (h.sandboxClass o ho).shows hcls, h.pod.shows hp, hconcluded⟩

theorem SameFor.reported (h : SameFor key c c') (hc : Reported c key) : Reported c' key := by
  intro o' ho'
  obtain ⟨o, ho, hcontent⟩ := (Unchanged.shows h.sandbox.symm (.of_get ho'.1)).get
  obtain ⟨-, hspec, hstatus⟩ := fields_of_content hcontent
  have halive : Alive c key o := by
    refine ⟨ho, ?_⟩
    have hdel : (content o).metadata.deletionTimestamp = (content o').metadata.deletionTimestamp := by
      rw [hcontent]
    exact fun hsome => ho'.2 (hdel ▸ hsome)
  obtain ⟨cls, p, hcls, hp, hconcluded⟩ := h.supports (.of_get ho) (hc o halive)
  rw [hspec] at hcls
  rw [hstatus] at hconcluded
  exact ⟨cls, p, hcls, hp, hconcluded.congr hcontent.symm rfl rfl⟩

theorem SameFor.reads (h : SameFor key k.cache k'.cache)
    (hstable : Stable k'.sandboxes key → Stable k.sandboxes key) {s : ReconcileState}
    (hs : Reads k key s) : Reads k' key s := by
  cases s with
  | getSandbox => trivial
  | getClass | deleteRunner => exact h.sandboxRead hs
  | getSecret => exact ⟨h.sandboxRead hs.1, (h.sandboxClass _ hs.1.2).shows hs.2⟩
  | createRunner | getRunner =>
    exact ⟨h.sandboxRead hs.1, (h.sandboxClass _ hs.1.2).shows hs.2.1, hs.2.2⟩
  | patchStatus => exact ⟨hs.1, h.sandboxRead hs.2.1, hs.2.2.imp_right (h.supports hs.2.1.2)⟩
  | done => exact hs.imp_right fun hreported hs' => h.reported (hreported (hstable hs'))

/-- The requests of a notice depend on the PodSandbox under a key only. -/
theorem mem_requests_congr {t t' : Table NamespacedName PodSandbox} (h : Unchanged t t' key)
    {notice : Notice} (hmem : key ∈ notice.requests (.ok t.list)) :
    key ∈ notice.requests (.ok t'.list) := by
  cases notice with
  | sandbox | pod => exact hmem
  | sandboxClass change =>
    obtain ⟨object, hobject, hlisted⟩ := List.mem_flatMap.mp hmem
    obtain ⟨o, ho, hclass, hkey⟩ := mem_sandboxesForClass.mp hlisted
    have hget : t.get o.metadata.key = some o := Table.mem_list.mp ho
    rw [hkey] at hget
    obtain ⟨o', ho', hcontent⟩ := (h.shows (.of_get hget)).get
    obtain ⟨hkey', hspec, -⟩ := fields_of_content hcontent
    refine List.mem_flatMap.mpr ⟨object, hobject, mem_sandboxesForClass.mpr ⟨o', ?_, ?_, ?_⟩⟩
    · have hself : Keyed.key o' = key := Table.key_of_get ho'
      exact Table.mem_list.mpr (hself ▸ ho')
    · rw [hspec, hclass]
    · rw [hkey', hkey]

/-- One of two objects that differ is there. -/
theorem exists_of_changed {α : Type} [KubeObject α] {t t' : Table NamespacedName α}
    (h : ¬ Unchanged t t' key) :
    ∃ o ∈ (Change.mk (t.get key) (t'.get key)).objects, t.get key = some o ∨ t'.get key = some o := by
  cases hold : t.get key with
  | some o => exact ⟨o, by simp [Change.objects], .inl rfl⟩
  | none =>
    cases hnew : t'.get key with
    | some o => exact ⟨o, by simp [Change.objects], .inr rfl⟩
    | none => exact absurd (by rw [Unchanged, hold, hnew]) h

theorem mem_requests_sandbox {t t' : Table NamespacedName PodSandbox} (h : ¬ Unchanged t t' key)
    (listed : Except ApiError (List PodSandbox)) :
    key ∈ (Notice.sandbox ⟨t.get key, t'.get key⟩).requests listed := by
  have hor : ∃ o, (t'.get key).or (t.get key) = some o ∧ o.metadata.key = key := by
    cases hnew : t'.get key with
    | some o => exact ⟨o, rfl, Table.key_of_get hnew⟩
    | none =>
      cases hold : t.get key with
      | some o => exact ⟨o, rfl, Table.key_of_get hold⟩
      | none => exact absurd (by rw [Unchanged, hold, hnew]) h
  obtain ⟨o, ho, hkey⟩ := hor
  simp only [Notice.requests, ho, Option.toList_some, List.map_cons, List.map_nil,
    List.mem_singleton]
  exact hkey.symm

theorem mem_requests_class {t t' : Table NamespacedName PodSandboxClass} {o : PodSandbox}
    (h : ¬ Unchanged t t' ⟨"", o.spec.className⟩) (ho : Shows c.sandboxes key o) :
    key ∈ (Notice.sandboxClass ⟨t.get ⟨"", o.spec.className⟩, t'.get ⟨"", o.spec.className⟩⟩).requests
      (.ok c.sandboxes.list) := by
  obtain ⟨cls, hmem, hget⟩ := exists_of_changed h
  have hname : cls.metadata.key = ⟨"", o.spec.className⟩ := by
    rcases hget with hget | hget
    · exact Table.key_of_get hget
    · exact Table.key_of_get hget
  obtain ⟨o', ho', hcontent⟩ := ho.get
  have hself : o'.metadata.key = key := Table.key_of_get ho'
  refine List.mem_flatMap.mpr ⟨cls, hmem, mem_sandboxesForClass.mpr ⟨o', ?_, ?_, hself⟩⟩
  · rw [Table.mem_list]
    exact (congrArg c.sandboxes.get hself).trans ho'
  · rw [(fields_of_content hcontent).2.1]
    exact (congrArg NamespacedName.name hname).symm

end Same

end SandboxProvider
