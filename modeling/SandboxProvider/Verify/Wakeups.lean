import SandboxProvider.Verify.Freshness

/-!
# No wake-up is lost

A key may be idle for as long as nothing is reported about it. So whatever its calls have read must stay as
it is in the cache, unless the key waits again (`Fresh`): every change of a PodSandbox, of its Pod and of
its class is reported, is mapped to the key, and is kept by the queue while a worker has the key. When
nothing is left to do, every status is what Reconcile concludes from the stored PodSandbox, class and Pod
(`idle_statuses_are_current`).

Two things have to be given for that. A change of a Pod is mapped to the PodSandbox that controls it, so
the Pods under the name of a PodSandbox have to be controlled by it. And `sandboxesForClass` drops the
error of its `List`, and with it the requests for the PodSandboxes of the class, so this must not fail.
-/

namespace SandboxProvider

open Lib Controller Server

/-! ## Pods name their PodSandbox -/

/-- The Pod under the key is controlled by the PodSandbox of its name. -/
def OwnedPod (t : Table NamespacedName Pod) (key : NamespacedName) : Prop :=
  ∀ p, t.get key = some p → ownerRequest p = some key

/-- The Pod that a call is going to create is. -/
def Controller.ReconcileState.Made (s : ReconcileState) : Prop :=
  ∀ desired, s.desired = some desired → ownerRequest desired = some desired.metadata.key

section Owned

variable {env : Env} {c c' : Cluster} {s s' : ReconcileState} {out : Outcome}

theorem mem_requests_pod {t t' : Table NamespacedName Pod} {key : NamespacedName}
    (h : ¬ Unchanged t t' key) (ht : OwnedPod t key) (ht' : OwnedPod t' key)
    (listed : Except ApiError (List PodSandbox)) :
    key ∈ (Notice.pod ⟨t.get key, t'.get key⟩).requests listed := by
  obtain ⟨p, hmem, hget⟩ := exists_of_changed h
  refine List.mem_filterMap.mpr ⟨p, hmem, ?_⟩
  rcases hget with hget | hget
  · exact ht p hget
  · exact ht' p hget

theorem ownerRequest_controlledBy (o : PodSandbox) (cls : PodSandboxClass) :
    ownerRequest (controlledBy o (desiredRunner o cls)) =
      some (controlledBy o (desiredRunner o cls)).metadata.key :=
  rfl

theorem Controller.ReconcileMove.made (h : ReconcileMove env none c s s' c' out)
    (hs : s.Made) : s'.Made := by
  intro desired hdesired
  obtain ⟨-, -, hd | ⟨d, hd, rfl, -⟩ | ⟨o, cls, -, rfl⟩⟩ := h.desired_cases hdesired
  · exact hs desired hd
  · exact hs d hd
  · exact ownerRequest_controlledBy o cls

theorem OwnedPod.deletePodIn {t : Table NamespacedName Pod} {key : NamespacedName}
    (h : OwnedPod t key) (env : Env) (k : NamespacedName) : OwnedPod (deletePodIn env t k) key := by
  intro p hp
  unfold SandboxProvider.deletePodIn at hp
  split at hp
  · refine h p ?_
    have herase : (t.erase k).get key = if key = k then none else t.get key :=
      lookup_erase_ite t.entries k key
    rw [herase] at hp
    split at hp
    · cases hp
    · exact hp
  · cases hget : t.get k with
    | none =>
      rw [modifyObject_of_none _ _ hget] at hp
      exact h p hp
    | some o =>
      rcases (replaces_modifyObject (markDeleted env.now) _ hget).of_get hp with ⟨hk, rfl⟩ | ⟨-, hold⟩
      · have hkey : key = k := hk.trans (Table.key_of_get hget)
        rw [← hkey] at hget
        exact h o hget
      · exact h p hold

theorem Controller.ReconcileMove.ownedPod (h : ReconcileMove env none c s s' c' out) (hs : s.Made)
    {key : NamespacedName} (hc : OwnedPod c.pods key) : OwnedPod c'.pods key := by
  cases h.pods with
  | same hsame =>
    rw [hsame]
    exact hc
  | @stored k o cls desired hstores =>
    intro p hp
    have hmade : ownerRequest (asCreated env.uid desired) = some (asCreated env.uid desired).metadata.key :=
      hs desired rfl
    rcases hstores.of_get hp with ⟨rfl, rfl⟩ | ⟨-, hold⟩
    · exact hmade
    · exact hc p hold
  | deleted hget heq =>
    rw [heq]
    exact hc.deletePodIn env _

end Owned

/-! ## Every step keeps keys awake -/

namespace Manager

/-- A request for the key waits, or a notice that leads to one. -/
def Awake (m : Manager) (key : NamespacedName) : Prop :=
  m.queue.Waits key ∨ ∃ notice ∈ m.notices, key ∈ notice.requests (.ok m.caches.cache.sandboxes.list)

/-- The workers hold their keys alone, and what they create is controlled by the PodSandbox. -/
structure Sound (m : Manager) : Prop where
  locked : ∀ {a w}, m.workers.lookup a = some w → w.key ∈ m.queue.locked
  alone : ∀ {a a' w w'}, m.workers.lookup a = some w → m.workers.lookup a' = some w' →
    w.key = w'.key → a = a'
  keyed : ∀ {a w}, m.workers.lookup a = some w → w.state.key = w.key
  made : ∀ {a w}, m.workers.lookup a = some w → w.state.Made

/-- What the calls of a key know, and what they left behind, is what the cache shows. -/
structure Fresh (m : Manager) (key : NamespacedName) : Prop where
  reads : ∀ {a w}, m.workers.lookup a = some w → w.key = key → Reads m.caches key w.state
  reported : (∀ a w, m.workers.lookup a = some w → w.key ≠ key) → Stable m.caches.sandboxes key →
    Reported m.caches.cache key

structure Inv (m : Manager) (key : NamespacedName) : Prop extends Sound m where
  owned : ∀ t ∈ m.caches.pods.versions, OwnedPod t key
  fresh : ¬ m.Awake key → m.Fresh key

/-- No `List` of the PodSandboxes fails, and nobody else stores a Pod under the key that is not controlled
by the PodSandbox of this name. -/
def Faithful (key : NamespacedName) (m : Manager) : ManagerLabel → Prop
  | .outside f => OwnedPod (f m.caches.store).pods key
  | .handle _ fault => fault = none
  | _ => True

section Steps

variable {m m' : Manager} {key : NamespacedName}

theorem start_inv {c : Cluster} (hc : OwnedPod c.pods key) : (start c).Inv key where
  locked h := by cases h
  alone h := by cases h
  keyed h := by cases h
  made h := by cases h
  owned t ht := by
    have hversions : t = .empty ∨ t = c.pods := by simpa [start, Lagging.versions] using ht
    rcases hversions with rfl | rfl
    · intro p hp
      cases hp
    · exact hc
  fresh _ := {
    reads := fun h => by cases h
    reported := fun _ _ o ho => by cases ho.1 }

/-- A key that does not wait any more after a step had been fresh before. -/
theorem Inv.before (h : m.Inv key) (hawake : m.Awake key → m'.Awake key) (hm' : ¬ m'.Awake key) :
    m.Fresh key :=
  h.fresh (mt hawake hm')

theorem Inv.outside (h : m.Inv key) {c : Cluster} (hc : OwnedPod c.pods key) :
    Inv { m with caches := m.caches.push c } key where
  locked := h.locked
  alone := h.alone
  keyed := h.keyed
  made := h.made
  owned t ht := by
    have hversions : t ∈ m.caches.pods.versions ∨ t = c.pods := by
      simpa [Caches.push, Lagging.push, Lagging.versions, or_assoc] using ht
    rcases hversions with ht | rfl
    · exact h.owned t ht
    · exact hc
  fresh hkey := by
    have hfresh := h.before (fun hawake => hawake) hkey
    exact {
      reads := fun hw hwkey => (hfresh.reads hw hwkey).push c
      reported := fun hnone hstable => hfresh.reported hnone hstable.of_push.1 }

/-- Notices and queue change, and the key waits as before. -/
theorem Inv.requeue (h : m.Inv key) {notices : List Notice} {q : WorkQueue NamespacedName}
    (hlocked : q.locked = m.queue.locked)
    (hawake : m.Awake key → Awake { m with notices := notices, queue := q } key) :
    Inv { m with notices := notices, queue := q } key where
  locked hw := by
    rw [hlocked]
    exact h.locked hw
  alone := h.alone
  keyed := h.keyed
  made := h.made
  owned := h.owned
  fresh hkey := by
    have hfresh := h.before hawake hkey
    exact ⟨hfresh.reads, hfresh.reported⟩

theorem Inv.elapse (h : m.Inv key) {q : WorkQueue NamespacedName} {k : NamespacedName}
    (hq : m.queue.elapse k = some q) : Inv { m with queue := q } key :=
  h.requeue (WorkQueue.locked_elapse hq) (Or.imp_left (WorkQueue.waits_elapse hq).mpr)

theorem Inv.handle (h : m.Inv key) {i : Nat} {notice : Notice} (hi : m.notices[i]? = some notice) :
    Inv { m with
      notices := m.notices.eraseIdx i
      queue := m.queue.addAll (notice.requests (m.listed none)) } key := by
  refine h.requeue (WorkQueue.locked_addAll ..) ?_
  rintro (hwaits | ⟨n, hn, hmem⟩)
  · exact .inl (WorkQueue.waits_addAll.mpr (.inr hwaits))
  · obtain ⟨j, hj⟩ := List.mem_iff_getElem?.mp hn
    by_cases hij : j = i
    · subst hij
      obtain rfl : notice = n := Option.some.inj (hi.symm.trans hj)
      exact .inl (WorkQueue.waits_addAll.mpr (.inl hmem))
    · exact .inr ⟨n, List.mem_eraseIdx_iff_getElem?.mpr ⟨j, hij, hj⟩, hmem⟩

/-- A key that is not awake after the cache took in a version sees no change. -/
theorem Inv.sameFor (h : m.Inv key) {kind : Kind} {k : Caches} (hk : m.caches.sync kind = some k)
    (hkey : ¬ Awake { m with
      caches := k, notices := m.notices ++ noticesOf m.caches.cache k.cache kind } key) :
    SameFor key m.caches.cache k.cache := by
  have hnotice (notice : Notice) (hmem : notice ∈ noticesOf m.caches.cache k.cache kind)
      (hrequest : key ∈ notice.requests (.ok k.cache.sandboxes.list)) : False :=
    hkey (.inr ⟨notice, List.mem_append_right _ hmem, hrequest⟩)
  cases kind with
  | sandboxes =>
    obtain ⟨l, -, rfl⟩ := Option.map_eq_some_iff.mp hk
    refine ⟨?_, rfl, fun _ _ => rfl⟩
    by_contra hchanged
    exact hnotice _ (List.mem_map_of_mem (mem_changes hchanged)) (mem_requests_sandbox hchanged _)
  | secrets =>
    obtain ⟨l, -, rfl⟩ := Option.map_eq_some_iff.mp hk
    exact ⟨rfl, rfl, fun _ _ => rfl⟩
  | pods =>
    obtain ⟨l, hadvance, rfl⟩ := Option.map_eq_some_iff.mp hk
    refine ⟨rfl, ?_, fun _ _ => rfl⟩
    by_contra hchanged
    have hold : OwnedPod m.caches.cache.pods key := h.owned _ (Lagging.seen_mem_versions _)
    have hnew : OwnedPod l.seen key := by
      refine h.owned _ ?_
      rw [← Lagging.versions_advance hadvance]
      exact Lagging.seen_mem_versions l
    exact hnotice _ (List.mem_map_of_mem (mem_changes hchanged)) (mem_requests_pod hchanged hold hnew _)
  | classes =>
    obtain ⟨l, -, rfl⟩ := Option.map_eq_some_iff.mp hk
    refine ⟨rfl, rfl, fun o ho => ?_⟩
    by_contra hchanged
    exact hnotice _ (List.mem_map_of_mem (mem_changes hchanged)) (mem_requests_class hchanged ho)

theorem Inv.sync (h : m.Inv key) {kind : Kind} {k : Caches} (hk : m.caches.sync kind = some k) :
    Inv { m with
      caches := k, notices := m.notices ++ noticesOf m.caches.cache k.cache kind } key where
  locked := h.locked
  alone := h.alone
  keyed := h.keyed
  made := h.made
  owned t ht := by
    have hversions : k.pods.versions = m.caches.pods.versions := by
      cases kind with
      | pods =>
        obtain ⟨l, hadvance, rfl⟩ := Option.map_eq_some_iff.mp hk
        exact Lagging.versions_advance hadvance
      | sandboxes | secrets | classes =>
        obtain ⟨l, -, rfl⟩ := Option.map_eq_some_iff.mp hk
        rfl
    rw [hversions] at ht
    exact h.owned t ht
  fresh hkey := by
    have hsame := h.sameFor hk hkey
    have hfresh : m.Fresh key := by
      refine h.before ?_ hkey
      refine Or.imp_right ?_
      rintro ⟨notice, hmem, hrequest⟩
      exact ⟨notice, List.mem_append_left _ hmem, mem_requests_congr hsame.sandbox hrequest⟩
    have hstable (hs : Stable k.sandboxes key) : Stable m.caches.sandboxes key := by
      rcases Caches.sync_sandboxes hk with heq | hadvance
      · rw [heq] at hs
        exact hs
      · exact hs.of_advance hadvance hsame.sandbox
    exact {
      reads := fun hw hwkey => hsame.reads hstable (hfresh.reads hw hwkey)
      reported := fun hnone hs => hsame.reported (hfresh.reported hnone (hstable hs)) }

theorem Inv.take (h : m.Inv key) {a : Nat} {k : NamespacedName} {q : WorkQueue NamespacedName}
    (ha : m.workers.lookup a = none) (hq : m.queue.take k = some q) :
    Inv { m with queue := q, workers := m.workers.insert a ⟨k, .getSandbox k⟩ } key := by
  obtain ⟨hfree, hlocked⟩ := WorkQueue.take_eq_some hq
  have hother {b : Nat} {w : Worker} (hw : m.workers.lookup b = some w) : w.key ≠ k := by
    rintro rfl
    exact hfree (h.locked hw)
  refine { locked := ?_, alone := ?_, keyed := ?_, made := ?_, owned := h.owned, fresh := ?_ }
  · intro b w hw
    rw [hlocked]
    rcases lookup_insert_cases hw with ⟨-, rfl⟩ | ⟨-, hw⟩
    · exact Finset.mem_insert_self k _
    · exact Finset.mem_insert_of_mem (h.locked hw)
  · intro b b' w w' hw hw' hkeys
    rcases lookup_insert_cases hw with ⟨rfl, rfl⟩ | ⟨-, hold⟩ <;>
      rcases lookup_insert_cases hw' with ⟨rfl, rfl⟩ | ⟨-, hold'⟩
    · rfl
    · exact absurd hkeys.symm (hother hold')
    · exact absurd hkeys (hother hold)
    · exact h.alone hold hold' hkeys
  · intro b w hw
    rcases lookup_insert_cases hw with ⟨-, rfl⟩ | ⟨-, hw⟩
    · rfl
    · exact h.keyed hw
  · intro b w hw
    rcases lookup_insert_cases hw with ⟨-, rfl⟩ | ⟨-, hw⟩
    · intro desired hdesired
      cases hdesired
    · exact h.made hw
  · intro hkey
    by_cases hk : key = k
    · subst hk
      refine ⟨fun {b w} hw hwkey => ?_, fun hnone => ?_⟩
      · rcases lookup_insert_cases hw with ⟨-, rfl⟩ | ⟨-, hw⟩
        · trivial
        · exact absurd hwkey (hother hw)
      · exact absurd rfl (hnone a _ (AList.lookup_insert _))
    · have hfresh : m.Fresh key := by
        refine h.before ?_ hkey
        exact Or.imp_left (WorkQueue.waits_of_take hq hk)
      refine ⟨fun {b w} hw hwkey => ?_, fun hnone hstable => ?_⟩
      · rcases lookup_insert_cases hw with ⟨-, rfl⟩ | ⟨-, hw⟩
        · exact absurd hwkey.symm hk
        · exact hfresh.reads hw hwkey
      · refine hfresh.reported (fun b w hw => hnone b w ?_) hstable
        have hb : b ≠ a := by
          rintro rfl
          rw [ha] at hw
          cases hw
        rw [AList.lookup_insert_ne hb]
        exact hw

/-- A step of one call: the cache stays, the store may get a new version. -/
theorem Inv.run (h : m.Inv key) {a : Nat} {w : Worker} {s' : ReconcileState} {k : Caches}
    (hw : m.workers.lookup a = some w) (hk : k = m.caches ∨ ∃ c, k = m.caches.push c)
    (hkey : s'.key = w.key) (hmade : s'.Made) (howned : ∀ t ∈ k.pods.versions, OwnedPod t key)
    (hreads : Reads m.caches w.key w.state → Reads k w.key s') :
    Inv { m with caches := k, workers := m.workers.insert a { w with state := s' } } key := by
  have hcache : k.cache = m.caches.cache := by
    rcases hk with rfl | ⟨c, rfl⟩ <;> rfl
  have hstable (hs : Stable k.sandboxes key) : Stable m.caches.sandboxes key := by
    rcases hk with rfl | ⟨c, rfl⟩
    · exact hs
    · exact hs.of_push.1
  have hold {s : ReconcileState} (hs : Reads m.caches key s) : Reads k key s := by
    rcases hk with rfl | ⟨c, rfl⟩
    · exact hs
    · exact hs.push c
  -- every worker has a worker with its key before the step
  have hcases {b : Nat} {w' : Worker}
      (hw' : (m.workers.insert a { w with state := s' }).lookup b = some w') :
      (b = a ∧ w' = { w with state := s' }) ∨ (b ≠ a ∧ m.workers.lookup b = some w') :=
    lookup_insert_cases hw'
  have hworker {b : Nat} {w' : Worker}
      (hw' : (m.workers.insert a { w with state := s' }).lookup b = some w') :
      ∃ w₀, m.workers.lookup b = some w₀ ∧ w₀.key = w'.key := by
    rcases hcases hw' with ⟨rfl, rfl⟩ | ⟨-, hw'⟩
    · exact ⟨w, hw, rfl⟩
    · exact ⟨w', hw', rfl⟩
  refine { locked := ?_, alone := ?_, keyed := ?_, made := ?_, owned := howned, fresh := ?_ }
  · intro b w' hw'
    obtain ⟨w₀, hw₀, hkey₀⟩ := hworker hw'
    rw [← hkey₀]
    exact h.locked hw₀
  · intro b b' w₁ w₂ hw₁ hw₂ hkeys
    obtain ⟨v₁, hv₁, hkey₁⟩ := hworker hw₁
    obtain ⟨v₂, hv₂, hkey₂⟩ := hworker hw₂
    exact h.alone hv₁ hv₂ (hkey₁.trans (hkeys.trans hkey₂.symm))
  · intro b w' hw'
    rcases hcases hw' with ⟨-, rfl⟩ | ⟨-, hw'⟩
    · exact hkey
    · exact h.keyed hw'
  · intro b w' hw'
    rcases hcases hw' with ⟨-, rfl⟩ | ⟨-, hw'⟩
    · exact hmade
    · exact h.made hw'
  · intro hawake
    have hfresh : m.Fresh key := by
      refine h.before ?_ hawake
      intro hm
      rw [Awake, hcache]
      exact hm
    refine ⟨fun {b w'} hw' hwkey => ?_, fun hnone hs => ?_⟩
    · rcases hcases hw' with ⟨rfl, rfl⟩ | ⟨-, hw'⟩
      · cases hwkey
        exact hreads (hfresh.reads hw rfl)
      · exact hold (hfresh.reads hw' hwkey)
    · rw [hcache]
      refine hfresh.reported (fun b w₀ hw₀ => ?_) (hstable hs)
      by_cases hb : b = a
      · subst hb
        obtain rfl : w = w₀ := Option.some.inj (hw.symm.trans hw₀)
        exact hnone b { w with state := s' } (AList.lookup_insert _)
      · exact hnone b w₀ (by rw [AList.lookup_insert_ne hb]; exact hw₀)

theorem Inv.finish (h : m.Inv key) {a : Nat} {k k' : NamespacedName} {result : Result}
    (hw : m.workers.lookup a = some ⟨k, .done k' result⟩) :
    Inv { m with
      queue := (if result.requeues then m.queue.addAfter k else m.queue).finish k
      workers := m.workers.erase a } key := by
  have hremaining {b : Nat} {w : Worker} (hb : (m.workers.erase a).lookup b = some w) :
      b ≠ a ∧ m.workers.lookup b = some w := by
    rw [lookup_erase_ite] at hb
    split at hb
    · cases hb
    · rename_i hne
      exact ⟨hne, hb⟩
  have hother {b : Nat} {w : Worker} (hb : (m.workers.erase a).lookup b = some w) : w.key ≠ k := by
    obtain ⟨hne, hb⟩ := hremaining hb
    exact fun heq => hne (h.alone hb hw heq)
  refine { locked := ?_, alone := ?_, keyed := ?_, made := ?_, owned := h.owned, fresh := ?_ }
  · intro b w hb
    have hlocked : ((if result.requeues then m.queue.addAfter k else m.queue).finish k).locked =
        m.queue.locked.erase k := by
      unfold WorkQueue.finish
      split
      · rw [WorkQueue.locked_addAfter]
      · rfl
    rw [hlocked]
    exact Finset.mem_erase.mpr ⟨hother hb, h.locked (hremaining hb).2⟩
  · intro b b' w w' hb hb' hkeys
    exact h.alone (hremaining hb).2 (hremaining hb').2 hkeys
  · intro b w hb
    exact h.keyed (hremaining hb).2
  · intro b w hb
    exact h.made (hremaining hb).2
  · intro hawake
    have hwaits : ¬ (result.requeues = true ∧ key = k) ∧ ¬ m.Awake key := by
      constructor
      · rintro ⟨hrequeues, rfl⟩
        refine hawake (.inl (WorkQueue.waits_finish.mpr ?_))
        rw [if_pos hrequeues]
        exact WorkQueue.waits_addAfter.mpr (.inl rfl)
      · intro hm
        refine hawake (hm.imp_left fun hwaits => WorkQueue.waits_finish.mpr ?_)
        split
        · exact WorkQueue.waits_addAfter.mpr (.inr hwaits)
        · exact hwaits
    have hfresh := h.fresh hwaits.2
    refine ⟨fun {b w} hb hwkey => hfresh.reads (hremaining hb).2 hwkey, fun hnone hstable => ?_⟩
    by_cases hk : key = k
    · subst hk
      rcases hfresh.reads hw rfl with hrequeues | hreported
      · exact absurd ⟨hrequeues, rfl⟩ hwaits.1
      · exact hreported hstable
    · refine hfresh.reported (fun b w hb => ?_) hstable
      by_cases hba : b = a
      · subst hba
        obtain rfl : _ = w := Option.some.inj (hw.symm.trans hb)
        exact fun heq => hk heq.symm
      · exact hnone b w (by rw [AList.lookup_erase_ne hba]; exact hb)

/-- **Every step** keeps the invariant. -/
theorem Inv.step (h : m.Inv key) {l : ManagerLabel} (hok : Faithful key m l)
    (hstep : m.step l = some m') : m'.Inv key := by
  cases l with
  | outside f =>
    cases hstep
    exact h.outside hok
  | sync kind =>
    obtain ⟨k, hk, rfl⟩ := Option.map_eq_some_iff.mp hstep
    exact h.sync hk
  | handle i fault =>
    cases (hok : fault = none)
    simp only [Manager.step] at hstep
    split at hstep
    · cases hstep
    · rename_i notice hi
      cases hstep
      exact h.handle hi
  | elapse k =>
    obtain ⟨q, hq, rfl⟩ := Option.map_eq_some_iff.mp hstep
    exact h.elapse hq
  | take a k =>
    simp only [Manager.step] at hstep
    split at hstep
    · cases hstep
    · rename_i ha
      obtain ⟨q, hq, rfl⟩ := Option.map_eq_some_iff.mp hstep
      exact h.take ha hq
  | run a env =>
    simp only [Manager.step] at hstep
    split at hstep
    · cases hstep
    rename_i w hw
    obtain ⟨⟨s', k, out⟩, hcached, rfl⟩ := Option.map_eq_some_iff.mp hstep
    unfold Next.cachedStep at hcached
    split at hcached
    · rename_i hwrite
      obtain ⟨⟨s₁, c', out₁⟩, hown, heq⟩ := Option.map_eq_some_iff.mp hcached
      cases heq
      have hmove := ReconcileState.moves hown
      have hkey : s₁.key = w.key := hmove.key_eq.trans (h.keyed hw)
      refine h.run hw (.inr ⟨c', rfl⟩) hkey (hmove.made (h.made hw)) ?_ fun hs => ?_
      · exact (h.outside (hmove.ownedPod (h.made hw) (h.owned _ (Lagging.latest_mem_versions _)))).owned
      · exact reads_of_write hwrite hs hmove
    · rename_i hread
      obtain ⟨⟨s₁, c', out₁⟩, hown, heq⟩ := Option.map_eq_some_iff.mp hcached
      cases heq
      have hmove := ReconcileState.moves hown
      have hkey : s₁.key = w.key := hmove.key_eq.trans (h.keyed hw)
      refine h.run hw (.inl rfl) hkey (hmove.made (h.made hw)) h.owned fun hs => ?_
      exact reads_of_read (eq_false_of_ne_true hread) (h.keyed hw) hs hmove
  | finish a =>
    simp only [Manager.step] at hstep
    split at hstep
    · rename_i k k' result hw
      cases hstep
      exact h.finish hw
    · cases hstep

theorem inv_of_run {c : Cluster} {ls : List ManagerLabel} (hc : OwnedPod c.pods key)
    (h : Run step (Faithful key) (start c) ls m) : m.Inv key :=
  h.invariant (Inv · key) (fun _ _ _ hinv hok hstep => hinv.step hok hstep) (start_inv hc)

/-- A manager with nothing left to do shows the store, with current statuses. -/
theorem Inv.reported_of_idle (h : m.Inv key) (hidle : m.Idle) :
    Reported m.caches.store key := by
  have hnone : ¬ m.Awake key := by
    rintro ((hready | hlater) | ⟨notice, hnotice, -⟩)
    · rw [hidle.ready] at hready
      exact Finset.notMem_empty key hready
    · rw [hidle.later] at hlater
      exact Finset.notMem_empty key hlater
    · rw [hidle.notices] at hnotice
      cases hnotice
  have hworkers : ∀ a w, m.workers.lookup a = some w → w.key ≠ key := by
    intro a w hw
    have hmem : a ∈ m.workers.keys := AList.mem_keys.mp (AList.lookup_isSome.mp (by rw [hw]; rfl))
    rw [hidle.workers] at hmem
    cases hmem
  have hstable : Stable m.caches.sandboxes key := by
    intro t ht
    rw [hidle.sandboxes] at ht
    cases ht
  have hlatest {α : Type} {l : Lagging α} (hl : l.pending = []) : l.seen = l.latest := by
    simp [Lagging.latest, hl]
  refine SameFor.reported ⟨?_, ?_, fun o _ => ?_⟩ ((h.fresh hnone).reported hworkers hstable)
  · exact congrArg (fun t : Table NamespacedName PodSandbox => (t.get key).map content)
      (hlatest hidle.sandboxes)
  · exact congrArg (fun t : Table NamespacedName Pod => (t.get key).map content) (hlatest hidle.pods)
  · exact congrArg (fun t : Table NamespacedName PodSandboxClass =>
      (t.get ⟨"", o.spec.className⟩).map content) (hlatest hidle.classes)

end Steps

end Manager

/-! ## Statuses at rest -/

section Rest

variable {o : PodSandbox} {cls : PodSandboxClass} {p : Pod}

/-- The status says what the Pod under the key is: ready, at its address and on its node, or stopped. -/
def Describes (o : PodSandbox) (p : Pod) : Prop :=
  (¬ Stopped p ∧ podReady p ∧ isReady o ∧ o.status.ips = [p.status.podIP] ∧
      o.status.nodeName = p.spec.nodeName ∧ o.status.runnerRef = some ⟨p.metadata.name⟩) ∨
    (Stopped p ∧ runnerFailed o)

theorem Concluded.describes (h : Concluded o cls p o.status) : Describes o p := by
  obtain ⟨-, ⟨hstopped, now, hstatus⟩ | ⟨hrunning, hready, now, hstatus⟩⟩ := h
  · right
    refine ⟨hstopped, ?_⟩
    obtain ⟨time, hfind⟩ := find?_setStatusCondition now
      (readyCondition o .false "RunnerFailed" (stoppedMessage p)) o.status.conditions
    have hcondition : conditionByType o.status.conditions ConditionReady =
        some { readyCondition o .false "RunnerFailed" (stoppedMessage p) with
          lastTransitionTime := time } := by
      rw [hstatus]
      exact hfind
    rw [runnerFailed, hcondition]
    rfl
  · left
    have hready' := hready
    rw [runnerReady, Bool.and_eq_true, decide_eq_true_eq] at hready'
    have hips : o.status.ips = [p.status.podIP] := by
      rw [hstatus]
      exact if_neg hready'.2
    have htrue : conditionTrue o.status.conditions ConditionReady = true := by
      rw [hstatus]
      refine (conditionTrue_setStatusCondition ..).trans ?_
      rw [hready]
      rfl
    refine ⟨hrunning, hready'.1, ?_, hips, by rw [hstatus]; rfl, by rw [hstatus]; rfl⟩
    rw [isReady, htrue, hips]
    rfl

end Rest

/-- **No wake-up is lost.** Whatever others write, however far the caches of PodSandboxes, Pods, classes and
Secrets lag behind, whichever calls of Reconcile fail and in whichever order notices, requests and calls
are handled by any number of workers, as long as the Pods under the name of a PodSandbox are controlled
by it and no `List` of `sandboxesForClass` fails: when nothing is left to do and the PodSandbox is not
being deleted, it has a class and a runner of the current template generation, and its status says what
that runner is. -/
theorem Manager.idle_statuses_are_current {c : Cluster} {key : NamespacedName}
    (hc : OwnedPod c.pods key) {ls : List ManagerLabel} {m : Manager}
    (hrun : Run Manager.step (Manager.Faithful key) (Manager.start c) ls m) (hidle : m.Idle)
    {o : PodSandbox} (ho : m.caches.store.sandboxes.get key = some o)
    (halive : ¬ o.metadata.deletionTimestamp.isSome) :
    ∃ cls p, m.caches.store.classes.get ⟨"", o.spec.className⟩ = some cls ∧
      m.caches.store.pods.get key = some p ∧ UpToDate o cls p ∧ Describes o p := by
  have hreported := (Manager.inv_of_run hc hrun).reported_of_idle hidle
  obtain ⟨cls, p, hcls, hp, hconcluded⟩ := hreported o ⟨ho, halive⟩
  obtain ⟨cls', hcls', hclass⟩ := hcls.get
  obtain ⟨p', hp', hpod⟩ := hp.get
  have hfound : Concluded o cls' p' o.status := hconcluded.congr rfl hclass hpod
  exact ⟨cls', p', hcls', hp', hfound.1, hfound.describes⟩

instance (t : Table NamespacedName Pod) (key : NamespacedName) : Decidable (OwnedPod t key) :=
  inferInstanceAs (Decidable (∀ p ∈ t.get key, ownerRequest p = some key))

instance (key : NamespacedName) (m : Manager) : DecidablePred (Manager.Faithful key m)
  | .outside f => inferInstanceAs (Decidable (OwnedPod (f m.caches.store).pods key))
  | .handle _ fault => inferInstanceAs (Decidable (fault = none))
  | .sync _ | .elapse _ | .take .. | .run .. | .finish _ => isTrue trivial

namespace Sample

/-- A PodSandbox with its class and its Secret. -/
def oneSandbox : Cluster :=
  { oneClass with
    sandboxes := Table.empty.insert (asCreated 1 {
      metadata := { name := "psb-0", ns := "provider" }
      spec := { className := "kata", userDataSecretRef := ⟨"psb-0-userdata"⟩ } }) ⟨rfl, by decide⟩
    secrets := Table.empty.insert (asCreated 1 {
      metadata := { name := "psb-0-userdata", ns := "provider" }
      data := StringMap.ofList [("userdata", "cloud-config")] }) ⟨rfl, by decide⟩ }

def podKey : NamespacedName := ⟨"provider", "psb-0"⟩

/-- The cache takes in some versions of all kinds. -/
def syncAll (n : Nat) : List ManagerLabel :=
  [.sandboxes, .secrets, .pods, .classes].flatMap fun kind => List.replicate n (.sync kind)

/-- A worker takes the request and runs a whole Reconcile call. -/
def reconcileCall : List ManagerLabel :=
  .take 1 podKey :: List.replicate 6 (.run 1 { uid := 1 }) ++ [.finish 1]

/-- The kubelet reports that the runner is ready. -/
def kubeletReady (c : Cluster) : Cluster :=
  { c with pods :=
      modifyObject c.pods podKey (setPodStatus "node" (running "10.0.0.1")) fun _ => ⟨rfl, rfl⟩ }

/-- The runner is created, becomes ready, is reported, and is reported again without a change. -/
def untilIdle : List ManagerLabel :=
  syncAll 1 ++ [.handle 0 none, .handle 0 none] ++ reconcileCall ++ [.outside kubeletReady] ++
    syncAll 3 ++ [.handle 0 none, .handle 0 none, .handle 0 none] ++ reconcileCall ++
    syncAll 2 ++ [.handle 0 none] ++ reconcileCall ++ syncAll 2

end Sample

/-- A PodSandbox whose runner became ready comes to rest. -/
theorem ready_runner_comes_to_rest :
    ∃ m o cls p, Run Manager.step (Manager.Faithful Sample.podKey) (Manager.start Sample.oneSandbox)
        Sample.untilIdle m ∧
      m.Idle ∧ m.caches.store.sandboxes.get Sample.podKey = some o ∧ isReady o ∧
      m.caches.store.pods.get Sample.podKey = some p ∧ UpToDate o cls p ∧ Describes o p := by
  have hpods : OwnedPod Sample.oneSandbox.pods Sample.podKey := by decide +kernel
  have hcheck : (checkRun Manager.step (Manager.Faithful Sample.podKey) (Manager.start Sample.oneSandbox)
      Sample.untilIdle).any (fun m => m.Idle ∧ (m.caches.store.sandboxes.get Sample.podKey).any fun o =>
        isReady o && !o.metadata.deletionTimestamp.isSome) = true := by
    decide +kernel
  obtain ⟨m, hrun, hidle, hsome⟩ := Run.exists_of_checkRun _ hcheck
  obtain ⟨o, ho, hready⟩ := (Option.any_eq_true _ _).mp hsome
  rw [Bool.and_eq_true] at hready
  obtain ⟨cls, p, -, hp, hcurrent, hdescribes⟩ :=
    Manager.idle_statuses_are_current hpods hrun hidle ho (by simpa using hready.2)
  exact ⟨m, o, cls, p, hrun, hidle, ho, hready.1, hp, hcurrent, hdescribes⟩

end SandboxProvider
