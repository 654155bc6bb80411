import SandboxProvider.System.Creating

/-!
# The deferred rollback of createSandbox

`createSandbox` deletes the PodSandbox it stored when it returns without a 201. The delete is by
name. In a run where no other call stores a PodSandbox, or answers 201, under the name of a call
that can still roll back (`World.Exclusive`), a rollback deletes the object that its own call
created, for which no 201 was answered, and a PodSandbox a 201 was answered for disappears through
`deleteSandbox` only. Without that condition both fail.
-/

namespace SandboxProvider

open Lib Server

/-! ## The property and the condition -/

/-- A rollback deletes an object that the same call created. -/
def RollsBackOwn (past : List Event) (e : Event) : Prop :=
  ∀ r ∈ e.rolledBack, ∃ e' ∈ past, ∃ r' ∈ e'.created,
    r'.1 = r.1 ∧ r'.2.metadata.uid = r.2.metadata.uid

/-- A rollback deletes an object for which nobody answered 201. -/
def RollsBackUnanswered (past : List Event) (e : Event) : Prop :=
  ∀ r ∈ e.rolledBack, ∀ e' ∈ past, ∀ o ∈ e'.answeredFor,
    o.metadata.uid ≠ r.2.metadata.uid

instance (past : List Event) (e : Event) : Decidable (RollsBackOwn past e) :=
  inferInstanceAs (Decidable (∀ r ∈ e.rolledBack, _))

instance (past : List Event) (e : Event) : Decidable (RollsBackUnanswered past e) :=
  inferInstanceAs (Decidable (∀ r ∈ e.rolledBack, _))

namespace World

/-- A PodSandbox that a 201 was answered for is still stored, or a deleteSandbox call deleted it
since. -/
def AnsweredKept (w : World) : Prop :=
  ∀ newer e past o, w.history = newer ++ e :: past → e.answeredFor = some o →
    (∃ cur, w.cluster.sandboxes.get o.metadata.key = some cur ∧
      cur.metadata.uid = o.metadata.uid) ∨
    ∃ e' ∈ newer, ∃ o', e'.deleted = some o' ∧ o'.metadata.key = o.metadata.key ∧
      o'.metadata.uid = o.metadata.uid

/-- No call but `a` can still roll back the PodSandbox under `key`. -/
def Alone (w : World) (a : Nat) (key : NamespacedName) : Prop :=
  ∀ b p, w.procs.lookup b = some p → b ≠ a →
    ∀ s ∈ p.state.creating, ∀ r ∈ s.owned, r.1.key ≠ key

/-- A createSandbox call stores a PodSandbox, or reads a ready one in its polling loop, only when
no other call can still roll back the PodSandbox of that name. -/
def Exclusive (w : World) (l : Label) : Prop :=
  ∀ a ∈ l.runs, ∀ p ∈ w.procs.lookup a,
    (∀ job ∈ p.state.storing, w.Alone a job.key) ∧
    (∀ job ∈ p.state.polling, ∀ o ∈ w.cluster.sandboxes.get job.key, isReady o →
      w.Alone a job.key)

instance (w : World) (a : Nat) (key : NamespacedName) : Decidable (w.Alone a key) :=
  inferInstanceAs (Decidable (∀ b p, w.procs.lookup b = some p → _))

instance (w : World) (l : Label) : Decidable (w.Exclusive l) :=
  inferInstanceAs (Decidable (∀ a ∈ l.runs, ∀ p ∈ w.procs.lookup a, _))

theorem Alone.owned {w : World} {a b : Nat} {key : NamespacedName} {s : CreateState} {job : Job}
    {sandbox : PodSandbox} (h : w.Alone a key) (hb : w.Creating b s) (hne : b ≠ a)
    (howned : s.owned = some (job, sandbox)) : job.key ≠ key := by
  obtain ⟨ctxErr, hp⟩ := hb
  exact h b _ hp hne s rfl (job, sandbox) howned

/-! ## The invariant -/

/-- The call `a` can roll back `sandbox`: it created an object under the job's key, only that object
can be stored there, and nobody answered 201 for it. -/
def Holds (w : World) (a : Nat) (job : Job) (sandbox : PodSandbox) : Prop :=
  sandbox.metadata.key = job.key ∧ ∃ e ∈ w.history, ∃ o, e.created = some (a, o) ∧
    o.metadata.key = job.key ∧
    (∀ cur, w.cluster.sandboxes.get job.key = some cur → cur.metadata.uid = o.metadata.uid) ∧
    ∀ e' ∈ w.history, ∀ x, e'.answeredFor = some x → x.metadata.uid ≠ o.metadata.uid

structure RollbackInv (w : World) : Prop where
  minted : ∀ e ∈ w.history, ∀ a o, e.created = some (a, o) →
    o.metadata.uid < w.cluster.sandboxes.nextUid ∧
    ∀ k x, w.cluster.sandboxes.get k = some x → x.metadata.uid = o.metadata.uid →
      k = o.metadata.key
  answered : ∀ e ∈ w.history, ∀ o, e.answeredFor = some o →
    o.metadata.uid < w.cluster.sandboxes.nextUid
  holds : ∀ {a s job sandbox}, w.Creating a s → s.owned = some (job, sandbox) →
    w.Holds a job sandbox
  own : Historically RollsBackOwn w.history
  unanswered : Historically RollsBackUnanswered w.history
  kept : w.AnsweredKept

namespace RollbackInv

theorem start (cfg : Config) (c : Cluster) : RollbackInv (World.start cfg c) where
  minted e he := by cases he
  answered e he := by cases he
  holds h := by
    obtain ⟨_, h⟩ := h
    cases h
  own := trivial
  unanswered := trivial
  kept newer e past o h := by simp [World.start] at h

variable {w w' : World}

/-- `Holds` survives a step that lets nothing new appear under the key and answers no 201 for it. -/
theorem holds_transfer (hinv : RollbackInv w) {a : Nat} {job : Job} {sandbox : PodSandbox}
    (h : w.Holds a job sandbox) (hgrow : ∀ e ∈ w.history, e ∈ w'.history)
    (htable : ∀ cur, w'.cluster.sandboxes.get job.key = some cur →
      ∃ old, w.cluster.sandboxes.get job.key = some old ∧ cur.metadata.uid = old.metadata.uid)
    (hanswer : ∀ e ∈ w'.history, ∀ x, e.answeredFor = some x →
      e ∈ w.history ∨ ∃ k, k ≠ job.key ∧ w.cluster.sandboxes.get k = some x) :
    w'.Holds a job sandbox := by
  obtain ⟨hkey, e, he, o, hcreated, hokey, honly, hnone⟩ := h
  refine ⟨hkey, e, hgrow e he, o, hcreated, hokey, ?_, ?_⟩
  · intro cur hcur
    obtain ⟨old, hold, huid⟩ := htable cur hcur
    rw [huid]
    exact honly old hold
  · intro e' he' x hx huid
    obtain hmem | ⟨k, hk, hget⟩ := hanswer e' he' x hx
    · exact hnone e' hmem x hx huid
    · exact hk (((hinv.minted e he a o hcreated).2 k x hget huid).trans hokey)

/-- What stays below the bound and under its key when the table changes. -/
theorem minted_transfer (hinv : RollbackInv w)
    (hcreated : ∀ e ∈ w'.history, e.created ≠ none → e ∈ w.history)
    (hnext : w.cluster.sandboxes.nextUid ≤ w'.cluster.sandboxes.nextUid)
    (htable : ∀ k x, w'.cluster.sandboxes.get k = some x →
      ∃ old, w.cluster.sandboxes.get k = some old ∧ x.metadata.uid = old.metadata.uid) :
    ∀ e ∈ w'.history, ∀ a o, e.created = some (a, o) →
      o.metadata.uid < w'.cluster.sandboxes.nextUid ∧
      ∀ k x, w'.cluster.sandboxes.get k = some x → x.metadata.uid = o.metadata.uid →
        k = o.metadata.key := by
  intro e he a o hc
  obtain ⟨hlt, honly⟩ := hinv.minted e (hcreated e he (by rw [hc]; simp)) a o hc
  refine ⟨Nat.lt_of_lt_of_le hlt hnext, fun k x hx huid => ?_⟩
  obtain ⟨old, hold, hux⟩ := htable k x hx
  exact honly k old hold (hux.symm.trans huid)

/-- A 201 is kept by a step that leaves its object alone or deletes it through `deleteSandbox`. -/
theorem kept_foreign {events : List Event} {o : PodSandbox}
    (h : ForeignSandboxes w w' events)
    (hstored : ∃ cur, w.cluster.sandboxes.get o.metadata.key = some cur ∧
      cur.metadata.uid = o.metadata.uid) :
    (∃ cur, w'.cluster.sandboxes.get o.metadata.key = some cur ∧
      cur.metadata.uid = o.metadata.uid) ∨
    ∃ e' ∈ events, ∃ o', e'.deleted = some o' ∧ o'.metadata.key = o.metadata.key ∧
      o'.metadata.uid = o.metadata.uid := by
  obtain ⟨cur, hcur, huid⟩ := hstored
  cases h with
  | same h =>
    rw [h]
    exact .inl ⟨cur, hcur, huid⟩
  | @status old f h =>
    by_cases hk : o.metadata.key = Keyed.key old
    · rw [hk, h.stored] at hcur
      cases hcur
      exact .inl ⟨withStatus f cur, by rw [hk]; exact h.get_self, huid⟩
    · exact .inl ⟨cur, by rw [h.get_ne hk]; exact hcur, huid⟩
  | @deleted b access sandbox old h hevent =>
    by_cases hk : o.metadata.key = Keyed.key old
    · rw [hk, h.stored] at hcur
      cases hcur
      exact .inr ⟨_, hevent, cur, rfl, hk.symm, huid⟩
    · exact .inl ⟨cur, by rw [h.get_ne hk]; exact hcur, huid⟩

theorem foreign (hinv : RollbackInv w) {events : List Event} (h : Foreign w w' events) :
    RollbackInv w' := by
  have hnext := h.sandboxes.nextUid_le
  have htable (k : NamespacedName) (x : PodSandbox) (hx : w'.cluster.sandboxes.get k = some x) :
      ∃ old, w.cluster.sandboxes.get k = some old ∧ x.metadata.uid = old.metadata.uid := by
    obtain ⟨old, hold, -, huid, -⟩ := h.sandboxes.of_get hx
    exact ⟨old, hold, huid⟩
  have hmem {e : Event} (he : e ∈ w'.history) : e ∈ events ∨ e ∈ w.history := by
    rw [h.history] at he
    exact List.mem_append.mp he
  refine ⟨hinv.minted_transfer ?_ hnext htable, ?_, ?_, ?_, ?_, ?_⟩
  · intro e he hc
    rcases hmem he with he | he
    · exact absurd (Event.foreign_none (h.not_ofCreate e he)).1 hc
    · exact he
  · intro e he o ho
    rcases hmem he with he | he
    · rw [(Event.foreign_none (h.not_ofCreate e he)).2.2] at ho
      cases ho
    · exact Nat.lt_of_lt_of_le (hinv.answered e he o ho) hnext
  · intro a s job sandbox ha howned
    obtain ha | ⟨access, body, rfl⟩ := h.creating ha
    · refine hinv.holds_transfer (hinv.holds ha howned) ?_ (htable job.key) ?_
      · intro e he
        rw [h.history]
        exact List.mem_append_right _ he
      · intro e he x hx
        rcases hmem he with he | he
        · rw [(Event.foreign_none (h.not_ofCreate e he)).2.2] at hx
          cases hx
        · exact .inl he
    · cases howned
  · rw [h.history]
    refine hinv.own.append fun newer e mid heq r hr => ?_
    have he : e ∈ events := by rw [heq]; simp
    rw [(Event.foreign_none (h.not_ofCreate e he)).2.1] at hr
    cases hr
  · rw [h.history]
    refine hinv.unanswered.append fun newer e mid heq r hr => ?_
    have he : e ∈ events := by rw [heq]; simp
    rw [(Event.foreign_none (h.not_ofCreate e he)).2.1] at hr
    cases hr
  · intro newer e past o heq hans
    rw [h.history] at heq
    obtain ⟨mid, hev, -⟩ | ⟨mid, rfl, hold⟩ := append_eq_split heq
    · have he : e ∈ events := by rw [hev]; simp
      rw [(Event.foreign_none (h.not_ofCreate e he)).2.2] at hans
      cases hans
    · obtain hstored | ⟨e', he', hdel⟩ := hinv.kept mid e past o hold hans
      · obtain hstored | ⟨e', he', hdel⟩ := kept_foreign h.sandboxes hstored
        · exact .inl hstored
        · exact .inr ⟨e', List.mem_append_left _ he', hdel⟩
      · exact .inr ⟨e', List.mem_append_right _ he', hdel⟩

section Own

variable {a : Nat} {env : Env} {ctxErr : Option String} {s s' : CreateState} {c' : Cluster}
  {out : Outcome} {e : Event}

/-- The new events of a createSandbox call's step. -/
private theorem new_created
    (he : e ∈ (newly s.reply s'.reply).map (.answered a (.serve (.create s')) · c') ++
      callEvents a (.serve (.create s)) out) :
    (∀ b o, e.created = some (b, o) → b = a ∧ .createSandbox o ∈ out.writes) ∧
    (∀ b o, e.rolledBack = some (b, o) → b = a ∧ .deleteSandbox o ∈ out.writes) := by
  rcases List.mem_append.mp he with he | he
  · obtain ⟨reply, -, rfl⟩ := List.mem_map.mp he
    exact ⟨fun b o h => (by cases h), fun b o h => (by cases h)⟩
  · refine ⟨fun b o h => ?_, fun b o h => ?_⟩
    · obtain ⟨t, rfl⟩ := Event.created_eq_some.mp h
      obtain ⟨rfl, -, hw⟩ := wrote_mem_callEvents.mp he
      exact ⟨rfl, hw⟩
    · obtain ⟨t, rfl⟩ := Event.rolledBack_eq_some.mp h
      obtain ⟨rfl, -, hw⟩ := wrote_mem_callEvents.mp he
      exact ⟨rfl, hw⟩

private theorem new_answered (hmove : CreateMove env ctxErr w.cluster s s' c' out)
    (he : e ∈ (newly s.reply s'.reply).map (.answered a (.serve (.create s')) · c') ++
      callEvents a (.serve (.create s)) out) {x : PodSandbox} (hx : e.answeredFor = some x) :
    ∃ job before createdHere, s = .poll job before createdHere ∧
      w.cluster.sandboxes.get job.key = some x ∧ isReady x ∧ c' = w.cluster := by
  obtain ⟨b, job, reply, response, c, rfl⟩ := Event.answeredFor_eq_some.mp hx
  rcases List.mem_append.mp he with he | he
  · obtain ⟨r, hr, heq⟩ := List.mem_map.mp he
    cases heq
    obtain ⟨hnone, hreply⟩ := mem_newly.mp hr
    obtain ⟨_, before, here, o, hs, hget, hready, hdone, -, hc, -⟩ := hmove.answers hnone hreply
    cases hdone
    exact ⟨job, before, here, hs, hget, hready, hc⟩
  · cases out with
    | ok ws => simp [callEvents] at he
    | error err => simp [callEvents] at he

variable (hinv : RollbackInv w) (hp : w.procs.lookup a = some ⟨ctxErr, .serve (.create s)⟩)
  (hmove : CreateMove env ctxErr w.cluster s s' c' out) (hok : w.Exclusive (.run a env))
  (hw : w' = w.advance a ⟨ctxErr, .serve (.create s)⟩ (.serve (.create s')) c' out)

include hmove hw in
private theorem own_history : w'.history =
    ((newly s.reply s'.reply).map (.answered a (.serve (.create s')) · c') ++
      callEvents a (.serve (.create s)) out) ++ w.history := by
  rw [hw]
  exact history_advance hmove

include hmove hw in
private theorem own_mem (he : e ∈ w'.history) :
    e ∈ (newly s.reply s'.reply).map (.answered a (.serve (.create s')) · c') ++
      callEvents a (.serve (.create s)) out ∨ e ∈ w.history := by
  rw [own_history hmove hw] at he
  exact List.mem_append.mp he

include hp hok in
/-- Under the condition, no other call can roll back what is stored or answered for now. -/
private theorem own_alone :
    (∀ job secret, s = .createSandbox job secret → w.Alone a job.key) ∧
    (∀ job before createdHere o, s = .poll job before createdHere →
      w.cluster.sandboxes.get job.key = some o → isReady o → w.Alone a job.key) := by
  obtain ⟨hstore, hpoll⟩ := hok a rfl _ hp
  refine ⟨?_, ?_⟩
  · rintro job secret rfl
    exact hstore job rfl
  · rintro job before createdHere o rfl hget hready
    exact hpoll job rfl o hget hready

include hinv hmove hw in
private theorem own_minted :
    ∀ e ∈ w'.history, ∀ b o, e.created = some (b, o) →
      o.metadata.uid < w'.cluster.sandboxes.nextUid ∧
      ∀ k x, w'.cluster.sandboxes.get k = some x → x.metadata.uid = o.metadata.uid →
        k = o.metadata.key := by
  have hc : w'.cluster = c' := by rw [hw]; rfl
  have hold (hno : ∀ o, .createSandbox o ∉ out.writes) :
      ∀ e ∈ w'.history, e.created ≠ none → e ∈ w.history := by
    intro e he hcreated
    rcases own_mem hmove hw he with he | he
    · obtain ⟨⟨b, o⟩, hbo⟩ := Option.ne_none_iff_exists'.mp hcreated
      exact absurd ((new_created he).1 b o hbo).2 (hno o)
    · exact he
  rw [hc]
  cases hmove.sandboxes with
  | same h hwrites =>
    rw [← hc]
    refine hinv.minted_transfer (hold fun o => (hwrites o).1) ?_ ?_
    · rw [hc, h]
    · intro k x hx
      rw [hc, h] at hx
      exact ⟨x, hx, rfl⟩
  | rolledBack hget h =>
    rw [← hc]
    refine hinv.minted_transfer (hold fun o => by simp [Outcome.writes]) ?_ ?_
    · rw [hc]
      exact Nat.le_of_eq h.nextUid.symm
    · intro k x hx
      rw [hc] at hx
      exact ⟨x, (h.of_get hx).2, rfl⟩
  | @stored job secret h _ =>
    intro e he b o hcreated
    have hfresh : w.cluster.sandboxes.nextUid ≤ env.uid := h.fresh
    have hnext : c'.sandboxes.nextUid = env.uid + 1 := h.nextUid
    rcases own_mem hmove hw he with he | he
    · obtain ⟨-, hwrite⟩ := (new_created he).1 b o hcreated
      obtain rfl : o = asCreated env.uid job.sandbox := by
        simpa [Outcome.writes] using hwrite
      have huid : (asCreated env.uid job.sandbox).metadata.uid = env.uid := rfl
      exact ⟨by omega, fun k x hx hux => Table.eq_of_uid hx h.get_self hux⟩
    · obtain ⟨hlt, honly⟩ := hinv.minted e he b o hcreated
      refine ⟨by omega, fun k x hx hux => ?_⟩
      obtain ⟨-, rfl⟩ | ⟨-, hx⟩ := h.of_get hx
      · have huid : (asCreated env.uid job.sandbox).metadata.uid = env.uid := rfl
        omega
      · exact honly k x hx hux

include hinv hp hmove hw in
/-- The moving call itself can roll back because it could before the step. -/
private theorem own_holds_before {job : Job} {before sandbox : PodSandbox}
    (hbefore : s.owned = some (job, before)) (howned : s'.owned = some (job, sandbox))
    (hsame : sandbox = before ∨ w.cluster.sandboxes.get job.key = some sandbox) :
    w'.Holds a job sandbox := by
  obtain ⟨hkey, hrest⟩ := hinv.holds ⟨ctxErr, hp⟩ hbefore
  have hkey' : sandbox.metadata.key = job.key := by
    rcases hsame with rfl | hget
    · exact hkey
    · exact Table.key_of_get hget
  refine hinv.holds_transfer ⟨hkey', hrest⟩ ?_ ?_ ?_
  · intro e he
    rw [own_history hmove hw]
    exact List.mem_append_right _ he
  · intro cur hcur
    rw [hw] at hcur
    cases hmove.sandboxes with
    | same h _ => exact ⟨cur, by rw [← h]; exact hcur, rfl⟩
    | rolledBack hget h => exact ⟨cur, (h.of_get hcur).2, rfl⟩
    | stored h _ => cases hbefore
  · intro e he x hx
    rcases own_mem hmove hw he with he | he
    · -- a polling call that answers 201 is done
      obtain ⟨j, b, here, rfl, hget, hready, -⟩ := new_answered hmove he hx
      obtain ⟨b', j', r, resp, c, rfl⟩ := Event.answeredFor_eq_some.mp hx
      rcases List.mem_append.mp he with he | he
      · obtain ⟨r', -, heq⟩ := List.mem_map.mp he
        cases heq
        cases howned
      · cases out <;> simp [callEvents] at he
    · exact .inl he

include hinv hmove hw in
/-- The moving call can roll back because it stores the PodSandbox now. -/
private theorem own_holds_stored {job : Job} {secret : Secret}
    (hs : s = .createSandbox job secret)
    (hst : w.cluster.sandboxes.Stores (asCreated env.uid job.sandbox) c'.sandboxes)
    (hout : out = .ok [.createSandbox (asCreated env.uid job.sandbox)]) :
    w'.Holds a job (asCreated env.uid job.sandbox) := by
  have hmem : .wrote a (.serve (.create s)) (.createSandbox (asCreated env.uid job.sandbox)) ∈
      w'.history := by
    rw [own_history hmove hw]
    refine List.mem_append_left _ (List.mem_append_right _ (wrote_mem_callEvents.mpr ?_))
    rw [hout]
    exact ⟨rfl, rfl, List.mem_singleton.mpr rfl⟩
  refine ⟨rfl, _, hmem, asCreated env.uid job.sandbox, rfl, rfl, ?_, ?_⟩
  · intro cur hcur
    have hself : w'.cluster.sandboxes.get job.key = some (asCreated env.uid job.sandbox) := by
      rw [hw]
      exact hst.get_self
    rw [hself] at hcur
    cases hcur
    rfl
  · intro e he x hx huid
    rcases own_mem hmove hw he with he | he
    · obtain ⟨j, b, here, hpoll, -⟩ := new_answered hmove he hx
      rw [hs] at hpoll
      cases hpoll
    · -- an object that was answered for earlier has an older identity
      have hlt := hinv.answered e he x hx
      have hfresh : w.cluster.sandboxes.nextUid ≤ env.uid := hst.fresh
      have : (asCreated env.uid job.sandbox).metadata.uid = env.uid := rfl
      omega

include hinv hp hmove hok hw in
private theorem own_holds {b : Nat} {t : CreateState} {job : Job} {sandbox : PodSandbox}
    (hb : w'.Creating b t) (howned : t.owned = some (job, sandbox)) : w'.Holds b job sandbox := by
  obtain ⟨halone, hpoll⟩ := own_alone hp hok
  rw [hw] at hb
  obtain ⟨rfl, rfl⟩ | ⟨hne, hother⟩ := creating_advance.mp hb
  · obtain ⟨before, hbefore, hsame⟩ | ⟨secret, hs, rfl, hst, hout⟩ := hmove.owned_cases howned
    · exact own_holds_before hinv hp hmove hw hbefore howned hsame
    · exact own_holds_stored hinv hmove hw hs hst hout
  · -- another call: the condition keeps this step away from its key
    refine hinv.holds_transfer (hinv.holds hother howned) ?_ ?_ ?_
    · intro e he
      rw [own_history hmove hw]
      exact List.mem_append_right _ he
    · intro cur hcur
      rw [hw] at hcur
      cases hmove.sandboxes with
      | same h _ => exact ⟨cur, by rw [← h]; exact hcur, rfl⟩
      | rolledBack hget h => exact ⟨cur, (h.of_get hcur).2, rfl⟩
      | @stored j secret h _ =>
        have hkey : job.key ≠ j.key := (halone j secret rfl).owned hother hne howned
        obtain ⟨hk, -⟩ | ⟨-, hget⟩ := h.of_get hcur
        · exact absurd hk hkey
        · exact ⟨cur, hget, rfl⟩
    · intro e he x hx
      rcases own_mem hmove hw he with he | he
      · obtain ⟨j, before, here, hs, hget, hready, -⟩ := new_answered hmove he hx
        have hkey : job.key ≠ j.key :=
          (hpoll j before here x hs hget hready).owned hother hne howned
        exact .inr ⟨j.key, hkey.symm, hget⟩
      · exact .inl he

include hinv hp hmove in
/-- What the deferred function deletes is the object this call created, and nobody answered 201 for
it. -/
private theorem own_rolledBack
    (he : e ∈ (newly s.reply s'.reply).map (.answered a (.serve (.create s')) · c') ++
      callEvents a (.serve (.create s)) out) {r : Nat × PodSandbox} (hr : e.rolledBack = some r) :
    ∃ e' ∈ w.history, ∃ o', e'.created = some (r.1, o') ∧
      o'.metadata.uid = r.2.metadata.uid ∧
      (∀ e'' ∈ w.history, ∀ x, e''.answeredFor = some x → x.metadata.uid ≠ r.2.metadata.uid) ∧
      ∀ job before createdHere, s ≠ .poll job before createdHere := by
  obtain ⟨b, o⟩ := r
  obtain ⟨rfl, hwrite⟩ := (new_created he).2 b o hr
  cases hmove.sandboxes with
  | same h hwrites => exact absurd hwrite (hwrites o).2
  | stored h _ => simp [Outcome.writes] at hwrite
  | @rolledBack j sandbox reply cur hget h =>
    obtain rfl : o = cur := by simpa [Outcome.writes] using hwrite
    obtain ⟨hkey, e', he', o', hcreated, hokey, honly, hnone⟩ :=
      hinv.holds (⟨ctxErr, hp⟩ : w.Creating b _) rfl
    rw [hkey] at hget
    have huid := honly o hget
    refine ⟨e', he', o', hcreated, huid.symm, ?_, fun _ _ _ => CreateState.noConfusion⟩
    intro e'' he'' x hx hxuid
    exact hnone e'' he'' x hx (hxuid.trans huid)

include hinv hp hmove hw in
private theorem own_own : Historically RollsBackOwn w'.history := by
  rw [own_history hmove hw]
  refine hinv.own.append fun newer e mid heq r hr => ?_
  have he := List.mem_append_right newer (List.mem_cons_self (a := e) (l := mid))
  rw [← heq] at he
  obtain ⟨e', he', o', hcreated, huid, -⟩ := own_rolledBack hinv hp hmove he hr
  exact ⟨e', List.mem_append_right _ he', (r.1, o'), hcreated, rfl, huid⟩

include hinv hp hmove hw in
private theorem own_unanswered : Historically RollsBackUnanswered w'.history := by
  rw [own_history hmove hw]
  refine hinv.unanswered.append fun newer e mid heq r hr e' he' o ho => ?_
  have he := List.mem_append_right newer (List.mem_cons_self (a := e) (l := mid))
  rw [← heq] at he
  obtain ⟨-, -, -, -, -, hnone, hpoll⟩ := own_rolledBack hinv hp hmove he hr
  rcases List.mem_append.mp he' with he' | he'
  · have hnew := List.mem_append_right newer (List.mem_cons_of_mem e he')
    rw [← heq] at hnew
    obtain ⟨j, before, here, hs, -⟩ := new_answered hmove hnew ho
    exact absurd hs (hpoll j before here)
  · exact hnone e' he' o ho

include hinv hp hmove hw in
private theorem own_kept : w'.AnsweredKept := by
  intro newer e past o heq hans
  rw [own_history hmove hw] at heq
  have hc : w'.cluster = c' := by rw [hw]; rfl
  obtain ⟨mid, hev, -⟩ | ⟨mid, rfl, hold⟩ := append_eq_split heq
  · have he : e ∈ (newly s.reply s'.reply).map (.answered a (.serve (.create s')) · c') ++
        callEvents a (.serve (.create s)) out := by
      rw [hev]
      simp
    obtain ⟨j, before, here, -, hget, -, hsame⟩ := new_answered hmove he hans
    have hkey : o.metadata.key = j.key := Table.key_of_get hget
    refine .inl ⟨o, ?_, rfl⟩
    rw [hc, hsame, hkey]
    exact hget
  · obtain ⟨cur, hcur, huid⟩ | ⟨e', he', hdel⟩ := hinv.kept mid e past o hold hans
    · left
      rw [hc]
      cases hmove.sandboxes with
      | same h _ =>
        rw [h]
        exact ⟨cur, hcur, huid⟩
      | stored h _ => exact ⟨cur, h.get_of_get hcur, huid⟩
      | @rolledBack j sandbox reply x hget h =>
        refine ⟨cur, ?_, huid⟩
        rw [h.get_ne, hcur]
        -- the object rolled back is not one that was answered for
        intro hkey
        rw [hkey, h.stored] at hcur
        cases hcur
        obtain ⟨hskey, e', he', o', -, -, honly, hnone⟩ :=
          hinv.holds (⟨ctxErr, hp⟩ : w.Creating a _) rfl
        rw [hskey] at hget
        have he : e ∈ w.history := by rw [hold]; simp
        exact hnone e he o hans (huid.symm.trans (honly cur hget))
    · exact .inr ⟨e', List.mem_append_right _ he', hdel⟩

include hinv hp hmove hok hw in
theorem own_step : RollbackInv w' where
  minted := own_minted hinv hmove hw
  answered e he o ho := by
    have hc : w'.cluster = c' := by rw [hw]; rfl
    have hnext : w.cluster.sandboxes.nextUid ≤ w'.cluster.sandboxes.nextUid := by
      rw [hc]
      cases hmove.sandboxes with
      | same h _ => rw [h]
      | stored h _ =>
        rw [h.nextUid]
        exact Nat.le_succ_of_le h.fresh
      | rolledBack hget h => exact Nat.le_of_eq h.nextUid.symm
    rcases own_mem hmove hw he with he | he
    · obtain ⟨_, _, _, -, hget, -⟩ := new_answered hmove he ho
      exact Nat.lt_of_lt_of_le (Table.uid_lt hget) hnext
    · exact Nat.lt_of_lt_of_le (hinv.answered e he o ho) hnext
  holds hb howned := own_holds hinv hp hmove hok hw hb howned
  own := own_own hinv hp hmove hw
  unanswered := own_unanswered hinv hp hmove hw
  kept := own_kept hinv hp hmove hw

end Own

theorem step {l : Label} (hinv : RollbackInv w) (hok : w.Exclusive l) (h : w.step l = some w') :
    RollbackInv w' := by
  cases createStep h with
  | own hp hmove => exact hinv.own_step hp hmove hok rfl
  | foreign hforeign => exact hinv.foreign hforeign

end RollbackInv

/-- **Rollback.** In every run that keeps createSandbox calls apart as `Exclusive` says, a rollback
deletes only the PodSandbox its own call created and nobody answered 201 for, and a PodSandbox that
a 201 was answered for disappears only through `deleteSandbox`. -/
theorem rollback_deletes_own_sandbox (cfg : Config) (c : Cluster) (ls : List Label) (w : World)
    (hrun : Run World.step World.Exclusive (World.start cfg c) ls w) :
    Historically RollsBackOwn w.history ∧ Historically RollsBackUnanswered w.history ∧
      w.AnsweredKept := by
  have hinv : RollbackInv w := hrun.invariant RollbackInv
    (fun _ _ _ hi hok hstep => hi.step hok hstep) (RollbackInv.start cfg c)
  exact ⟨hinv.own, hinv.unanswered, hinv.kept⟩

/-- A createSandbox call is cancelled while it polls, and rolls back. -/
def cancelledCreate : List Label :=
  [.createClass "kata" {} { uid := 1 }, Sample.arrive 1 Sample.request] ++ Sample.createSteps 1 1 ++
    [.cancel 1 "context canceled", .run 1 {}, .run 1 {}]

set_option maxRecDepth 100000 in
theorem rollback_of_cancelled_create :
    ∃ w, Run World.step World.Exclusive (World.start Sample.cfg .empty) cancelledCreate w ∧
      (∃ e ∈ w.history, e.rolledBack.isSome) ∧
      Historically RollsBackOwn w.history ∧ Historically RollsBackUnanswered w.history ∧
      w.AnsweredKept := by
  obtain ⟨w, hrun, hevent⟩ := Run.exists_of_checkRun
    (fun w : World => ∃ e ∈ w.history, e.rolledBack.isSome = true)
    (show (checkRun World.step World.Exclusive (World.start Sample.cfg .empty)
      cancelledCreate).any _ = true by decide +kernel)
  exact ⟨w, hrun, hevent, rollback_deletes_own_sandbox _ _ _ _ hrun⟩

/-- A retry attaches to the PodSandbox of the first call and answers 201; then the first call is
cancelled and deletes it. -/
def attachedRetry : List Label :=
  [.createClass "kata" {} { uid := 1 }, Sample.arrive 1 Sample.request] ++ Sample.createSteps 1 1 ++
    [Sample.arrive 2 Sample.request, .run 2 {}, .run 2 {},
      .writeStatus Sample.key (Sample.ready "10.0.0.1"), .run 2 {},
      .cancel 1 "context canceled", .run 1 {}, .run 1 {}]

/-- The PodSandbox of the first call is deleted and a second call creates it again; then the first
call is cancelled and deletes that one. -/
def recreatedSandbox : List Label :=
  [.createClass "kata" {} { uid := 1 }, Sample.arrive 1 Sample.request] ++ Sample.createSteps 1 1 ++
    [.arrive 2 "Bearer token" (.deleteSandbox Sample.key.name), .run 2 {}, .run 2 {},
      .collect .secret ⟨Sample.key.ns, secretName Sample.key.name⟩ {},
      Sample.arrive 3 Sample.request] ++ Sample.createSteps 3 2 ++
    [.cancel 1 "context canceled", .run 1 {}, .run 1 {}]

set_option maxRecDepth 100000 in
theorem rollback_deletes_sandbox_of_others :
    (∃ w, Run World.step (fun _ _ => True) (World.start Sample.cfg .empty) attachedRetry w ∧
      ¬ Historically RollsBackUnanswered w.history) ∧
    (∃ w, Run World.step (fun _ _ => True) (World.start Sample.cfg .empty) recreatedSandbox w ∧
      ¬ Historically RollsBackOwn w.history) := by
  refine ⟨Run.exists_of_checkRun _ ?_, Run.exists_of_checkRun _ ?_⟩
  · decide +kernel
  · decide +kernel

end World

end SandboxProvider
