import SandboxProvider.Verify.NetworkMtu
import SandboxProvider.Verify.RunnerIdentity
import SandboxProvider.Verify.UserdataAgreement

/-!
# What a PodSandbox keeps

In a run without leftovers (`World.NoLeftovers`) the runner Pod of a PodSandbox stays as long as the
PodSandbox is stored, and so does its user data, when it was stored by a call that agrees on it
(`World.SameUserdata`).
-/

namespace SandboxProvider

open Lib Server Controller

/-- The conditions after a patch computed from another copy: the stored ones, or those of the patch. -/
theorem PodSandboxStatus.merge_mergeFrom_conditions (s base modified : PodSandboxStatus) :
    (s.merge (mergeFrom base modified)).conditions = s.conditions ∨
      (s.merge (mergeFrom base modified)).conditions = modified.conditions := by
  have hdecode (s : PodSandboxStatus) : (s.encode .conditions).getD [] = s.conditions :=
    congrArg PodSandboxStatus.conditions (decode_encode s)
  show (MergePatch.apply (MergePatch.diff base.encode modified.encode) s.encode .conditions).getD [] = _ ∨
    (MergePatch.apply (MergePatch.diff base.encode modified.encode) s.encode .conditions).getD [] = _
  rw [MergePatch.apply_diff]
  split
  · exact .inl (hdecode s)
  · exact .inr (hdecode modified)

/-- The Pod that the kubelet reports as Ready. -/
def Label.reportsReady : Label → Option NamespacedName
  | .kubelet key _ status => if podReady { status := status } then some key else none
  | _ => none

namespace World

/-- How the Pods change in a step of a run without leftovers. -/
inductive PodsMove (w : World) (t : Table NamespacedName Pod) : Label → Prop
  | same {l} (h : t = w.cluster.pods) : PodsMove w t l
  | reported {nodeName status o}
      (h : w.cluster.pods.Replaces o (setPodStatus nodeName status o) t) :
      PodsMove w t (.kubelet o.metadata.key nodeName status)
  | stored {l uid o cls}
      (h : w.cluster.pods.Stores (asCreated uid (controlledBy o (desiredRunner o cls))) t) :
      PodsMove w t l
  | marked {l now o} (hfree : w.cluster.sandboxes.get o.metadata.key = none)
      (h : w.cluster.pods.Replaces o (markDeleted now o) t) : PodsMove w t l
  | removed {l o} (hfree : w.cluster.sandboxes.get o.metadata.key = none)
      (h : w.cluster.pods.Removes o t) : PodsMove w t l

section Step

variable {classes : Table NamespacedName PodSandboxClass} {w w' : World} {l : Label}

theorem podsMove_of_delete {env : Env} {key : NamespacedName} {o : Pod}
    (hget : w.cluster.pods.get key = some o) (hfree : w.cluster.sandboxes.get key = none) :
    PodsMove w (deletePodIn env w.cluster.pods key) l := by
  have hkey : o.metadata.key = key := Table.key_of_get hget
  rw [← hkey] at hfree
  obtain hrem | hrep : w.cluster.pods.Removes o (deletePodIn env w.cluster.pods key) ∨ _ :=
    deletePodIn_cases hget
  · exact .removed hfree hrem
  · exact .marked hfree hrep

theorem podsMove (hinv : RunnerInv classes w) (hmade : RunnerMade w) (hok : w.NoLeftovers l)
    (h : w.step l = some w') : PodsMove w w'.cluster.pods l := by
  cases moves h with
  | arrive hnew => exact .same rfl
  | reconcile hnew => exact .same rfl
  | cancel hp => exact .same rfl
  | serve hp hmove => exact .same hmove.frame.2
  | control hp hmove =>
    cases hmove.pods with
    | same hsame => exact .same hsame
    | stored hst =>
      rw [hmade.desired ⟨_, hp⟩] at hst
      exact .stored hst
    | deleted => exact (hinv.honest ⟨_, hp⟩).2.elim
  | env henv =>
    cases henv with
    | podCollected hget hgarbage => exact podsMove_of_delete hget (hinv.free_of_garbage hget hgarbage)
    | kubelet hget hrep =>
      obtain rfl := Table.key_of_get hget
      exact .reported hrep
    | podDeleted hget => exact podsMove_of_delete hget (hok.2.2 _ rfl)
    | podRemoved hget hdel hrem =>
      obtain rfl := Table.key_of_get hget
      exact .removed (hinv.alive hget (Option.isSome_iff_ne_none.mp hdel)) hrem
    | _ => exact .same rfl

variable {t : Table NamespacedName Pod} {k : NamespacedName} {p : Pod}

theorem PodsMove.nextUid_le (h : PodsMove w t l) : w.cluster.pods.nextUid ≤ t.nextUid := by
  cases h with
  | same h => rw [h]
  | reported h => exact h.nextUid.ge
  | stored h =>
    rw [h.nextUid]
    exact Nat.le_succ_of_le h.fresh
  | marked _ h => exact h.nextUid.ge
  | removed _ h => exact h.nextUid.ge

/-- A Pod was there before the step, and was Ready or is reported so now; or it is new and not Ready. -/
theorem PodsMove.of_get (h : PodsMove w t l) (hp : t.get k = some p) :
    (∃ old, w.cluster.pods.get k = some old ∧ old.metadata.uid = p.metadata.uid ∧
      (podReady p → podReady old ∨ l.reportsReady = some k)) ∨
    (w.cluster.pods.nextUid ≤ p.metadata.uid ∧ podReady p = false) := by
  cases h with
  | same h =>
    rw [h] at hp
    exact .inl ⟨p, hp, rfl, .inl⟩
  | reported h =>
    obtain ⟨rfl, rfl⟩ | ⟨-, hold⟩ := h.of_get hp
    · refine .inl ⟨_, h.stored, rfl, fun hready => .inr ?_⟩
      exact if_pos hready
    · exact .inl ⟨p, hold, rfl, .inl⟩
  | stored h =>
    obtain ⟨-, rfl⟩ | ⟨-, hold⟩ := h.of_get hp
    · exact .inr ⟨h.fresh, rfl⟩
    · exact .inl ⟨p, hold, rfl, .inl⟩
  | marked _ h =>
    obtain ⟨rfl, rfl⟩ | ⟨-, hold⟩ := h.of_get hp
    · exact .inl ⟨_, h.stored, rfl, .inl⟩
    · exact .inl ⟨p, hold, rfl, .inl⟩
  | removed _ h => exact .inl ⟨p, (h.of_get hp).2, rfl, .inl⟩

/-- The Pod of a stored PodSandbox stays. -/
theorem PodsMove.kept (h : PodsMove w t l) {x : PodSandbox} (hp : w.cluster.pods.get k = some p)
    (hx : w.cluster.sandboxes.get k = some x) :
    ∃ p', t.get k = some p' ∧ p'.metadata.uid = p.metadata.uid := by
  have hother {o : Pod} (hfree : w.cluster.sandboxes.get o.metadata.key = none) :
      k ≠ o.metadata.key := by
    rintro rfl
    rw [hfree] at hx
    cases hx
  cases h with
  | same h => exact ⟨p, by rw [h]; exact hp, rfl⟩
  | @reported nodeName status o h =>
    by_cases hk : k = o.metadata.key
    · subst hk
      have hstored : w.cluster.pods.get o.metadata.key = some o := h.stored
      rw [hstored] at hp
      cases hp
      exact ⟨_, h.get_self, rfl⟩
    · exact ⟨p, (h.get_ne hk).trans hp, rfl⟩
  | stored h => exact ⟨p, h.get_of_get hp, rfl⟩
  | marked hfree h => exact ⟨p, (h.get_ne (hother hfree)).trans hp, rfl⟩
  | removed hfree h => exact ⟨p, (h.get_ne (hother hfree)).trans hp, rfl⟩

/-- Under a name that is in use, the PodSandbox was there before the step. -/
theorem stored_before (hok : w.NoLeftovers l) (h : w.step l = some w') {x : PodSandbox}
    (hused : ¬ w.NameFree k) (hx : w'.cluster.sandboxes.get k = some x) :
    ∃ old, w.cluster.sandboxes.get k = some old ∧ SameIncarnation old x := by
  cases controlStep h with
  | own hp hmove => exact IncarnationInv.own_stored hmove hx
  | outside hout =>
    obtain hold | ⟨a, q, job, hl, hq, hjob, rfl⟩ := IncarnationInv.outside_stored hout hx
    · exact hold
    · exact absurd (hok.2.1 a hl q hq job hjob) hused

/-! ## User data -/

/-- The Secret of the PodSandbox holds this user data. -/
def UserData (w : World) (o : PodSandbox) (text : String) : Prop :=
  ∃ secret, w.cluster.secrets.get ⟨o.metadata.ns, o.spec.userDataSecretRef.name⟩ = some secret ∧
    secret.data.lookup userDataKey = some text

theorem UserData.eq {o : PodSandbox} {text text' : String} (h : w.UserData o text)
    (h' : w.UserData o text') : text = text' := by
  obtain ⟨secret, hsecret, htext⟩ := h
  obtain ⟨secret', hsecret', htext'⟩ := h'
  rw [hsecret] at hsecret'
  cases hsecret'
  exact Option.some.inj (htext.symm.trans htext')

/-- The user data of a stored PodSandbox stays. -/
theorem UserData.step {old o : PodSandbox} {text : String} (h : w.UserData old text)
    (hinv : AgreementInv w) (hstep : w.step l = some w')
    (hold : w.cluster.sandboxes.get k = some old) (hsame : SameIncarnation old o) :
    w'.UserData o text := by
  obtain ⟨secret, hsecret, htext⟩ := h
  have hprov := hinv.secrets.provided hold (hinv.stored hold)
  unfold UserData
  rw [← hsame.ns, ← hsame.spec, hprov.ref]
  rw [hprov.ref] at hsecret
  cases createStep hstep with
  | own hp hmove =>
    obtain ⟨secret', hsecret', hdata, -⟩ := SecretInv.own_secret hinv.secrets hp hmove hprov hsecret
    exact ⟨secret', hsecret', hdata.trans htext⟩
  | foreign hforeign =>
    exact ⟨secret, SecretInv.foreign_get hforeign.secrets hsecret (hprov.not_isGarbage hold hsecret), htext⟩

/-- The user data of a stored PodSandbox is what the calls that poll it posted. -/
theorem UserData.of_checked (hinv : AgreementInv w) {a : Nat} {s : CreateState} {job : Job}
    {o : PodSandbox} (ha : w.Creating a s) (hchecked : s.checked = some job)
    (hget : w.cluster.sandboxes.get job.key = some o) : w.UserData o job.request.userData := by
  obtain ⟨secret, hsecret, htext⟩ := hinv.agrees ha hchecked hget
  obtain ⟨hprov, hkey, -⟩ := hinv.provided_secret hget
  refine ⟨secret, ?_, htext⟩
  rw [hprov.ref, hkey]
  exact hsecret

end Step

/-! ## What a status says -/

/-- A status patch went out with this address of the Pod. -/
def Observed (w : World) (uid : Nat) (ip : String) : Prop :=
  ∃ a key base modified obs result o,
    .wrote a (.reconcile (.patchStatus key base modified (some obs) result)) (.patchSandbox o) ∈
      w.history ∧
    obs.runner.metadata.uid = uid ∧ obs.runner.status.podIP = ip

theorem Observed.step {w w' : World} {l : Label} {uid : Nat} {ip : String} (h : w.Observed uid ip)
    (hstep : w.step l = some w') : w'.Observed uid ip := by
  obtain ⟨a, key, base, modified, obs, result, o, he, hobs⟩ := h
  exact ⟨a, key, base, modified, obs, result, o, history_subset hstep _ he, hobs⟩

/-- Where the status of a stored PodSandbox comes from in a step of a run without leftovers. -/
inductive StatusMove (w w' : World) (k : NamespacedName) (x : PodSandbox) : Prop
  | same {old} (hold : w.cluster.sandboxes.get k = some old) (hstatus : x.status = old.status) :
      StatusMove w w' k x
  | fresh (hstatus : x.status = {}) : StatusMove w w' k x
  | patched {a key base modified seen result o}
      (ha : w.Reconciling a (.patchStatus key base modified seen result))
      (hkey : modified.metadata.key = k) (hget : w.cluster.sandboxes.get k = some o)
      (hstatus : x.status = o.status.merge (base.status.mergeFrom modified.status))
      (he : .wrote a (.reconcile (.patchStatus key base modified seen result)) (.patchSandbox x) ∈
        w'.history) :
      StatusMove w w' k x

theorem statusMove {w w' : World} {l : Label} (hok : w.NoLeftovers l) (h : w.step l = some w')
    {k : NamespacedName} {x : PodSandbox} (hx : w'.cluster.sandboxes.get k = some x) :
    StatusMove w w' k x := by
  cases controlStep h with
  | outside hout =>
    cases hout.sandboxes with
    | same hsame =>
      rw [hsame] at hx
      exact .same hx rfl
    | stored hp hjob hst =>
      obtain ⟨-, rfl⟩ | ⟨-, hold⟩ := hst.of_get hx
      · exact .fresh rfl
      · exact .same hold rfl
    | removed hrem => exact .same (hrem.of_get hx).2 rfl
    | status hrep => exact absurd hok.1 Bool.false_ne_true
  | @own a env ctxErr s s' c' out hp hown =>
    cases hown
    case patched key base modified seen result o t hget hrep =>
      obtain ⟨hk, rfl⟩ | ⟨-, hold⟩ := hrep.of_get hx
      · have hko : modified.metadata.key = k := (hk.trans (Table.key_of_get hget)).symm
        rw [hko] at hget
        exact .patched ⟨_, hp⟩ hko hget rfl List.mem_cons_self
      · exact .same hold rfl
    all_goals exact .same hx rfl

/-- When all Pods that are reported as Ready are `checked`: the Pod that a PodSandbox is Ready with is the one
under its name and is `checked`, and its addresses are those of that Pod. -/
structure StatusInv (checked : Nat → Prop) (w : World) : Prop where
  pod : ∀ {k p}, w.cluster.pods.get k = some p → podReady p → checked p.metadata.uid
  call : ∀ {a key base modified obs result x},
    w.Reconciling a (.patchStatus key base modified (some obs) result) →
    w.cluster.sandboxes.get key = some x → ∃ p, w.cluster.pods.get key = some p ∧
      p.metadata.uid = obs.runner.metadata.uid ∧ (runnerReady obs.runner → checked p.metadata.uid)
  ready : ∀ {k x}, w.cluster.sandboxes.get k = some x →
    conditionTrue x.status.conditions ConditionReady →
    ∃ p, w.cluster.pods.get k = some p ∧ checked p.metadata.uid
  address : ∀ {k x ip}, w.cluster.sandboxes.get k = some x → ip ∈ x.status.ips →
    ∃ p, w.cluster.pods.get k = some p ∧ w.Observed p.metadata.uid ip

namespace StatusInv

variable {checked checked' : Nat → Prop} {classes : Table NamespacedName PodSandboxClass} {w w' : World}
  {l : Label}

theorem mono (h : StatusInv checked w) (himp : ∀ uid, checked uid → checked' uid) :
    StatusInv checked' w where
  pod hp hready := himp _ (h.pod hp hready)
  call ha hx := by
    obtain ⟨p, hp, huid, hchecked⟩ := h.call ha hx
    exact ⟨p, hp, huid, fun hready => himp _ (hchecked hready)⟩
  ready hx hready := by
    obtain ⟨p, hp, hchecked⟩ := h.ready hx hready
    exact ⟨p, hp, himp _ hchecked⟩
  address := h.address

theorem start (cfg : Config) {c : Cluster} (hpods : ∀ k, c.pods.get k = none)
    (hsandboxes : ∀ k, c.sandboxes.get k = none) : StatusInv checked (World.start cfg c) where
  pod {k p} hp := by
    rw [show (World.start cfg c).cluster.pods.get k = none from hpods k] at hp
    cases hp
  call h := by
    obtain ⟨_, h⟩ := h
    cases h
  ready {k x} hx := by
    rw [show (World.start cfg c).cluster.sandboxes.get k = none from hsandboxes k] at hx
    cases hx
  address {k x ip} hx := by
    rw [show (World.start cfg c).cluster.sandboxes.get k = none from hsandboxes k] at hx
    cases hx

/-- The one way to a status patch with an observation is from the runner that was just read. -/
theorem observed_of_move {env : Env} {ctxErr : Option String} {c c' : Cluster} {s : ReconcileState}
    {out : Outcome} {key : NamespacedName} {base modified : PodSandbox} {obs : Observation}
    {result : Result}
    (h : ReconcileMove env ctxErr c s (.patchStatus key base modified (some obs) result) c' out) :
    c.pods.get key = some obs.runner ∧ c' = c := by
  generalize ht : ReconcileState.patchStatus key base modified (some obs) result = t at h
  cases h
  case runnerRead k o cls desired runner hget =>
    obtain ⟨-, he⟩ | ⟨_, _, he⟩ | ⟨-, he⟩ := inspectRunner_cases env.now k o cls desired runner
    · rw [he] at ht
      cases ht
    · rw [he] at ht
      cases ht
    · rw [he] at ht
      cases ht
      exact ⟨hget, rfl⟩
  all_goals cases ht

section Step

variable (hinv : StatusInv checked w) (hrunner : RunnerInv classes w) (hmove : PodsMove w w'.cluster.pods l)

include hmove in
/-- What is known of the Pod of a stored PodSandbox stays known. -/
theorem carry {k : NamespacedName} {x : PodSandbox} {Q : Nat → Prop}
    (h : ∃ p, w.cluster.pods.get k = some p ∧ Q p.metadata.uid)
    (hx : w.cluster.sandboxes.get k = some x) :
    ∃ p, w'.cluster.pods.get k = some p ∧ Q p.metadata.uid := by
  obtain ⟨p, hp, hQ⟩ := h
  obtain ⟨p', hp', huid⟩ := hmove.kept hp hx
  exact ⟨p', hp', by rw [huid]; exact hQ⟩

include hinv hmove in
theorem step_pod (hreports : ∀ k ∈ l.reportsReady, ∀ p ∈ w.cluster.pods.get k, checked p.metadata.uid)
    {k : NamespacedName} {p : Pod} (hp : w'.cluster.pods.get k = some p) (hready : podReady p) :
    checked p.metadata.uid := by
  obtain ⟨old, hold, huid, hwas⟩ | ⟨-, hnot⟩ := hmove.of_get hp
  · rw [← huid]
    obtain hold' | hl := hwas hready
    · exact hinv.pod hold hold'
    · exact hreports k hl old hold
  · rw [hnot] at hready
    cases hready

include hinv hmove in
theorem step_call (hok : w.NoLeftovers l) (hstep : w.step l = some w') {a : Nat} {key : NamespacedName}
    {base modified x : PodSandbox} {obs : Observation} {result : Result}
    (ha : w'.Reconciling a (.patchStatus key base modified (some obs) result))
    (hx : w'.cluster.sandboxes.get key = some x) : ∃ p, w'.cluster.pods.get key = some p ∧
      p.metadata.uid = obs.runner.metadata.uid ∧ (runnerReady obs.runner → checked p.metadata.uid) := by
  have hold (ha : w.Reconciling a (.patchStatus key base modified (some obs) result)) :
      ∃ p, w'.cluster.pods.get key = some p ∧ p.metadata.uid = obs.runner.metadata.uid ∧
        (runnerReady obs.runner → checked p.metadata.uid) := by
    obtain ⟨old, hold, -⟩ := stored_before hok hstep (IncarnationInv.not_nameFree_of_call ha rfl) hx
    replace hold : w.cluster.sandboxes.get key = some old := hold
    exact carry hmove (Q := fun uid => uid = obs.runner.metadata.uid ∧
      (runnerReady obs.runner → checked uid)) (hinv.call ha hold) hold
  cases controlStep hstep with
  | outside hout =>
    obtain ha | hs := hout.reconciling ha
    · exact hold ha
    · cases hs
  | own hp hown =>
    obtain ⟨-, rfl⟩ | ⟨-, ha⟩ := reconciling_advance.mp ha
    · obtain ⟨hget, rfl⟩ := observed_of_move hown
      refine ⟨obs.runner, hget, rfl, fun hready => hinv.pod hget ?_⟩
      exact (Bool.and_eq_true_iff.mp hready).1
    · exact hold ha

include hinv hrunner in
/-- A status patch goes to the PodSandbox whose Pod it observed. -/
theorem patch_pod {a : Nat} {key k : NamespacedName} {base modified o : PodSandbox} {obs : Observation}
    {result : Result} (ha : w.Reconciling a (.patchStatus key base modified (some obs) result))
    (hkey : modified.metadata.key = k) (hget : w.cluster.sandboxes.get k = some o) :
    ∃ p, w.cluster.pods.get k = some p ∧
      p.metadata.uid = obs.runner.metadata.uid ∧ (runnerReady obs.runner → checked p.metadata.uid) := by
  obtain ⟨hpatches, -⟩ := hrunner.honest ha
  obtain ⟨hcall, -⟩ := hrunner.incarnation.call ha rfl
  rw [hpatches.1, hcall] at hkey
  subst hkey
  exact hinv.call ha hget

include hinv hrunner hmove in
theorem step_ready (hok : w.NoLeftovers l) (hstep : w.step l = some w') {k : NamespacedName}
    {x : PodSandbox} (hx : w'.cluster.sandboxes.get k = some x)
    (hready : conditionTrue x.status.conditions ConditionReady) :
    ∃ p, w'.cluster.pods.get k = some p ∧ checked p.metadata.uid := by
  cases statusMove hok hstep hx with
  | same hold hstatus =>
    rw [hstatus] at hready
    exact carry hmove (hinv.ready hold hready) hold
  | fresh hstatus =>
    rw [hstatus] at hready
    cases hready
  | @patched a key base modified seen result o ha hkey hget hstatus he =>
    rw [hstatus] at hready
    obtain hconds | hconds :=
      PodSandboxStatus.merge_mergeFrom_conditions o.status base.status modified.status
    · rw [hconds] at hready
      exact carry hmove (hinv.ready hget hready) hget
    · -- the patch sets the conditions: it says Ready only with a runner that is
      rw [hconds] at hready
      obtain ⟨hpatches, -⟩ := hrunner.honest ha
      cases seen with
      | none =>
        rw [hpatches.2.2] at hready
        cases hready
      | some obs =>
        rw [hpatches.2.2.2] at hready
        obtain ⟨p, hp, -, hchecked⟩ := hinv.patch_pod hrunner ha hkey hget
        exact carry hmove ⟨p, hp, hchecked hready⟩ hget

include hinv hrunner hmove in
theorem step_address (hok : w.NoLeftovers l) (hstep : w.step l = some w') {k : NamespacedName}
    {x : PodSandbox} {ip : String} (hx : w'.cluster.sandboxes.get k = some x)
    (hip : ip ∈ x.status.ips) : ∃ p, w'.cluster.pods.get k = some p ∧ w'.Observed p.metadata.uid ip := by
  have hbefore {o : PodSandbox} (hget : w.cluster.sandboxes.get k = some o) (hip : ip ∈ o.status.ips) :
      ∃ p, w'.cluster.pods.get k = some p ∧ w'.Observed p.metadata.uid ip := by
    obtain ⟨p, hp, hobserved⟩ := hinv.address hget hip
    exact carry hmove (Q := (w'.Observed · ip)) ⟨p, hp, hobserved.step hstep⟩ hget
  cases statusMove hok hstep hx with
  | same hold hstatus =>
    rw [hstatus] at hip
    exact hbefore hold hip
  | fresh hstatus =>
    rw [hstatus] at hip
    cases hip
  | @patched a key base modified seen result o ha hkey hget hstatus he =>
    rw [hstatus, PodSandboxStatus.merge_mergeFrom_ips] at hip
    split at hip
    · exact hbefore hget hip
    · -- the patch changes the addresses: it has an observation, and its address is the new one
      rename_i hne
      obtain ⟨hpatches, -⟩ := hrunner.honest ha
      cases seen with
      | none => exact absurd hpatches.2.1.symm hne
      | some obs =>
        rw [hpatches.2.2.1] at hip
        split at hip
        · cases hip
        · obtain rfl := List.mem_singleton.mp hip
          obtain ⟨p, hp, huid, -⟩ := hinv.patch_pod hrunner ha hkey hget
          refine carry hmove (Q := (w'.Observed · _)) ⟨p, hp, ?_⟩ hget
          exact ⟨a, key, base, modified, obs, result, x, he, huid.symm, rfl⟩

end Step

theorem step (hinv : StatusInv checked w) (hrunner : RunnerInv classes w) (hmade : RunnerMade w)
    (hok : w.NoLeftovers l)
    (hreports : ∀ k ∈ l.reportsReady, ∀ p ∈ w.cluster.pods.get k, checked p.metadata.uid)
    (hstep : w.step l = some w') : StatusInv checked w' := by
  have hmove := podsMove hrunner hmade hok hstep
  exact {
    pod := hinv.step_pod hmove hreports
    call := hinv.step_call hmove hok hstep
    ready := hinv.step_ready hrunner hmove hok hstep
    address := hinv.step_address hrunner hmove hok hstep }

end StatusInv

end World

end SandboxProvider
