import SandboxProvider.Server.Moves

/-!
# The scope of a token

A handler works with the access that `authorize` found for its token: a class and a namespace. Every
client call it makes is about that class or about an object in that namespace, and a Secret it writes
has a name of the form `psb-<hex>-userdata` and no labels (`Request.Within`). The API server answers
such a call from the objects of the scope alone (`Cluster.Agree`) and changes nothing else
(`Cluster.Confined`).
-/

namespace SandboxProvider

open Lib Server

/-- The names of userdata Secrets. -/
def IsUserdataName (name : String) : Prop :=
  ∃ hex : List Char, (∀ d ∈ hex, IsHexDigit d) ∧ name = "psb-" ++ String.ofList hex ++ "-userdata"

theorem isUserdataName_secretName (id : String) : IsUserdataName (secretName (sandboxName id)) :=
  ⟨_, fun _ => hexEncode_isHex, rfl⟩

theorem IsUserdataName.psb {name : String} (h : IsUserdataName name) :
    "psb-".toList.isPrefixOf name.toList = true := by
  obtain ⟨hex, -, rfl⟩ := h
  simp [String.toList_append]

/-- The namespace of the object a write is about. -/
def Write.ns : Write → String
  | .createSandbox o => o.metadata.ns
  | .deleteSandbox o => o.metadata.ns
  | .patchSandbox o => o.metadata.ns
  | .createSecret o => o.metadata.ns
  | .updateSecret o => o.metadata.ns
  | .deleteSecret o => o.metadata.ns
  | .createPod o => o.metadata.ns
  | .deletePod o => o.metadata.ns

/-- The calls of a handler that works with an access. -/
def Request.Within (access : AuthorizedAccess) : Request → Prop
  | .getClass name => name = access.className
  | .getSandbox key | .deleteSandbox key => key.ns = access.ns
  | .createSandbox o => o.metadata.ns = access.ns
  | .createSecret o | .updateSecret o =>
    o.metadata.ns = access.ns ∧ IsUserdataName o.metadata.name ∧ o.metadata.labels = ∅
  | .deleteSecret key => key.ns = access.ns ∧ IsUserdataName key.name
  | _ => False

namespace Cluster

/-- What a call within the scope can change: PodSandboxes and userdata Secrets of the namespace. A
Secret that is new or changed has no labels. -/
structure Confined (access : AuthorizedAccess) (c c' : Cluster) : Prop where
  sandboxes : ∀ {k}, k.ns ≠ access.ns → c'.sandboxes.get k = c.sandboxes.get k
  secrets : ∀ {k}, k.ns ≠ access.ns ∨ ¬ IsUserdataName k.name → c'.secrets.get k = c.secrets.get k
  unlabelled : ∀ {k x}, c'.secrets.get k = some x →
    c.secrets.get k = some x ∨ x.metadata.labels = ∅
  classes : c'.classes = c.classes

/-- The scope looks the same in both clusters. -/
structure Agree (access : AuthorizedAccess) (c₁ c₂ : Cluster) : Prop where
  sandboxes : ∀ {k}, k.ns = access.ns → c₁.sandboxes.get k = c₂.sandboxes.get k
  secrets : ∀ {k}, k.ns = access.ns → c₁.secrets.get k = c₂.secrets.get k
  sandboxClass : c₁.classes.get ⟨"", access.className⟩ = c₂.classes.get ⟨"", access.className⟩

theorem Agree.symm {access : AuthorizedAccess} {c₁ c₂ : Cluster} (h : Agree access c₁ c₂) :
    Agree access c₂ c₁ :=
  ⟨fun hk => (h.sandboxes hk).symm, fun hk => (h.secrets hk).symm, h.sandboxClass.symm⟩

/-- A call of another namespace does not show. -/
theorem Agree.of_confined {access other : AuthorizedAccess} {c₁ c₁' c₂ : Cluster}
    (h : Agree access c₁ c₂) (hc : Confined other c₁ c₁') (hns : other.ns ≠ access.ns) :
    Agree access c₁' c₂ where
  sandboxes hk := (hc.sandboxes (by rw [hk]; exact hns.symm)).trans (h.sandboxes hk)
  secrets hk := (hc.secrets (.inl (by rw [hk]; exact hns.symm))).trans (h.secrets hk)
  sandboxClass := by rw [hc.classes]; exact h.sandboxClass

namespace Confined

variable {access : AuthorizedAccess} {c : Cluster}

theorem refl (access : AuthorizedAccess) (c : Cluster) : Confined access c c :=
  ⟨fun _ => rfl, fun _ => rfl, .inl, rfl⟩

theorem of_sandboxes {t : Table NamespacedName PodSandbox} {key : NamespacedName}
    (hns : key.ns = access.ns) (hget : ∀ k, k ≠ key → t.get k = c.sandboxes.get k) :
    Confined access c { c with sandboxes := t } :=
  { refl access c with
    sandboxes := fun {k} hk => hget k (by rintro rfl; exact hk hns) }

theorem of_secrets {t : Table NamespacedName Secret} (key : NamespacedName)
    (hns : key.ns = access.ns) (hname : IsUserdataName key.name)
    (hget : ∀ k, k ≠ key → t.get k = c.secrets.get k)
    (hnew : ∀ x, t.get key = some x → x.metadata.labels = ∅) :
    Confined access c { c with secrets := t } :=
  { refl access c with
    secrets := fun {k} hk => hget k (by
      rintro rfl
      exact hk.elim (fun h => h hns) (fun h => h hname))
    unlabelled := fun {k x} hx => by
      by_cases hk : k = key
      · exact .inr (hnew x (by rw [← hk]; exact hx))
      · exact .inl (by rw [← hget k hk]; exact hx) }

end Confined

section Exec

variable {access : AuthorizedAccess} {env : Env} {c c₁ c₂ c' c₁' c₂' : Cluster} {r : Request}
  {ws ws₁ ws₂ : List Write}

/-- A call within the scope writes within the scope. -/
theorem exec_confined {res : Except ApiError r.Result} (hr : r.Within access)
    (h : c.exec env r = some (res, c', ws)) :
    Confined access c c' ∧ ∀ w ∈ ws, w.ns = access.ns := by
  have hnothing : ∀ w ∈ ([] : List Write), w.ns = access.ns := fun _ hw => nomatch hw
  cases r with
  | getClass name => cases h; exact ⟨.refl access _, hnothing⟩
  | getSandbox key => cases h; exact ⟨.refl access _, hnothing⟩
  | createSandbox o =>
    obtain ⟨cur, hcur, rfl, rfl, rfl⟩ | ⟨t, hst, rfl, rfl, rfl⟩ := createCall_cases h
    · exact ⟨.refl access _, hnothing⟩
    · refine ⟨.of_sandboxes (show o.metadata.key.ns = access.ns from hr) fun k hk => ?_, ?_⟩
      · exact (hst.get k).trans (if_neg hk)
      · exact List.forall_mem_singleton.mpr hr
  | deleteSandbox key =>
    obtain ⟨hnone, rfl, rfl, rfl⟩ | ⟨o, ho, hf⟩ := onObject_cases (Option.some.inj h)
    · exact ⟨.refl access _, hnothing⟩
    · cases hf
      have hkey : Keyed.key o = key := Table.key_of_get ho
      refine ⟨.of_sandboxes hr fun k hk => ?_, ?_⟩
      · exact (Table.removes_erase _ ho).get_ne (by rw [hkey]; exact hk)
      · exact List.forall_mem_singleton.mpr ((congrArg NamespacedName.ns hkey).trans hr)
  | createSecret o =>
    obtain ⟨hns, hname, hlabels⟩ := hr
    obtain ⟨cur, hcur, rfl, rfl, rfl⟩ | ⟨t, hst, rfl, rfl, rfl⟩ := createCall_cases h
    · exact ⟨.refl access _, hnothing⟩
    · refine ⟨.of_secrets o.metadata.key hns hname (fun k hk => ?_) (fun x hx => ?_), ?_⟩
      · exact (hst.get k).trans (if_neg hk)
      · obtain ⟨-, rfl⟩ | ⟨hne, -⟩ := hst.of_get hx
        · exact hlabels
        · exact absurd rfl hne
      · exact List.forall_mem_singleton.mpr hns
  | updateSecret o =>
    obtain ⟨hns, hname, hlabels⟩ := hr
    obtain ⟨hnone, rfl, rfl, rfl⟩ | ⟨cur, hcur, hf⟩ := onObject_cases (Option.some.inj h)
    · exact ⟨.refl access _, hnothing⟩
    · have hkey : Keyed.key cur = o.metadata.key := Table.key_of_get hcur
      split at hf
      · cases hf
        exact ⟨.refl access _, hnothing⟩
      · cases hf
        have hrep := replaces_modifyObject (updatedSecret o) (fun _ => ⟨rfl, rfl⟩) hcur
        refine ⟨.of_secrets o.metadata.key hns hname (fun k hk => ?_) (fun x hx => ?_), ?_⟩
        · exact hrep.get_ne (by rw [hkey]; exact hk)
        · obtain ⟨-, rfl⟩ | ⟨hne, -⟩ := hrep.of_get hx
          · exact hlabels
          · exact absurd hkey.symm hne
        · exact List.forall_mem_singleton.mpr ((congrArg NamespacedName.ns hkey).trans hns)
  | deleteSecret key =>
    obtain ⟨hns, hname⟩ := hr
    obtain ⟨hnone, rfl, rfl, rfl⟩ | ⟨o, ho, hf⟩ := onObject_cases (Option.some.inj h)
    · exact ⟨.refl access _, hnothing⟩
    · cases hf
      have hkey : Keyed.key o = key := Table.key_of_get ho
      have hrem := Table.removes_erase _ ho
      refine ⟨.of_secrets key hns hname (fun k hk => ?_) (fun x hx => ?_), ?_⟩
      · exact hrem.get_ne (by rw [hkey]; exact hk)
      · exact absurd hkey.symm (hrem.of_get hx).1
      · exact List.forall_mem_singleton.mpr ((congrArg NamespacedName.ns hkey).trans hns)
  | _ => exact hr.elim

/-- The API server answers a call within the scope from the scope. -/
theorem exec_agree {res₁ res₂ : Except ApiError r.Result} (hr : r.Within access)
    (hagree : Agree access c₁ c₂) (h₁ : c₁.exec env r = some (res₁, c₁', ws₁))
    (h₂ : c₂.exec env r = some (res₂, c₂', ws₂)) :
    res₁ = res₂ ∧ ws₁ = ws₂ ∧ Agree access c₁' c₂' := by
  cases r with
  | getClass name =>
    cases h₁
    cases h₂
    cases hr
    refine ⟨?_, rfl, hagree⟩
    unfold getObject
    rw [hagree.sandboxClass]
  | getSandbox key =>
    cases h₁
    cases h₂
    refine ⟨?_, rfl, hagree⟩
    unfold getObject
    rw [hagree.sandboxes hr]
  | createSandbox o =>
    obtain ⟨hres, hws, ⟨rfl, rfl⟩ | ⟨t, t', rfl, rfl, ht⟩⟩ :=
      createCall_agree (hagree.sandboxes (k := o.metadata.key) hr) h₁ h₂
    · exact ⟨hres, hws, hagree⟩
    · exact ⟨hres, hws, { hagree with sandboxes := fun hk => ht _ (hagree.sandboxes hk) }⟩
  | deleteSandbox key =>
    obtain ⟨hres, hws, rfl, rfl⟩ | ⟨o, ho, ho', hf, hf'⟩ :=
      onObject_agree (hagree.sandboxes (k := key) hr) (Option.some.inj h₁) (Option.some.inj h₂)
    · exact ⟨hres, hws, hagree⟩
    · cases hf
      cases hf'
      refine ⟨rfl, rfl, { hagree with sandboxes := fun hk => ?_ }⟩
      exact (Table.removes_erase _ ho).get_congr (Table.removes_erase _ ho') (hagree.sandboxes hk)
  | createSecret o =>
    obtain ⟨hres, hws, ⟨rfl, rfl⟩ | ⟨t, t', rfl, rfl, ht⟩⟩ :=
      createCall_agree (hagree.secrets (k := o.metadata.key) hr.1) h₁ h₂
    · exact ⟨hres, hws, hagree⟩
    · exact ⟨hres, hws, { hagree with secrets := fun hk => ht _ (hagree.secrets hk) }⟩
  | updateSecret o =>
    obtain ⟨hres, hws, rfl, rfl⟩ | ⟨cur, hcur, hcur', hf, hf'⟩ :=
      onObject_agree (hagree.secrets (k := o.metadata.key) hr.1) (Option.some.inj h₁)
        (Option.some.inj h₂)
    · exact ⟨hres, hws, hagree⟩
    · split at hf
      · rename_i err herr
        simp only [herr] at hf'
        cases hf
        cases hf'
        exact ⟨rfl, rfl, hagree⟩
      · rename_i herr
        simp only [herr] at hf'
        cases hf
        cases hf'
        have hrep := replaces_modifyObject (updatedSecret o) (fun _ => ⟨rfl, rfl⟩) hcur
        have hrep' := replaces_modifyObject (updatedSecret o) (fun _ => ⟨rfl, rfl⟩) hcur'
        refine ⟨rfl, rfl, { hagree with secrets := fun hk => ?_ }⟩
        exact hrep.get_congr hrep' (hagree.secrets hk)
  | deleteSecret key =>
    obtain ⟨hres, hws, rfl, rfl⟩ | ⟨o, ho, ho', hf, hf'⟩ :=
      onObject_agree (hagree.secrets (k := key) hr.1) (Option.some.inj h₁) (Option.some.inj h₂)
    · exact ⟨hres, hws, hagree⟩
    · cases hf
      cases hf'
      refine ⟨rfl, rfl, { hagree with secrets := fun hk => ?_ }⟩
      exact (Table.removes_erase _ ho).get_congr (Table.removes_erase _ ho') (hagree.secrets hk)
  | _ => exact hr.elim

end Exec

end Cluster

/-- The call that a program waits for is within the scope. -/
def Next.Within {σ : Type} (access : AuthorizedAccess) : Next σ → Prop
  | .call _ req _ => req.Within access
  | .select .. | .done => True

theorem Next.Within.map {σ τ : Type} {access : AuthorizedAccess} {n : Next σ} (h : n.Within access)
    (f : σ → τ) : (n.map f).Within access := by
  cases n <;> exact h

section Steps

variable {σ : Type} {access : AuthorizedAccess} {n : Next σ} {env : Env} {ctxErr : Option String}
  {c c₁ c₂ c' c₁' c₂' : Cluster} {s s₁ s₂ : σ} {out out₁ out₂ : Outcome}

theorem Next.step_confined (hn : n.Within access) (h : n.step env ctxErr c = some (s, c', out)) :
    Cluster.Confined access c c' ∧ ∀ w ∈ out.writes, w.ns = access.ns := by
  cases n with
  | call ctx req resume =>
    obtain ⟨err, -, rfl, rfl, rfl⟩ | ⟨res, ws, hx, rfl, rfl⟩ := Next.step_call h
    · exact ⟨.refl access _, fun _ hw => absurd hw List.not_mem_nil⟩
    · obtain ⟨hc, hw⟩ := Cluster.exec_confined hn hx
      refine ⟨hc, fun w hmem => hw w ?_⟩
      cases res
      · cases hmem
      · exact hmem
  | select expired tick =>
    simp only [Next.step] at h
    split at h
    · split at h <;> cases h
      exact ⟨.refl access _, fun _ hw => absurd hw List.not_mem_nil⟩
    · cases h
      exact ⟨.refl access _, fun _ hw => absurd hw List.not_mem_nil⟩
  | done => cases h

theorem Next.step_agree (hn : n.Within access) (hagree : Cluster.Agree access c₁ c₂)
    (h₁ : n.step env ctxErr c₁ = some (s₁, c₁', out₁))
    (h₂ : n.step env ctxErr c₂ = some (s₂, c₂', out₂)) :
    s₁ = s₂ ∧ out₁ = out₂ ∧ Cluster.Agree access c₁' c₂' := by
  cases n with
  | call ctx req resume =>
    simp only [Next.step] at h₁ h₂
    split at h₁ <;> split at h₂
    · rename_i res₁ d₁ ws₁ hres₁ _ res₂ d₂ ws₂ hres₂
      cases h₁
      cases h₂
      unfold respond at hres₁ hres₂
      -- the call is refused in both clusters, or in none
      split at hres₁ <;> rename_i hr <;> simp only [hr] at hres₂
      · cases hres₁
        cases hres₂
        exact ⟨rfl, rfl, hagree⟩
      · obtain ⟨rfl, rfl, hagree'⟩ := Cluster.exec_agree hn hagree hres₁ hres₂
        exact ⟨rfl, rfl, hagree'⟩
    · cases h₂
    · cases h₁
    · cases h₁
  | select expired tick =>
    simp only [Next.step] at h₁ h₂
    split at h₁ <;> rename_i hexp <;> simp only [hexp] at h₂
    · cases ctxErr with
      | none => cases h₁
      | some err =>
        cases h₁
        cases h₂
        exact ⟨rfl, rfl, hagree⟩
    · cases h₁
      cases h₂
      exact ⟨rfl, rfl, hagree⟩
  | done => cases h₁

end Steps

/-! ## The handlers stay in their scope -/

namespace Server

/-- What a createSandbox call holds is its own: the Secret and the PodSandbox of its job. -/
def CreateState.Held : CreateState → Prop
  | .createSandbox job secret | .deleteSecret job secret _ =>
    secret.metadata.key = job.secretKey ∧ secret.metadata.labels = ∅
  | .updateSecret job sandbox secret =>
    (secret.metadata.key = job.secretKey ∧ secret.metadata.labels = ∅) ∧
      sandbox.metadata.key = job.key
  | .poll job sandbox _ | .wait job sandbox _ | .rollback job sandbox _ =>
    sandbox.metadata.key = job.key
  | _ => True

/-- What a call holds lies in its scope. -/
def CallState.Sound : CallState → Prop
  | .create s => s.Held ∧ ∀ job ∈ s.job, ∃ id, job.key.name = sandboxName id
  | .delete (.deleteSandbox access sandbox) => sandbox.metadata.ns = access.ns
  | _ => True

section Sound

variable {env : Env} {ctxErr : Option String} {c c' : Cluster} {out : Outcome} {cfg : Config}

theorem CreateState.Held.finish {job : Job} {sandbox : PodSandbox} {createdHere : Bool} (reply : Reply)
    (h : sandbox.metadata.key = job.key) : (finish job sandbox createdHere reply).Held := by
  unfold Server.finish
  split
  · exact h
  · trivial

theorem CreateMove.held {s s' : CreateState} (h : CreateMove env ctxErr c s s' c' out)
    (hs : s.Held) : s'.Held := by
  cases h
  case classRead access body o h =>
    obtain ⟨reply, -, he⟩ | ⟨request, -, -, -, -, he⟩ := prepare_cases access body <;> rw [he] <;>
      trivial
  case sandboxFound h hid => exact Table.key_of_get h
  case secretExists => exact ⟨rfl, rfl⟩
  case secretStored => exact ⟨rfl, rfl⟩
  case sandboxFailed => exact hs
  case sandboxStored job secret t hst =>
    obtain ⟨owned, howned, he⟩ | he := adopt_cases job (asCreated env.uid job.sandbox) secret <;>
      rw [he]
    · rw [setControllerReference_eq_ok howned]
      exact ⟨hs, rfl⟩
    · exact (rfl : (asCreated env.uid job.sandbox).metadata.key = job.key)
  case secretUnowned => exact hs.2
  case secretOwned => exact hs.2
  case pollFailed => exact .finish _ hs
  case polled job before createdHere o hget =>
    have ho : o.metadata.key = job.key := Table.key_of_get hget
    obtain ⟨-, he⟩ | ⟨message, -, he⟩ | he := afterPoll_cases job createdHere o <;> rw [he]
    · trivial
    · exact .finish _ ho
    · exact ho
  case expired => exact .finish _ hs
  case ticked => exact hs
  all_goals trivial

theorem CreateMove.named {s s' : CreateState} (h : CreateMove env ctxErr c s s' c' out)
    (hs : ∀ job ∈ s.job, ∃ id, job.key.name = sandboxName id) :
    ∀ job ∈ s'.job, ∃ id, job.key.name = sandboxName id := by
  intro job hjob
  cases hj : s.job with
  | some job' =>
    cases (h.job_eq hj).symm.trans hjob
    exact hs job hj
  | none =>
    cases h
    case classRead access body o hget =>
      obtain ⟨reply, -, he⟩ | ⟨request, -, -, -, -, he⟩ := prepare_cases access body <;>
        rw [he] at hjob <;> cases hjob
      exact ⟨request.sandboxID, rfl⟩
    case classFailed => cases hjob
    all_goals cases hj

theorem Entry.sound {route : Route} {s : CallState} (h : Entry route s) : s.Sound := by
  cases h with
  | createSandbox => exact ⟨trivial, fun _ hjob => nomatch hjob⟩
  | _ => trivial

theorem CallMove.sound {s s' : CallState} (h : CallMove env ctxErr c cfg s s' c' out)
    (hs : s.Sound) : s'.Sound := by
  cases h with
  | tokenFailed => exact (compareToken_entry _ _ _ _).sound
  | tokenRead => exact (compareToken_entry _ _ _ _).sound
  | accessesFailed => exact (authorized_entry _ _).sound
  | accessesRead => exact (authorized_entry _ _).sound
  | config => trivial
  | create h => exact ⟨h.held hs.1, h.named hs.2⟩
  | delete h =>
    cases h
    case found hget hclass => exact congrArg NamespacedName.ns (Table.key_of_get hget)
    all_goals trivial

theorem CreateState.Held.within {s : CreateState} (hheld : s.Held)
    (hname : ∀ job ∈ s.job, ∃ id, job.key.name = sandboxName id) {access : AuthorizedAccess}
    (haccess : s.access = some access) : s.next.Within access := by
  have hsecret {job : Job} (hjob : s.job = some job) : IsUserdataName (secretName job.key.name) := by
    obtain ⟨id, hid⟩ := hname job hjob
    rw [hid]
    exact isUserdataName_secretName id
  cases s with
  | getClass a body => cases haccess; exact rfl
  | getSandbox job => cases haccess; exact rfl
  | createSecret job => cases haccess; exact ⟨rfl, hsecret rfl, rfl⟩
  | createSandbox job secret => cases haccess; exact rfl
  | deleteSecret job secret message =>
    cases haccess
    show Request.Within _ (.deleteSecret secret.metadata.key)
    rw [hheld.1]
    exact ⟨rfl, hsecret rfl⟩
  | updateSecret job sandbox secret =>
    cases haccess
    obtain ⟨⟨hkey, hlabels⟩, -⟩ := hheld
    obtain ⟨hns, hn⟩ := NamespacedName.mk.inj hkey
    exact ⟨hns, by rw [hn]; exact hsecret rfl, hlabels⟩
  | poll job sandbox createdHere => cases haccess; exact rfl
  | wait job sandbox createdHere => trivial
  | rollback job sandbox reply =>
    cases haccess
    exact congrArg NamespacedName.ns hheld
  | done job sandbox reply => trivial
  | rejected reply => trivial

/-- **Every client call of a handler is within the scope of its token.** -/
theorem CallState.Sound.within {s : CallState} (h : s.Sound) {access : AuthorizedAccess}
    (haccess : s.access = some access) : (s.next cfg).Within access := by
  cases s with
  | getToken => cases haccess
  | listAccesses => cases haccess
  | replied => cases haccess
  | config s =>
    cases s with
    | getClass a => cases haccess; exact rfl
    | done => cases haccess
  | delete s =>
    cases s with
    | getSandbox a id => cases haccess; exact rfl
    | deleteSandbox a sandbox => cases haccess; exact h
    | done => cases haccess
  | create s => exact (h.1.within h.2 haccess).map _

end Sound

end Server

end SandboxProvider
