import SandboxProvider.Verify.FailedCreate

/-!
# No user data is left behind

`createSandbox` makes the PodSandbox the controller of the userdata Secret only after it has stored both,
and does not look at the result. Until then the Secret has no owner, and the call that created it is the
only one that knows about it. When no API call fails and no request is cancelled, in every interleaving
of any calls, a Secret without an owner is the business of a call that is still at work on it
(`Server.CreateState.Keeps`). So once the calls are through and the collector has nothing to do, each
userdata Secret is that of a stored PodSandbox.
-/

namespace SandboxProvider

open Lib Server Controller

/-- No API call fails and no request is cancelled. -/
def Label.Faultless : Label → Prop
  | .run _ env => env.fault = none
  | .cancel .. => False
  | _ => True

instance : (l : Label) → Decidable l.Faultless
  | .run _ env => inferInstanceAs (Decidable (env.fault = none))
  | .cancel .. => inferInstanceAs (Decidable False)
  | .arrive .. | .reconcile .. | .collect .. | .kubelet .. | .deletePod .. | .removePod _
  | .writeStatus .. | .createClass .. | .updateClass .. | .deleteClass _ => isTrue trivial

namespace Server

variable {env : Env} {ctxErr : Option String} {c c' : Cluster} {s s' : CreateState} {out : Outcome}
  {secret : Secret}

/-- The call created this Secret and is going to delete it or to make the PodSandbox its owner. -/
inductive CreateState.Keeps : CreateState → Secret → Prop
  | stored {job uid} : Keeps (.createSandbox job (asCreated uid job.secret)) (asCreated uid job.secret)
  | deleting {job uid message} :
      Keeps (.deleteSecret job (asCreated uid job.secret) message) (asCreated uid job.secret)
  | owning {job uid sandbox} :
      Keeps (.updateSecret job sandbox (controlledBy sandbox (asCreated uid job.secret)))
        (asCreated uid job.secret)

/-- A call that keeps a Secret under a key has that key pending. -/
theorem CreateState.Keeps.pending (h : s.Keeps secret) :
    ∃ job, s.pending = some job ∧ job.secretKey = secret.metadata.key := by
  cases h with
  | stored => exact ⟨_, rfl, rfl⟩
  | deleting => exact ⟨_, rfl, rfl⟩
  | owning => exact ⟨_, rfl, rfl⟩

/-- Without a failure, a call that keeps a Secret gets rid of it, gives it an owner, or still keeps it. -/
theorem CreateState.Keeps.move (h : s.Keeps secret) (hmove : CreateMove env ctxErr c s s' c' out)
    (hfault : refusal env ctxErr .request = none)
    (hbefore : c.secrets.get secret.metadata.key = some secret)
    (hafter : c'.secrets.get secret.metadata.key = some secret) : s'.Keeps secret := by
  have hfails {err : ApiError} (hfails : Fails env ctxErr .request c.secrets secret.metadata.key err) :
      False := by
    obtain ⟨_, hrefused, -⟩ | ⟨hnone, -⟩ := hfails
    · rw [hfault] at hrefused
      cases hrefused
    · rw [hbefore] at hnone
      cases hnone
  cases h with
  | @stored job uid =>
    cases hmove with
    | sandboxFailed => exact .deleting
    | sandboxStored =>
      rw [adopt_asCreated]
      exact .owning
  | deleting =>
    cases hmove with
    | secretKept h => exact (hfails h).elim
    | secretDeleted hget hrem => exact absurd (Table.key_of_get hget).symm (hrem.of_get hafter).1
  | @owning job uid sandbox =>
    cases hmove with
    | secretUnowned h =>
      obtain h | ⟨cur, hcur, hrefusal⟩ := h
      · exact (hfails h).elim
      · obtain rfl : asCreated uid job.secret = cur := Option.some.inj (hbefore.symm.trans hcur)
        rw [updateRefusal_controlledBy] at hrefusal
        cases hrefusal
    | secretOwned hget hok hrep =>
      obtain ⟨-, heq⟩ | ⟨hne, -⟩ := hrep.of_get hafter
      · cases congrArg (fun secret : Secret => secret.metadata.controller) heq
      · exact absurd (Table.key_of_get hget).symm hne

/-- The Secret that a call holds is under the name for its PodSandbox, and about to be controlled by it. -/
def CreateState.HoldsNamed : CreateState → Prop
  | .createSandbox job secret | .deleteSecret job secret _ => secret.metadata.key = job.secretKey
  | .updateSecret job sandbox secret => secret.metadata.key = job.secretKey ∧
    secret.metadata.controller = some ⟨"PodSandbox", job.key.name, sandbox.metadata.uid⟩
  | _ => True

theorem CreateMove.holdsNamed (h : CreateMove env ctxErr c s s' c' out) (hs : s.HoldsNamed) :
    s'.HoldsNamed := by
  cases hpending : s'.pending with
  | none =>
    cases s' with
    | createSandbox => cases hpending
    | deleteSecret => cases hpending
    | updateSecret => cases hpending
    | _ => trivial
  | some job =>
    obtain ⟨rfl, hsecret⟩ | ⟨secret, rfl, -, ⟨message, rfl⟩ | ⟨-, owned, howned, rfl⟩⟩ :=
      h.pending_cases hpending
    · cases h with
      | secretFailed => cases hpending
      | secretExists => rfl
      | secretStored => rfl
    · exact hs
    · obtain rfl := setControllerReference_eq_ok howned
      exact ⟨hs, rfl⟩

/-- Where a Secret under a key comes from in a step of a createSandbox call. -/
theorem CreateMove.secret_cases (h : CreateMove env ctxErr c s s' c' out) {k : NamespacedName}
    (hget : c'.secrets.get k = some secret) :
    c.secrets.get k = some secret ∨ s'.Keeps secret ∨
    ∃ job sandbox held cur, s = .updateSecret job sandbox held ∧ held.metadata.key = k ∧
      secret = updatedSecret held cur := by
  cases h
  case secretStored job t hst =>
    obtain ⟨-, rfl⟩ | ⟨-, hold⟩ := hst.of_get hget
    · exact .inr (.inl .stored)
    · exact .inl hold
  case secretDeleted hrem => exact .inl (hrem.of_get hget).2
  case secretOwned hget' hok hrep =>
    obtain ⟨rfl, rfl⟩ | ⟨-, hold⟩ := hrep.of_get hget
    · exact .inr (.inr ⟨_, _, _, _, rfl, (Table.key_of_get hget').symm, rfl⟩)
    · exact .inl hold
  all_goals exact .inl hget

end Server

namespace World

variable {w w' : World} {l : Label}

/-- A createSandbox call stays where it is, or it is the one that takes the step. -/
theorem creating_step {a : Nat} {s : CreateState} (ha : w.Creating a s) (h : w.step l = some w') :
    w'.Creating a s ∨ ∃ env ctxErr s' c' out,
      w.procs.lookup a = some ⟨ctxErr, .serve (.create s)⟩ ∧
      CreateMove env ctxErr w.cluster s s' c' out ∧ l = .run a env ∧
      w' = w.advance a ⟨ctxErr, .serve (.create s)⟩ (.serve (.create s')) c' out := by
  obtain ⟨ctxErr, hp⟩ := ha
  have hother {b : Nat} {q : Proc} (hb : a ≠ b) (hprocs : w'.procs = w.procs.insert b q) :
      w'.Creating a s := by
    refine ⟨ctxErr, ?_⟩
    rw [hprocs, AList.lookup_insert_ne hb]
    exact hp
  have hnew {b : Nat} (hb : w.procs.lookup b = none) : a ≠ b := by
    rintro rfl
    rw [hb] at hp
    cases hp
  cases moves h with
  | arrive hb => exact .inl (hother (hnew hb) rfl)
  | reconcile hb => exact .inl (hother (hnew hb) rfl)
  | @serve b env ctxErr' t t' c' out hb hmove =>
    by_cases hab : a = b
    · subst hab
      rw [hp] at hb
      cases hb
      cases hmove with
      | create hmove => exact .inr ⟨env, ctxErr, _, c', out, hp, hmove, rfl, rfl⟩
    · exact .inl (hother hab rfl)
  | @control b env ctxErr' t t' c' out hb hmove =>
    by_cases hab : a = b
    · subst hab
      rw [hp] at hb
      cases hb
    · exact .inl (hother hab rfl)
  | @cancel b err q hb =>
    by_cases hab : a = b
    · subst hab
      rw [hp] at hb
      cases hb
      exact .inl ⟨some err, AList.lookup_insert _⟩
    · exact .inl (hother hab rfl)
  | env henv => exact .inl ⟨ctxErr, hp⟩

/-- Without failures, a userdata Secret is controlled by the PodSandbox that it is named for, or kept by the
call that created it. -/
structure OwnersInv (w : World) : Prop where
  live : ∀ {a p}, w.procs.lookup a = some p → p.ctxErr = none
  named : ∀ {a s}, w.Creating a s → s.HoldsNamed
  owned : ∀ {k secret text}, w.cluster.secrets.get k = some secret →
    secret.data.lookup userDataKey = some text →
    (∃ owner, secret.metadata.controller = some owner ∧ k.name = secretName owner.name) ∨
      ∃ a s, w.Creating a s ∧ s.Keeps secret
  refs : ∀ {k o}, w.cluster.sandboxes.get k = some o →
    o.spec.userDataSecretRef.name = secretName o.metadata.name

namespace OwnersInv

theorem start (cfg : Config) {c : Cluster} (hsandboxes : ∀ k, c.sandboxes.get k = none)
    (hsecrets : ∀ k secret, c.secrets.get k = some secret → secret.data.lookup userDataKey = none) :
    OwnersInv (World.start cfg c) where
  live h := by cases h
  named h := by
    obtain ⟨_, h⟩ := h
    cases h
  owned {k secret text} hget htext := by
    rw [hsecrets k secret hget] at htext
    cases htext
  refs {k o} ho := by
    rw [show (World.start cfg c).cluster.sandboxes.get k = none from hsandboxes k] at ho
    cases ho

theorem step_live (hinv : OwnersInv w) (hok : l.Faultless) (h : w.step l = some w') {a : Nat} {p : Proc}
    (hp : w'.procs.lookup a = some p) : p.ctxErr = none := by
  have hinsert {b : Nat} {q : Proc} (hq : q.ctxErr = none) (hprocs : w'.procs = w.procs.insert b q) :
      p.ctxErr = none := by
    rw [hprocs, lookup_insert_ite] at hp
    split at hp
    · cases hp
      exact hq
    · exact hinv.live hp
  cases moves h with
  | arrive => exact hinsert rfl rfl
  | reconcile => exact hinsert rfl rfl
  | @serve _ _ ctxErr _ s' _ _ hq =>
    have hlive : ctxErr = none := hinv.live hq
    exact hinsert (q := ⟨ctxErr, .serve s'⟩) hlive rfl
  | @control _ _ ctxErr _ s' _ _ hq =>
    have hlive : ctxErr = none := hinv.live hq
    exact hinsert (q := ⟨ctxErr, .reconcile s'⟩) hlive rfl
  | cancel => exact hok.elim
  | env => exact hinv.live hp

theorem step_named (hinv : OwnersInv w) (h : w.step l = some w') {a : Nat} {s : CreateState}
    (ha : w'.Creating a s) : s.HoldsNamed := by
  cases createStep h with
  | own hp hmove =>
    obtain ⟨-, rfl⟩ | ⟨-, ha⟩ := creating_advance.mp ha
    · exact hmove.holdsNamed (hinv.named ⟨_, hp⟩)
    · exact hinv.named ha
  | foreign hforeign =>
    obtain ha | ⟨access, body, rfl⟩ := hforeign.creating ha
    · exact hinv.named ha
    · trivial

theorem step_refs (hinv : OwnersInv w) (h : w.step l = some w') {k : NamespacedName} {o : PodSandbox}
    (ho : w'.cluster.sandboxes.get k = some o) :
    o.spec.userDataSecretRef.name = secretName o.metadata.name := by
  cases createStep h with
  | @own a env ctxErr s s' c' out hp hmove =>
    cases hmove.sandboxes with
    | same hsame =>
      replace ho : c'.sandboxes.get k = some o := ho
      rw [hsame] at ho
      exact hinv.refs ho
    | stored hst =>
      obtain ⟨-, rfl⟩ | ⟨-, hold⟩ := hst.of_get ho
      · rfl
      · exact hinv.refs hold
    | rolledBack hget hrem => exact hinv.refs (hrem.of_get ho).2
  | foreign hforeign =>
    obtain ⟨old, hold, hkey, -, hspec⟩ := hforeign.sandboxes.of_get ho
    rw [hspec, show o.metadata.name = old.metadata.name from congrArg NamespacedName.name hkey]
    exact hinv.refs hold

theorem step_owned (hinv : OwnersInv w) (hok : l.Faultless) (h : w.step l = some w') {k : NamespacedName}
    {secret : Secret} {text : String} (hget : w'.cluster.secrets.get k = some secret)
    (htext : secret.data.lookup userDataKey = some text) :
    (∃ owner, secret.metadata.controller = some owner ∧ k.name = secretName owner.name) ∨
      ∃ a s, w'.Creating a s ∧ s.Keeps secret := by
  have hbefore (hold : w.cluster.secrets.get k = some secret) :
      (∃ owner, secret.metadata.controller = some owner ∧ k.name = secretName owner.name) ∨
        ∃ a s, w'.Creating a s ∧ s.Keeps secret := by
    obtain howner | ⟨a, s, ha, hkeeps⟩ := hinv.owned hold htext
    · exact .inl howner
    · obtain ha | ⟨env, ctxErr, s', c', out, hp, hmove, rfl, rfl⟩ := creating_step ha h
      · exact .inr ⟨a, s, ha, hkeeps⟩
      · have hfault : refusal env ctxErr .request = none := by
          obtain rfl : ctxErr = none := hinv.live hp
          exact hok
        obtain rfl : secret.metadata.key = k := Table.key_of_get hold
        refine .inr ⟨a, s', creating_advance.mpr (.inl ⟨rfl, rfl⟩), ?_⟩
        exact hkeeps.move hmove hfault hold hget
  cases createStep h with
  | own hp hmove =>
    obtain hold | hkeeps | ⟨job, sandbox, held, cur, rfl, rfl, rfl⟩ := hmove.secret_cases hget
    · exact hbefore hold
    · exact .inr ⟨_, _, creating_advance.mpr (.inl ⟨rfl, rfl⟩), hkeeps⟩
    · obtain ⟨hkey, howner⟩ := hinv.named ⟨_, hp⟩
      refine .inl ⟨_, howner, ?_⟩
      exact congrArg NamespacedName.name hkey
  | foreign hforeign =>
    cases hforeign.secrets with
    | same hsame =>
      rw [hsame] at hget
      exact hbefore hget
    | collected hrem _ => exact hbefore (hrem.of_get hget).2

theorem step (hinv : OwnersInv w) (hok : l.Faultless) (h : w.step l = some w') : OwnersInv w' where
  live := hinv.step_live hok h
  named := hinv.step_named h
  owned := hinv.step_owned hok h
  refs := hinv.step_refs h

end OwnersInv

/-- **No user data is left behind.** In every run from a store without PodSandboxes and without user data, of
any calls in any interleaving, in which no API call fails and no request is cancelled: a userdata Secret
that no createSandbox call is at work on and that is not garbage is the one that a stored PodSandbox refers
to, and that PodSandbox controls it. -/
theorem no_userdata_left_behind (cfg : Config) (c : Cluster)
    (hsandboxes : ∀ k, c.sandboxes.get k = none)
    (hsecrets : ∀ k secret, c.secrets.get k = some secret → secret.data.lookup userDataKey = none)
    (ls : List Label) (w : World)
    (hrun : Run World.step (fun _ l => l.Faultless) (World.start cfg c) ls w)
    (k : NamespacedName) (secret : Secret) (text : String)
    (hget : w.cluster.secrets.get k = some secret)
    (htext : secret.data.lookup userDataKey = some text)
    (hidle : ∀ a s job, w.Creating a s → s.pending = some job → job.secretKey ≠ k)
    (hgarbage : ¬ w.cluster.isGarbage secret.metadata) :
    ∃ o, w.cluster.sandboxes.get o.metadata.key = some o ∧ o.metadata.ns = k.ns ∧
      o.spec.userDataSecretRef.name = k.name ∧
      secret.metadata.controller.map (·.uid) = some o.metadata.uid := by
  have hinv : OwnersInv w := hrun.invariant OwnersInv
    (fun _ _ _ hinv hok hstep => hinv.step hok hstep) (.start cfg hsandboxes hsecrets)
  obtain ⟨owner, howner, hname⟩ | ⟨a, s, ha, hkeeps⟩ := hinv.owned hget htext
  · have halive : w.cluster.ownerAlive secret.metadata.ns owner := by
      unfold Cluster.isGarbage at hgarbage
      simpa [howner] using hgarbage
    obtain ⟨o, ho, huid⟩ := (Option.any_eq_true _ _).mp halive
    have hkey : o.metadata.key = ⟨secret.metadata.ns, owner.name⟩ := Table.key_of_get ho
    have hns : secret.metadata.ns = k.ns := congrArg NamespacedName.ns (Table.key_of_get hget)
    refine ⟨o, ?_, (congrArg NamespacedName.ns hkey).trans hns, ?_, ?_⟩
    · rw [hkey]
      exact ho
    · rw [hinv.refs ho, hname, show o.metadata.name = owner.name from congrArg NamespacedName.name hkey]
    · rw [howner, Option.map_some, of_decide_eq_true huid]
  · obtain ⟨job, hjob, hkey⟩ := hkeeps.pending
    exact absurd (hkey.trans (Table.key_of_get hget)) (hidle a s job ha hjob)

set_option maxRecDepth 100000 in
theorem plain_create_keeps_userdata :
    ∃ w, Run World.step (fun _ l => l.Faultless) (World.start Sample.cfg .empty) Sample.plainCreate w ∧
      ∃ secret, w.cluster.secrets.get ⟨Sample.key.ns, secretName Sample.key.name⟩ = some secret ∧
        ∃ o, w.cluster.sandboxes.get o.metadata.key = some o ∧ o.metadata.ns = Sample.key.ns ∧
          o.spec.userDataSecretRef.name = secretName Sample.key.name ∧
          secret.metadata.controller.map (·.uid) = some o.metadata.uid := by
  have hcheck : (checkRun World.step (fun _ l => l.Faultless) (World.start Sample.cfg .empty)
      Sample.plainCreate).any (fun w =>
        (∃ secret ∈ w.cluster.secrets.get ⟨Sample.key.ns, secretName Sample.key.name⟩,
          (secret.data.lookup userDataKey).isSome = true ∧ ¬ w.cluster.isGarbage secret.metadata) ∧
        ∀ e ∈ w.procs.entries, e.2.state.creating.bind CreateState.pending = none) = true := by
    decide +kernel
  obtain ⟨w, hrun, ⟨secret, hget, hsome, hgarbage⟩, hidle⟩ := Run.exists_of_checkRun _ hcheck
  obtain ⟨text, htext⟩ := Option.isSome_iff_exists.mp hsome
  refine ⟨w, hrun, secret, hget, no_userdata_left_behind _ _ (fun _ => rfl)
    (fun _ _ h => (Option.some_ne_none _ h.symm).elim) _ _ hrun _ secret text hget htext ?_ hgarbage⟩
  rintro a s job ⟨ctxErr, hp⟩ hjob
  have hnone : s.pending = none := hidle _ (AList.mem_lookup_iff.mp hp)
  rw [hnone] at hjob
  cases hjob

end World

end SandboxProvider
