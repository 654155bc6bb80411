import SandboxProvider.System.Creating

/-!
# The userdata Secret of a stored PodSandbox

`createSandbox` creates the Secret before the PodSandbox, accepts a Secret that already exists,
deletes the Secret by name when the PodSandbox cannot be stored, and makes the PodSandbox its owner
with a third write. In a run where the Secret never exists already (`World.FreshSecrets`), every
PodSandbox that `createSandbox` stored has its Secret, with the userdata in it, for as long as it is
stored.
-/

namespace SandboxProvider

open Lib Server

namespace World

/-- A call creates its Secret only when no Secret of that name exists. -/
def FreshSecrets (w : World) (l : Label) : Prop :=
  ∀ a ∈ l.runs, ∀ p ∈ w.procs.lookup a, ∀ job ∈ p.state.saving,
    w.cluster.secrets.get job.secretKey = none

/-- A createSandbox call stored this PodSandbox. -/
def StoredByCall (w : World) (o : PodSandbox) : Prop :=
  ∃ e ∈ w.history, ∃ r ∈ e.created, r.2.metadata.uid = o.metadata.uid

/-- The Secret that a PodSandbox refers to is there and has the userdata. -/
def HasUserdata (w : World) (o : PodSandbox) : Prop :=
  ∃ secret ∈ w.cluster.secrets.get ⟨o.metadata.ns, o.spec.userDataSecretRef.name⟩,
    (secret.data.lookup userDataKey).isSome

instance (w : World) (l : Label) : Decidable (w.FreshSecrets l) :=
  inferInstanceAs (Decidable (∀ a ∈ l.runs, ∀ p ∈ w.procs.lookup a, _))

instance (w : World) (o : PodSandbox) : Decidable (w.StoredByCall o) :=
  inferInstanceAs (Decidable (∃ e ∈ w.history, ∃ r ∈ e.created, _))

instance (w : World) (o : PodSandbox) : Decidable (w.HasUserdata o) :=
  inferInstanceAs (Decidable (∃ secret ∈ w.cluster.secrets.get _, _))

end World

/-! ## The invariant -/

/-- The Secret of a call that is not done with it is stored as the call created it. -/
def Cluster.Pending (c : Cluster) : CreateState → Prop
  | .createSandbox job secret | .deleteSecret job secret _ =>
    ∃ uid, secret = asCreated uid job.secret ∧ c.secrets.get job.secretKey = some secret
  | .updateSecret job sandbox secret =>
    ∃ uid, secret = controlledBy sandbox (asCreated uid job.secret) ∧
      sandbox.metadata.key = job.key ∧
      c.secrets.get job.secretKey = some (asCreated uid job.secret)
  | _ => True

theorem Cluster.Pending.get {c : Cluster} {s : CreateState} {job : Job} (h : c.Pending s)
    (hjob : s.pending = some job) :
    ∃ uid, c.secrets.get job.secretKey = some (asCreated uid job.secret) := by
  cases s <;> cases hjob
  case createSandbox secret =>
    obtain ⟨uid, rfl, hget⟩ := h
    exact ⟨uid, hget⟩
  case deleteSecret secret message =>
    obtain ⟨uid, rfl, hget⟩ := h
    exact ⟨uid, hget⟩
  case updateSecret sandbox secret =>
    obtain ⟨uid, -, -, hget⟩ := h
    exact ⟨uid, hget⟩

theorem Cluster.Pending.of_pending_none {c : Cluster} {s : CreateState} (h : s.pending = none) :
    c.Pending s := by
  cases s <;> first | exact trivial | cases h

theorem Cluster.Pending.transfer {c c' : Cluster} {s : CreateState} (h : c.Pending s)
    (hget : ∀ job, s.pending = some job →
      c'.secrets.get job.secretKey = c.secrets.get job.secretKey) : c'.Pending s := by
  cases hp : s.pending with
  | none => exact .of_pending_none hp
  | some job =>
    have hsame := hget job hp
    cases s <;> cases hp <;> simp only [Cluster.Pending] at h ⊢ <;> rw [hsame] <;> exact h

namespace World

/-- What a stored PodSandbox of a call can rely on: its Secret has the userdata and no other owner,
and no call is going to delete it or to give it to another PodSandbox. -/
structure Provided (w : World) (o : PodSandbox) : Prop where
  ref : o.spec.userDataSecretRef.name = secretName o.metadata.name
  secret : ∃ secret, w.cluster.secrets.get ⟨o.metadata.ns, secretName o.metadata.name⟩ =
      some secret ∧ (secret.data.lookup userDataKey).isSome ∧
    ∀ owner ∈ secret.metadata.controller,
      owner.name = o.metadata.name ∧ owner.uid = o.metadata.uid
  calls : ∀ {a s job}, w.Creating a s → s.pending = some job → job.key = o.metadata.key →
    ∃ sandbox secret, s = .updateSecret job sandbox secret ∧ sandbox.metadata.uid = o.metadata.uid

structure SecretInv (w : World) : Prop where
  pending : ∀ {a s}, w.Creating a s → w.cluster.Pending s
  sole : ∀ {a b s t job job'}, w.Creating a s → w.Creating b t → s.pending = some job →
    t.pending = some job' → job.key = job'.key → a = b
  provided : ∀ {k o}, w.cluster.sandboxes.get k = some o → w.StoredByCall o → w.Provided o

theorem Provided.hasUserdata {w : World} {o : PodSandbox} (h : w.Provided o) : w.HasUserdata o := by
  obtain ⟨secret, hget, hdata, -⟩ := h.secret
  refine ⟨secret, ?_, hdata⟩
  rw [h.ref]
  exact hget

/-- The owner of the Secret of a stored PodSandbox, if there is one, is alive. -/
theorem Provided.not_isGarbage {w : World} {k : NamespacedName} {o : PodSandbox} {secret : Secret}
    (h : w.Provided o) (hget : w.cluster.sandboxes.get k = some o)
    (hsecret : w.cluster.secrets.get ⟨o.metadata.ns, secretName o.metadata.name⟩ = some secret) :
    ¬ w.cluster.isGarbage secret.metadata := by
  obtain ⟨secret', hsecret', -, howner⟩ := h.secret
  rw [hsecret] at hsecret'
  cases hsecret'
  refine Cluster.not_isGarbage fun ref href => ?_
  obtain ⟨hrname, hruid⟩ := howner ref href
  have hns : secret.metadata.ns = o.metadata.ns :=
    congrArg NamespacedName.ns (Table.key_of_get hsecret)
  have hkey : o.metadata.key = k := Table.key_of_get hget
  refine Cluster.ownerAlive_of_get ?_ hruid
  rw [hns, hrname]
  exact (congrArg w.cluster.sandboxes.get hkey).trans hget

namespace SecretInv

theorem start (cfg : Config) (c : Cluster) : SecretInv (World.start cfg c) where
  pending h := by
    obtain ⟨_, h⟩ := h
    cases h
  sole h := by
    obtain ⟨_, h⟩ := h
    cases h
  provided _ h := by
    obtain ⟨e, he, -⟩ := h
    cases he

variable {w w' : World}

/-- A Secret that is needed is not garbage. -/
theorem foreign_get {k : NamespacedName} {secret : Secret} (h : ForeignSecrets w w')
    (hget : w.cluster.secrets.get k = some secret)
    (hlive : ¬ w.cluster.isGarbage secret.metadata) : w'.cluster.secrets.get k = some secret := by
  cases h with
  | same h => rw [h]; exact hget
  | @collected o h hgarbage =>
    rw [h.get_ne]
    · exact hget
    · rintro rfl
      rw [h.stored] at hget
      cases hget
      exact hlive hgarbage

theorem foreign (hinv : SecretInv w) {events : List Event} (h : Foreign w w' events) :
    SecretInv w' where
  pending {a s} ha := by
    obtain ha | ⟨access, body, rfl⟩ := h.creating ha
    · refine (hinv.pending ha).transfer fun job hjob => ?_
      obtain ⟨uid, hget⟩ := (hinv.pending ha).get hjob
      have hlive := Cluster.not_isGarbage (c := w.cluster)
        (m := (asCreated uid job.secret).metadata) fun ref href => (by cases href)
      rw [foreign_get h.secrets hget hlive, hget]
    · exact trivial
  sole {a b s t job job'} ha hb hs ht hkey := by
    obtain ha | ⟨access, body, rfl⟩ := h.creating ha
    · obtain hb | ⟨access, body, rfl⟩ := h.creating hb
      · exact hinv.sole ha hb hs ht hkey
      · cases ht
    · cases hs
  provided {k o} hget hstored := by
    obtain ⟨old, hold, hkey, huid, hspec⟩ := h.sandboxes.of_get hget
    have hstored : w.StoredByCall old := by
      obtain ⟨e, he, r, hr, hru⟩ := hstored
      rw [h.history] at he
      rcases List.mem_append.mp he with he | he
      · rw [(Event.foreign_none (h.not_ofCreate e he)).1] at hr
        cases hr
      · exact ⟨e, he, r, hr, hru.trans huid⟩
    obtain ⟨hns, hname⟩ := NamespacedName.mk.inj hkey
    have hprov := hinv.provided hold hstored
    obtain ⟨secret, hsecret, hdata, howner⟩ := hprov.secret
    refine ⟨?_, ⟨secret, ?_, hdata, ?_⟩, ?_⟩
    · rw [hspec, hname]
      exact hprov.ref
    · rw [hns, hname]
      exact foreign_get h.secrets hsecret (hprov.not_isGarbage hold hsecret)
    · rw [hname, huid]
      exact howner
    · intro a s job ha hjob hjk
      obtain ha | ⟨access, body, rfl⟩ := h.creating ha
      · rw [huid]
        exact hprov.calls ha hjob (hjk.trans hkey)
      · cases hjob

section Own

variable {a : Nat} {env : Env} {ctxErr : Option String} {s s' : CreateState} {c' : Cluster}
  {out : Outcome} (hinv : SecretInv w)
  (hp : w.procs.lookup a = some ⟨ctxErr, .serve (.create s)⟩)
  (hmove : CreateMove env ctxErr w.cluster s s' c' out) (hok : w.FreshSecrets (.run a env))

include hp hok in
private theorem own_fresh {job : Job} (hs : s = .createSecret job) :
    w.cluster.secrets.get job.secretKey = none := by
  subst hs
  exact hok a rfl _ hp job rfl

include hinv hp hmove in
/-- The Secret under a key that the moving call does not hold stays. -/
private theorem own_get {k : NamespacedName} {secret : Secret}
    (hget : w.cluster.secrets.get k = some secret)
    (hother : ∀ job, s.pending = some job → job.secretKey ≠ k) :
    c'.secrets.get k = some secret := by
  cases hmove.secrets with
  | same h => rw [h]; exact hget
  | stored h => exact h.get_of_get hget
  | @deleted j held message o hgeto h =>
    obtain ⟨uid, hheld, -⟩ := hinv.pending ⟨ctxErr, hp⟩
    have hkey : Keyed.key o = j.secretKey := by
      rw [Table.key_of_get hgeto, hheld]
      rfl
    rw [h.get_ne]
    · exact hget
    · rw [hkey]
      exact (hother j rfl).symm
  | @owned j sandbox held cur hgetc h =>
    obtain ⟨uid, hheld, -⟩ := hinv.pending ⟨ctxErr, hp⟩
    have hkey : Keyed.key cur = j.secretKey := by
      rw [Table.key_of_get hgetc, hheld]
      rfl
    rw [h.get_ne]
    · exact hget
    · rw [hkey]
      exact (hother j rfl).symm

include hinv hp hmove hok in
private theorem own_pending {b : Nat} {t : CreateState}
    (hb : (w.advance a ⟨ctxErr, .serve (.create s)⟩ (.serve (.create s')) c' out).Creating b t) :
    c'.Pending t := by
  cases hjob : t.pending with
  | none => exact .of_pending_none hjob
  | some job =>
    obtain ⟨rfl, rfl⟩ | ⟨hne, hother⟩ := creating_advance.mp hb
    · obtain ⟨rfl, ⟨cur, hcur⟩ | ⟨rfl, hst⟩⟩ | ⟨secret, rfl, hsame, ⟨message, rfl⟩ | hstored⟩ :=
        hmove.pending_cases hjob
      · rw [own_fresh hp hok rfl] at hcur
        cases hcur
      · exact ⟨env.uid, rfl, hst.get_self⟩
      · obtain ⟨uid, hsecret, hget⟩ := hinv.pending ⟨ctxErr, hp⟩
        exact ⟨uid, hsecret, by rw [hsame]; exact hget⟩
      · obtain ⟨-, owned, howned, rfl⟩ := hstored
        obtain ⟨uid, rfl, hget⟩ := hinv.pending ⟨ctxErr, hp⟩
        exact ⟨uid, setControllerReference_eq_ok howned, rfl, by rw [hsame]; exact hget⟩
    · refine (hinv.pending hother).transfer fun j hj => ?_
      obtain ⟨uid, hget⟩ := (hinv.pending hother).get hj
      rw [own_get hinv hp hmove hget, hget]
      intro held hheld hkey
      exact hne (hinv.sole hother ⟨ctxErr, hp⟩ hj hheld (Job.key_eq_of_secretKey hkey.symm))

include hinv hp hmove hok in
/-- A call that comes to hold a Secret is the only one for its key. -/
private theorem own_sole_of_ne {b : Nat} {t : CreateState} {job job' : Job} (hne : b ≠ a)
    (hb : w.Creating b t) (ht : t.pending = some job') (hs' : s'.pending = some job)
    (hkey : job.key = job'.key) : False := by
  obtain ⟨rfl, -⟩ | ⟨secret, rfl, -⟩ := hmove.pending_cases hs'
  · obtain ⟨uid, hget⟩ := (hinv.pending hb).get ht
    have hnone := own_fresh hp hok rfl
    have hsk : job.secretKey = job'.secretKey := by rw [Job.secretKey, hkey]; rfl
    rw [hsk, hget] at hnone
    cases hnone
  · exact hne (hinv.sole hb ⟨ctxErr, hp⟩ ht rfl hkey.symm)

include hinv hp hmove hok in
private theorem own_sole {b b' : Nat} {t t' : CreateState} {job job' : Job}
    (hb : (w.advance a ⟨ctxErr, .serve (.create s)⟩ (.serve (.create s')) c' out).Creating b t)
    (hb' : (w.advance a ⟨ctxErr, .serve (.create s)⟩ (.serve (.create s')) c' out).Creating b' t')
    (ht : t.pending = some job) (ht' : t'.pending = some job') (hkey : job.key = job'.key) :
    b = b' := by
  obtain ⟨rfl, rfl⟩ | ⟨hne, hold⟩ := creating_advance.mp hb <;>
    obtain ⟨rfl, rfl⟩ | ⟨hne', hold'⟩ := creating_advance.mp hb'
  · rfl
  · exact (own_sole_of_ne hinv hp hmove hok hne' hold' ht' ht hkey).elim
  · exact (own_sole_of_ne hinv hp hmove hok hne hold ht ht' hkey.symm).elim
  · exact hinv.sole hold hold' ht ht' hkey

include hinv hp hmove in
/-- The Secret of a stored PodSandbox keeps its userdata, and gets no owner but the PodSandbox. -/
theorem own_secret {o : PodSandbox} {secret : Secret} (hprov : w.Provided o)
    (hsecret : w.cluster.secrets.get ⟨o.metadata.ns, secretName o.metadata.name⟩ = some secret) :
    ∃ secret', c'.secrets.get ⟨o.metadata.ns, secretName o.metadata.name⟩ = some secret' ∧
      secret'.data.lookup userDataKey = secret.data.lookup userDataKey ∧
      ∀ owner ∈ secret'.metadata.controller, owner ∈ secret.metadata.controller ∨
        (owner.name = o.metadata.name ∧ owner.uid = o.metadata.uid) := by
  have ha : w.Creating a s := ⟨ctxErr, hp⟩
  by_cases hheld : ∃ job, s.pending = some job ∧
      job.secretKey = ⟨o.metadata.ns, secretName o.metadata.name⟩
  · -- the call holds this Secret: it is the one that stored the PodSandbox
    obtain ⟨job, hjob, hkey⟩ := hheld
    have hjk : job.key = o.metadata.key :=
      @Job.key_eq_of_secretKey job ⟨"", {}, o.metadata.key⟩ hkey
    obtain ⟨sandbox, held, rfl, huid⟩ := hprov.calls ha hjob hjk
    obtain ⟨uid, hheld, hskey, hget⟩ := hinv.pending ha
    rw [hkey, hsecret] at hget
    cases hget
    cases hmove.secrets with
    | same h =>
      exact ⟨_, (congrArg (Table.get · _) h).trans hsecret, rfl, fun owner hmem => .inl hmem⟩
    | @owned _ _ _ cur hgetc h =>
      refine ⟨updatedSecret held cur, ?_, ?_, ?_⟩
      · have hcur : Keyed.key cur = job.secretKey := by
          rw [Table.key_of_get hgetc, hheld]
          rfl
        rw [← hkey, ← hcur]
        exact h.get_self
      · rw [hheld]
        rfl
      · intro owner hmem
        rw [hheld] at hmem
        cases hmem
        exact .inr ⟨congrArg NamespacedName.name (hskey.trans hjk), huid⟩
  · refine ⟨secret, own_get hinv hp hmove hsecret fun job hjob hkey => ?_, rfl,
      fun owner hmem => .inl hmem⟩
    exact hheld ⟨job, hjob, hkey⟩

include hinv hp hmove hok in
/-- What was stored before keeps its Secret. -/
private theorem own_provided_old {o : PodSandbox} (hprov : w.Provided o) :
    (w.advance a ⟨ctxErr, .serve (.create s)⟩ (.serve (.create s')) c' out).Provided o := by
  have ha : w.Creating a s := ⟨ctxErr, hp⟩
  obtain ⟨secret, hsecret, hdata, howner⟩ := hprov.secret
  refine ⟨hprov.ref, ?_, ?_⟩
  · obtain ⟨secret', hsecret', hsame, howner'⟩ := own_secret hinv hp hmove hprov hsecret
    refine ⟨secret', hsecret', by rw [hsame]; exact hdata, fun owner hmem => ?_⟩
    rcases howner' owner hmem with hmem | h
    · exact howner owner hmem
    · exact h
  · intro b t job hb hjob hjk
    obtain ⟨rfl, rfl⟩ | ⟨hne, hold⟩ := creating_advance.mp hb
    · -- a call that comes to hold the Secret would have found it, or held it before
      obtain ⟨rfl, -⟩ | ⟨held, rfl, -⟩ := hmove.pending_cases hjob
      · have hnone := own_fresh hp hok rfl
        have hsk : job.secretKey = ⟨o.metadata.ns, secretName o.metadata.name⟩ := by
          rw [Job.secretKey, hjk]
          rfl
        rw [hsk, hsecret] at hnone
        cases hnone
      · obtain ⟨_, _, heq, -⟩ := hprov.calls ha rfl hjk
        cases heq
    · exact hprov.calls hold hjob hjk

include hinv hp hmove in
/-- What is stored now gets the Secret that the call holds. -/
private theorem own_provided_new {job : Job} {secret : Secret} (hs : s = .createSandbox job secret)
    (hs' : s' = adopt job (asCreated env.uid job.sandbox) secret) :
    (w.advance a ⟨ctxErr, .serve (.create s)⟩ (.serve (.create s')) c' out).Provided
      (asCreated env.uid job.sandbox) := by
  subst hs
  have ha : w.Creating a (.createSandbox job secret) := ⟨ctxErr, hp⟩
  obtain ⟨uid, rfl, hget⟩ := hinv.pending ha
  have hsecrets : c'.secrets = w.cluster.secrets := by
    cases hmove.secrets with
    | same h => exact h
  refine ⟨rfl, ⟨asCreated uid job.secret, ?_, ?_, ?_⟩, ?_⟩
  · show c'.secrets.get job.secretKey = _
    rw [hsecrets]
    exact hget
  · exact Option.isSome_iff_exists.mpr ⟨_, job.lookup_secret⟩
  · intro owner hmem
    cases hmem
  · intro b t job' hb hjob hjk
    obtain ⟨rfl, rfl⟩ | ⟨hne, hold⟩ := creating_advance.mp hb
    · obtain ⟨owned, -, he⟩ | he :=
        adopt_cases job (asCreated env.uid job.sandbox) (asCreated uid job.secret) <;>
        rw [hs', he] at hjob <;> cases hjob
      exact ⟨_, owned, hs'.trans he, rfl⟩
    · exact absurd (hinv.sole hold ha hjob rfl hjk) hne

include hinv hp hmove hok in
theorem own : SecretInv
    (w.advance a ⟨ctxErr, .serve (.create s)⟩ (.serve (.create s')) c' out) where
  pending hb := own_pending hinv hp hmove hok hb
  sole hb hb' ht ht' hkey := own_sole hinv hp hmove hok hb hb' ht ht' hkey
  provided {k o} hget hstored := by
    have hold (hget : w.cluster.sandboxes.get k = some o)
        (hno : ∀ x, .createSandbox x ∉ out.writes) : (w.advance a ⟨ctxErr, .serve (.create s)⟩
          (.serve (.create s')) c' out).Provided o := by
      refine own_provided_old hinv hp hmove hok (hinv.provided hget ?_)
      obtain ⟨e, he, r, hr, huid⟩ := hstored
      obtain he | ⟨-, hwrite⟩ := created_mem_advance hmove he hr
      · exact ⟨e, he, r, hr, huid⟩
      · exact absurd hwrite (hno r.2)
    cases hmove.sandboxes with
    | same h hwrites =>
      refine hold ?_ fun x => (hwrites x).1
      rw [← h]
      exact hget
    | rolledBack _ h => exact hold (h.of_get hget).2 fun x => by simp [Outcome.writes]
    | @stored job secret h hs' =>
      obtain ⟨-, rfl⟩ | ⟨hk, hget⟩ := h.of_get hget
      · exact own_provided_new hinv hp hmove rfl hs'
      · refine own_provided_old hinv hp hmove hok (hinv.provided hget ?_)
        obtain ⟨e, he, r, hr, huid⟩ := hstored
        obtain he | ⟨-, hwrite⟩ := created_mem_advance hmove he hr
        · exact ⟨e, he, r, hr, huid⟩
        · -- the new identity is not that of an object stored before
          have hr2 : r.2 = asCreated env.uid job.sandbox := by simpa [Outcome.writes] using hwrite
          have hlt : o.metadata.uid < w.cluster.sandboxes.nextUid := Table.uid_lt hget
          have hfresh : w.cluster.sandboxes.nextUid ≤ env.uid := h.fresh
          have : r.2.metadata.uid = env.uid := by rw [hr2]; rfl
          omega

end Own

theorem step {l : Label} (hinv : SecretInv w) (hok : w.FreshSecrets l) (h : w.step l = some w') :
    SecretInv w' := by
  cases createStep h with
  | own hp hmove => exact hinv.own hp hmove hok
  | foreign hforeign => exact hinv.foreign hforeign

end SecretInv

/-- **Userdata.** In every run where a call never finds its Secret already there, every PodSandbox
that a createSandbox call stored and that is still stored has the Secret its spec refers to, in its
namespace, with a userdata key. -/
theorem stored_sandbox_has_userdata (cfg : Config) (c : Cluster) (ls : List Label) (w : World)
    (hrun : Run World.step World.FreshSecrets (World.start cfg c) ls w) (k : NamespacedName)
    (o : PodSandbox) (hget : w.cluster.sandboxes.get k = some o) (hstored : w.StoredByCall o) :
    w.HasUserdata o := by
  have hinv : SecretInv w := hrun.invariant SecretInv
    (fun _ _ _ hi hok hstep => hi.step hok hstep) (SecretInv.start cfg c)
  exact (hinv.provided hget hstored).hasUserdata

/-- One createSandbox call stores its PodSandbox. -/
def soleCreate : List Label :=
  [.createClass "kata" {} { uid := 1 }, Sample.arrive 1 Sample.request] ++ Sample.createSteps 1 1

set_option maxRecDepth 100000 in
theorem sole_create_has_userdata :
    ∃ w, Run World.step World.FreshSecrets (World.start Sample.cfg .empty) soleCreate w ∧
      ∃ o ∈ w.cluster.sandboxes.get Sample.key, w.StoredByCall o ∧ w.HasUserdata o := by
  obtain ⟨w, hrun, o, hget, hstored⟩ := Run.exists_of_checkRun
    (fun w : World => ∃ o ∈ w.cluster.sandboxes.get Sample.key, w.StoredByCall o)
    (show (checkRun World.step World.FreshSecrets (World.start Sample.cfg .empty)
      soleCreate).any _ = true by decide +kernel)
  exact ⟨w, hrun, o, hget, hstored, stored_sandbox_has_userdata _ _ _ _ hrun _ o hget hstored⟩

/-- Two calls for one sandbox: the second finds the Secret of the first, fails to store the
PodSandbox the first one stored meanwhile, and deletes the Secret. -/
def racingCreates : List Label :=
  [.createClass "kata" {} { uid := 1 },
    Sample.arrive 1 Sample.request, .run 1 {}, .run 1 {},
    Sample.arrive 2 Sample.request, .run 2 {}, .run 2 {},
    .run 1 { uid := 1 }, .run 2 { uid := 2 }, .run 1 { uid := 1 }, .run 1 {},
    .run 2 { uid := 2 }, .run 2 {}]

set_option maxRecDepth 100000 in
theorem stored_sandbox_without_userdata :
    ∃ w, Run World.step (fun _ _ => True) (World.start Sample.cfg .empty) racingCreates w ∧
      ∃ o ∈ w.cluster.sandboxes.get Sample.key, w.StoredByCall o ∧ ¬ w.HasUserdata o := by
  refine Run.exists_of_checkRun _ ?_
  decide +kernel

end World

end SandboxProvider
