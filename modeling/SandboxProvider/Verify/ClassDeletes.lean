import SandboxProvider.System.Incarnation
import SandboxProvider.System.Provenance

/-!
# deleteSandbox and the class of its token

`deleteSandbox` checks the class of the PodSandbox it read and then deletes by name. What it removes
is of the class it checked as long as no createSandbox call of another class stores a PodSandbox
under that name in between (`World.ClassesKept`). Nothing else has to be excluded: the class of a
stored PodSandbox does not change.
-/

namespace SandboxProvider

open Lib Server Controller

/-- A deleteSandbox call between its class check and its removal. -/
def State.removing : State → Option (AuthorizedAccess × PodSandbox)
  | .serve (.delete (.deleteSandbox access sandbox)) => some (access, sandbox)
  | _ => none

theorem State.removing_eq_some {s : State} {access : AuthorizedAccess} {sandbox : PodSandbox} :
    s.removing = some (access, sandbox) ↔
      s = .serve (.delete (.deleteSandbox access sandbox)) := by
  constructor
  · intro h
    unfold removing at h
    split at h
    · cases h
      rfl
    · cases h
  · rintro rfl
    rfl

namespace World

/-- A PodSandbox that is stored under the name a deleteSandbox call is about to remove is of the
class of that call. -/
def ClassesKept (w : World) (l : Label) : Prop :=
  ∀ a ∈ l.runs, ∀ p ∈ w.procs.lookup a, ∀ job ∈ p.state.storing,
    ∀ b q, w.procs.lookup b = some q → ∀ d ∈ q.state.removing,
      d.2.metadata.key = job.key → job.className = d.1.className

instance (w : World) (l : Label) : Decidable (w.ClassesKept l) :=
  inferInstanceAs (Decidable (∀ a ∈ l.runs, ∀ p ∈ w.procs.lookup a, ∀ job ∈ p.state.storing,
    ∀ b q, w.procs.lookup b = some q → ∀ d ∈ q.state.removing,
      d.2.metadata.key = job.key → job.className = d.1.className))

/-- What a deleteSandbox call is about to remove, and what it removed, is of its class. -/
structure RemovalInv (w : World) : Prop where
  pending : ∀ {b q access sandbox x}, w.procs.lookup b = some q →
    q.state.removing = some (access, sandbox) →
    w.cluster.sandboxes.get sandbox.metadata.key = some x → x.spec.className = access.className
  removed : ∀ {a s o}, .wrote a (.serve (.delete s)) (.deleteSandbox o) ∈ w.history →
    ∃ access, s.access = some access ∧ .authorized a access ∈ w.history ∧
      o.spec.className = access.className

namespace RemovalInv

variable {w w' : World} {l : Label}

theorem start (cfg : Config) (c : Cluster) : RemovalInv (World.start cfg c) where
  pending h := by cases h
  removed h := by cases h

/-- A call that comes to its removal has just read the PodSandbox and checked its class. -/
theorem reaches_removing {a : Nat} {s : CallState} {access : AuthorizedAccess}
    {sandbox : PodSandbox} (h : w.Reaches a l w' s)
    (hs : s = .delete (.deleteSandbox access sandbox)) :
    w'.cluster.sandboxes.get sandbox.metadata.key = some sandbox ∧
      sandbox.spec.className = access.className := by
  cases h with
  | arrived => exact absurd hs (authorize_entry _ _ _).delete
  | ran hp hmove => exact hmove.removing hs

theorem step (hinv : RemovalInv w) (htrace : TraceInv w) (hok : w.ClassesKept l)
    (h : w.step l = some w') : RemovalInv w' where
  pending {b q access sandbox x} hb hq hx := by
    obtain ⟨ctxErr, state⟩ := q
    obtain rfl := State.removing_eq_some.mp hq
    obtain ⟨ctxErr', hold⟩ | hreach := (moves h).serve_cases hb
    · obtain ⟨old, hget, hsame⟩ | ⟨a, p, job, uid, hl, hp, hjob, rfl, hkey⟩ := stored_cases h hx
      · rw [← hsame.spec]
        exact hinv.pending hold rfl hget
      · exact hok a hl p hp job hjob b _ hold (access, sandbox) rfl hkey.symm
    · obtain ⟨hget, hclass⟩ := reaches_removing hreach rfl
      rw [hget] at hx
      cases hx
      exact hclass
  removed {a s o} he := by
    obtain hold | ⟨env, ctxErr, s', c', out, -, hp, hmove, hw⟩ := (moves h).wrote_cases he
    · obtain ⟨access, haccess, hauth, hclass⟩ := hinv.removed hold
      exact ⟨access, haccess, history_subset h _ hauth, hclass⟩
    · -- the only write of a deleteSandbox call is its removal
      cases hmove with
      | delete hmove =>
        cases hmove with
        | deleted hget hrem =>
          cases List.mem_singleton.mp hw
          have hauth := (htrace.call hp).2 _ rfl
          exact ⟨_, rfl, history_subset h _ hauth, hinv.pending hp rfl hget⟩
        | _ => cases hw

end RemovalInv

/-- **deleteSandbox removes its own class only.** In every run in which no createSandbox call of
another class stores a PodSandbox under a name between the class check and the removal of a
deleteSandbox call for it, every PodSandbox that a deleteSandbox call removes is, when it is removed,
of the class of the access that the call was authorized with. -/
theorem delete_removes_own_class (cfg : Config) (c : Cluster) (ls : List Label) (w : World)
    (hrun : Run World.step World.ClassesKept (World.start cfg c) ls w) (a : Nat) (s : DeleteState)
    (o : PodSandbox) (he : .wrote a (.serve (.delete s)) (.deleteSandbox o) ∈ w.history) :
    ∃ access, s.access = some access ∧ .authorized a access ∈ w.history ∧
      o.spec.className = access.className := by
  obtain ⟨hinv, -⟩ : RemovalInv w ∧ TraceInv w :=
    hrun.invariant (fun w => RemovalInv w ∧ TraceInv w)
      (fun _ _ _ hi hok hstep => ⟨hi.1.step hi.2 hok hstep, hi.2.step hstep⟩)
      ⟨.start cfg c, .start cfg c⟩
  exact hinv.removed he

end World

/-! ## Two classes in one namespace -/

namespace Sample

/-- A token for another class in the provider's namespace. -/
def otherAccess : Secret where
  metadata := {
    name := "other-access", ns := "provider", uid := 1
    labels := StringMap.ofList [(AccessSecretLabel, AccessSecretLabelValue)] }
  data := StringMap.ofList [(AccessSecretTokenKey, "other-token"), (AccessSecretClassKey, "other"),
    (AccessSecretNamespaceKey, "provider")]

/-- A PodSandbox of the class `kata`. -/
def kataSandbox : PodSandbox where
  metadata := { name := key.name, ns := "provider", uid := 1 }
  spec := { className := "kata", sandboxID := "sandbox" }

/-- Two classes, a token for each and a PodSandbox of the first class. -/
def twoClasses : Cluster where
  sandboxes := Table.empty.insert kataSandbox ⟨rfl, by decide⟩
  secrets := Table.empty.insert otherAccess ⟨rfl, by decide⟩
  pods := .empty
  classes := oneClass.classes.insert (asCreated 2 { metadata := { name := "other" } })
    ⟨by decide, by decide⟩

/-- A deleteSandbox request with the token of the class `kata`. -/
def delete (a : Nat) : Label := .arrive a "Bearer token" (.deleteSandbox key.name)

/-- A deleteSandbox call for a PodSandbox of its class. -/
def plainDelete : List Label := [delete 1, .run 1 {}, .run 1 {}]

/-- A deleteSandbox call checks the class; another one removes the PodSandbox; a createSandbox call
with the token of the other class stores one under the same name; the first call removes that. -/
def crossDelete : List Label :=
  [delete 1, .run 1 {}, delete 2, .run 2 {}, .run 2 {},
    .arrive 3 "Bearer other-token" (.createSandbox (.ok request)), .run 3 {}, .run 3 {}, .run 3 {},
    .run 3 { uid := 2 }, .run 3 { uid := 2 }, .run 1 {}]

end Sample

/-- The PodSandbox that the call `a` removed, and the state it did so in. -/
def Event.removed (a : Nat) : Event → Option (PodSandbox × DeleteState)
  | .wrote b (.serve (.delete s)) (.deleteSandbox o) => if b = a then some (o, s) else none
  | _ => none

theorem Event.removed_eq_some {a : Nat} {e : Event} {o : PodSandbox} {s : DeleteState}
    (h : e.removed a = some (o, s)) : e = .wrote a (.serve (.delete s)) (.deleteSandbox o) := by
  unfold removed at h
  split at h
  · split at h
    · rename_i hb
      cases h
      rw [hb]
    · cases h
  · cases h

namespace World

set_option maxRecDepth 100000 in
theorem plain_delete_removes_own_class :
    ∃ w, Run World.step World.ClassesKept (World.start Sample.cfg Sample.twoClasses)
        Sample.plainDelete w ∧
      ∃ s o, .wrote 1 (.serve (.delete s)) (.deleteSandbox o) ∈ w.history ∧
        ∃ access, s.access = some access ∧ .authorized 1 access ∈ w.history ∧
          o.spec.className = access.className := by
  obtain ⟨w, hrun, e, he, hsome⟩ := Run.exists_of_checkRun
    (fun w : World => ∃ e ∈ w.history, (e.removed 1).isSome = true)
    (show (checkRun World.step World.ClassesKept (World.start Sample.cfg Sample.twoClasses)
      Sample.plainDelete).any _ = true by decide +kernel)
  obtain ⟨⟨o, s⟩, hremoved⟩ := Option.isSome_iff_exists.mp hsome
  rw [Event.removed_eq_some hremoved] at he
  exact ⟨w, hrun, s, o, he, delete_removes_own_class _ _ _ w hrun 1 s o he⟩

set_option maxRecDepth 100000 in
theorem delete_removes_other_class :
    ∃ w, Run World.step (fun _ _ => True) (World.start Sample.cfg Sample.twoClasses)
        Sample.crossDelete w ∧
      ∃ e ∈ w.history, ∃ r ∈ e.removed 1, ∃ access ∈ r.2.access,
        access.className = "kata" ∧ r.1.spec.className = "other" := by
  refine Run.exists_of_checkRun _ ?_
  decide +kernel

end World

end SandboxProvider
