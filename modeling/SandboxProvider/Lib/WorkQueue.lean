import Mathlib.Data.Finset.Basic

/-!
# Work queues

The queue of a controller: a key waits at most once, now or after a delay, and is handed to one worker at
a time. A key that is added while a worker has it waits again, so that what the worker did not see is not
forgotten. `Waits` is all that a proof about wake-ups looks at.
-/

namespace SandboxProvider.Lib

universe u

structure WorkQueue (κ : Type u) where
  /-- The keys that a worker may take. -/
  ready : Finset κ := ∅
  /-- The keys that become ready after a delay. -/
  later : Finset κ := ∅
  /-- The keys that workers have. -/
  locked : Finset κ := ∅

namespace WorkQueue

variable {κ : Type u} [DecidableEq κ] {q q' : WorkQueue κ} {k k' : κ}

/-- A key that waited for its delay is ready from now on. -/
def add (q : WorkQueue κ) (k : κ) : WorkQueue κ :=
  { q with ready := insert k q.ready, later := q.later.erase k }

/-- A key that is ready stays so. -/
def addAfter (q : WorkQueue κ) (k : κ) : WorkQueue κ :=
  if k ∈ q.ready then q else { q with later := insert k q.later }

/-- The delay of a key is over. -/
def elapse (q : WorkQueue κ) (k : κ) : Option (WorkQueue κ) :=
  if k ∈ q.later then some (q.add k) else none

/-- A worker takes a key. -/
def take (q : WorkQueue κ) (k : κ) : Option (WorkQueue κ) :=
  if k ∈ q.ready ∧ k ∉ q.locked then
    some { q with ready := q.ready.erase k, locked := insert k q.locked }
  else none

/-- The worker is done with its key. -/
def finish (q : WorkQueue κ) (k : κ) : WorkQueue κ := { q with locked := q.locked.erase k }

def addAll (q : WorkQueue κ) (ks : List κ) : WorkQueue κ := ks.foldl add q

def Waits (q : WorkQueue κ) (k : κ) : Prop := k ∈ q.ready ∨ k ∈ q.later

instance (q : WorkQueue κ) (k : κ) : Decidable (q.Waits k) := inferInstanceAs (Decidable (_ ∨ _))

theorem waits_add : (q.add k').Waits k ↔ k = k' ∨ q.Waits k := by
  by_cases hk : k = k'
  · simp [Waits, add, hk]
  · simp [Waits, add, hk]

theorem waits_addAfter : (q.addAfter k').Waits k ↔ k = k' ∨ q.Waits k := by
  unfold addAfter
  split
  · rename_i hready
    constructor
    · exact .inr
    · rintro (rfl | h)
      · exact .inl hready
      · exact h
  · simp only [Waits, Finset.mem_insert]
    tauto

theorem waits_elapse (h : q.elapse k' = some q') : q'.Waits k ↔ q.Waits k := by
  unfold elapse at h
  split at h
  · rename_i hlater
    cases h
    rw [waits_add]
    constructor
    · rintro (rfl | h)
      · exact .inr hlater
      · exact h
    · exact .inr
  · cases h

/-- Only the key that is taken stops waiting. -/
theorem waits_of_take (h : q.take k' = some q') (hk : k ≠ k') (hw : q.Waits k) : q'.Waits k := by
  unfold take at h
  split at h
  · cases h
    rcases hw with hready | hlater
    · exact .inl (Finset.mem_erase.mpr ⟨hk, hready⟩)
    · exact .inr hlater
  · cases h

theorem waits_finish : (q.finish k').Waits k ↔ q.Waits k := Iff.rfl

theorem waits_addAll {ks : List κ} : (q.addAll ks).Waits k ↔ k ∈ ks ∨ q.Waits k := by
  unfold addAll
  induction ks generalizing q with
  | nil => simp
  | cons k' ks ih =>
    rw [List.foldl_cons, ih, waits_add, List.mem_cons]
    tauto

/-! ## Workers -/

theorem locked_addAfter : (q.addAfter k).locked = q.locked := by
  unfold addAfter
  split <;> rfl

theorem locked_elapse (h : q.elapse k = some q') : q'.locked = q.locked := by
  unfold elapse at h
  split at h
  · cases h
    rfl
  · cases h

theorem locked_addAll (ks : List κ) : (q.addAll ks).locked = q.locked := by
  unfold addAll
  induction ks generalizing q with
  | nil => rfl
  | cons k ks ih => rw [List.foldl_cons, ih, add]

/-- A worker takes a key that no other one has. -/
theorem take_eq_some (h : q.take k = some q') : k ∉ q.locked ∧ q'.locked = insert k q.locked := by
  unfold take at h
  split at h
  · rename_i hfree
    cases h
    exact ⟨hfree.2, rfl⟩
  · cases h

end WorkQueue

end SandboxProvider.Lib
