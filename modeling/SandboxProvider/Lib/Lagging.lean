import Mathlib.Data.List.Chain

/-!
# A store and a copy that lags behind it

The versions of a store in the order in which they were written, and the one that a copy shows. The copy
is any number of versions behind, takes in one version after the other, and never goes back. What
no version undoes, the copy does not lose again (`Lagging.Keeps.seen_advance`).
-/

namespace SandboxProvider.Lib

universe u

structure Lagging (α : Type u) where
  /-- The versions that the copy has left behind. -/
  past : List α := []
  /-- What the copy shows. -/
  seen : α
  /-- The versions to come, the next one first. -/
  pending : List α := []

namespace Lagging

variable {α : Type u} {l l' : Lagging α} {P : α → Prop} {v : α}

/-- What the store holds. -/
def latest (l : Lagging α) : α := (l.seen :: l.pending).getLast (List.cons_ne_nil _ _)

def versions (l : Lagging α) : List α := l.past ++ l.seen :: l.pending

/-- The store is written. -/
def push (l : Lagging α) (v : α) : Lagging α := { l with pending := l.pending ++ [v] }

/-- The copy takes in the next version. -/
def advance (l : Lagging α) : Option (Lagging α) :=
  match l.pending with
  | [] => none
  | next :: pending => some ⟨l.past ++ [l.seen], next, pending⟩

theorem advance_eq_some (h : l.advance = some l') :
    ∃ next pending, l.pending = next :: pending ∧ l' = ⟨l.past ++ [l.seen], next, pending⟩ := by
  unfold advance at h
  split at h
  · cases h
  · rename_i next pending hpending
    cases h
    exact ⟨next, pending, hpending, rfl⟩

theorem seen_mem_versions (l : Lagging α) : l.seen ∈ l.versions := by
  simp [versions]

theorem latest_mem_versions (l : Lagging α) : l.latest ∈ l.versions := by
  have hmem : l.latest ∈ l.seen :: l.pending := List.getLast_mem _
  exact List.mem_append_right _ hmem

theorem mem_versions_push (h : v ∈ l.versions) (next : α) : v ∈ (l.push next).versions := by
  simp only [versions, push, List.mem_append, List.mem_cons] at h ⊢
  tauto

theorem versions_advance (h : l.advance = some l') : l'.versions = l.versions := by
  obtain ⟨next, pending, hpending, rfl⟩ := advance_eq_some h
  simp [versions, hpending]

/-- From the copy on, no version undoes `P`. -/
def Keeps (P : α → Prop) (l : Lagging α) : Prop :=
  (l.seen :: l.pending).IsChain fun v next => P v → P next

theorem Keeps.of_not (h : ∀ v ∈ l.seen :: l.pending, ¬ P v) : l.Keeps P := by
  obtain ⟨past, seen, pending⟩ := l
  induction pending generalizing seen with
  | nil => exact .singleton _
  | cons next pending ih =>
    have hseen : ¬ P seen := h seen List.mem_cons_self
    have hrest := ih next fun v hv => h v (List.mem_cons_of_mem _ hv)
    exact .cons_cons (fun hP => absurd hP hseen) hrest

theorem Keeps.push (h : l.Keeps P) (hv : P l.latest → P v) : (l.push v).Keeps P := by
  have hchain : ((l.seen :: l.pending) ++ [v]).IsChain fun v next => P v → P next := by
    refine List.isChain_append.mpr ⟨h, .singleton v, ?_⟩
    intro last hlast next hnext
    rw [List.getLast?_eq_some_getLast (List.cons_ne_nil _ _), Option.mem_some] at hlast
    rw [List.head?_singleton, Option.mem_some] at hnext
    subst hlast hnext
    exact hv
  exact hchain

theorem Keeps.advance (h : l.Keeps P) (hadvance : l.advance = some l') : l'.Keeps P := by
  obtain ⟨next, pending, hpending, rfl⟩ := advance_eq_some hadvance
  rw [Keeps, hpending] at h
  exact h.tail

theorem Keeps.seen_advance (h : l.Keeps P) (hadvance : l.advance = some l') (hseen : P l.seen) :
    P l'.seen := by
  obtain ⟨next, pending, hpending, rfl⟩ := advance_eq_some hadvance
  rw [Keeps, hpending, List.isChain_cons_cons] at h
  exact h.1 hseen

end Lagging

end SandboxProvider.Lib
