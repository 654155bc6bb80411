import Mathlib.Data.List.AList

/-!
# Tables of objects with identities

A table maps keys to objects, as an API server's storage of one kind does. An object carries its
own key and a `uid`, the identity of one incarnation: a key can be used again after its object is
gone, a `uid` cannot. The table's invariant (every entry sits under its own key, every `uid` lies
below the next unused one, two entries never share a `uid`) is part of the type, so that no
operation can build a table without it.

A change of a table is described by what `get` returns afterwards: `Stores`, `Replaces` and
`Removes` are the three things that can happen to one object. Proofs about clients use these and
never look at the entries.
-/

namespace SandboxProvider.Lib

universe u v

/-- A lookup after an insertion. -/
theorem lookup_insert_ite {κ : Type u} {β : Type v} [DecidableEq κ] (m : AList fun _ : κ => β)
    (k k' : κ) (v : β) : (m.insert k v).lookup k' = if k' = k then some v else m.lookup k' := by
  split
  · rename_i e
    rw [e]
    exact AList.lookup_insert m
  · rename_i e
    exact AList.lookup_insert_ne e

/-- What a lookup finds after an insertion. -/
theorem lookup_insert_cases {κ : Type u} {β : Type v} [DecidableEq κ] {m : AList fun _ : κ => β}
    {k k' : κ} {v x : β} (h : (m.insert k v).lookup k' = some x) :
    (k' = k ∧ x = v) ∨ (k' ≠ k ∧ m.lookup k' = some x) := by
  rw [lookup_insert_ite] at h
  split at h
  · rename_i e
    exact .inl ⟨e, (Option.some.inj h).symm⟩
  · rename_i e
    exact .inr ⟨e, h⟩

/-- A lookup after a removal. -/
theorem lookup_erase_ite {κ : Type u} {β : Type v} [DecidableEq κ] (m : AList fun _ : κ => β)
    (k k' : κ) : (m.erase k).lookup k' = if k' = k then none else m.lookup k' := by
  split
  · rename_i e
    rw [e]
    exact AList.lookup_erase k m
  · rename_i e
    exact AList.lookup_erase_ne e

/-- A statement about all entries of a finite map is decided by going through them. -/
instance decidableForallLookup {κ : Type u} {β : Type v} [DecidableEq κ] (m : AList fun _ : κ => β)
    (P : κ → β → Prop) [∀ k v, Decidable (P k v)] :
    Decidable (∀ k v, m.lookup k = some v → P k v) :=
  decidable_of_iff (∀ e ∈ m.entries, P e.1 e.2)
    ⟨fun h k v hk => h ⟨k, v⟩ (AList.mem_lookup_iff.mp hk),
      fun h e he => h e.1 e.2 (AList.mem_lookup_iff.mpr he)⟩

/-- Objects that carry their key and the identity of their incarnation. -/
class Keyed (κ : outParam Type) (α : Type) where
  key : α → κ
  uid : α → Nat

open Keyed (key uid)

/-- Objects by key, with distinct identities below `nextUid`. -/
structure Table (κ α : Type) [DecidableEq κ] [Keyed κ α] where
  entries : AList fun _ : κ => α
  nextUid : Nat
  pos : 0 < nextUid
  keyed : ∀ {k o}, entries.lookup k = some o → key o = k
  bound : ∀ {k o}, entries.lookup k = some o → 0 < uid o ∧ uid o < nextUid
  distinct : ∀ {k k' o o'}, entries.lookup k = some o → entries.lookup k' = some o' →
    uid o = uid o' → k = k'

namespace Table

variable {κ α : Type} [DecidableEq κ] [Keyed κ α]

/-- The table without objects. -/
def empty : Table κ α where
  entries := ∅
  nextUid := 1
  pos := Nat.one_pos
  keyed h := by simp at h
  bound h := by simp at h
  distinct h := by simp at h

/-- The object under a key. -/
def get (t : Table κ α) (k : κ) : Option α :=
  t.entries.lookup k

/-- All objects. -/
def list (t : Table κ α) : List α :=
  t.entries.entries.map (·.2)

theorem key_of_get {t : Table κ α} {k : κ} {o : α} (h : t.get k = some o) : key o = k :=
  t.keyed h

theorem uid_lt {t : Table κ α} {k : κ} {o : α} (h : t.get k = some o) : uid o < t.nextUid :=
  (t.bound h).2

/-- One identity, one object. -/
theorem eq_of_uid {t : Table κ α} {k k' : κ} {o o' : α} (h : t.get k = some o)
    (h' : t.get k' = some o') (hu : uid o = uid o') : k = k' :=
  t.distinct h h' hu

/-- Stores a new object under its key; its identity has to be unused so far. -/
def insert (t : Table κ α) (o : α) (h : t.get (key o) = none ∧ t.nextUid ≤ uid o) : Table κ α where
  entries := t.entries.insert (key o) o
  nextUid := uid o + 1
  pos := Nat.succ_pos _
  keyed {k x} hk := by
    rw [lookup_insert_ite] at hk
    split at hk
    · rename_i e
      cases hk
      exact e.symm
    · exact t.keyed hk
  bound {k x} hk := by
    have := t.pos
    rw [lookup_insert_ite] at hk
    split at hk
    · cases hk
      omega
    · have := t.bound hk
      omega
  distinct {k k' x x'} hk hk' hu := by
    rw [lookup_insert_ite] at hk hk'
    split at hk <;> split at hk'
    · rename_i e e'
      rw [e, e']
    · cases hk
      have := t.bound hk'
      omega
    · cases hk'
      have := t.bound hk
      omega
    · exact t.distinct hk hk' hu

/-- Replaces the object under the key of `o` by `o`, which is the same incarnation. -/
def set (t : Table κ α) (o : α) (h : ∃ cur, t.get (key o) = some cur ∧ uid cur = uid o) :
    Table κ α where
  entries := t.entries.insert (key o) o
  nextUid := t.nextUid
  pos := t.pos
  keyed {k x} hk := by
    rw [lookup_insert_ite] at hk
    split at hk
    · rename_i e
      cases hk
      exact e.symm
    · exact t.keyed hk
  bound {k x} hk := by
    rw [lookup_insert_ite] at hk
    split at hk
    · cases hk
      obtain ⟨cur, hcur, hu⟩ := h
      rw [← hu]
      exact t.bound hcur
    · exact t.bound hk
  distinct {k k' x x'} hk hk' hu := by
    obtain ⟨cur, hcur, hcu⟩ := h
    rw [lookup_insert_ite] at hk hk'
    split at hk <;> split at hk'
    · rename_i e e'
      rw [e, e']
    · rename_i e _
      cases hk
      rw [e]
      exact t.distinct hcur hk' (hcu.trans hu)
    · rename_i e'
      cases hk'
      rw [e']
      exact t.distinct hk hcur (hu.trans hcu.symm)
    · exact t.distinct hk hk' hu

/-- Drops the object under a key. Its identity stays used. -/
def erase (t : Table κ α) (k : κ) : Table κ α :=
  have hold {k' x} (hk : (t.entries.erase k).lookup k' = some x) :
      t.entries.lookup k' = some x := by
    rw [lookup_erase_ite] at hk
    split at hk
    · cases hk
    · exact hk
  { entries := t.entries.erase k
    nextUid := t.nextUid
    pos := t.pos
    keyed := fun hk => t.keyed (hold hk)
    bound := fun hk => t.bound (hold hk)
    distinct := fun h₁ h₂ hu => t.distinct (hold h₁) (hold h₂) hu }

/-! ## Changes -/

/-- A new object appears under its key. -/
structure Stores (t : Table κ α) (o : α) (t' : Table κ α) : Prop where
  vacant : t.get (key o) = none
  fresh : t.nextUid ≤ uid o
  nextUid : t'.nextUid = uid o + 1
  get : ∀ k, t'.get k = if k = key o then some o else t.get k

/-- A stored object becomes another version of itself. -/
structure Replaces (t : Table κ α) (o o' : α) (t' : Table κ α) : Prop where
  stored : t.get (key o) = some o
  key_eq : key o' = key o
  uid_eq : uid o' = uid o
  nextUid : t'.nextUid = t.nextUid
  get : ∀ k, t'.get k = if k = key o then some o' else t.get k

/-- A stored object disappears. -/
structure Removes (t : Table κ α) (o : α) (t' : Table κ α) : Prop where
  stored : t.get (key o) = some o
  nextUid : t'.nextUid = t.nextUid
  get : ∀ k, t'.get k = if k = key o then none else t.get k

section Changes

variable {t t' : Table κ α} {o o' x : α} {k : κ}

theorem Stores.of_get (h : t.Stores o t') (hx : t'.get k = some x) :
    (k = key o ∧ x = o) ∨ (k ≠ key o ∧ t.get k = some x) := by
  rw [h.get] at hx
  split at hx
  · rename_i e
    cases hx
    exact .inl ⟨e, rfl⟩
  · rename_i e
    exact .inr ⟨e, hx⟩

theorem Stores.get_of_get (h : t.Stores o t') (hx : t.get k = some x) : t'.get k = some x := by
  rw [h.get, if_neg]
  · exact hx
  · rintro rfl
    rw [h.vacant] at hx
    cases hx

theorem Stores.get_self (h : t.Stores o t') : t'.get (key o) = some o := by
  rw [h.get, if_pos rfl]

/-- The same change keeps an agreement of two tables under a key. -/
theorem Stores.get_congr {t₁ t₁' t₂ t₂' : Table κ α} (h₁ : t₁.Stores o t₁') (h₂ : t₂.Stores o t₂')
    (hk : t₁.get k = t₂.get k) : t₁'.get k = t₂'.get k := by
  rw [h₁.get, h₂.get, hk]

theorem Replaces.of_get (h : t.Replaces o o' t') (hx : t'.get k = some x) :
    (k = key o ∧ x = o') ∨ (k ≠ key o ∧ t.get k = some x) := by
  rw [h.get] at hx
  split at hx
  · rename_i e
    cases hx
    exact .inl ⟨e, rfl⟩
  · rename_i e
    exact .inr ⟨e, hx⟩

theorem Replaces.get_self (h : t.Replaces o o' t') : t'.get (key o) = some o' := by
  rw [h.get, if_pos rfl]

theorem Replaces.get_ne (h : t.Replaces o o' t') (hk : k ≠ key o) : t'.get k = t.get k := by
  rw [h.get, if_neg hk]

theorem Replaces.get_congr {t₁ t₁' t₂ t₂' : Table κ α} (h₁ : t₁.Replaces o o' t₁')
    (h₂ : t₂.Replaces o o' t₂') (hk : t₁.get k = t₂.get k) : t₁'.get k = t₂'.get k := by
  rw [h₁.get, h₂.get, hk]

theorem Removes.of_get (h : t.Removes o t') (hx : t'.get k = some x) :
    k ≠ key o ∧ t.get k = some x := by
  rw [h.get] at hx
  split at hx
  · cases hx
  · rename_i e
    exact ⟨e, hx⟩

theorem Removes.get_ne (h : t.Removes o t') (hk : k ≠ key o) : t'.get k = t.get k := by
  rw [h.get, if_neg hk]

theorem Removes.get_congr {t₁ t₁' t₂ t₂' : Table κ α} (h₁ : t₁.Removes o t₁')
    (h₂ : t₂.Removes o t₂') (hk : t₁.get k = t₂.get k) : t₁'.get k = t₂'.get k := by
  rw [h₁.get, h₂.get, hk]

end Changes

theorem stores_insert (t : Table κ α) (o : α) (h) : t.Stores o (t.insert o h) where
  vacant := h.1
  fresh := h.2
  nextUid := rfl
  get k := lookup_insert_ite t.entries (key o) k o

theorem replaces_set (t : Table κ α) {o o' : α} (h) (hget : t.get (key o) = some o)
    (hkey : key o' = key o) : t.Replaces o o' (t.set o' h) where
  stored := hget
  key_eq := hkey
  uid_eq := by
    obtain ⟨cur, hcur, hu⟩ := h
    rw [hkey, hget] at hcur
    cases hcur
    exact hu.symm
  nextUid := rfl
  get k := by
    rw [← hkey]
    exact lookup_insert_ite t.entries (key o') k o'

theorem removes_erase (t : Table κ α) {k : κ} {o : α} (h : t.get k = some o) :
    t.Removes o (t.erase k) where
  stored := by rw [key_of_get h]; exact h
  nextUid := rfl
  get k' := by
    rw [key_of_get h]
    exact lookup_erase_ite t.entries k k'

/-- Erasing an unused key changes nothing. -/
theorem erase_of_get_none {t : Table κ α} {k : κ} (h : t.get k = none) : t.erase k = t := by
  have hentries : t.entries.erase k = t.entries := by
    refine AList.ext (List.kerase_of_notMem_keys ?_)
    exact AList.lookup_eq_none.mp h
  cases t
  simp only [erase, mk.injEq, and_true]
  exact hentries

/-- The listed objects are the ones `get` finds. -/
theorem mem_list {t : Table κ α} {o : α} : o ∈ t.list ↔ t.get (key o) = some o := by
  constructor
  · intro h
    obtain ⟨⟨k, x⟩, hx, rfl⟩ := List.mem_map.mp h
    have hget : t.get k = some x := AList.mem_lookup_iff.mpr hx
    rw [key_of_get hget]
    exact hget
  · intro h
    exact List.mem_map.mpr ⟨⟨key o, o⟩, AList.mem_lookup_iff.mp h, rfl⟩

/-- No object is listed twice. -/
theorem nodup_list (t : Table κ α) : t.list.Nodup := by
  refine List.Nodup.of_map (f := key) ?_
  have hkeys : t.list.map key = t.entries.keys := by
    unfold list
    rw [List.map_map]
    refine List.map_congr_left fun e he => ?_
    exact t.keyed (AList.mem_lookup_iff.mpr he)
  rw [hkeys]
  exact t.entries.keys_nodup

end Table

end SandboxProvider.Lib
