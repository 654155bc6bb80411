import Mathlib.Data.List.Basic

/-!
# Slices in memory

Arrays of one element type, and slices that refer to a part of one of them, as in Go: an assignment to
an element of a slice is seen through every slice of the same array, and `append` writes into the array
when its capacity allows it and into a new one otherwise. How large a new array is, is left open.

A slice that a function has made itself (`Since`) can be written without a change to any array that was
there before (`Keeps`).
-/

namespace SandboxProvider.Lib

structure SliceHeader where
  array : Nat
  offset : Nat
  len : Nat
  cap : Nat
  deriving DecidableEq, Repr

/-- The nil slice; without capacity it refers to no array. -/
def SliceHeader.nil : SliceHeader := ⟨0, 0, 0, 0⟩

structure ArrayHeap (α : Type) where
  arrays : List (List α)
  deriving DecidableEq

/-- Writes the values over those from an index on. -/
def overwrite {α : Type} (i : Nat) (values array : List α) : List α :=
  array.take i ++ (values ++ array.drop (i + values.length))

namespace ArrayHeap

variable {α : Type}

def array (h : ArrayHeap α) (i : Nat) : List α := h.arrays.getD i []

/-- The elements of a slice. -/
def read (h : ArrayHeap α) (s : SliceHeader) : List α := ((h.array s.array).drop s.offset).take s.len

/-- `s[i]`; out of range it panics. -/
def get? (h : ArrayHeap α) (s : SliceHeader) (i : Nat) : Option α := (h.read s)[i]?

/-- `s[i] = value`; out of range it panics. -/
def set? (h : ArrayHeap α) (s : SliceHeader) (i : Nat) (value : α) : Option (ArrayHeap α) :=
  if i < s.len then some ⟨h.arrays.modify s.array (·.set (s.offset + i) value)⟩ else none

/-- A new array, behind the others. -/
def alloc (h : ArrayHeap α) (array : List α) : ArrayHeap α := ⟨h.arrays ++ [array]⟩

/-- `append(s, values...)`. A new array has room for `spare` more elements. -/
def append (zero : α) (spare : Nat → Nat) (h : ArrayHeap α) (s : SliceHeader) (values : List α) :
    SliceHeader × ArrayHeap α :=
  let n := s.len + values.length
  if n ≤ s.cap then
    ({ s with len := n }, ⟨h.arrays.modify s.array (overwrite (s.offset + s.len) values)⟩)
  else
    (⟨h.arrays.length, 0, n, n + spare n⟩,
      h.alloc (h.read s ++ values ++ List.replicate (spare n) zero))

/-- The slice lies in its array. -/
structure Valid (h : ArrayHeap α) (s : SliceHeader) : Prop where
  len_le : s.len ≤ s.cap
  cap_le : s.offset + s.cap ≤ (h.array s.array).length

instance (h : ArrayHeap α) (s : SliceHeader) : Decidable (h.Valid s) :=
  decidable_of_iff (s.len ≤ s.cap ∧ s.offset + s.cap ≤ (h.array s.array).length)
    ⟨fun ⟨hlen, hcap⟩ => ⟨hlen, hcap⟩, fun h => ⟨h.len_le, h.cap_le⟩⟩

/-- The first `n` arrays are as before, and no array is gone. -/
structure Keeps (n : Nat) (h h' : ArrayHeap α) : Prop where
  array_eq : ∀ i < n, h'.array i = h.array i
  length_le : h.arrays.length ≤ h'.arrays.length

/-- The slice does not refer to the first `n` arrays. -/
def Since (n : Nat) (s : SliceHeader) : Prop := s.cap = 0 ∨ n ≤ s.array

theorem valid_nil (h : ArrayHeap α) : h.Valid .nil := ⟨Nat.le_refl 0, Nat.zero_le _⟩

theorem read_nil (h : ArrayHeap α) : h.read .nil = [] := rfl

theorem since_nil (n : Nat) : Since n .nil := .inl rfl

theorem Keeps.refl (n : Nat) (h : ArrayHeap α) : Keeps n h h := ⟨fun _ _ => rfl, Nat.le_refl _⟩

theorem Keeps.trans {n : Nat} {h₁ h₂ h₃ : ArrayHeap α} (h₁₂ : Keeps n h₁ h₂) (h₂₃ : Keeps n h₂ h₃) :
    Keeps n h₁ h₃ :=
  ⟨fun i hi => (h₂₃.array_eq i hi).trans (h₁₂.array_eq i hi),
    Nat.le_trans h₁₂.length_le h₂₃.length_le⟩

section Lemmas

variable {h : ArrayHeap α} {s : SliceHeader} {n : Nat}

theorem Valid.length_read (hs : h.Valid s) : (h.read s).length = s.len := by
  have hlen := hs.len_le
  have hcap := hs.cap_le
  simp only [read, List.length_take, List.length_drop]
  omega

/-- An array with an element is there. -/
theorem array_lt {i k : Nat} (hk : k < (h.array i).length) : i < h.arrays.length := by
  by_contra hi
  have hnil : h.array i = [] := by
    simp [array, List.getD_eq_getElem?_getD, List.getElem?_eq_none (Nat.not_lt.mp hi)]
  rw [hnil] at hk
  cases hk

theorem array_modify_self {i : Nat} (hi : i < h.arrays.length) (f : List α → List α) :
    (ArrayHeap.mk (h.arrays.modify i f)).array i = f (h.array i) := by
  simp [array, List.getD_eq_getElem?_getD, hi]

theorem array_modify_ne {i j : Nat} (hij : i ≠ j) (f : List α → List α) :
    (ArrayHeap.mk (h.arrays.modify i f)).array j = h.array j := by
  simp [array, List.getD_eq_getElem?_getD, hij]

theorem keeps_modify {i : Nat} (hi : n ≤ i) (f : List α → List α) :
    Keeps n h ⟨h.arrays.modify i f⟩ := by
  refine ⟨fun j hj => array_modify_ne (by omega) f, ?_⟩
  simp

theorem array_alloc_self (array : List α) : (h.alloc array).array h.arrays.length = array := by
  simp [alloc, ArrayHeap.array, List.getD_eq_getElem?_getD]

theorem keeps_alloc (hn : n ≤ h.arrays.length) (array : List α) : Keeps n h (h.alloc array) := by
  refine ⟨fun i hi => ?_, ?_⟩
  · have hlt : i < h.arrays.length := by omega
    simp [alloc, ArrayHeap.array, List.getD_eq_getElem?_getD, List.getElem?_append_left hlt]
  · simp [alloc]

/-- An assignment to an element of a slice. -/
theorem set?_spec (hs : h.Valid s) (hsince : Since n s) {i : Nat} (hi : i < s.len) (value : α) :
    ∃ h', h.set? s i value = some h' ∧ h'.Valid s ∧ h'.read s = (h.read s).set i value ∧
      Keeps n h h' := by
  have hlen := hs.len_le
  have hcap := hs.cap_le
  have harray : s.array < h.arrays.length := array_lt (k := s.offset + i) (by omega)
  have hn : n ≤ s.array := by
    rcases hsince with hzero | hn
    · omega
    · exact hn
  have hself := array_modify_self harray (·.set (s.offset + i) value)
  refine ⟨_, if_pos hi, ⟨hlen, ?_⟩, ?_, keeps_modify hn _⟩
  · rw [hself, List.length_set]
    exact hcap
  · simp only [read, hself, List.drop_set]
    rw [if_neg (by omega), Nat.add_sub_cancel_left, List.take_set]

theorem length_overwrite {i : Nat} {values array : List α} (hle : i + values.length ≤ array.length) :
    (overwrite i values array).length = array.length := by
  simp only [overwrite, List.length_append, List.length_take, List.length_drop]
  omega

/-- What is written behind the elements of a slice are its next elements. -/
theorem take_drop_overwrite {offset len : Nat} {values array : List α}
    (hle : offset + len + values.length ≤ array.length) :
    ((overwrite (offset + len) values array).drop offset).take (len + values.length) =
      (array.drop offset).take len ++ values := by
  have hfront : (array.take (offset + len)).length = offset + len := by
    rw [List.length_take]
    omega
  have hmiddle : ((array.take (offset + len)).drop offset).length = len := by
    rw [List.length_drop, hfront]
    omega
  rw [overwrite, List.drop_append_of_le_length (by omega), List.take_append, hmiddle,
    Nat.add_sub_cancel_left, List.take_of_length_le (by omega), List.take_left', List.drop_take,
    Nat.add_sub_cancel_left]
  rfl

/-- `append` gives the elements and the new values, in an array that was not there before. -/
theorem append_spec (zero : α) (spare : Nat → Nat) (hs : h.Valid s) (hsince : Since n s)
    (hn : n ≤ h.arrays.length) (values : List α) :
    (h.append zero spare s values).2.Valid (h.append zero spare s values).1 ∧
      Since n (h.append zero spare s values).1 ∧
      (h.append zero spare s values).2.read (h.append zero spare s values).1 =
        h.read s ++ values ∧
      Keeps n h (h.append zero spare s values).2 := by
  have hlen := hs.len_le
  have hcap := hs.cap_le
  unfold append
  dsimp only
  split
  · rename_i hfits
    by_cases hnil : values = []
    · -- nothing is written
      subst hnil
      have hid : overwrite (s.offset + s.len) ([] : List α) = id := by
        funext array
        simp [overwrite]
      rw [hid, List.modify_id, List.append_nil]
      exact ⟨hs, hsince, rfl, .refl n h⟩
    · have hpos : 0 < values.length := List.length_pos_iff.mpr hnil
      have harray : s.array < h.arrays.length := array_lt (k := s.offset) (by omega)
      have hn' : n ≤ s.array := by
        rcases hsince with hzero | hn'
        · omega
        · exact hn'
      have hself := array_modify_self harray (overwrite (s.offset + s.len) values)
      refine ⟨⟨hfits, ?_⟩, hsince, ?_, keeps_modify hn' _⟩
      · rw [hself, length_overwrite (by omega)]
        exact hcap
      · simp only [read, hself]
        exact take_drop_overwrite (by omega)
  · have hread := hs.length_read
    refine ⟨⟨Nat.le_add_right _ _, ?_⟩, .inr hn, ?_, keeps_alloc hn _⟩
    · dsimp only
      rw [array_alloc_self]
      simp only [List.length_append, List.length_replicate]
      omega
    · rw [read, array_alloc_self, List.drop_zero]
      refine List.take_left' ?_
      rw [List.length_append, hread]

/-- A slice of the arrays that are kept has the same elements. -/
theorem Keeps.read_eq {h' : ArrayHeap α} (hkeeps : Keeps h.arrays.length h h') (hs : h.Valid s) :
    h'.read s = h.read s := by
  have hlen := hs.len_le
  have hcap := hs.cap_le
  by_cases hzero : s.len = 0
  · simp [read, hzero]
  · have harray : s.array < h.arrays.length := array_lt (k := s.offset) (by omega)
    rw [read, hkeeps.array_eq _ harray]
    rfl

end Lemmas

end ArrayHeap

end SandboxProvider.Lib
