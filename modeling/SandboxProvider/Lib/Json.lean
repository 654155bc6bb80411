import Mathlib.Algebra.Field.Rat
import Mathlib.Algebra.Order.Ring.Rat
import Mathlib.Algebra.Order.Group.Unbundled.Abs
import Mathlib.Data.String.Basic

/-!
# JSON documents as decoded values

A number is the exact value of the float it is decoded to. An object is a finite map: its members
are listed by increasing key (`Json.Canonical`), so that equal maps are equal lists.
-/

namespace SandboxProvider.Lib

inductive Json
  | null
  | bool (value : Bool)
  | number (value : ℚ)
  | string (value : String)
  | array (items : List Json)
  | object (members : List (String × Json))

namespace Json

/-- Assigns a value to a key of a map. -/
def set (k : String) (v : Json) : List (String × Json) → List (String × Json)
  | [] => [(k, v)]
  | (k', v') :: rest =>
    if k = k' then (k, v) :: rest
    else if k < k' then (k, v) :: (k', v') :: rest
    else (k', v') :: set k v rest

theorem lookup_set_self (k : String) (v : Json) (m : List (String × Json)) :
    (set k v m).lookup k = some v := by
  induction m with
  | nil => simp [set]
  | cons e rest ih =>
    obtain ⟨k', v'⟩ := e
    unfold set
    split
    · exact List.lookup_cons_self
    · rename_i hne
      split
      · exact List.lookup_cons_self
      · rw [List.lookup_cons, beq_false_of_ne hne]
        exact ih

theorem lookup_set_ne {k k' : String} (h : k' ≠ k) (v : Json) (m : List (String × Json)) :
    (set k v m).lookup k' = m.lookup k' := by
  induction m with
  | nil => simp [set, List.lookup_cons, beq_false_of_ne h]
  | cons e rest ih =>
    obtain ⟨key, value⟩ := e
    unfold set
    split
    · rename_i heq
      subst heq
      simp [List.lookup_cons, beq_false_of_ne h]
    · split
      · simp [List.lookup_cons, beq_false_of_ne h]
      · simp [List.lookup_cons, ih]

/-- The key of a member of an assigned map. -/
theorem mem_set {k : String} {v : Json} {m : List (String × Json)} {e : String × Json}
    (h : e ∈ set k v m) : e = (k, v) ∨ e ∈ m := by
  induction m with
  | nil => exact .inl (List.mem_singleton.mp h)
  | cons x rest ih =>
    obtain ⟨k', v'⟩ := x
    unfold set at h
    split at h
    · rcases List.mem_cons.mp h with h | h
      · exact .inl h
      · exact .inr (List.mem_cons_of_mem _ h)
    · split at h
      · rcases List.mem_cons.mp h with h | h
        · exact .inl h
        · exact .inr h
      · rcases List.mem_cons.mp h with h | h
        · exact .inr (h ▸ List.mem_cons_self)
        · rcases ih h with h | h
          · exact .inl h
          · exact .inr (List.mem_cons_of_mem _ h)

/-- The value at a path of keys. -/
def at? : List String → Json → Option Json
  | [], document => some document
  | key :: path, .object members => (members.lookup key).bind (at? path)
  | _ :: _, _ => none

/-- A document differs after an assignment only below the key. -/
theorem at?_set (k : String) (v : Json) (m : List (String × Json)) (key : String)
    (path : List String) :
    at? (key :: path) (.object (set k v m)) =
      if key = k then at? path v else at? (key :: path) (.object m) := by
  simp only [at?]
  split
  · rename_i heq
    rw [heq, lookup_set_self]
    rfl
  · rename_i hne
    rw [lookup_set_ne hne]

/-- The members are listed by increasing key. -/
def Sorted (m : List (String × Json)) : Prop := m.Pairwise (·.1 < ·.1)

theorem Sorted.set {m : List (String × Json)} (h : Sorted m) (k : String) (v : Json) :
    Sorted (Json.set k v m) := by
  induction m with
  | nil => exact List.pairwise_singleton _ _
  | cons x rest ih =>
    obtain ⟨k', v'⟩ := x
    obtain ⟨hhead, htail⟩ := List.pairwise_cons.mp h
    unfold Json.set
    split
    · rename_i heq
      subst heq
      exact List.pairwise_cons.mpr ⟨hhead, htail⟩
    · rename_i hne
      split
      · rename_i hlt
        refine List.pairwise_cons.mpr ⟨fun e he => ?_, h⟩
        rcases List.mem_cons.mp he with rfl | he
        · exact hlt
        · exact lt_trans hlt (hhead e he)
      · rename_i hnlt
        refine List.pairwise_cons.mpr ⟨fun e he => ?_, ih htail⟩
        rcases mem_set he with rfl | he
        · exact lt_of_le_of_ne (not_lt.mp hnlt) (Ne.symm hne)
        · exact hhead e he

/-- The values of a double precision float. -/
def IsFloat64 (q : ℚ) : Prop :=
  ∃ m e : ℤ, |m| < 2 ^ 53 ∧ -1074 ≤ e ∧ e ≤ 971 ∧ q = m * (2 : ℚ) ^ e

theorem isFloat64_intCast {n : ℤ} (h : |n| < 2 ^ 53) : IsFloat64 n :=
  ⟨n, 0, h, by decide, by decide, by simp⟩

/-- What decoding produces: maps as sorted lists, numbers as floats. -/
inductive Canonical : Json → Prop
  | null : Canonical .null
  | bool (value : Bool) : Canonical (.bool value)
  | number {value : ℚ} (h : IsFloat64 value) : Canonical (.number value)
  | string (value : String) : Canonical (.string value)
  | array {items : List Json} (h : ∀ x ∈ items, Canonical x) : Canonical (.array items)
  | object {members : List (String × Json)} (h : Sorted members)
      (hvalues : ∀ e ∈ members, Canonical e.2) : Canonical (.object members)

theorem Canonical.set {m : List (String × Json)} (h : (Json.object m).Canonical) (k : String)
    {v : Json} (hv : v.Canonical) : (Json.object (Json.set k v m)).Canonical := by
  cases h with
  | object hsorted hvalues =>
    refine .object (hsorted.set k v) fun e he => ?_
    rcases mem_set he with rfl | he
    · exact hv
    · exact hvalues e he

theorem Canonical.of_lookup {m : List (String × Json)} (h : (Json.object m).Canonical) {k : String}
    {v : Json} (hv : m.lookup k = some v) : v.Canonical := by
  cases h with
  | object _ hvalues =>
    obtain ⟨front, back, rfl, -⟩ := List.lookup_eq_some_iff.mp hv
    exact hvalues (k, v) (List.mem_append_right _ List.mem_cons_self)

end Json

end SandboxProvider.Lib
