import Mathlib.Logic.Basic

/-!
# Merge patches

A document is a record whose fields may be absent. A merge patch says for each field whether it
is left alone (`none`), removed (`some none`) or replaced (`some (some v)`); lists are values, so
a list is replaced as a whole. `diff base modified` is the patch a client computes from the copy
it read and the copy it changed, and `apply` is what the server does with it to the document it
holds by then, which may not be `base` any more.
-/

namespace SandboxProvider.Lib

/-- Fields `φ` with values in `α`, each of which may be absent. -/
abbrev Doc (φ : Type) (α : φ → Type) := (f : φ) → Option (α f)

/-- A merge patch for such a document. -/
abbrev MergePatch (φ : Type) (α : φ → Type) := (f : φ) → Option (Option (α f))

namespace MergePatch

variable {φ : Type} {α : φ → Type}

/-- The changes that lead from `base` to `modified`. -/
def diff [∀ f, DecidableEq (α f)] (base modified : Doc φ α) : MergePatch φ α :=
  fun f => if base f = modified f then none else some (modified f)

/-- The document after a patch. -/
def apply (p : MergePatch φ α) (d : Doc φ α) : Doc φ α :=
  fun f => (p f).getD (d f)

variable [∀ f, DecidableEq (α f)]

/-- A field that the client changed has the client's value; any other field keeps the value the
server holds. -/
theorem apply_diff (base modified d : Doc φ α) (f : φ) :
    apply (diff base modified) d f = if base f = modified f then d f else modified f := by
  unfold apply diff
  split <;> rfl

/-- On the document it was computed from, the patch yields the modified one. -/
theorem apply_diff_self (base modified : Doc φ α) : apply (diff base modified) base = modified := by
  funext f
  rw [apply_diff]
  split
  · assumption
  · rfl

end MergePatch

end SandboxProvider.Lib
