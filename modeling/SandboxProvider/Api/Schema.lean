import Mathlib.Algebra.Ring.Int.Defs
import SandboxProvider.Api.Objects

/-!
# What the custom resource schemas admit

The validation markers of `api/v1alpha1/podsandbox_types.go` and `podsandboxclass_types.go`, on the
fields the provider reads. Integers are of the width of their Go type.
-/

namespace SandboxProvider

/-- The values of Go's `int64` (and of `int`, on a 64-bit machine). -/
def IsInt64 (n : Int) : Prop := -2 ^ 63 ≤ n ∧ n < 2 ^ 63

instance (n : Int) : Decidable (IsInt64 n) := inferInstanceAs (Decidable (_ ∧ _))

structure PodSandboxSpec.Admitted (spec : PodSandboxSpec) : Prop where
  workloadName : spec.workloadRef.name ≠ ""
  sandboxID : spec.sandboxID ≠ ""
  className : spec.className ≠ ""
  vcpus : IsInt64 spec.vcpus ∧ 1 ≤ spec.vcpus
  memoryMiB : IsInt64 spec.memoryMiB ∧ 128 ≤ spec.memoryMiB

/-- The range that the schema of the class allows; zero stands for the default. -/
def PodSandboxClassSpec.ValidMTU (spec : PodSandboxClassSpec) : Prop :=
  spec.networkMTU = 0 ∨ (576 ≤ spec.networkMTU ∧ spec.networkMTU ≤ 9216)

instance (spec : PodSandboxClassSpec) : Decidable spec.ValidMTU :=
  inferInstanceAs (Decidable (_ ∨ _))

structure PodSandboxClassSpec.Admitted (spec : PodSandboxClassSpec) : Prop where
  runnerImage : spec.runnerImage ≠ ""
  podVMImage : spec.podVMImage ≠ ""
  networkMTU : spec.ValidMTU
  memoryOverheadMiB : IsInt64 spec.memoryOverheadMiB ∧ 0 ≤ spec.memoryOverheadMiB

end SandboxProvider
