import SandboxProvider.Api.Schema
import SandboxProvider.Controller.DesiredRunner

/-!
# The memory reservation of the runner

`desiredRunner` adds guest memory and overhead as `int64` and lets `resource.MustParse` multiply the
sum by 2^20. The schemas put no upper bound on either summand, so the sum can wrap around and the
product is capped; both stay away exactly as long as the sum is below 2^43 MiB.
-/

namespace SandboxProvider.Controller

/-- The memory that the guest and the overhead of the class need, in bytes. -/
def neededBytes (sandbox : PodSandbox) (sandboxClass : PodSandboxClass) : Int :=
  sandbox.spec.memoryMiB * 2 ^ 20 + sandboxClass.spec.memoryOverheadMiB * 2 ^ 20

theorem wrapInt64_of_isInt64 {n : Int} (h : IsInt64 n) : wrapInt64 n = n := by
  obtain ⟨hlow, hhigh⟩ := h
  unfold wrapInt64
  apply Int.bmod_eq_of_le
  · omega
  · omega

theorem mustParseMi_le (n : Int) : (mustParseMi n).value ≤ 2 ^ 63 - 1 := by
  have hmax : maxQuantity = 2 ^ 63 - 1 := rfl
  simp only [mustParseMi, hmax]
  omega

section Reservation

variable {sandbox : PodSandbox} {sandboxClass : PodSandboxClass}

theorem memory_runnerResources (sandbox : PodSandbox) (sandboxClass : PodSandboxClass) :
    (runnerResources sandbox sandboxClass).requests.memory =
        some (mustParseMi (wrapInt64 (sandbox.spec.memoryMiB + overhead sandboxClass))) ∧
      (runnerResources sandbox sandboxClass).limits.memory =
        some (mustParseMi (wrapInt64 (sandbox.spec.memoryMiB + overhead sandboxClass))) :=
  ⟨rfl, rfl⟩

/-- The default overhead is 256 MiB. -/
theorem overhead_bounds (sandboxClass : PodSandboxClass) :
    sandboxClass.spec.memoryOverheadMiB ≤ overhead sandboxClass ∧
      overhead sandboxClass ≤ sandboxClass.spec.memoryOverheadMiB + 256 := by
  have hdefault : defaultOverheadMiB = 256 := rfl
  unfold overhead
  split
  · rename_i hzero
    omega
  · omega

/-- A sum below 2^43 MiB does not wrap around. -/
theorem sum_wrapInt64 (hs : sandbox.spec.Admitted) (hc : sandboxClass.spec.Admitted)
    (hfit : sandbox.spec.memoryMiB + sandboxClass.spec.memoryOverheadMiB < 2 ^ 43) :
    wrapInt64 (sandbox.spec.memoryMiB + overhead sandboxClass) =
      sandbox.spec.memoryMiB + overhead sandboxClass := by
  have hmemory := hs.memoryMiB.2
  have hoverhead := hc.memoryOverheadMiB.2
  obtain ⟨hle, hge⟩ := overhead_bounds sandboxClass
  apply wrapInt64_of_isInt64
  constructor
  · omega
  · omega

/-- Below 2^43 MiB the quantity covers guest and overhead. -/
theorem neededBytes_le (hs : sandbox.spec.Admitted) (hc : sandboxClass.spec.Admitted)
    (hfit : sandbox.spec.memoryMiB + sandboxClass.spec.memoryOverheadMiB < 2 ^ 43) :
    neededBytes sandbox sandboxClass ≤
      (mustParseMi (wrapInt64 (sandbox.spec.memoryMiB + overhead sandboxClass))).value := by
  have hmemory := hs.memoryMiB.2
  have hoverhead := hc.memoryOverheadMiB.2
  obtain ⟨hle, -⟩ := overhead_bounds sandboxClass
  have hmax : maxQuantity = 2 ^ 63 - 1 := rfl
  rw [sum_wrapInt64 hs hc hfit]
  simp only [mustParseMi, neededBytes, hmax]
  omega

/-- From 2^43 MiB on, no quantity does. -/
theorem lt_neededBytes
    (hlarge : 2 ^ 43 ≤ sandbox.spec.memoryMiB + sandboxClass.spec.memoryOverheadMiB) (n : Int) :
    (mustParseMi n).value < neededBytes sandbox sandboxClass := by
  have hcap := mustParseMi_le n
  unfold neededBytes
  omega

end Reservation

/-- **The reservation covers the guest** exactly as long as guest memory and overhead are less than 2^43
MiB together: then request and limit of the runner container are one quantity, the `int64` sum does not
wrap around, and the quantity is at least the memory passed as `--memory-mib` plus the overhead of the
class. -/
theorem memory_reservation_covers_guest (sandbox : PodSandbox) (sandboxClass : PodSandboxClass)
    (hs : sandbox.spec.Admitted) (hc : sandboxClass.spec.Admitted) :
    (wrapInt64 (sandbox.spec.memoryMiB + overhead sandboxClass) =
        sandbox.spec.memoryMiB + overhead sandboxClass ∧
      ∀ container ∈ (desiredRunner sandbox sandboxClass).spec.containers,
        "--memory-mib=" ++ toString sandbox.spec.memoryMiB ∈ container.args ∧
        ∃ quantity, container.resources.requests.memory = some quantity ∧
          container.resources.limits.memory = some quantity ∧
          neededBytes sandbox sandboxClass ≤ quantity.value ∧
          sandbox.spec.memoryMiB * 2 ^ 20 ≤ quantity.value) ↔
      sandbox.spec.memoryMiB + sandboxClass.spec.memoryOverheadMiB < 2 ^ 43 := by
  obtain ⟨hrequest, hlimit⟩ := memory_runnerResources sandbox sandboxClass
  constructor
  · rintro ⟨-, hall⟩
    obtain ⟨-, quantity, -, hquantity, hcovers, -⟩ :=
      hall (runnerContainer sandbox sandboxClass) (List.mem_singleton_self _)
    obtain rfl : mustParseMi _ = quantity := Option.some.inj (hlimit.symm.trans hquantity)
    by_contra hlarge
    have hlt := lt_neededBytes (Int.not_lt.mp hlarge)
      (wrapInt64 (sandbox.spec.memoryMiB + overhead sandboxClass))
    omega
  · intro hfit
    refine ⟨sum_wrapInt64 hs hc hfit, fun container hmem => ?_⟩
    obtain rfl : container = runnerContainer sandbox sandboxClass := List.mem_singleton.mp hmem
    have hcovers := neededBytes_le hs hc hfit
    have hoverhead := hc.memoryOverheadMiB.2
    refine ⟨?_, _, hrequest, hlimit, hcovers, ?_⟩
    · exact List.mem_cons_of_mem _ (List.mem_cons_of_mem _ List.mem_cons_self)
    · unfold neededBytes at hcovers
      omega

namespace Sample

/-- A PodSandbox with this guest memory. -/
def sized (memoryMiB : Int) : PodSandbox where
  spec := {
    workloadRef := { name := "workload" }
    sandboxID := "sandbox"
    className := "kata"
    vcpus := 2
    memoryMiB := memoryMiB }

/-- A class with this overhead. -/
def reserving (memoryOverheadMiB : Int) : PodSandboxClass where
  spec := { runnerImage := "runner", podVMImage := "podvm", memoryOverheadMiB := memoryOverheadMiB }

theorem sized_admitted {memoryMiB : Int} (h : IsInt64 memoryMiB ∧ 128 ≤ memoryMiB) :
    (sized memoryMiB).spec.Admitted where
  workloadName := show "workload" ≠ "" by decide
  sandboxID := show "sandbox" ≠ "" by decide
  className := show "kata" ≠ "" by decide
  vcpus := show IsInt64 2 ∧ 1 ≤ (2 : Int) by decide
  memoryMiB := h

theorem reserving_admitted {memoryOverheadMiB : Int}
    (h : IsInt64 memoryOverheadMiB ∧ 0 ≤ memoryOverheadMiB) :
    (reserving memoryOverheadMiB).spec.Admitted where
  runnerImage := show "runner" ≠ "" by decide
  podVMImage := show "podvm" ≠ "" by decide
  networkMTU := .inl rfl
  memoryOverheadMiB := h

end Sample

/-- A guest of 2 GiB with the default overhead. -/
theorem small_guest_is_covered :
    (Sample.sized 2048).spec.Admitted ∧ (Sample.reserving 0).spec.Admitted ∧
      ∀ container ∈ (desiredRunner (Sample.sized 2048) (Sample.reserving 0)).spec.containers,
        ∃ quantity, container.resources.limits.memory = some quantity ∧
          2048 * 2 ^ 20 ≤ quantity.value := by
  have hsandbox := Sample.sized_admitted (show IsInt64 2048 ∧ 128 ≤ (2048 : Int) by decide)
  have hclass := Sample.reserving_admitted (show IsInt64 0 ∧ 0 ≤ (0 : Int) by decide)
  obtain ⟨-, hall⟩ := (memory_reservation_covers_guest _ _ hsandbox hclass).mpr (by decide)
  refine ⟨hsandbox, hclass, ?_⟩
  intro container hmem
  obtain ⟨-, quantity, -, hlimit, -, hguest⟩ := hall container hmem
  exact ⟨quantity, hlimit, hguest⟩

/-- With the largest guest memory the sum wraps around and the limit is negative; with 2^43 MiB it is
capped below the guest memory. -/
theorem large_guest_is_not_covered :
    ((Sample.sized (2 ^ 63 - 1)).spec.Admitted ∧ (Sample.sized (2 ^ 43)).spec.Admitted ∧
      (Sample.reserving 0).spec.Admitted) ∧
    (∀ container ∈
        (desiredRunner (Sample.sized (2 ^ 63 - 1)) (Sample.reserving 0)).spec.containers,
      container.resources.limits.memory = some ⟨-(2 ^ 63 - 1), .binarySI⟩) ∧
    ∀ container ∈ (desiredRunner (Sample.sized (2 ^ 43)) (Sample.reserving 0)).spec.containers,
      container.resources.limits.memory = some ⟨2 ^ 63 - 1, .binarySI⟩ ∧
        (2 : Int) ^ 63 - 1 < 2 ^ 43 * 2 ^ 20 := by
  refine ⟨⟨Sample.sized_admitted (by decide), Sample.sized_admitted (by decide),
    Sample.reserving_admitted (by decide)⟩, ?_, ?_⟩
  · intro container hmem
    cases List.mem_singleton.mp hmem
    decide
  · intro container hmem
    cases List.mem_singleton.mp hmem
    decide

end SandboxProvider.Controller
