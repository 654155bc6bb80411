import SandboxProvider.Lib.GoSlice
import SandboxProvider.Plugin.UserData

/-!
# The user data in memory

`generateUserData` as the code has it, on slices: the files are copied to a new slice, adjusted in place,
and the drop-ins are appended. It computes what `Runtime.generateUserData` computes on the list of files
(`generateUserDataIn_eq`), and no array that was there before is written (`generateUserDataIn_keeps`).
-/

namespace SandboxProvider.Plugin

open Lib

def indexOutOfRange : String := "runtime error: index out of range"

namespace Runtime

variable (rt : Runtime) (spare : Nat → Nat)

/-- The loop over the next `more` files from index `i` on. -/
def adjustInPlace (networkMTU : Int) (files : SliceHeader) :
    Nat → Nat → ArrayHeap WriteFile → String → Except String String × ArrayHeap WriteFile
  | 0, _, mem, apfConfig => (.ok apfConfig, mem)
  | more + 1, i, mem, apfConfig =>
    match mem.get? files i with
    | none => (.error indexOutOfRange, mem)
    | some file =>
      if file.path ≠ agentProtocolForwarderConfigPath then
        adjustInPlace networkMTU files more (i + 1) mem apfConfig
      else
        match rt.adjustContent networkMTU file.content with
        | .error err => (.error err, mem)
        | .ok encoded =>
          match mem.set? files i { file with content := encoded } with
          | none => (.error indexOutOfRange, mem)
          | some mem => adjustInPlace networkMTU files more (i + 1) mem encoded

/-- The slice that is handed to `Generate`. -/
def adjustedFiles (networkMTU : Int) (mem : ArrayHeap WriteFile) (writeFiles : SliceHeader) :
    Except String SliceHeader × ArrayHeap WriteFile :=
  let copied := mem.append ⟨"", ""⟩ spare .nil (mem.read writeFiles)
  match rt.adjustInPlace networkMTU copied.1 copied.1.len 0 copied.2 "" with
  | (.error err, mem) => (.error err, mem)
  | (.ok apfConfig, mem) =>
    if apfConfig = "" then (.error "agent protocol forwarder config is missing", mem)
    else
      let appended := mem.append ⟨"", ""⟩ spare copied.1 dropIns
      (.ok appended.1, appended.2)

/-- `generateUserData` for a `*cloudinit.CloudConfig` with this slice of files. -/
def generateUserDataIn (networkMTU : Int) (mem : ArrayHeap WriteFile) (writeFiles : SliceHeader) :
    Except String String × ArrayHeap WriteFile :=
  if networkMTU ≤ 0 then (rt.generate ⟨mem.read writeFiles⟩, mem)
  else
    match rt.adjustedFiles spare networkMTU mem writeFiles with
    | (.error err, mem) => (.error err, mem)
    | (.ok files, mem) => (rt.generate ⟨mem.read files⟩, mem)

/-! ## The loop -/

section Loop

variable {n : Nat}

/-- The loop has ended as it does on the list of the files that were left: with the same error, or with
the adjusted files behind those it had been at. -/
def EndsAs (files : SliceHeader) (done : List WriteFile)
    (run : Except String String × ArrayHeap WriteFile) : Except String (List WriteFile × String) → Prop
  | .error err => run.1 = .error err
  | .ok (rest, apfConfig) => run.1 = .ok apfConfig ∧ run.2.read files = done ++ rest

theorem EndsAs.cons {files : SliceHeader} {done : List WriteFile} {file : WriteFile}
    {run : Except String String × ArrayHeap WriteFile} {result : Except String (List WriteFile × String)} :
    EndsAs files (done ++ [file]) run result →
      EndsAs files done run
        (match result with
        | .error err => .error err
        | .ok (rest, apfConfig) => .ok (file :: rest, apfConfig)) := by
  intro h
  cases result with
  | error err => exact h
  | ok p =>
    obtain ⟨hresult, hfiles⟩ := h
    refine ⟨hresult, ?_⟩
    rw [hfiles]
    simp

/-- The loop does to the elements of the slice what it does to the list of files, and writes no other
array. -/
theorem adjustInPlace_spec (networkMTU : Int) (files : SliceHeader) (rest done : List WriteFile)
    (mem : ArrayHeap WriteFile) (apfConfig : String) (hvalid : mem.Valid files)
    (hsince : ArrayHeap.Since n files) (hread : mem.read files = done ++ rest) :
    (rt.adjustInPlace networkMTU files rest.length done.length mem apfConfig).2.Valid files ∧
      ArrayHeap.Keeps n mem
        (rt.adjustInPlace networkMTU files rest.length done.length mem apfConfig).2 ∧
      EndsAs files done (rt.adjustInPlace networkMTU files rest.length done.length mem apfConfig)
        (rt.adjustFiles networkMTU rest apfConfig) := by
  induction rest generalizing done mem apfConfig with
  | nil => exact ⟨hvalid, .refl n mem, rfl, hread⟩
  | cons file rest ih =>
    have hget : mem.get? files done.length = some file := by
      rw [ArrayHeap.get?, hread]
      simp
    have hlength (f : WriteFile) : done.length + 1 = (done ++ [f]).length := by simp
    rw [List.length_cons, adjustInPlace, hget, adjustFiles]
    dsimp only
    split
    · -- another file
      obtain ⟨hvalid', hkeeps, hends⟩ := ih (done ++ [file]) mem apfConfig hvalid (by simp [hread])
      rw [hlength file]
      exact ⟨hvalid', hkeeps, hends.cons⟩
    · cases rt.adjustContent networkMTU file.content with
      | error err => exact ⟨hvalid, .refl n mem, rfl⟩
      | ok encoded =>
        have hlt : done.length < files.len := by
          rw [← hvalid.length_read, hread]
          simp
        obtain ⟨mem', hset, hvalid', hread', hkeeps⟩ :=
          ArrayHeap.set?_spec hvalid hsince hlt { file with content := encoded }
        obtain ⟨hvalid'', hkeeps', hends⟩ := ih (done ++ [{ file with content := encoded }]) mem'
          encoded hvalid' (by rw [hread', hread]; simp)
        dsimp only
        rw [hset, hlength { file with content := encoded }]
        dsimp only
        exact ⟨hvalid'', hkeeps.trans hkeeps', hends.cons⟩

end Loop

/-! ## The whole function -/

section Run

variable (networkMTU : Int) (mem : ArrayHeap WriteFile) (writeFiles : SliceHeader)

/-- The slice that is handed to `Generate` has the files of the adjusted config, and the arrays that were
there are as before. -/
theorem adjustedFiles_spec :
    ArrayHeap.Keeps mem.arrays.length mem (rt.adjustedFiles spare networkMTU mem writeFiles).2 ∧
      ((rt.adjustedFiles spare networkMTU mem writeFiles).1.map fun files =>
          CloudConfig.mk ((rt.adjustedFiles spare networkMTU mem writeFiles).2.read files)) =
        rt.adjustedConfig networkMTU ⟨mem.read writeFiles⟩ := by
  obtain ⟨hvalid, hsince, hread, hkeeps⟩ := ArrayHeap.append_spec (⟨"", ""⟩ : WriteFile) spare
    mem.valid_nil (ArrayHeap.since_nil mem.arrays.length) (Nat.le_refl _) (mem.read writeFiles)
  rw [mem.read_nil, List.nil_append] at hread
  unfold adjustedFiles
  generalize mem.append ⟨"", ""⟩ spare .nil (mem.read writeFiles) = copied at *
  have hlength : copied.1.len = (mem.read writeFiles).length := by
    rw [← hvalid.length_read, hread]
  obtain ⟨hvalid', hkeeps', hends⟩ := rt.adjustInPlace_spec networkMTU copied.1
    (mem.read writeFiles) [] copied.2 "" hvalid hsince hread
  rw [List.length_nil, ← hlength] at hvalid' hkeeps' hends
  dsimp only
  generalize rt.adjustInPlace networkMTU copied.1 copied.1.len 0 copied.2 "" = run at *
  obtain ⟨result, mem'⟩ := run
  have hkeeps := hkeeps.trans hkeeps'
  cases hfiles : rt.adjustFiles networkMTU (mem.read writeFiles) "" with
  | error err =>
    rw [hfiles] at hends
    obtain rfl : result = .error err := hends
    refine ⟨hkeeps, ?_⟩
    simp only [adjustedConfig, hfiles]
    rfl
  | ok p =>
    obtain ⟨files, apfConfig⟩ := p
    rw [hfiles] at hends
    obtain ⟨rfl, hread'⟩ : result = .ok apfConfig ∧ mem'.read copied.1 = files := hends
    dsimp only
    by_cases hempty : apfConfig = ""
    · rw [if_pos hempty]
      refine ⟨hkeeps, ?_⟩
      simp only [adjustedConfig, hfiles, if_pos hempty]
      rfl
    · obtain ⟨-, -, hread'', hkeeps''⟩ := ArrayHeap.append_spec (⟨"", ""⟩ : WriteFile) spare hvalid'
        hsince hkeeps.length_le dropIns
      rw [if_neg hempty]
      refine ⟨hkeeps.trans hkeeps'', ?_⟩
      simp only [adjustedConfig, hfiles, if_neg hempty, Except.map]
      rw [hread'', hread']

/-- **Refinement**: on slices the function computes what it computes on lists. -/
theorem generateUserDataIn_eq :
    (rt.generateUserDataIn spare networkMTU mem writeFiles).1 =
      rt.generateUserData (.cloudConfig ⟨mem.read writeFiles⟩) networkMTU := by
  by_cases hm : networkMTU ≤ 0
  · simp only [generateUserDataIn, generateUserData, if_pos hm]
  · have hspec := (rt.adjustedFiles_spec spare networkMTU mem writeFiles).2
    rw [generateUserData_eq (Int.not_le.mp hm), ← hspec, generateUserDataIn, if_neg hm]
    generalize rt.adjustedFiles spare networkMTU mem writeFiles = run
    obtain ⟨result, mem'⟩ := run
    cases result <;> rfl

/-- No array of the caller is written. -/
theorem generateUserDataIn_keeps :
    ArrayHeap.Keeps mem.arrays.length mem
      (rt.generateUserDataIn spare networkMTU mem writeFiles).2 := by
  by_cases hm : networkMTU ≤ 0
  · simp only [generateUserDataIn, if_pos hm]
    exact .refl _ mem
  · have hspec := (rt.adjustedFiles_spec spare networkMTU mem writeFiles).1
    rw [generateUserDataIn, if_neg hm]
    generalize rt.adjustedFiles spare networkMTU mem writeFiles = run at hspec
    obtain ⟨result, mem'⟩ := run
    cases result <;> exact hspec

end Run

end Runtime

end SandboxProvider.Plugin
