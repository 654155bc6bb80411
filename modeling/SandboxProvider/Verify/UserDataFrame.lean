import SandboxProvider.Plugin.ForwarderConfig
import SandboxProvider.Plugin.UserDataMemory
import SandboxProvider.Verify.MtuCap

/-!
# What rewriting the user data changes

`generateUserData` refuses a cloud-config unless every forwarder config in it decodes to a document with
a numeric `pod-network.mtu`, and there is one. Otherwise it hands `Generate` the same files in the same
order, with nothing but this number changed, and the two drop-ins behind them. The caller's files are not
written.
-/

namespace SandboxProvider.Plugin

open Lib

/-- The files on a disk after these have been written in their order. -/
def writeInOrder (disk : String → Option String) (files : List WriteFile) : String → Option String :=
  files.foldl (fun disk file => Function.update disk file.path (some file.content)) disk

/-- What is written last stays. -/
theorem writeInOrder_dropIns (disk : String → Option String) (files : List WriteFile) :
    writeInOrder disk (files ++ dropIns) apfOrderingDropInPath = some apfOrderingDropIn ∧
      writeInOrder disk (files ++ dropIns) cdhProxyDropInPath = some cdhProxyDropIn := by
  have hne : apfOrderingDropInPath ≠ cdhProxyDropInPath := by decide
  simp only [writeInOrder, dropIns, List.foldl_append, List.foldl_cons, List.foldl_nil]
  constructor
  · rw [Function.update_of_ne hne, Function.update_self]
  · rw [Function.update_self]

/-- A file and what is made of it: only the MTU of a forwarder config may differ. -/
structure OnlyMTUDiffers (codec : JsonCodec) (file file' : WriteFile) : Prop where
  path_eq : file'.path = file.path
  other : file.path ≠ agentProtocolForwarderConfigPath → file' = file
  forwarder : file.path = agentProtocolForwarderConfigPath →
    ∃ document document', codec.unmarshal file.content = .ok document ∧
      codec.unmarshal file'.content = .ok document' ∧
      (∃ mtu, document'.at? mtuPath = some (.number mtu)) ∧
      ∀ path, ¬ path <+: mtuPath → document'.at? path = document.at? path

theorem Runtime.Rewritten.onlyMTUDiffers {rt : Runtime} {codec : JsonCodec} {networkMTU : Int}
    {file file' : WriteFile} (h : rt.Rewritten codec networkMTU file file') :
    OnlyMTUDiffers codec file file' := by
  refine ⟨h.path_eq, h.other, fun hpath => ?_⟩
  obtain ⟨document, _, _, document', _, hbefore, hafter, hsame⟩ := h.forwarder hpath
  exact ⟨.object document, .object document', hbefore.decoded, hafter.decoded,
    ⟨_, hafter.at?_eq⟩, hsame⟩

/-- What a call of `generateUserData` does to a cloud-config with these files. -/
structure RewritesUserData (rt : Runtime) (codec : JsonCodec) (mem : ArrayHeap WriteFile)
    (writeFiles : SliceHeader) (run : Except String String × ArrayHeap WriteFile) : Prop where
  /-- A forwarder config is missing, or does not decode to a document with a numeric MTU. -/
  refused : ¬ Runtime.HasForwarderConfigs codec (mem.read writeFiles) → ∃ err, run.1 = .error err
  /-- The result is that of `Generate` on the rewritten files. -/
  generated : Runtime.HasForwarderConfigs codec (mem.read writeFiles) →
    ∃ files, List.Forall₂ (OnlyMTUDiffers codec) (mem.read writeFiles) files ∧
      run.1 = rt.generate ⟨files ++ dropIns⟩ ∧
      ∀ disk, writeInOrder disk (files ++ dropIns) apfOrderingDropInPath = some apfOrderingDropIn ∧
        writeInOrder disk (files ++ dropIns) cdhProxyDropInPath = some cdhProxyDropIn
  /-- Every array that was there is as before, so the input keeps its list and its contents. -/
  input_arrays : ∀ i < mem.arrays.length, run.2.array i = mem.array i
  input_files : run.2.read writeFiles = mem.read writeFiles

namespace Sample

/-- A forwarder config, and a file at the place of a drop-in. -/
def files : List WriteFile :=
  [⟨agentProtocolForwarderConfigPath, integerMTU⟩, ⟨cdhProxyDropInPath, "[Service]\n"⟩]

/-- The array of the files has room for one more. -/
def memory : ArrayHeap WriteFile := ⟨[files ++ [⟨"", ""⟩]]⟩

def writeFiles : SliceHeader := ⟨0, 0, 2, 3⟩

/-- A number in the document is not a float. -/
def hugeNumber : String := "\x7b\"pod-network\":\x7b\"mtu\":1400\x7d,\"limit\":1e400\x7d"

/-- How Go reports it. -/
def hugeNumberError : String :=
  "parse agent protocol forwarder config: " ++
    "json: cannot unmarshal number 1e400 into Go value of type float64"

end Sample

/-- **Nothing else changes**: for every cloud-config in memory and every positive `int`. -/
theorem generateUserData_rewrites (rt : Runtime) (codec : JsonCodec) (spare : Nat → Nat)
    {mem : ArrayHeap WriteFile} {writeFiles : SliceHeader} {networkMTU : Int}
    (hvalid : mem.Valid writeFiles) (hpos : 0 < networkMTU) (hint : networkMTU < 2 ^ 63) :
    RewritesUserData rt codec mem writeFiles
      ((rt.usingJson codec).generateUserDataIn spare networkMTU mem writeFiles) := by
  have hm : |networkMTU| ≤ 2 ^ 63 := by
    rw [abs_of_pos hpos]
    omega
  have hkeeps := (rt.usingJson codec).generateUserDataIn_keeps spare networkMTU mem writeFiles
  have hrun := (rt.usingJson codec).generateUserDataIn_eq spare networkMTU mem writeFiles
  rw [Runtime.generateUserData_eq hpos] at hrun
  refine ⟨fun hnot => ?_, fun hconfigs => ?_, hkeeps.array_eq, hkeeps.read_eq hvalid⟩
  · cases hadjusted : (rt.usingJson codec).adjustedConfig networkMTU ⟨mem.read writeFiles⟩ with
    | error err =>
      rw [hadjusted] at hrun
      exact ⟨err, hrun⟩
    | ok adjusted => exact absurd (Runtime.hasForwarderConfigs_of_adjustedConfig hadjusted) hnot
  · have hconfigs : Runtime.HasForwarderConfigs codec (CloudConfig.mk (mem.read writeFiles)).writeFiles :=
      hconfigs
    obtain ⟨adjusted, hadjusted⟩ := hconfigs.adjustedConfig rt hm
    obtain ⟨files, hfiles, hwrite⟩ := Runtime.adjustedConfig_rewritten hm hadjusted
    refine ⟨files, hfiles.imp fun _ _ h => h.onlyMTUDiffers, ?_,
      fun disk => writeInOrder_dropIns disk files⟩
    rw [hrun, hadjusted, ← hwrite]
    rfl

theorem drop_in_is_overwritten :
    RewritesUserData Sample.rendering .exact Sample.memory Sample.writeFiles
      ((Sample.rendering.usingJson .exact).generateUserDataIn (fun _ => 0) 1400 Sample.memory
        Sample.writeFiles) ∧
      Runtime.HasForwarderConfigs .exact (Sample.memory.read Sample.writeFiles) := by
  refine ⟨generateUserData_rewrites Sample.rendering .exact (fun _ => 0) (by decide) (by decide)
    (by decide), ⟨_, List.mem_cons_self, rfl⟩, ?_⟩
  intro file hfile hpath
  have hmem : file ∈ Sample.files := hfile
  simp only [Sample.files, List.mem_cons, List.not_mem_nil, or_false] at hmem
  rcases hmem with rfl | rfl
  · exact ⟨_, 1500, Sample.hasMTU_integer.decoded, Sample.hasMTU_integer.at?_eq⟩
  · exact absurd hpath (by decide)

/-- A JSON object with a numeric `pod-network.mtu` may still be refused: `Unmarshal` fails when another
number of the document is not a float. -/
theorem huge_number_is_refused :
    readWhole Sample.hugeNumber.toList = some (.object [
        ("pod-network", .object [("mtu", .number ['1', '4', '0', '0'])]),
        ("limit", .number ['1', 'e', '4', '0', '0'])]) ∧
      ((Sample.rendering.usingJson .exact).generateUserDataIn (fun _ => 0) 1400
        ⟨[[⟨agentProtocolForwarderConfigPath, Sample.hugeNumber⟩]]⟩ ⟨0, 0, 1, 1⟩).1 =
          .error Sample.hugeNumberError := by
  have hread : readWhole Sample.hugeNumber.toList = some (.object [
      ("pod-network", .object [("mtu", .number ['1', '4', '0', '0'])]),
      ("limit", .number ['1', 'e', '4', '0', '0'])]) := rfl
  have hmtu : decodeFloat ['1', '4', '0', '0'] = .ok 1400 :=
    decodeFloat_of_isFloat64 (by decide +kernel) (Json.isFloat64_intCast (n := 1400) (by decide))
  have hlimit : decodeFloat ['1', 'e', '4', '0', '0'] =
      .error "json: cannot unmarshal number 1e400 into Go value of type float64" :=
    decodeFloat_of_le (by decide +kernel)
  have hunmarshal : (Sample.rendering.usingJson .exact).unmarshal Sample.hugeNumber =
      .error "json: cannot unmarshal number 1e400 into Go value of type float64" := by
    simp only [Runtime.usingJson, JsonCodec.unmarshal, hread, decodeAny, decodeObject, hmtu, hlimit]
    rfl
  have hcontent : (Sample.rendering.usingJson .exact).adjustContent 1400 Sample.hugeNumber =
      .error Sample.hugeNumberError := by
    unfold Runtime.adjustContent Runtime.unmarshalMap Sample.hugeNumberError
    rw [hunmarshal]
  have hfiles : (Sample.rendering.usingJson .exact).adjustFiles 1400
      [⟨agentProtocolForwarderConfigPath, Sample.hugeNumber⟩] "" = .error Sample.hugeNumberError := by
    simp only [Runtime.adjustFiles, ne_eq, not_true_eq_false, if_false, hcontent]
  refine ⟨hread, ?_⟩
  rw [Runtime.generateUserDataIn_eq, Runtime.generateUserData_eq (by decide)]
  change ((Sample.rendering.usingJson .exact).adjustedConfig 1400
    ⟨[⟨agentProtocolForwarderConfigPath, Sample.hugeNumber⟩]⟩).bind _ = _
  simp only [Runtime.adjustedConfig, hfiles]
  rfl

end SandboxProvider.Plugin
