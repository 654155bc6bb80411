import SandboxProvider.Plugin.ForwarderConfig

/-!
# The cap on the MTU

`generateUserData` compares the MTU of a forwarder config after its fraction is dropped, and keeps the
number itself. So the result is the smaller one of the two MTUs, unless the original one is a fraction
above `networkMTU` and below the next integer, which is kept, or does not fit an `int` and is converted
to one on the other side of `networkMTU`, or is replaced by a `networkMTU` that is no float. `Exact` says
when none of this is the case.
-/

namespace SandboxProvider.Plugin

open Lib

namespace Runtime

section Truncate

variable {rt : Runtime} {v : ℚ} {m : Int}

theorem tdiv_eq_floor (h : 0 ≤ v) : v.num.tdiv v.den = ⌊v⌋ := by
  rw [Rat.floor_def', Int.tdiv_eq_ediv_of_nonneg (Rat.num_nonneg.mpr h)]

theorem tdiv_eq_neg_floor (h : v < 0) : v.num.tdiv v.den = -⌊-v⌋ := by
  rw [← tdiv_eq_floor (show 0 ≤ -v by linarith), Rat.num_neg_eq_neg_num, Rat.den_neg_eq_den,
    Int.neg_tdiv, Int.neg_neg]

/-- The integer part of the number fits an `int`. -/
def FitsInt (v : ℚ) : Prop := -2 ^ 63 - 1 < v ∧ v < 2 ^ 63

instance (v : ℚ) : Decidable (FitsInt v) := inferInstanceAs (Decidable (_ ∧ _))

theorem fitsInt_iff : FitsInt v ↔ -2 ^ 63 ≤ v.num.tdiv v.den ∧ v.num.tdiv v.den < 2 ^ 63 := by
  by_cases hv : 0 ≤ v
  · have hnonneg : 0 ≤ ⌊v⌋ := Int.floor_nonneg.mpr hv
    have hfloor : ⌊v⌋ < 2 ^ 63 ↔ v < 2 ^ 63 := by
      rw [Int.floor_lt]
      norm_num
    rw [tdiv_eq_floor hv, hfloor, FitsInt]
    exact and_congr_left fun _ => ⟨fun _ => by omega, fun _ => by linarith⟩
  · have hneg : v < 0 := not_le.mp hv
    have hnonneg : 0 ≤ ⌊-v⌋ := Int.floor_nonneg.mpr (by linarith)
    have hfloor : ⌊-v⌋ < 2 ^ 63 + 1 ↔ -v < 2 ^ 63 + 1 := by
      rw [Int.floor_lt]
      norm_num
    rw [tdiv_eq_neg_floor hneg, FitsInt]
    constructor
    · rintro ⟨hlow, -⟩
      have hlt := hfloor.mpr (by linarith)
      omega
    · rintro ⟨hlow, -⟩
      have hlt := hfloor.mp (by omega)
      exact ⟨by linarith, by linarith⟩

theorem int_of_not_fitsInt (h : ¬ FitsInt v) : rt.int v = rt.intOutOfRange v :=
  if_neg (mt fitsInt_iff.mpr h)

/-- The truncated number is above a positive integer when the number is not below the next one. -/
theorem lt_int_iff (hm : 0 < m) (h : FitsInt v) : m < rt.int v ↔ ((m + 1 : Int) : ℚ) ≤ v := by
  have hint : rt.int v = v.num.tdiv v.den := if_pos (fitsInt_iff.mp h)
  by_cases hv : 0 ≤ v
  · rw [hint, tdiv_eq_floor hv, ← Int.le_floor]
    omega
  · have hneg : v < 0 := not_le.mp hv
    have hnonneg : 0 ≤ ⌊-v⌋ := Int.floor_nonneg.mpr (by linarith)
    have hm' : (0 : ℚ) < ((m + 1 : Int) : ℚ) := by exact_mod_cast (by omega)
    rw [hint, tdiv_eq_neg_floor hneg]
    constructor
    · intro h
      omega
    · intro h
      linarith

end Truncate

/-- The converted number is above `networkMTU` when the MTU is, and a `networkMTU` that replaces the MTU
is a float. -/
def Exact (rt : Runtime) (networkMTU : Int) (mtu : ℚ) : Prop :=
  (if FitsInt mtu then mtu ≤ networkMTU ∨ networkMTU + 1 ≤ mtu
    else networkMTU < rt.intOutOfRange mtu ↔ networkMTU < mtu) ∧
  (networkMTU < mtu → Json.IsFloat64 networkMTU)

section Cap

variable {rt : Runtime} {networkMTU : Int} {mtu : ℚ}

/-- The comparison is right when it comes out as that of the MTUs. -/
theorem exact_iff (hpos : 0 < networkMTU) : rt.Exact networkMTU mtu ↔
    (networkMTU < rt.int mtu ↔ networkMTU < mtu) ∧ (networkMTU < mtu → Json.IsFloat64 networkMTU) := by
  refine and_congr_left fun _ => ?_
  by_cases hfits : FitsInt mtu
  · rw [if_pos hfits, lt_int_iff hpos hfits]
    push_cast
    constructor
    · rintro (hle | hge)
      · exact ⟨fun h => by linarith, fun h => absurd h (not_lt.mpr hle)⟩
      · exact ⟨fun h => by linarith, fun _ => hge⟩
    · intro h
      by_cases hlt : (networkMTU : ℚ) < mtu
      · exact .inr (h.mpr hlt)
      · exact .inl (not_lt.mp hlt)
  · rw [if_neg hfits, int_of_not_fitsInt hfits]

theorem cappedMTU_eq_min_iff (hpos : 0 < networkMTU) (hint : networkMTU < 2 ^ 63) :
    rt.cappedMTU networkMTU mtu = min mtu networkMTU ↔ rt.Exact networkMTU mtu := by
  have hpos' : (0 : ℚ) < networkMTU := by exact_mod_cast hpos
  have hround := Json.roundNumber_eq_self_iff hpos'.ne'
  rw [exact_iff hpos, cappedMTU]
  by_cases hlt : (networkMTU : ℚ) < mtu
  · rw [min_eq_right hlt.le]
    by_cases hgt : networkMTU < rt.int mtu
    · simp only [gt_iff_lt, hgt, hlt, if_true, true_implies, true_and, iff_self]
      exact hround
    · simp only [gt_iff_lt, hgt, hlt, if_false, iff_true, false_and, iff_false]
      exact hlt.ne'
  · rw [min_eq_left (not_lt.mp hlt)]
    by_cases hgt : networkMTU < rt.int mtu
    · -- only an MTU far below zero is converted to an `int` above it
      have hneg : mtu < 0 := by
        by_contra hnonneg
        have hle : (networkMTU : ℚ) < 2 ^ 63 := by exact_mod_cast hint
        have hfits : FitsInt mtu := ⟨by linarith, by linarith⟩
        have hge := (lt_int_iff hpos hfits).mp hgt
        push_cast at hge
        exact hlt (by linarith)
      have hnonneg := Json.roundNumber_nonneg hpos'.le
      simp only [gt_iff_lt, hgt, hlt, if_true, iff_false, not_true, false_and]
      intro heq
      rw [heq] at hnonneg
      exact absurd hneg (not_lt.mpr hnonneg)
    · simp only [gt_iff_lt, hgt, hlt, if_false, iff_self, false_implies, and_self]

end Cap

end Runtime

section Generated

variable {rt : Runtime} {codec : JsonCodec} {networkMTU : Int} {config generated : CloudConfig}

/-- The forwarder configs that are handed to `Generate` stand where those of the input stand. -/
theorem generated_iff_original (hm : |networkMTU| ≤ 2 ^ 63)
    (h : (rt.usingJson codec).adjustedConfig networkMTU config = .ok generated) (i : Nat) :
    (∀ file, generated.writeFiles[i]? = some file → file.path = agentProtocolForwarderConfigPath →
      ∃ original, config.writeFiles[i]? = some original ∧
        rt.Rewritten codec networkMTU original file) ∧
    ∀ original, config.writeFiles[i]? = some original →
      ∃ file, generated.writeFiles[i]? = some file ∧ rt.Rewritten codec networkMTU original file := by
  obtain ⟨files, hfiles, hwrite⟩ := Runtime.adjustedConfig_rewritten hm h
  rw [hwrite]
  refine ⟨fun file hfile hpath => ?_, fun original horiginal => ?_⟩
  · by_cases hi : i < files.length
    · rw [List.getElem?_append_left hi, List.getElem?_eq_getElem hi] at hfile
      cases hfile
      have hi' : i < config.writeFiles.length := hfiles.length_eq ▸ hi
      exact ⟨config.writeFiles[i], List.getElem?_eq_getElem hi', hfiles.get hi' hi⟩
    · -- the drop-ins are at other paths
      rw [List.getElem?_append_right (Nat.not_lt.mp hi)] at hfile
      have hmem := List.mem_of_getElem? hfile
      simp only [dropIns, List.mem_cons, List.not_mem_nil, or_false] at hmem
      rcases hmem with rfl | rfl
      · exact absurd hpath (by decide)
      · exact absurd hpath (by decide)
  · obtain ⟨hi, rfl⟩ := List.getElem?_eq_some_iff.mp horiginal
    have hi' : i < files.length := hfiles.length_eq ▸ hi
    refine ⟨files[i], ?_, hfiles.get hi hi'⟩
    rw [List.getElem?_append_left hi', List.getElem?_eq_getElem hi']

end Generated

/-! ## A forwarder config with an integer MTU and one with a fraction -/

namespace Sample

/-- `Generate` succeeds, and `int` of a float that does not fit is the smallest one. -/
def rendering : Runtime where
  unmarshal _ := .error ""
  marshalIndent _ := .error ""
  unmarshalForwarder _ := .ok {}
  intOutOfRange _ := -2 ^ 63
  generate _ := .ok "#cloud-config\n"
  parseAddr := .ok

def forwarderConfig (content : String) : CloudConfig :=
  ⟨[⟨agentProtocolForwarderConfigPath, content⟩]⟩

def integerMTU : String := "\x7b\"pod-network\":\x7b\"mtu\":1500\x7d\x7d"
def fractionalMTU : String := "\x7b\"pod-network\":\x7b\"mtu\":1400.5\x7d\x7d"

/-- A document with nothing but an MTU. -/
theorem hasMTU {codec : JsonCodec} {content : String} {q : ℚ} (literal : List Char)
    (hread : readWhole content.toList =
      some (.object [("pod-network", .object [("mtu", .number literal)])]))
    (hvalue : literalValue literal = q) (hq : Json.IsFloat64 q) :
    Runtime.HasMTU codec content [("pod-network", .object [("mtu", .number q)])]
      [("mtu", .number q)] q := by
  refine ⟨?_, rfl, rfl⟩
  have hfloat := decodeFloat_of_isFloat64 hvalue hq
  simp only [JsonCodec.unmarshal, hread, decodeAny, decodeObject, hfloat]
  rfl

theorem hasMTU_integer : Runtime.HasMTU .exact integerMTU
    [("pod-network", .object [("mtu", .number 1500)])] [("mtu", .number 1500)] 1500 :=
  hasMTU ['1', '5', '0', '0'] rfl (by decide +kernel)
    (Json.isFloat64_intCast (n := 1500) (by decide))

theorem hasMTU_fractional : Runtime.HasMTU .exact fractionalMTU
    [("pod-network", .object [("mtu", .number (2801 / 2))])] [("mtu", .number (2801 / 2))]
    (2801 / 2) :=
  hasMTU ['1', '4', '0', '0', '.', '5'] rfl (by decide +kernel)
    ⟨2801, -1, by decide, by decide, by decide, by norm_num⟩

theorem hasForwarderConfigs {codec : JsonCodec} {content : String}
    {document podNetwork : List (String × Json)} {mtu : ℚ}
    (h : Runtime.HasMTU codec content document podNetwork mtu) :
    Runtime.HasForwarderConfigs codec (forwarderConfig content).writeFiles where
  some_file := ⟨_, List.mem_singleton_self _, rfl⟩
  all_files file hfile _ := by
    rw [List.mem_singleton.mp hfile]
    exact ⟨_, mtu, h.decoded, h.at?_eq⟩

theorem exists_adjusted {content : String} {document podNetwork : List (String × Json)} {mtu : ℚ}
    (h : Runtime.HasMTU .exact content document podNetwork mtu) :
    ∃ adjusted, (rendering.usingJson .exact).adjustedConfig 1400 (forwarderConfig content) =
      .ok adjusted :=
  (hasForwarderConfigs h).adjustedConfig rendering (by decide)

theorem generateUserData_eq {content : String} {document podNetwork : List (String × Json)} {mtu : ℚ}
    (h : Runtime.HasMTU .exact content document podNetwork mtu) :
    (rendering.usingJson .exact).generateUserData (.cloudConfig (forwarderConfig content)) 1400 =
      .ok "#cloud-config\n" := by
  obtain ⟨adjusted, hadjusted⟩ := exists_adjusted h
  rw [Runtime.generateUserData_eq (by decide), hadjusted]
  rfl

end Sample

/-- **The cap is the smaller MTU**: in every forwarder config that is handed to `Generate` the MTU is
the smaller one of `networkMTU` and the MTU at the same place of the input, exactly when the cap is
exact for every MTU of the input. -/
theorem generated_mtu_eq_min (rt : Runtime) (codec : JsonCodec) {config : CloudConfig}
    {networkMTU : Int} {text : String} (hpos : 0 < networkMTU) (hint : networkMTU < 2 ^ 63)
    (h : (rt.usingJson codec).generateUserData (.cloudConfig config) networkMTU = .ok text) :
    ∃ generated, (rt.usingJson codec).adjustedConfig networkMTU config = .ok generated ∧
      rt.generate generated = .ok text ∧
      ((∀ (i : Nat) (file : WriteFile), generated.writeFiles[i]? = some file →
        file.path = agentProtocolForwarderConfigPath →
        ∃ (original : WriteFile) (mtu capped : ℚ), config.writeFiles[i]? = some original ∧
          original.path = agentProtocolForwarderConfigPath ∧
          (rt.usingJson codec).forwarderMTU original.content = some mtu ∧
          (rt.usingJson codec).forwarderMTU file.content = some capped ∧
          capped = min mtu networkMTU ∧ capped ≤ networkMTU) ↔
      ∀ file ∈ config.writeFiles, file.path = agentProtocolForwarderConfigPath →
        ∀ mtu, (rt.usingJson codec).forwarderMTU file.content = some mtu → rt.Exact networkMTU mtu) := by
  have hm : |networkMTU| ≤ 2 ^ 63 := by
    rw [abs_of_pos hpos]
    omega
  obtain ⟨generated, hadjusted, htext⟩ := Runtime.generateUserData_eq_ok hpos h
  refine ⟨generated, hadjusted, htext, fun hcapped file hmem hpath mtu hmtu => ?_,
    fun hexact i file hfile hpath => ?_⟩
  · obtain ⟨i, horiginal⟩ := List.mem_iff_getElem?.mp hmem
    obtain ⟨file', hfile', hrewritten⟩ := (generated_iff_original hm hadjusted i).2 file horiginal
    obtain ⟨_, _, mtu', _, _, hbefore, hafter, -⟩ := hrewritten.forwarder hpath
    obtain ⟨original, mtu, capped, horiginal', -, hmtu', hcapped, hmin, -⟩ :=
      hcapped i file' hfile' (hrewritten.path_eq.trans hpath)
    -- all of them are about one place of the input
    obtain rfl : original = file := Option.some.inj (horiginal'.symm.trans horiginal)
    obtain rfl : mtu = mtu' := Option.some.inj (hmtu'.symm.trans hbefore.forwarderMTU)
    obtain rfl := Option.some.inj (hmtu.symm.trans hmtu')
    obtain rfl := Option.some.inj (hcapped.symm.trans hafter.forwarderMTU)
    exact (Runtime.cappedMTU_eq_min_iff hpos hint).mp hmin
  · obtain ⟨original, horiginal, hrewritten⟩ :=
      (generated_iff_original hm hadjusted i).1 file hfile hpath
    have hpath' : original.path = agentProtocolForwarderConfigPath :=
      hrewritten.path_eq.symm.trans hpath
    obtain ⟨_, _, mtu, _, _, hbefore, hafter, -⟩ := hrewritten.forwarder hpath'
    have hmin := (Runtime.cappedMTU_eq_min_iff hpos hint).mpr
      (hexact original (List.mem_of_getElem? horiginal) hpath' mtu hbefore.forwarderMTU)
    exact ⟨original, mtu, _, horiginal, hpath', hbefore.forwarderMTU, hafter.forwarderMTU, hmin,
      hmin ▸ min_le_right _ _⟩

theorem integer_mtu_is_capped :
    ∃ generated, (Sample.rendering.usingJson .exact).adjustedConfig 1400
        (Sample.forwarderConfig Sample.integerMTU) = .ok generated ∧
      Sample.rendering.generate generated = .ok "#cloud-config\n" ∧
      ∀ (i : Nat) (file : WriteFile), generated.writeFiles[i]? = some file →
        file.path = agentProtocolForwarderConfigPath →
        ∃ (original : WriteFile) (mtu capped : ℚ),
          (Sample.forwarderConfig Sample.integerMTU).writeFiles[i]? = some original ∧
          original.path = agentProtocolForwarderConfigPath ∧
          (Sample.rendering.usingJson .exact).forwarderMTU original.content = some mtu ∧
          (Sample.rendering.usingJson .exact).forwarderMTU file.content = some capped ∧
          capped = min mtu (1400 : Int) ∧ capped ≤ (1400 : Int) := by
  obtain ⟨generated, hadjusted, htext, hiff⟩ := generated_mtu_eq_min Sample.rendering .exact
    (by decide) (by decide) (Sample.generateUserData_eq Sample.hasMTU_integer)
  refine ⟨generated, hadjusted, htext, hiff.mpr ?_⟩
  intro file hfile _ mtu hmtu
  rw [List.mem_singleton.mp hfile, Sample.hasMTU_integer.forwarderMTU] at hmtu
  cases hmtu
  refine ⟨?_, fun _ => Json.isFloat64_intCast (by decide)⟩
  rw [if_pos (by norm_num [Runtime.FitsInt])]
  exact .inr (by norm_num)

/-- A fraction above `networkMTU` is kept: 1400.5 is compared as 1400. -/
theorem fractional_mtu_is_kept :
    (Sample.rendering.usingJson .exact).generateUserData
        (.cloudConfig (Sample.forwarderConfig Sample.fractionalMTU)) 1400 = .ok "#cloud-config\n" ∧
      ∃ (generated : CloudConfig) (file : WriteFile),
        (Sample.rendering.usingJson .exact).adjustedConfig 1400
          (Sample.forwarderConfig Sample.fractionalMTU) = .ok generated ∧
        generated.writeFiles[0]? = some file ∧ file.path = agentProtocolForwarderConfigPath ∧
        (Sample.rendering.usingJson .exact).forwarderMTU file.content = some (2801 / 2) ∧
        ((1400 : Int) : ℚ) < 2801 / 2 := by
  refine ⟨Sample.generateUserData_eq Sample.hasMTU_fractional, ?_⟩
  obtain ⟨generated, hadjusted⟩ := Sample.exists_adjusted Sample.hasMTU_fractional
  obtain ⟨files, hfiles, hwrite⟩ := Runtime.adjustedConfig_rewritten (by decide) hadjusted
  obtain ⟨file, rest, hfile, -, rfl⟩ := List.forall₂_cons_left_iff.mp hfiles
  obtain ⟨_, _, mtu, _, _, hbefore, hafter, -⟩ := hfile.forwarder rfl
  -- the MTU of the document is the one of the sample
  have hmtu : mtu = 2801 / 2 := by
    have hsample : (Sample.rendering.usingJson .exact).forwarderMTU Sample.fractionalMTU =
        some (2801 / 2) := Sample.hasMTU_fractional.forwarderMTU
    rw [hbefore.forwarderMTU] at hsample
    exact Option.some.inj hsample
  subst hmtu
  refine ⟨generated, file, hadjusted, ?_, hfile.path_eq, ?_, by norm_num⟩
  · rw [hwrite]
    rfl
  · rw [hafter.forwarderMTU, Runtime.cappedMTU, if_neg (by decide +kernel)]

end SandboxProvider.Plugin
