import SandboxProvider.Lib.JsonAny
import SandboxProvider.Plugin.UserData

/-!
# Forwarder configs as JSON documents

What `generateUserData` does to a forwarder config when `encoding/json` is the codec: it is refused
unless it decodes to an object with a numeric `pod-network.mtu`, and what is written for it decodes to
the same document with another number at that place, or with the same one.
-/

namespace SandboxProvider.Plugin

open Lib

/-- Where the MTU is in a forwarder config. -/
def mtuPath : List String := ["pod-network", "mtu"]

namespace Runtime

/-- With `encoding/json` as the codec. (Where the outermost value is an array, Go does not come to a
number out of range in it and reports the array; both are errors.) -/
def usingJson (rt : Runtime) (codec : JsonCodec) : Runtime :=
  { rt with unmarshal := codec.unmarshal, marshalIndent := codec.marshalIndent }

/-- The text decodes to an object with this `pod-network` and this MTU in it. -/
structure HasMTU (codec : JsonCodec) (content : String) (document podNetwork : List (String × Json))
    (mtu : ℚ) : Prop where
  decoded : codec.unmarshal content = .ok (.object document)
  podNetwork_eq : document.lookup "pod-network" = some (.object podNetwork)
  mtu_eq : podNetwork.lookup "mtu" = some (.number mtu)

/-- The text decodes to a document with a number at the place of the MTU. -/
def IsForwarderConfig (codec : JsonCodec) (content : String) : Prop :=
  ∃ document mtu, codec.unmarshal content = .ok document ∧ document.at? mtuPath = some (.number mtu)

section Adjust

variable {rt : Runtime} {codec : JsonCodec} {networkMTU : Int} {content : String}
  {document podNetwork : List (String × Json)} {mtu : ℚ}

theorem HasMTU.at?_eq (h : HasMTU codec content document podNetwork mtu) :
    (Json.object document).at? mtuPath = some (.number mtu) := by
  simp only [mtuPath, Json.at?, h.podNetwork_eq, h.mtu_eq, Option.bind_some]

theorem IsForwarderConfig.hasMTU (h : IsForwarderConfig codec content) :
    ∃ document podNetwork mtu, HasMTU codec content document podNetwork mtu := by
  obtain ⟨d, mtu, hdecoded, hat⟩ := h
  cases d with
  | object document =>
    obtain ⟨network, hnetwork, hat⟩ := Option.bind_eq_some_iff.mp hat
    cases network with
    | object podNetwork =>
      obtain ⟨value, hvalue, hat⟩ := Option.bind_eq_some_iff.mp hat
      cases hat
      exact ⟨document, podNetwork, mtu, hdecoded, hnetwork, hvalue⟩
    | _ => cases hat
  | _ => cases hat

theorem HasMTU.unmarshalMap (h : HasMTU codec content document podNetwork mtu) :
    (rt.usingJson codec).unmarshalMap content = .ok document := by
  have hdecoded : (rt.usingJson codec).unmarshal content = .ok (.object document) := h.decoded
  simp only [Runtime.unmarshalMap, hdecoded]

theorem HasMTU.forwarderMTU (h : HasMTU codec content document podNetwork mtu) :
    (rt.usingJson codec).forwarderMTU content = some mtu :=
  forwarderMTU_of_lookup h.unmarshalMap h.podNetwork_eq h.mtu_eq

/-- A text without the MTU is refused. -/
theorem isForwarderConfig_of_adjustContent {encoded : String}
    (h : (rt.usingJson codec).adjustContent networkMTU content = .ok encoded) :
    IsForwarderConfig codec content := by
  unfold adjustContent at h
  split at h
  · cases h
  rename_i document hdocument
  split at h
  · cases h
  rename_i document' hcap
  obtain ⟨podNetwork, current, hnetwork, hmtu, -⟩ := capMTU_eq_ok hcap
  unfold Runtime.unmarshalMap at hdocument
  split at hdocument
  · cases hdocument
  · rename_i members hdecoded
    cases hdocument
    have hmtu : HasMTU codec content document podNetwork current := ⟨hdecoded, hnetwork, hmtu⟩
    exact ⟨.object document, current, hdecoded, hmtu.at?_eq⟩
  · cases hdocument
    cases hnetwork
  · cases hdocument

/-- A document with a number in the place of the MTU. -/
def withMTU (document podNetwork : List (String × Json)) (mtu : ℚ) : List (String × Json) :=
  Json.set "pod-network" (.object (Json.set "mtu" (.number mtu) podNetwork)) document

/-- Nothing is changed at another path. -/
theorem HasMTU.at?_withMTU (h : HasMTU codec content document podNetwork mtu) (mtu' : ℚ)
    {path : List String} (hpath : ¬ path <+: mtuPath) :
    (Json.object (withMTU document podNetwork mtu')).at? path = (Json.object document).at? path := by
  cases path with
  | nil => exact absurd List.nil_prefix hpath
  | cons key path =>
    rw [withMTU, Json.at?_set]
    by_cases hkey : key = "pod-network"
    · subst hkey
      have hbelow : (Json.object document).at? ("pod-network" :: path) =
          (Json.object podNetwork).at? path := by
        simp only [Json.at?, h.podNetwork_eq, Option.bind_some]
      rw [if_pos rfl, hbelow]
      cases path with
      | nil => exact absurd ⟨["mtu"], rfl⟩ hpath
      | cons key path =>
        rw [Json.at?_set]
        by_cases hkey : key = "mtu"
        · subst hkey
          rw [if_pos rfl]
          cases path with
          | nil => exact absurd (List.prefix_refl mtuPath) hpath
          | cons key path =>
            -- there is nothing below a number
            simp only [Json.at?, h.mtu_eq, Option.bind_some]
        · rw [if_neg hkey]
    · rw [if_neg hkey]

theorem HasMTU.shape (h : HasMTU codec content document podNetwork mtu) :
    Json.Shape Json.IsFloat64 (9998 + 1) (.object podNetwork) ∧
      Json.Shape Json.IsFloat64 (9999 + 1) (.object document) := by
  have hdocument : Json.Shape Json.IsFloat64 (9999 + 1) (.object document) :=
    JsonCodec.unmarshal_shape h.decoded
  exact ⟨hdocument.of_lookup h.podNetwork_eq, hdocument⟩

/-- A document that keeps its MTU is read back as it was. -/
theorem HasMTU.marshalIndent (h : HasMTU codec content document podNetwork mtu) :
    ∃ encoded, codec.marshalIndent (.object document) = .ok encoded ∧ encoded ≠ "" ∧
      HasMTU codec encoded document podNetwork mtu := by
  obtain ⟨encoded, hencoded, hne, hback⟩ := codec.unmarshal_marshalIndent (h.shape.2.mono .inl)
  rw [h.shape.2.round_eq_self] at hback
  exact ⟨encoded, hencoded, hne, hback, h.podNetwork_eq, h.mtu_eq⟩

/-- A document with a new MTU is read back with this MTU as a float. -/
theorem HasMTU.marshalIndent_withMTU (h : HasMTU codec content document podNetwork mtu)
    (hm : |networkMTU| ≤ 2 ^ 63) :
    ∃ encoded, codec.marshalIndent (.object (withMTU document podNetwork networkMTU)) = .ok encoded ∧
      encoded ≠ "" ∧
      HasMTU codec encoded (withMTU document podNetwork (Json.roundNumber networkMTU))
        (Json.set "mtu" (.number (Json.roundNumber networkMTU)) podNetwork)
        (Json.roundNumber networkMTU) := by
  obtain ⟨hpodNetwork, hdocument⟩ := h.shape
  have hshape : Json.Shape IsGoNumber (9999 + 1) (.object (withMTU document podNetwork networkMTU)) := by
    refine (hdocument.mono .inl).set "pod-network" ((hpodNetwork.mono .inl).set "mtu" ?_)
    exact .number (.inr ⟨networkMTU, hm, rfl⟩)
  have hround : (Json.object (withMTU document podNetwork networkMTU)).round =
      .object (withMTU document podNetwork (Json.roundNumber networkMTU)) := by
    have hdocument := hdocument.round_eq_self
    have hpodNetwork := hpodNetwork.round_eq_self
    simp only [Json.round, Json.object.injEq] at hdocument hpodNetwork
    simp only [withMTU, Json.round, Json.roundMembers_set, hdocument, hpodNetwork]
  obtain ⟨encoded, hencoded, hne, hback⟩ := codec.unmarshal_marshalIndent hshape
  rw [hround] at hback
  exact ⟨encoded, hencoded, hne, hback, Json.lookup_set_self .., Json.lookup_set_self ..⟩

variable (rt) in
/-- The MTU that is read back from what is written for an MTU. -/
def cappedMTU (networkMTU : Int) (mtu : ℚ) : ℚ :=
  if rt.int mtu > networkMTU then Json.roundNumber networkMTU else mtu

variable (rt) in
/-- What is written for a forwarder config. -/
theorem HasMTU.adjustContent (h : HasMTU codec content document podNetwork mtu)
    (hm : |networkMTU| ≤ 2 ^ 63) :
    ∃ encoded document' podNetwork',
      (rt.usingJson codec).adjustContent networkMTU content = .ok encoded ∧ encoded ≠ "" ∧
      HasMTU codec encoded document' podNetwork' (rt.cappedMTU networkMTU mtu) ∧
      ∀ path, ¬ path <+: mtuPath →
        (Json.object document').at? path = (Json.object document).at? path := by
  by_cases hgt : rt.int mtu > networkMTU
  · obtain ⟨encoded, hencoded, hne, hback⟩ := h.marshalIndent_withMTU hm
    have hcap : (rt.usingJson codec).capMTU networkMTU document =
        .ok (withMTU document podNetwork networkMTU) := by
      simp only [capMTU, h.podNetwork_eq, h.mtu_eq]
      exact if_pos hgt
    have hmarshal : (rt.usingJson codec).marshalIndent
        (.object (withMTU document podNetwork networkMTU)) = .ok encoded := hencoded
    rw [cappedMTU, if_pos hgt]
    refine ⟨encoded, _, _, ?_, hne, hback, fun path hpath => h.at?_withMTU _ hpath⟩
    simp only [Runtime.adjustContent, h.unmarshalMap, hcap, hmarshal]
  · obtain ⟨encoded, hencoded, hne, hback⟩ := h.marshalIndent
    have hcap : (rt.usingJson codec).capMTU networkMTU document = .ok document := by
      simp only [capMTU, h.podNetwork_eq, h.mtu_eq]
      exact if_neg hgt
    have hmarshal : (rt.usingJson codec).marshalIndent (.object document) = .ok encoded := hencoded
    rw [cappedMTU, if_neg hgt]
    refine ⟨encoded, _, _, ?_, hne, hback, fun _ _ => rfl⟩
    simp only [Runtime.adjustContent, h.unmarshalMap, hcap, hmarshal]

end Adjust

/-! ## The list of files -/

/-- What becomes of a file: a forwarder config has the capped MTU and is the same document otherwise,
another file is the same. -/
structure Rewritten (rt : Runtime) (codec : JsonCodec) (networkMTU : Int) (file file' : WriteFile) :
    Prop where
  path_eq : file'.path = file.path
  other : file.path ≠ agentProtocolForwarderConfigPath → file' = file
  forwarder : file.path = agentProtocolForwarderConfigPath →
    ∃ document podNetwork mtu document' podNetwork',
      HasMTU codec file.content document podNetwork mtu ∧
      HasMTU codec file'.content document' podNetwork' (rt.cappedMTU networkMTU mtu) ∧
      ∀ path, ¬ path <+: mtuPath →
        (Json.object document').at? path = (Json.object document).at? path

/-- There is a forwarder config, and every one has an MTU. -/
structure HasForwarderConfigs (codec : JsonCodec) (files : List WriteFile) : Prop where
  some_file : ∃ file ∈ files, file.path = agentProtocolForwarderConfigPath
  all_files : ∀ file ∈ files, file.path = agentProtocolForwarderConfigPath →
    IsForwarderConfig codec file.content

section Files

variable {rt : Runtime} {codec : JsonCodec} {networkMTU : Int}

theorem Adjusts.rewritten {file file' : WriteFile} (hm : |networkMTU| ≤ 2 ^ 63)
    (h : (rt.usingJson codec).Adjusts networkMTU file file') :
    rt.Rewritten codec networkMTU file file' := by
  obtain ⟨hpath, hfile⟩ := h
  refine ⟨hpath, fun hother => ?_, fun hforwarder => ?_⟩
  · rw [if_neg hother] at hfile
    exact hfile
  · rw [if_pos hforwarder] at hfile
    obtain ⟨document, podNetwork, mtu, hmtu⟩ := (isForwarderConfig_of_adjustContent hfile).hasMTU
    obtain ⟨encoded, document', podNetwork', hencoded, -, hmtu', hsame⟩ := hmtu.adjustContent rt hm
    rw [hfile] at hencoded
    cases hencoded
    exact ⟨document, podNetwork, mtu, document', podNetwork', hmtu, hmtu', hsame⟩

/-- The loop comes to its end when every forwarder config has an MTU. -/
theorem exists_adjustFiles (rt : Runtime) (hm : |networkMTU| ≤ 2 ^ 63) (files : List WriteFile)
    (h : ∀ file ∈ files, file.path = agentProtocolForwarderConfigPath →
      IsForwarderConfig codec file.content) (apfConfig : String) :
    ∃ files' apfConfig',
      (rt.usingJson codec).adjustFiles networkMTU files apfConfig = .ok (files', apfConfig') ∧
      ((apfConfig ≠ "" ∨ ∃ file ∈ files, file.path = agentProtocolForwarderConfigPath) →
        apfConfig' ≠ "") := by
  induction files generalizing apfConfig with
  | nil =>
    refine ⟨[], apfConfig, rfl, fun hsome => ?_⟩
    rcases hsome with hne | ⟨file, hfile, -⟩
    · exact hne
    · cases hfile
  | cons file rest ih =>
    have hrest : ∀ x ∈ rest, x.path = agentProtocolForwarderConfigPath →
        IsForwarderConfig codec x.content := fun x hx => h x (List.mem_cons_of_mem _ hx)
    by_cases hpath : file.path = agentProtocolForwarderConfigPath
    · obtain ⟨document, podNetwork, mtu, hmtu⟩ := (h file List.mem_cons_self hpath).hasMTU
      obtain ⟨encoded, -, -, hencoded, hne, -⟩ := hmtu.adjustContent rt hm
      obtain ⟨files', apfConfig', hadjust, hlast⟩ := ih hrest encoded
      refine ⟨{ file with content := encoded } :: files', apfConfig', ?_, fun _ => hlast (.inl hne)⟩
      rw [adjustFiles, if_neg (not_not.mpr hpath)]
      simp only [hencoded, hadjust]
    · obtain ⟨files', apfConfig', hadjust, hlast⟩ := ih hrest apfConfig
      refine ⟨file :: files', apfConfig', ?_, fun hsome => hlast ?_⟩
      · rw [adjustFiles, if_pos hpath]
        simp only [hadjust]
      · rcases hsome with hne | ⟨x, hx, hxpath⟩
        · exact .inl hne
        · rcases List.mem_cons.mp hx with rfl | hx
          · exact absurd hxpath hpath
          · exact .inr ⟨x, hx, hxpath⟩

/-- Without a forwarder config nothing is encoded. -/
theorem adjustFiles_of_forall_ne {files : List WriteFile}
    (h : ∀ file ∈ files, file.path ≠ agentProtocolForwarderConfigPath) (apfConfig : String) :
    rt.adjustFiles networkMTU files apfConfig = .ok (files, apfConfig) := by
  induction files with
  | nil => rfl
  | cons file rest ih =>
    rw [adjustFiles, if_pos (h file List.mem_cons_self),
      ih fun x hx => h x (List.mem_cons_of_mem _ hx)]

/-- What is handed to `Generate`. -/
theorem adjustedConfig_rewritten {config adjusted : CloudConfig} (hm : |networkMTU| ≤ 2 ^ 63)
    (h : (rt.usingJson codec).adjustedConfig networkMTU config = .ok adjusted) :
    ∃ files, List.Forall₂ (rt.Rewritten codec networkMTU) config.writeFiles files ∧
      adjusted.writeFiles = files ++ dropIns := by
  obtain ⟨files, apfConfig, hadjust, -, hwrite⟩ := adjustedConfig_eq_ok h
  exact ⟨files, (adjustFiles_eq_ok hadjust).imp fun _ _ => Adjusts.rewritten hm, hwrite⟩

/-- A configuration is accepted when every forwarder config in it has an MTU. -/
theorem HasForwarderConfigs.adjustedConfig (rt : Runtime) {config : CloudConfig}
    (hm : |networkMTU| ≤ 2 ^ 63) (h : HasForwarderConfigs codec config.writeFiles) :
    ∃ adjusted, (rt.usingJson codec).adjustedConfig networkMTU config = .ok adjusted := by
  obtain ⟨files, apfConfig, hadjust, hne⟩ :=
    exists_adjustFiles rt hm config.writeFiles h.all_files ""
  simp only [Runtime.adjustedConfig, hadjust]
  exact ⟨_, if_neg (hne (.inr h.some_file))⟩

/-- Otherwise the configuration is refused. -/
theorem hasForwarderConfigs_of_adjustedConfig {config adjusted : CloudConfig}
    (h : (rt.usingJson codec).adjustedConfig networkMTU config = .ok adjusted) :
    HasForwarderConfigs codec config.writeFiles := by
  obtain ⟨files, apfConfig, hadjust, hne, -⟩ := adjustedConfig_eq_ok h
  refine ⟨?_, fun file hfile hpath => ?_⟩
  · by_contra hnone
    have hforall : ∀ file ∈ config.writeFiles, file.path ≠ agentProtocolForwarderConfigPath :=
      fun file hfile hpath => hnone ⟨file, hfile, hpath⟩
    rw [adjustFiles_of_forall_ne hforall] at hadjust
    cases hadjust
    exact hne rfl
  · obtain ⟨hlength, hfiles⟩ := List.forall₂_iff_get.mp (adjustFiles_eq_ok hadjust)
    obtain ⟨i, rfl⟩ := List.mem_iff_get.mp hfile
    obtain ⟨-, hcontent⟩ := hfiles i.1 i.2 (hlength ▸ i.2)
    rw [if_pos hpath] at hcontent
    exact isForwarderConfig_of_adjustContent hcontent

end Files

end Runtime

end SandboxProvider.Plugin
