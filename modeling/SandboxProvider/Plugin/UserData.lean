import SandboxProvider.Lib.Json

/-!
# The user data of an instance

`provider.go`: `generateUserData` caps the MTU in every agent protocol forwarder config of a
cloud-config, adds two drop-ins and renders the result. What it calls outside the repository is a
`Runtime`: the JSON codec on texts, the cloud-config renderer, and the result of a float-to-int
conversion out of range, which the language leaves open.
-/

namespace SandboxProvider.Plugin

open Lib

structure WriteFile where
  path : String
  content : String
  deriving DecidableEq, Repr

structure CloudConfig where
  writeFiles : List WriteFile
  deriving DecidableEq, Repr

/-- `cloudinit.CloudConfigGenerator`: a `*cloudinit.CloudConfig`, or another one with the result of
its `Generate`. -/
inductive Generator
  | cloudConfig (config : CloudConfig)
  | other (generated : Except String String)

/-- The fields of the forwarder config that `sourceWorkloadReference` decodes. -/
structure ForwarderDocument where
  podName : String := ""
  podNamespace : String := ""
  podUID : String := ""
  deriving DecidableEq, Repr

structure Runtime where
  /-- `json.Unmarshal` into an `any`. -/
  unmarshal : String → Except String Json
  /-- `json.MarshalIndent` with four blanks. -/
  marshalIndent : Json → Except String String
  /-- `json.Unmarshal` into the struct of `sourceWorkloadReference`. -/
  unmarshalForwarder : String → Except String ForwarderDocument
  /-- `int` of a float that does not fit. -/
  intOutOfRange : ℚ → Int
  /-- `CloudConfig.Generate`. -/
  generate : CloudConfig → Except String String
  /-- `netip.ParseAddr`, with the address in its standard form. -/
  parseAddr : String → Except String String

def agentProtocolForwarderConfigPath : String := "/run/peerpod/apf.json"

def guestProxyURL : String := "http://192.0.2.1:3128"
def cdhProxyDropInPath : String :=
  "/etc/systemd/system/confidential-data-hub.service.d/proxy.conf"
def apfOrderingDropInPath : String :=
  "/etc/systemd/system/agent-protocol-forwarder.service.d/ordering.conf"
def cdhProxyDropIn : String :=
  "[Service]\n" ++
    "Environment=\"HTTP_PROXY=" ++ guestProxyURL ++ "\"\n" ++
    "Environment=\"HTTPS_PROXY=" ++ guestProxyURL ++ "\"\n" ++
    "Environment=\"NO_PROXY=127.0.0.1,localhost\"\n"
def apfOrderingDropIn : String :=
  "[Unit]\n" ++
    "Requires=netns@podns.service\n" ++
    "After=cloud-init.service netns@podns.service\n"

/-- What is appended to the files. -/
def dropIns : List WriteFile :=
  [⟨apfOrderingDropInPath, apfOrderingDropIn⟩, ⟨cdhProxyDropInPath, cdhProxyDropIn⟩]

/-- The JSON kind of a value in an `UnmarshalTypeError`. -/
def jsonKind : Json → String
  | .null => "null"
  | .bool _ => "bool"
  | .number _ => "number"
  | .string _ => "string"
  | .array _ => "array"
  | .object _ => "object"

namespace Runtime

variable (rt : Runtime)

/-- `int(v)`: the fraction is dropped. -/
def int (v : ℚ) : Int :=
  let n := v.num.tdiv v.den
  if -2 ^ 63 ≤ n ∧ n < 2 ^ 63 then n else rt.intOutOfRange v

/-- `json.Unmarshal` into a `map[string]any`; a JSON `null` leaves the map empty. -/
def unmarshalMap (text : String) : Except String (List (String × Json)) :=
  match rt.unmarshal text with
  | .error err => .error err
  | .ok (.object members) => .ok members
  | .ok .null => .ok []
  | .ok value => .error ("json: cannot unmarshal " ++ jsonKind value ++
      " into Go value of type map[string]interface \x7b\x7d")

/-- The cap on `pod-network.mtu` of a decoded forwarder config. -/
def capMTU (networkMTU : Int) (document : List (String × Json)) :
    Except String (List (String × Json)) :=
  match document.lookup "pod-network" with
  | some (.object podNetwork) =>
    match podNetwork.lookup "mtu" with
    | some (.number current) =>
      if rt.int current > networkMTU then
        .ok (Json.set "pod-network" (.object (Json.set "mtu" (.number networkMTU) podNetwork))
          document)
      else .ok document
    | _ => .error "agent protocol forwarder config has no numeric MTU"
  | _ => .error "agent protocol forwarder config has no pod-network object"

/-- The body of the loop for a file at the forwarder's path. -/
def adjustContent (networkMTU : Int) (content : String) : Except String String :=
  match rt.unmarshalMap content with
  | .error err => .error ("parse agent protocol forwarder config: " ++ err)
  | .ok document =>
    match rt.capMTU networkMTU document with
    | .error err => .error err
    | .ok document =>
      match rt.marshalIndent (.object document) with
      | .error err => .error ("encode agent protocol forwarder config: " ++ err)
      | .ok encoded => .ok encoded

/-- The loop over the files, with the last encoded forwarder config. -/
def adjustFiles (networkMTU : Int) :
    List WriteFile → String → Except String (List WriteFile × String)
  | [], apfConfig => .ok ([], apfConfig)
  | file :: rest, apfConfig =>
    if file.path ≠ agentProtocolForwarderConfigPath then
      match adjustFiles networkMTU rest apfConfig with
      | .error err => .error err
      | .ok (files, apfConfig) => .ok (file :: files, apfConfig)
    else
      match rt.adjustContent networkMTU file.content with
      | .error err => .error err
      | .ok encoded =>
        match adjustFiles networkMTU rest encoded with
        | .error err => .error err
        | .ok (files, apfConfig) => .ok ({ file with content := encoded } :: files, apfConfig)

def generateUserData (generator : Generator) (networkMTU : Int) : Except String String :=
  match generator with
  | .other generated => generated
  | .cloudConfig config =>
    if networkMTU ≤ 0 then rt.generate config
    else
      match rt.adjustFiles networkMTU config.writeFiles "" with
      | .error err => .error err
      | .ok (files, apfConfig) =>
        if apfConfig = "" then .error "agent protocol forwarder config is missing"
        else rt.generate { config with writeFiles := files ++ dropIns }

/-- The config that `generateUserData` renders when there is an MTU to cap. -/
def adjustedConfig (networkMTU : Int) (config : CloudConfig) : Except String CloudConfig :=
  match rt.adjustFiles networkMTU config.writeFiles "" with
  | .error err => .error err
  | .ok (files, apfConfig) =>
    if apfConfig = "" then .error "agent protocol forwarder config is missing"
    else .ok { config with writeFiles := files ++ dropIns }

/-- `pod-network.mtu` of a forwarder config. -/
def forwarderMTU (content : String) : Option ℚ :=
  match rt.unmarshalMap content with
  | .error _ => none
  | .ok document =>
    match document.lookup "pod-network" with
    | some (.object podNetwork) =>
      match podNetwork.lookup "mtu" with
      | some (.number mtu) => some mtu
      | _ => none
    | _ => none

/-- What the code relies on: decoding gives maps and floats, an encoded document decodes to itself,
and a guest that reads a rendered cloud-config sees the files that were rendered. -/
structure Lawful (readFiles : String → Option (List WriteFile)) : Prop where
  canonical : ∀ {text d}, rt.unmarshal text = .ok d → d.Canonical
  roundTrip : ∀ {d text}, d.Canonical → rt.marshalIndent d = .ok text → rt.unmarshal text = .ok d
  readFiles : ∀ {config text}, rt.generate config = .ok text →
    readFiles text = some config.writeFiles

/-! ## What the cap does -/

section Cap

variable {rt} {networkMTU : Int} {readFiles : String → Option (List WriteFile)}

theorem generateUserData_eq (hm : 0 < networkMTU) (config : CloudConfig) :
    rt.generateUserData (.cloudConfig config) networkMTU =
      (rt.adjustedConfig networkMTU config).bind rt.generate := by
  simp only [generateUserData, adjustedConfig, if_neg (Int.not_le.mpr hm)]
  split
  · rfl
  · split <;> rfl

theorem adjustedConfig_eq_ok {config adjusted : CloudConfig}
    (h : rt.adjustedConfig networkMTU config = .ok adjusted) :
    ∃ files apfConfig, rt.adjustFiles networkMTU config.writeFiles "" = .ok (files, apfConfig) ∧
      apfConfig ≠ "" ∧ adjusted.writeFiles = files ++ dropIns := by
  unfold adjustedConfig at h
  split at h
  · cases h
  · rename_i files apfConfig hfiles
    split at h
    · cases h
    · rename_i hne
      cases h
      exact ⟨files, apfConfig, hfiles, hne, rfl⟩

theorem generateUserData_eq_ok (hm : 0 < networkMTU) {config : CloudConfig} {text : String}
    (h : rt.generateUserData (.cloudConfig config) networkMTU = .ok text) :
    ∃ adjusted, rt.adjustedConfig networkMTU config = .ok adjusted ∧
      rt.generate adjusted = .ok text := by
  rw [generateUserData_eq hm] at h
  cases hadjusted : rt.adjustedConfig networkMTU config with
  | error err =>
    rw [hadjusted] at h
    cases h
  | ok adjusted =>
    rw [hadjusted] at h
    exact ⟨adjusted, rfl, h⟩

theorem int_intCast {n : Int} (hlow : -2 ^ 63 ≤ n) (hhigh : n < 2 ^ 63) : rt.int (n : ℚ) = n := by
  have hdiv : (n : ℚ).num.tdiv (n : ℚ).den = n := by
    rw [Rat.num_intCast, Rat.den_intCast]
    exact Int.tdiv_one n
  unfold int
  rw [hdiv]
  exact if_pos ⟨hlow, hhigh⟩

theorem Lawful.unmarshalMap_canonical (law : rt.Lawful readFiles) {text : String}
    {document : List (String × Json)} (h : rt.unmarshalMap text = .ok document) :
    (Json.object document).Canonical := by
  unfold unmarshalMap at h
  split at h
  · cases h
  · rename_i members hdecoded
    cases h
    exact law.canonical hdecoded
  · cases h
    exact .object .nil fun e he => (nomatch he)
  · cases h

theorem Lawful.unmarshalMap_marshalIndent (law : rt.Lawful readFiles) {text : String}
    {document : List (String × Json)} (hcanonical : (Json.object document).Canonical)
    (h : rt.marshalIndent (.object document) = .ok text) : rt.unmarshalMap text = .ok document := by
  unfold unmarshalMap
  rw [law.roundTrip hcanonical h]

theorem capMTU_eq_ok {document document' : List (String × Json)}
    (h : rt.capMTU networkMTU document = .ok document') :
    ∃ podNetwork current, document.lookup "pod-network" = some (.object podNetwork) ∧
      podNetwork.lookup "mtu" = some (.number current) ∧
      document' = if rt.int current > networkMTU then
          Json.set "pod-network" (.object (Json.set "mtu" (.number networkMTU) podNetwork)) document
        else document := by
  unfold capMTU at h
  split at h
  · rename_i podNetwork hnetwork
    split at h
    · rename_i current hcurrent
      refine ⟨podNetwork, current, hnetwork, hcurrent, ?_⟩
      split at h
      · rename_i hgt
        cases h
        rw [if_pos hgt]
      · rename_i hle
        cases h
        rw [if_neg hle]
    · cases h
  · cases h

/-- The MTU of a decoded document, given where it stands. -/
theorem forwarderMTU_of_lookup {content : String} {document podNetwork : List (String × Json)}
    {mtu : ℚ} (hdoc : rt.unmarshalMap content = .ok document)
    (hnetwork : document.lookup "pod-network" = some (.object podNetwork))
    (hmtu : podNetwork.lookup "mtu" = some (.number mtu)) : rt.forwarderMTU content = some mtu := by
  unfold forwarderMTU
  simp only [hdoc, hnetwork, hmtu]

/-- An adjusted forwarder config has the capped MTU. -/
theorem Lawful.forwarderMTU_adjustContent (law : rt.Lawful readFiles) (hm : |networkMTU| < 2 ^ 53)
    {content encoded : String} (h : rt.adjustContent networkMTU content = .ok encoded) :
    ∃ current, rt.forwarderMTU content = some current ∧
      rt.forwarderMTU encoded =
        some (if rt.int current > networkMTU then (networkMTU : ℚ) else current) := by
  unfold adjustContent at h
  split at h
  · cases h
  rename_i document hdoc
  split at h
  · cases h
  rename_i document' hcap
  split at h
  · cases h
  rename_i encoded' hencoded
  cases h
  obtain ⟨podNetwork, current, hnetwork, hcurrent, rfl⟩ := capMTU_eq_ok hcap
  have hcanonical := law.unmarshalMap_canonical hdoc
  refine ⟨current, forwarderMTU_of_lookup hdoc hnetwork hcurrent, ?_⟩
  split at hencoded
  · rename_i hgt
    have hinner : (Json.object (Json.set "mtu" (.number networkMTU) podNetwork)).Canonical :=
      (hcanonical.of_lookup hnetwork).set "mtu" (.number (Json.isFloat64_intCast hm))
    have hdecoded := law.unmarshalMap_marshalIndent (hcanonical.set "pod-network" hinner) hencoded
    rw [if_pos hgt]
    exact forwarderMTU_of_lookup hdecoded (Json.lookup_set_self ..) (Json.lookup_set_self ..)
  · rename_i hle
    rw [if_neg hle]
    exact forwarderMTU_of_lookup (law.unmarshalMap_marshalIndent hcanonical hencoded) hnetwork
      hcurrent

/-- What the loop does to one file. -/
def Adjusts (rt : Runtime) (networkMTU : Int) (file file' : WriteFile) : Prop :=
  file'.path = file.path ∧
    if file.path = agentProtocolForwarderConfigPath then
      rt.adjustContent networkMTU file.content = .ok file'.content
    else file' = file

/-- The loop keeps the files in their order and adjusts each one. -/
theorem adjustFiles_eq_ok {files files' : List WriteFile} {apfConfig apfConfig' : String}
    (h : rt.adjustFiles networkMTU files apfConfig = .ok (files', apfConfig')) :
    List.Forall₂ (rt.Adjusts networkMTU) files files' := by
  induction files generalizing files' apfConfig with
  | nil =>
    cases h
    exact .nil
  | cons file rest ih =>
    unfold adjustFiles at h
    split at h
    · rename_i hpath
      split at h
      · cases h
      · rename_i files₁ apf₁ hrest
        cases h
        exact .cons ⟨rfl, by rw [if_neg hpath]⟩ (ih hrest)
    · rename_i hpath
      split at h
      · cases h
      · rename_i encoded hencoded
        split at h
        · cases h
        · rename_i files₁ apf₁ hrest
          cases h
          exact .cons ⟨rfl, by rw [if_pos (not_not.mp hpath)]; exact hencoded⟩ (ih hrest)

theorem exists_adjusted {files files' : List WriteFile}
    (h : List.Forall₂ (rt.Adjusts networkMTU) files files') {file' : WriteFile}
    (hmem : file' ∈ files') : ∃ file ∈ files, rt.Adjusts networkMTU file file' := by
  induction h with
  | nil => cases hmem
  | cons hhead _ ih =>
    rcases List.mem_cons.mp hmem with rfl | hmem
    · exact ⟨_, List.mem_cons_self, hhead⟩
    · obtain ⟨file, hfile, hadj⟩ := ih hmem
      exact ⟨file, List.mem_cons_of_mem _ hfile, hadj⟩

/-- A guest that reads the generated user data sees the adjusted files and the two drop-ins. -/
theorem Lawful.readFiles_generateUserData (law : rt.Lawful readFiles) {config : CloudConfig}
    (hm : 0 < networkMTU) {text : String}
    (h : rt.generateUserData (.cloudConfig config) networkMTU = .ok text) :
    ∃ files, List.Forall₂ (rt.Adjusts networkMTU) config.writeFiles files ∧
      readFiles text = some (files ++ [
        ⟨apfOrderingDropInPath, apfOrderingDropIn⟩, ⟨cdhProxyDropInPath, cdhProxyDropIn⟩]) := by
  obtain ⟨adjusted, hadjusted, htext⟩ := generateUserData_eq_ok hm h
  obtain ⟨files, apfConfig, hfiles, -, hwrite⟩ := adjustedConfig_eq_ok hadjusted
  refine ⟨files, adjustFiles_eq_ok hfiles, ?_⟩
  rw [law.readFiles htext, hwrite]
  rfl

/-- Every forwarder config in the generated user data has the capped MTU of one in the input. -/
theorem Lawful.forwarderMTU_generateUserData (law : rt.Lawful readFiles) {config : CloudConfig}
    (hpos : 0 < networkMTU) (hm : |networkMTU| < 2 ^ 53) {text : String}
    (h : rt.generateUserData (.cloudConfig config) networkMTU = .ok text)
    {files : List WriteFile} (hread : readFiles text = some files) {file : WriteFile}
    (hfile : file ∈ files) (hpath : file.path = agentProtocolForwarderConfigPath) :
    ∃ original ∈ config.writeFiles, original.path = agentProtocolForwarderConfigPath ∧
      ∃ current, rt.forwarderMTU original.content = some current ∧
        rt.forwarderMTU file.content =
          some (if rt.int current > networkMTU then (networkMTU : ℚ) else current) := by
  obtain ⟨adjusted, hadjusted, hread'⟩ := law.readFiles_generateUserData hpos h
  rw [hread] at hread'
  obtain rfl := Option.some.inj hread'
  rcases List.mem_append.mp hfile with hmem | hmem
  · obtain ⟨original, horiginal, hpath', hcontent⟩ := exists_adjusted hadjusted hmem
    rw [hpath'] at hpath
    rw [if_pos hpath] at hcontent
    exact ⟨original, horiginal, hpath, law.forwarderMTU_adjustContent hm hcontent⟩
  · -- the drop-ins are at other paths
    simp only [List.mem_cons, List.not_mem_nil, or_false] at hmem
    rcases hmem with rfl | rfl
    · exact absurd hpath (by decide)
    · exact absurd hpath (by decide)

end Cap

end Runtime

end SandboxProvider.Plugin
