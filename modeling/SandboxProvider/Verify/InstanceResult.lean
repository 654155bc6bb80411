import SandboxProvider.Plugin.CreateInstance

/-!
# What `CreateInstance` returns

Over any client: a sandbox that the client reports as created is never lost, since every return after
that has an instance with its id and name; there is no error exactly when the reply is complete and
all its addresses parse. Before the sandbox is created nothing is returned but an error.

The steps of a `Deployment` are this function cut at its two requests.
-/

namespace SandboxProvider.Plugin.Runtime

open Server

variable {rt : Runtime} {σ : Type}

/-! ## Addresses -/

/-- The addresses of a reply, in its order. -/
theorem parseIPs_eq_ok_iff {raws ips : List String} :
    rt.parseIPs raws = .ok ips ↔
      List.Forall₂ (fun raw ip => rt.parseAddr raw = .ok ip) raws ips := by
  induction raws generalizing ips with
  | nil =>
    constructor
    · intro h
      cases h
      exact .nil
    · intro h
      cases h
      rfl
  | cons raw rest ih =>
    simp only [parseIPs]
    constructor
    · intro h
      split at h
      · cases h
      · rename_i ip hip
        cases hrest : rt.parseIPs rest with
        | error err =>
          rw [hrest] at h
          cases h
        | ok tail =>
          rw [hrest] at h
          cases h
          exact .cons hip (ih.mp hrest)
    · intro h
      obtain _ | ⟨hip, htail⟩ := h
      rw [hip, ih.mpr htail]
      rfl

/-- One address that does not parse is enough, wherever it stands. -/
theorem parseIPs_isOk_iff {raws : List String} :
    (∃ ips, rt.parseIPs raws = .ok ips) ↔ ∀ raw ∈ raws, ∃ ip, rt.parseAddr raw = .ok ip := by
  induction raws with
  | nil => simp [parseIPs]
  | cons raw rest ih =>
    rw [List.forall_mem_cons, ← ih]
    constructor
    · rintro ⟨ips, h⟩
      obtain _ | ⟨hip, hrest⟩ := parseIPs_eq_ok_iff.mp h
      exact ⟨⟨_, hip⟩, _, parseIPs_eq_ok_iff.mpr hrest⟩
    · rintro ⟨⟨ip, hip⟩, ips, hips⟩
      exact ⟨ip :: ips, parseIPs_eq_ok_iff.mpr (.cons hip (parseIPs_eq_ok_iff.mp hips))⟩

theorem parseIPs_eq_nil_iff {raws ips : List String} (h : rt.parseIPs raws = .ok ips) :
    ips = [] ↔ raws = [] := by
  have hlength := (parseIPs_eq_ok_iff.mp h).length_eq
  rw [← List.length_eq_zero_iff, ← List.length_eq_zero_iff, hlength]

/-! ## Replies -/

/-- A reply is complete: it names the sandbox and has an address, and all its addresses parse. -/
def Complete (rt : Runtime) (created : SandboxResponse) : Prop :=
  created.id ≠ "" ∧ created.ips ≠ [] ∧ ∀ raw ∈ created.ips, ∃ ip, rt.parseAddr raw = .ok ip

theorem instanceOf_err_eq_none_iff {created : SandboxResponse} :
    (rt.instanceOf created).2 = none ↔ rt.Complete created := by
  unfold instanceOf Complete
  rw [← parseIPs_isOk_iff]
  cases hips : rt.parseIPs created.ips with
  | error err => simp
  | ok ips =>
    have hnil := parseIPs_eq_nil_iff hips
    by_cases hincomplete : created.id = "" ∨ ips = []
    · simp only [if_pos hincomplete]
      rw [hnil] at hincomplete
      simp only [reduceCtorEq, false_iff]
      intro h
      exact hincomplete.elim h.1 h.2.1
    · simp only [if_neg hincomplete]
      rw [hnil, not_or] at hincomplete
      simp only [true_iff]
      exact ⟨hincomplete.1, hincomplete.2, ips, rfl⟩

/-- Whatever the reply, the instance has its id and its name. -/
theorem instanceOf_identity (created : SandboxResponse) :
    ∃ ips, (rt.instanceOf created).1 = some ⟨created.id, created.name, ips⟩ := by
  unfold instanceOf
  split
  · exact ⟨[], rfl⟩
  · split
    · exact ⟨_, rfl⟩
    · exact ⟨_, rfl⟩

theorem instanceOf_addresses {created : SandboxResponse} (h : (rt.instanceOf created).2 = none) :
    ∃ ips, (rt.instanceOf created).1 = some ⟨created.id, created.name, ips⟩ ∧
      List.Forall₂ (fun raw ip => rt.parseAddr raw = .ok ip) created.ips ips := by
  unfold instanceOf at h ⊢
  split at h
  · cases h
  · rename_i ips hips
    split at h
    · cases h
    · rename_i hcomplete
      simp only [if_neg hcomplete]
      exact ⟨ips, rfl, parseIPs_eq_ok_iff.mp hips⟩

/-! ## The function and the party -/

/-- The configuration was refused, or no user data could be generated from it: the party returns what
the function returns for such a client. -/
theorem createInstance_of_afterConfig_error {client : SandboxClient σ} {input : InstanceRequest}
    {s s' : σ} {reply : Reply} {err : String} (hendpoint : input.config.endpoint ≠ "")
    (hconfig : client.config s = (configResult reply, s'))
    (h : rt.afterConfig input reply = .error err) :
    rt.createInstance (some client) input s =
      ⟨none, some err, [.config (configResult reply)], s'⟩ := by
  unfold afterConfig at h
  unfold createInstance
  simp only [ProviderConfig.configVerifier, if_neg hendpoint, hconfig]
  cases hresult : configResult reply with
  | error refused =>
    simp only [hresult, Except.error.injEq] at h
    simp only [h]
  | ok networkMTU =>
    simp only [hresult] at h
    cases hdata : rt.generateUserData input.cloudConfig networkMTU with
    | error err' =>
      simp only [hdata, Except.error.injEq] at h
      simp only [hdata, h]
    | ok userData =>
      simp only [hdata] at h
      cases h

/-- The user data was posted: the party returns what the function returns for a client whose create
call has this reply. -/
theorem createInstance_of_afterCreate {client : SandboxClient σ} {input : InstanceRequest}
    {s s' s'' : σ} {reply reply' : Reply} {networkMTU : Int} {userData : String}
    (hendpoint : input.config.endpoint ≠ "") (hconfig : client.config s = (configResult reply, s'))
    (h : rt.afterConfig input reply = .ok (networkMTU, userData))
    (hcreate : client.create (rt.createSandboxRequest input userData) s' =
      (createResult reply', s'')) :
    rt.createInstance (some client) input s =
      ⟨(rt.afterCreate reply').1, (rt.afterCreate reply').2,
        [.config (.ok networkMTU),
          .create (rt.createSandboxRequest input userData) (createResult reply')], s''⟩ := by
  unfold afterConfig at h
  unfold createInstance afterCreate
  simp only [ProviderConfig.configVerifier, if_neg hendpoint, hconfig]
  cases hresult : configResult reply with
  | error refused =>
    simp only [hresult] at h
    cases h
  | ok networkMTU' =>
    simp only [hresult] at h
    cases hdata : rt.generateUserData input.cloudConfig networkMTU' with
    | error err =>
      simp only [hdata] at h
      cases h
    | ok userData' =>
      simp only [hdata, Except.ok.injEq, Prod.mk.injEq] at h
      obtain ⟨rfl, rfl⟩ := h
      simp only [hdata, hcreate]
      cases createResult reply' with
      | error err => rfl
      | ok created => rfl

/-! ## The result -/

/-- **A created sandbox is not lost.** For every client and every call: if the client reports a
created sandbox, there is no error exactly when the reply is complete, and then the instance has its
id, its name and its addresses in their order; otherwise there is an error, and an instance with its
id and name. If the configuration, the user data or the create request fails there is no instance,
and in the first two cases no create request was sent. -/
theorem createInstance_keeps_created (rt : Runtime) (client : Option (SandboxClient σ))
    (input : InstanceRequest) (s : σ) :
    (∀ request created,
      .create request (.ok created) ∈ (rt.createInstance client input s).calls →
      ((rt.createInstance client input s).err = none ↔
        created.id ≠ "" ∧ created.ips ≠ [] ∧
          ∀ raw ∈ created.ips, ∃ ip, rt.parseAddr raw = .ok ip) ∧
      ((rt.createInstance client input s).err = none →
        ∃ ips, (rt.createInstance client input s).instance? =
            some ⟨created.id, created.name, ips⟩ ∧
          List.Forall₂ (fun raw ip => rt.parseAddr raw = .ok ip) created.ips ips) ∧
      ((rt.createInstance client input s).err ≠ none →
        ∃ ips, (rt.createInstance client input s).instance? =
          some ⟨created.id, created.name, ips⟩)) ∧
    (∀ request err, .create request (.error err) ∈ (rt.createInstance client input s).calls →
      (rt.createInstance client input s).instance? = none ∧
      (rt.createInstance client input s).err ≠ none) ∧
    (∀ answer, .config answer ∈ (rt.createInstance client input s).calls →
      ((∃ err, answer = .error err) ∨
        ∃ networkMTU err, answer = .ok networkMTU ∧
          rt.generateUserData input.cloudConfig networkMTU = .error err) →
      (rt.createInstance client input s).instance? = none ∧
      (rt.createInstance client input s).err ≠ none ∧
      ∀ request answer,
        .create request answer ∉ (rt.createInstance client input s).calls) := by
  generalize hcalled : rt.createInstance client input s = called
  unfold createInstance at hcalled
  split at hcalled
  · subst hcalled
    simp
  rename_i client' hverified
  split at hcalled
  · subst hcalled
    simp
  rename_i networkMTU s₁ hconfig
  split at hcalled
  · rename_i err hdata
    subst hcalled
    simp
  rename_i userData hdata
  dsimp only at hcalled
  split at hcalled
  · subst hcalled
    simp [hdata]
  · rename_i created s₂ hcreate
    subst hcalled
    refine ⟨fun request created' hmem => ?_, ?_, ?_⟩
    · simp only [List.mem_cons, reduceCtorEq, List.not_mem_nil, or_false, false_or,
        ClientCall.create.injEq, Except.ok.injEq] at hmem
      obtain ⟨-, rfl⟩ := hmem
      exact ⟨instanceOf_err_eq_none_iff, instanceOf_addresses, fun _ => instanceOf_identity _⟩
    · simp
    · simp [hdata]

/-- Reads one address. -/
def oneAddress : Runtime where
  unmarshal _ := .error "unexpected end of JSON input"
  marshalIndent _ := .error "json: unsupported value"
  unmarshalForwarder _ := .error "unexpected end of JSON input"
  intOutOfRange _ := 0
  generate _ := .ok "#cloud-config"
  parseAddr raw := if raw = "10.0.0.7" then .ok raw else .error "unable to parse IP"

/-- Its second address does not parse. -/
def badAddress : SandboxResponse := ⟨"psb-7", "runner-7", ["10.0.0.7", "pending"]⟩

/-- Reports a sandbox, whatever is asked for. -/
def creates (created : SandboxResponse) : SandboxClient Unit where
  config s := (.ok 0, s)
  create _ s := (.ok created, s)

def instanceRequest : InstanceRequest where
  config := ⟨"http://provider:8080", ""⟩
  podName := "pod"
  sandboxID := "7"
  cloudConfig := .other (.ok "#cloud-config")
  spec := {}

theorem bad_address_keeps_identity :
    (oneAddress.createInstance (some (creates badAddress)) instanceRequest ()).err ≠ none ∧
    ∃ ips, (oneAddress.createInstance (some (creates badAddress)) instanceRequest ()).instance? =
      some ⟨"psb-7", "runner-7", ips⟩ := by
  obtain ⟨hcreated, -, -⟩ :=
    createInstance_keeps_created oneAddress (some (creates badAddress)) instanceRequest ()
  obtain ⟨hcomplete, -, hpartial⟩ := hcreated _ badAddress (.tail _ (.head _))
  have herr : (oneAddress.createInstance (some (creates badAddress)) instanceRequest ()).err ≠
      none := by
    intro hnone
    obtain ⟨ip, hip⟩ := (hcomplete.mp hnone).2.2 "pending" (.tail _ (.head _))
    cases hip
  exact ⟨herr, hpartial herr⟩

end SandboxProvider.Plugin.Runtime
