import SandboxProvider.Plugin.Http
import SandboxProvider.System.Reporting
import SandboxProvider.System.Serving
import SandboxProvider.Verify.DeletePath
import SandboxProvider.Verify.InstanceResult
import SandboxProvider.Verify.NetworkMtu
import SandboxProvider.Verify.Protocol

/-!
# Runs over HTTP

`Deployment.step` hands the requests of `CreateInstance` to the API server as they are meant, and its
replies back. `HttpDeployment.step` makes URLs, headers and bodies of them. For plugins whose token can be
sent and whose endpoint is accepted, every run over HTTP is a run of `Deployment.step`, so what holds of
all runs there holds of the bytes as well; and what `CreateInstance` returned can be deleted.
-/

namespace SandboxProvider.Plugin

open Lib NetUrl ServeMux Server

/-! ## Texts and headers -/

theorem utf8_append (s t : String) : utf8 (s ++ t) = utf8 s ++ utf8 t := by
  unfold utf8
  rw [String.toUTF8, String.toUTF8, String.toUTF8, String.toByteArray_append, ByteArray.data_append,
    Array.toList_append]

theorem utf8_eq_nil_iff {s : String} : utf8 s = [] ↔ s = "" := by
  constructor
  · intro h
    have htext := fromUTF8?_utf8 s
    rw [h] at htext
    exact (Option.some.inj htext).symm
  · rintro rfl
    rfl

theorem utf8_bearer (token : String) : utf8 ("Bearer " ++ token) = ascii "Bearer " ++ utf8 token := by
  rw [utf8_append]
  rfl

/-- A token that an HTTP client sends as it is. -/
structure Sendable (token : String) : Prop where
  ne : token ≠ ""
  valid : (utf8 token).all validFieldByte = true
  last : (utf8 token).getLast?.all (fun b => !isFieldSpace b) = true

instance (token : String) : Decidable (Sendable token) :=
  decidable_of_iff (token ≠ "" ∧ (utf8 token).all validFieldByte = true ∧
      (utf8 token).getLast?.all (fun b => !isFieldSpace b) = true)
    ⟨fun ⟨hne, hvalid, hlast⟩ => ⟨hne, hvalid, hlast⟩, fun h => ⟨h.ne, h.valid, h.last⟩⟩

theorem dropWhile_eq_self {p : UInt8 → Bool} {s : Bytes} (h : s.head?.all (fun b => !p b) = true) :
    s.dropWhile p = s := by
  cases s with
  | nil => rfl
  | cons b s => exact List.dropWhile_cons_of_neg (by simpa using h)

theorem trimField_eq_self {value : Bytes} (hhead : value.head?.all (fun b => !isFieldSpace b) = true)
    (hlast : value.getLast?.all (fun b => !isFieldSpace b) = true) : trimField value = value := by
  unfold trimField
  rw [dropWhile_eq_self hhead, dropWhile_eq_self (by rwa [List.head?_reverse]), List.reverse_reverse]

/-- The header of a token that can be sent. -/
theorem Sendable.header {token : String} (h : Sendable token) :
    (ascii "Bearer " ++ utf8 token).all validFieldByte = true ∧
      String.fromUTF8? (trimField (ascii "Bearer " ++ utf8 token)).toByteArray =
        some ("Bearer " ++ token) := by
  have hne : utf8 token ≠ [] := mt utf8_eq_nil_iff.mp h.ne
  constructor
  · rw [List.all_append, h.valid, Bool.and_true]
    decide
  · have hlast : (ascii "Bearer " ++ utf8 token).getLast?.all (fun b => !isFieldSpace b) = true := by
      rw [List.getLast?_append_of_ne_nil _ hne]
      exact h.last
    rw [trimField_eq_self rfl hlast, ← utf8_bearer, fromUTF8?_utf8]

/-! ## Providers -/

/-- The endpoint's authority is accepted once more in every request. -/
def ProviderConfig.accepted (net : Net) (config : ProviderConfig) : Bool :=
  match newHTTPSandboxClient net.urls (utf8 config.endpoint) (utf8 config.token) with
  | .error _ => true
  | .ok client =>
    (net.urls.parseAuthority client.baseURL.scheme client.baseURL.authority).isOk

/-- Requests of a plugin with this configuration are sent as they are meant. -/
structure ProviderConfig.Usable (net : Net) (config : ProviderConfig) : Prop where
  token : Sendable config.token
  authority : config.accepted net = true

instance (net : Net) (config : ProviderConfig) : Decidable (config.Usable net) :=
  decidable_of_iff (Sendable config.token ∧ config.accepted net = true)
    ⟨fun ⟨htoken, hauthority⟩ => ⟨htoken, hauthority⟩, fun h => ⟨h.token, h.authority⟩⟩

/-- The client of a configuration. -/
def ClientOf (net : Net) (config : ProviderConfig) (client : HTTPSandboxClient) : Prop :=
  newHTTPSandboxClient net.urls (utf8 config.endpoint) (utf8 config.token) = .ok client

/-- A provider has a client, or no endpoint. -/
theorem newKubernetesProvider_ok {net : Net} {config : ProviderConfig} {timeout : String}
    {provider : KubernetesProvider} (h : newKubernetesProvider net config timeout = .ok provider) :
    (config.endpoint = "" ∧ provider = ⟨[], none⟩) ∨
      ∃ client, ClientOf net config client ∧ config.endpoint ≠ "" ∧
        provider = ⟨utf8 config.endpoint, some client⟩ := by
  unfold newKubernetesProvider at h
  dsimp only at h
  split at h
  · cases h
  · split at h
    · rename_i hendpoint
      split at h
      · cases h
      · rename_i client hclient
        cases h
        exact .inr ⟨client, hclient, hendpoint, rfl⟩
    · rename_i hendpoint
      cases h
      have hempty : config.endpoint = "" := not_not.mp hendpoint
      exact .inl ⟨hempty, by rw [hempty]; rfl⟩

namespace ClientOf

variable {net : Net} {config : ProviderConfig} {client : HTTPSandboxClient}

theorem token_eq (h : ClientOf net config client) : client.token = utf8 config.token :=
  (newHTTPSandboxClient_ok h).2

theorem verified (h : ClientOf net config client) :
    (KubernetesProvider.mk (utf8 config.endpoint) (some client)).configVerifier = .ok client :=
  configVerifier_eq h

theorem authority_ok (h : ClientOf net config client) (husable : config.Usable net) (message : String) :
    net.urls.parseAuthority client.baseURL.scheme client.baseURL.authority ≠ .error message := by
  intro herror
  have haccepted := husable.authority
  unfold ProviderConfig.accepted at haccepted
  rw [show newHTTPSandboxClient _ _ _ = .ok client from h] at haccepted
  dsimp only at haccepted
  rw [herror] at haccepted
  cases haccepted

end ClientOf

theorem newRequest_ok {rt : UrlRuntime} {client : HTTPSandboxClient} {method : Method} {path : Bytes}
    {body : Option (List Char)} {request : HTTPRequest}
    (h : client.newRequest rt method path body = .ok request) (htoken : client.token ≠ []) :
    request.authorization = some (ascii "Bearer " ++ client.token) ∧ request.body = body := by
  unfold HTTPSandboxClient.newRequest at h
  split at h
  · cases h
  · cases h
    exact ⟨if_pos htoken, rfl⟩

/-- **What is sent arrives**: a request that reaches a handler arrives with the token of the plugin. -/
theorem submit_eq {net : Net} {config : ProviderConfig} {client : HTTPSandboxClient}
    (hclient : ClientOf net config client) (husable : config.Usable net) {method : Method} {path : Bytes}
    {body : Option (List Char)} {handler : Registered} {values : List Bytes} {route : Route}
    (hreach : client.Reaches net.urls method path body handler values)
    (hroute : handler.route ((decodeCreateSandboxRequest (body.getD [])).mapError net.decodeErr) values =
      some route) :
    net.submit client method path body = some (.ok (config.authorization, route)) := by
  have hne : client.token ≠ [] := by
    rw [hclient.token_eq]
    exact mt utf8_eq_nil_iff.mp husable.token.ne
  obtain ⟨hvalid, hheader⟩ := husable.token.header
  obtain ⟨message, herror, -⟩ | ⟨request, hrequest, hdispatch⟩ := hreach
  · exact absurd herror (hclient.authority_ok husable message)
  · obtain ⟨hauthorization, hbody⟩ := newRequest_ok hrequest hne
    have hvalue : net.authorization request = ascii "Bearer " ++ utf8 config.token := by
      unfold Net.authorization
      rw [hauthorization, hclient.token_eq]
      rfl
    unfold Net.submit Net.transport
    rw [hrequest]
    dsimp only
    rw [hvalue, if_pos hvalid, hdispatch]
    dsimp only
    rw [hbody, hheader, hroute]
    dsimp only
    rw [ProviderConfig.authorization, if_pos husable.token.ne]

/-! ## Requests of the plugin -/

section Requests

variable {net : Net} {rt : Runtime} {config : ProviderConfig} {client : HTTPSandboxClient}

theorem submit_getConfig (hclient : ClientOf net config client) (husable : config.Usable net) :
    net.submit client .get (ascii "v1/config") none = some (.ok (config.authorization, .getConfig)) :=
  submit_eq hclient husable (client.reaches_getConfig net.urls) rfl

/-- The amounts of the arguments are `int64`s. -/
structure InstanceTypeSpec.IsInt64 (spec : InstanceTypeSpec) : Prop where
  vcpus : (Int64.ofInt spec.vcpus).toInt = spec.vcpus
  memory : (Int64.ofInt spec.memory).toInt = spec.memory

instance (spec : InstanceTypeSpec) : Decidable spec.IsInt64 :=
  decidable_of_iff ((Int64.ofInt spec.vcpus).toInt = spec.vcpus ∧
      (Int64.ofInt spec.memory).toInt = spec.memory)
    ⟨fun ⟨hvcpus, hmemory⟩ => ⟨hvcpus, hmemory⟩, fun h => ⟨h.vcpus, h.memory⟩⟩

theorem received_wireRequest {input : InstanceRequest} (h : input.spec.IsInt64) (userData : String) :
    (rt.wireRequest input userData).received = rt.createSandboxRequest input userData := by
  simp only [Runtime.wireRequest, Client.CreateSandboxRequest.received, Runtime.createSandboxRequest,
    h.vcpus, h.memory]

/-- The API server reads the body of a create request whole. -/
def Runtime.Fits (rt : Runtime) (input : InstanceRequest) (userData : String) : Prop :=
  (String.ofList (rt.wireRequest input userData).marshal).utf8ByteSize ≤ maxBodyBytes

instance (rt : Runtime) (input : InstanceRequest) (userData : String) :
    Decidable (rt.Fits input userData) :=
  inferInstanceAs (Decidable (_ ≤ _))

theorem submit_createSandbox {input : InstanceRequest} (hclient : ClientOf net input.config client)
    (husable : input.config.Usable net) (hspec : input.spec.IsInt64) {userData : String}
    (hfits : rt.Fits input userData) :
    net.submit client .post (ascii "v1/sandboxes") (some (rt.wireRequest input userData).marshal) =
      some (.ok (input.config.authorization,
        .createSandbox (.ok (rt.createSandboxRequest input userData)))) := by
  refine submit_eq hclient husable (client.reaches_createSandbox net.urls _) ?_
  rw [Option.getD_some, Client.decode_marshal _ hfits, received_wireRequest hspec]
  rfl

theorem toNat_lt_of_plain {b : UInt8} (h : shouldEscape .pathSegment b = false) : b.toNat < 128 := by
  have hbyte : ∀ n < 256, shouldEscape .pathSegment (UInt8.ofNat n) = false → n < 128 := by
    decide +kernel
  have hb : UInt8.ofNat b.toNat = b := UInt8.ofNat_toNat
  exact hbyte b.toNat b.toNat_lt (by rwa [hb])

theorem toNat_upperHex_lt {n : Nat} (h : n < 16) : (upperHex n).toNat < 128 := by
  have hhex : ∀ n < 16, (upperHex n).toNat < 128 := by decide +kernel
  exact hhex n h

/-- An escaped text is ASCII. -/
theorem toNat_lt_of_mem_pathEscape {id : Bytes} {b : UInt8} (h : b ∈ pathEscape id) : b.toNat < 128 := by
  obtain ⟨c, -, hb⟩ := List.mem_flatMap.mp h
  have hc : c.toNat < 256 := c.toNat_lt
  unfold escapeByte at hb
  split at hb
  · simp only [List.mem_cons, List.not_mem_nil, or_false] at hb
    rcases hb with rfl | rfl | rfl
    · decide
    · exact toNat_upperHex_lt (by omega)
    · exact toNat_upperHex_lt (by omega)
  · rename_i hplain
    rw [List.mem_singleton.mp hb]
    exact toNat_lt_of_plain (by simpa using hplain)

/-- The name that a deleted id arrives as. -/
def arrivingID (id : String) : String :=
  String.ofList ((pathEscape (utf8 id)).map fun b => Char.ofNat b.toNat)

theorem utf8_arrivingID (id : String) : utf8 (arrivingID id) = pathEscape (utf8 id) := by
  have hchar : ∀ n < 128, (Char.ofNat n).toNat = n := by decide +kernel
  unfold arrivingID
  rw [utf8_ofList, List.map_map]
  · refine (List.map_congr_left fun b hb => ?_).trans (List.map_id _)
    rw [Function.comp_apply, byte, hchar _ (toNat_lt_of_mem_pathEscape hb)]
    exact UInt8.ofNat_toNat
  · intro ch hch
    obtain ⟨b, hb, rfl⟩ := List.mem_map.mp hch
    have hlt := toNat_lt_of_mem_pathEscape hb
    rw [hchar _ hlt]
    exact hlt

/-- An id without bytes to escape arrives as it is. -/
theorem arrivingID_of_isPlain {id : String} (h : IsPlain (utf8 id)) : arrivingID id = id := by
  have htext := fromUTF8?_utf8 (arrivingID id)
  rw [utf8_arrivingID, pathEscape_eq_self_iff.mpr h, fromUTF8?_utf8] at htext
  exact (Option.some.inj htext).symm

theorem submit_deleteSandbox (hclient : ClientOf net config client) (husable : config.Usable net)
    {id : String} (hne : id ≠ "") (hdot : id ≠ ".") (hdots : id ≠ "..") :
    net.submit client .delete (HTTPSandboxClient.deletePath (utf8 id)) none =
      some (.ok (config.authorization, .deleteSandbox (arrivingID id))) := by
  have hinj {t : String} (h : utf8 id = utf8 t) : id = t := by
    have htext := fromUTF8?_utf8 id
    rw [h, fromUTF8?_utf8] at htext
    exact (Option.some.inj htext).symm
  have hreach : client.Reaches net.urls .delete (HTTPSandboxClient.deletePath (utf8 id)) none
      .deleteSandbox [pathEscape (utf8 id)] :=
    client.reaches_deleteSandbox net.urls (mt utf8_eq_nil_iff.mp hne) (fun h => hdot (hinj h))
      (fun h => hdots (hinj h))
  refine submit_eq hclient husable hreach (route_deleteSandbox _ ?_)
  exact (utf8_arrivingID id).symm

end Requests

/-! ## Replies -/

/-- What `Config` makes of the response to a request for the configuration. -/
theorem configOf_eq {net : Net} {reply : Reply} (h : Route.getConfig.Answers reply)
    (hrange : ∀ m, reply = .config m → -2 ^ 31 ≤ m ∧ m < 2 ^ 31) :
    HttpDeployment.configOf net reply.response = configResult reply := by
  refine (Client.configResult_eq_receive net.decodeErr ?_).symm
  cases reply with
  | error status message =>
    have hstatus : 400 ≤ status := h
    exact .inr (by omega)
  | config m => exact hrange m rfl
  | created =>
    obtain ⟨request, hroute, -⟩ := h
    cases hroute
  | noContent =>
    obtain ⟨id, hroute⟩ := h
    cases hroute

/-- What `Create` makes of the response to a create request. -/
theorem sandboxOf_eq {net : Net} {reply : Reply} {body : Except String CreateSandboxRequest}
    (h : (Route.createSandbox body).Answers reply) :
    HttpDeployment.sandboxOf net reply.response = createResult reply := by
  refine (Client.createResult_eq_receive net.decodeErr ?_).symm
  cases reply with
  | error status message =>
    have hstatus : 400 ≤ status := h
    exact .inr (by omega)
  | config => cases h
  | created => trivial
  | noContent =>
    obtain ⟨id, hroute⟩ := h
    cases hroute

/-! ## Runs -/

/-- The body that a call would post next. -/
def HttpDeployment.nextUserData (rt : Runtime) (d : HttpDeployment) (i : Nat) :
    Option (InstanceRequest × String) :=
  match d.instances.lookup i with
  | some (.config a input) =>
    match d.replyTo a with
    | some reply => (rt.afterConfig input reply).toOption.map fun (_, userData) => (input, userData)
    | none => none
  | _ => none

/-- Plugins send their requests as they are meant, and classes have a valid MTU. A delete of `.` or `..`
is not: the mux cleans its path, and the request reaches no handler. -/
def HttpAction.Usable (net : Net) (rt : Runtime) (d : HttpDeployment) : HttpAction → Prop
  | .world l => l.ValidMTU
  | .createInstance _ _ _ input => input.config.Usable net ∧ input.spec.IsInt64
  | .receive i _ _ => ∀ posted ∈ d.nextUserData rt i, rt.Fits posted.1 posted.2
  | .fail _ _ => True
  | .deleteInstance _ _ _ config id => config.Usable net ∧ id ≠ "." ∧ id ≠ ".."
  | .receiveDelete _ => True
  | .failDelete _ _ => True

instance (net : Net) (rt : Runtime) (d : HttpDeployment) :
    (action : HttpAction) → Decidable (action.Usable net rt d)
  | .world l => inferInstanceAs (Decidable l.ValidMTU)
  | .createInstance _ _ _ input =>
    inferInstanceAs (Decidable (input.config.Usable net ∧ input.spec.IsInt64))
  | .receive i _ _ =>
    inferInstanceAs (Decidable (∀ posted ∈ d.nextUserData rt i, rt.Fits posted.1 posted.2))
  | .deleteInstance _ _ _ config id =>
    inferInstanceAs (Decidable (config.Usable net ∧ id ≠ "." ∧ id ≠ ".."))
  | .fail _ _ | .receiveDelete _ | .failDelete _ _ => inferInstanceAs (Decidable True)

/-- What an action means. `DeleteInstance` sends nothing without an id or an endpoint, and its result is
not part of a `Deployment`. -/
def HttpAction.meaning : HttpAction → Option Action
  | .world l => some (.world l)
  | .createInstance i a _ input => some (.createInstance i a input)
  | .receive i b _ => some (.receive i b none)
  | .fail i err => some (.fail i err)
  | .deleteInstance _ a _ config id =>
    if id = "" ∨ config.endpoint = "" then none
    else some (.world (.arrive a config.authorization (.deleteSandbox (arrivingID id))))
  | .receiveDelete _ | .failDelete _ _ => none

/-- What a `CreateInstance` call waits for is under way, and what it returned has the name of its
sandbox. -/
def InstanceState.Sound (net : Net) (rt : Runtime) (w : World) (input : InstanceRequest) :
    InstanceState → Prop
  | .config a input' => input' = input ∧ w.Serving a .getConfig ∧ input.config.Usable net ∧
      input.spec.IsInt64
  | .create b => ∃ userData,
      w.Serving b (.createSandbox (.ok (rt.createSandboxRequest input userData)))
  | .returned none _ => True
  | .returned (some inst) _ => inst.id = sandboxName input.sandboxID

theorem InstanceState.Sound.step {net : Net} {rt : Runtime} {w w' : World} {l : Label}
    {input : InstanceRequest} {s : InstanceState} (hs : s.Sound net rt w input)
    (h : w.step l = some w') : s.Sound net rt w' input := by
  cases s with
  | config a input' =>
    obtain ⟨hinput, hserving, hrest⟩ := hs
    exact ⟨hinput, hserving.step h, hrest⟩
  | create b =>
    obtain ⟨userData, hserving⟩ := hs
    exact ⟨userData, hserving.step h⟩
  | returned result err =>
    cases result with
    | none => trivial
    | some inst => exact hs

/-- A delete that succeeded was answered when the PodSandbox was not stored. -/
def RemovalState.Sound (w : World) : RemovalState → Prop
  | .waiting a id => w.Deleting a (arrivingID id)
  | .returned _ (some _) => True
  | .returned id none => ∃ a, w.Removed a (arrivingID id)

theorem RemovalState.Sound.step {w w' : World} {l : Label} {s : RemovalState} (hs : s.Sound w)
    (htrace : w.TraceInv) (h : w.step l = some w') : s.Sound w' := by
  cases s with
  | waiting a id => exact World.Deleting.step hs htrace h
  | returned id err =>
    cases err with
    | none =>
      obtain ⟨a, ha⟩ := hs
      exact ⟨a, ha.mono (World.history_subset h)⟩
    | some => trivial

namespace HttpDeployment

structure Inv (net : Net) (rt : Runtime) (d : HttpDeployment) : Prop where
  trace : d.world.TraceInv
  report : d.world.ReportInv
  instances : ∀ {i s}, d.instances.lookup i = some s →
    ∃ input, d.inputs.lookup i = some input ∧ s.Sound net rt d.world input
  removals : ∀ {j s}, d.removals.lookup j = some s → s.Sound d.world

/-- The steps of a run over HTTP, in the terms of a `Deployment`. -/
inductive Moves (rt : Runtime) (d : HttpDeployment) : HttpAction → HttpDeployment → Prop
  | world {l w} (h : d.world.step l = some w) :
      Moves rt d (.world l) (d.withDeployment { d.toDeployment with world := w })
  | unconfigured {i a timeout input} (hi : d.instances.lookup i = none)
      (hendpoint : input.config.endpoint = "") :
      Moves rt d (.createInstance i a timeout input)
        ((d.called i input).failInstance i "KUBERNETES_POD_SANDBOX_ENDPOINT is required")
  | asked {i a timeout input w} (hi : d.instances.lookup i = none)
      (hendpoint : input.config.endpoint ≠ "")
      (h : d.world.step (.arrive a input.config.authorization .getConfig) = some w) :
      Moves rt d (.createInstance i a timeout input) ((d.called i input).withDeployment
        { d.toDeployment with world := w, instances := d.instances.insert i (.config a input) })
  | configFailed {i b timeout a input reply err}
      (hi : d.instances.lookup i = some (.config a input)) (hreply : d.replyTo a = some reply)
      (h : rt.afterConfig input reply = .error err) :
      Moves rt d (.receive i b timeout) (d.failInstance i err)
  | posted {i b timeout a input reply networkMTU userData w}
      (hi : d.instances.lookup i = some (.config a input)) (hreply : d.replyTo a = some reply)
      (hafter : rt.afterConfig input reply = .ok (networkMTU, userData))
      (h : d.world.step (.arrive b input.config.authorization
        (.createSandbox (.ok (rt.createSandboxRequest input userData)))) = some w) :
      Moves rt d (.receive i b timeout) (d.withDeployment {
        world := w
        instances := d.instances.insert i (.create b)
        generated := ⟨input, a, networkMTU, userData, b⟩ :: d.generated })
  | created {i b timeout a reply} (hi : d.instances.lookup i = some (.create a))
      (hreply : d.replyTo a = some reply) :
      Moves rt d (.receive i b timeout) (d.withDeployment
        (d.setInstance i (.returned (rt.afterCreate reply).1 (rt.afterCreate reply).2)))
  | failed {i err message} (hi : ∃ s, d.instances.lookup i = some s)
      (h : Deployment.step rt d.toDeployment (.fail i err) =
        some (d.setInstance i (.returned none (some message)))) :
      Moves rt d (.fail i err) (d.failInstance i message)
  | deleteRefused {j a timeout config id err} (h : id = "" ∨ config.endpoint = "") :
      Moves rt d (.deleteInstance j a timeout config id) (d.setRemoval j (.returned id (some err)))
  | deleting {j a timeout config id w} (hid : id ≠ "") (hendpoint : config.endpoint ≠ "")
      (h : d.world.step (.arrive a config.authorization (.deleteSandbox (arrivingID id))) = some w) :
      Moves rt d (.deleteInstance j a timeout config id)
        ((d.withDeployment { d.toDeployment with world := w }).setRemoval j (.waiting a id))
  | deleteFailed {j id err} : Moves rt d (.receiveDelete j) (d.setRemoval j (.returned id (some err)))
  | deleteUnsent {j id err message} :
      Moves rt d (.failDelete j err) (d.setRemoval j (.returned id (some message)))
  | deleted {j a id} (hj : d.removals.lookup j = some (.waiting a id))
      (hremoved : d.world.Removed a (arrivingID id)) :
      Moves rt d (.receiveDelete j) (d.setRemoval j (.returned id none))

section Moves

variable {net : Net} {rt : Runtime} {d d' : HttpDeployment}

theorem moves_createInstance {i a : Nat} {timeout : String} {input : InstanceRequest}
    (husable : input.config.Usable net)
    (h : d.step net rt (.createInstance i a timeout input) = some d') :
    Moves rt d (.createInstance i a timeout input) d' := by
  unfold step at h
  dsimp only at h
  split at h
  · rename_i provider hi hprovider
    obtain ⟨hempty, rfl⟩ | ⟨client, hclient, hendpoint, rfl⟩ := newKubernetesProvider_ok hprovider
    · cases h
      exact .unconfigured hi hempty
    · rw [hclient.verified] at h
      dsimp only at h
      unfold ask at h
      rw [submit_getConfig hclient husable] at h
      obtain ⟨w, hw, rfl⟩ := Option.map_eq_some_iff.mp h
      exact .asked hi hendpoint hw
  · cases h

/-- The reply to a request for the configuration, over HTTP and as it was written. -/
theorem Inv.configOf_reply (hinv : Inv net rt d) {i a : Nat} {input : InstanceRequest} {reply : Reply}
    (hi : d.instances.lookup i = some (.config a input)) (hreply : d.replyTo a = some reply) :
    configOf net reply.response = configResult reply := by
  obtain ⟨input', -, -, hserving, -⟩ := hinv.instances hi
  refine configOf_eq (hserving.reply hreply) ?_
  rintro m rfl
  obtain ⟨p, hp, hstate⟩ := Option.bind_eq_some_iff.mp hreply
  obtain ⟨access, s, c, cls, -, -, -, hvalid, rfl⟩ := hinv.report.reply hp hstate
  have hrange := reportedMTU_range hvalid
  omega

/-- A provider with a client has the client of its configuration. -/
theorem clientOf_of_provider {config : ProviderConfig} {timeout : String} {endpoint : Bytes}
    {client : HTTPSandboxClient}
    (h : newKubernetesProvider net config timeout = .ok ⟨endpoint, some client⟩) :
    ClientOf net config client := by
  obtain ⟨-, heq⟩ | ⟨client', hclient, -, heq⟩ := newKubernetesProvider_ok h
  · cases heq
  · cases heq
    exact hclient

theorem moves_receiveConfig (hinv : Inv net rt d) {i a b : Nat} {timeout : String}
    {input : InstanceRequest} {reply : Reply} {client : HTTPSandboxClient}
    (hfits : ∀ posted ∈ d.nextUserData rt i, rt.Fits posted.1 posted.2)
    (hi : d.instances.lookup i = some (.config a input)) (hreply : d.replyTo a = some reply)
    (hclient : ClientOf net input.config client)
    (h : (match configOf net reply.response with
      | .error err => some (d.failInstance i ("get Kubernetes Pod Sandbox configuration: " ++ err))
      | .ok networkMTU =>
        match rt.generateUserData input.cloudConfig networkMTU with
        | .error err => some (d.failInstance i ("generate Pod VM user data: " ++ err))
        | .ok userData => d.post net rt i a b input client networkMTU userData) = some d') :
    Moves rt d (.receive i b timeout) d' := by
  obtain ⟨input', -, rfl, -, husable, hspec⟩ := hinv.instances hi
  rw [hinv.configOf_reply hi hreply] at h
  split at h
  · rename_i err hconfig
    cases h
    exact .configFailed hi hreply (by simp only [Runtime.afterConfig, hconfig])
  · rename_i networkMTU hconfig
    split at h
    · rename_i err huser
      cases h
      exact .configFailed hi hreply (by simp only [Runtime.afterConfig, hconfig, huser])
    · rename_i userData huser
      have hafter : rt.afterConfig input reply = .ok (networkMTU, userData) := by
        simp only [Runtime.afterConfig, hconfig, huser]
      have hnext : d.nextUserData rt i = some (input, userData) := by
        simp only [nextUserData, hi, hreply, hafter]
        rfl
      have hposted : rt.Fits input userData := hfits (input, userData) hnext
      unfold post at h
      rw [submit_createSandbox hclient husable hspec hposted] at h
      obtain ⟨w, hw, rfl⟩ := Option.map_eq_some_iff.mp h
      exact .posted hi hreply hafter hw

theorem moves_receive (hinv : Inv net rt d) {i b : Nat} {timeout : String}
    (hfits : ∀ posted ∈ d.nextUserData rt i, rt.Fits posted.1 posted.2)
    (h : d.step net rt (.receive i b timeout) = some d') :
    Moves rt d (.receive i b timeout) d' := by
  unfold step at h
  dsimp only at h
  split at h
  · rename_i a input hi
    split at h
    · rename_i reply endpoint client hreply hprovider
      exact moves_receiveConfig hinv hfits hi hreply (clientOf_of_provider hprovider) h
    · cases h
  · rename_i a hi
    split at h
    · cases h
    · rename_i reply hreply
      obtain ⟨input, -, userData, hserving⟩ := hinv.instances hi
      have hmove : Moves rt d (.receive i b timeout) _ := .created hi hreply
      rw [sandboxOf_eq (hserving.reply hreply)] at h
      unfold Runtime.afterCreate at hmove
      split at h
      · rename_i err hresult
        cases h
        rw [hresult] at hmove
        exact hmove
      · rename_i created hresult
        cases h
        rw [hresult] at hmove
        exact hmove
  · cases h

theorem moves_deleteInstance {j a : Nat} {timeout : String} {config : ProviderConfig} {id : String}
    (husable : config.Usable net) (hdot : id ≠ ".") (hdots : id ≠ "..")
    (h : d.step net rt (.deleteInstance j a timeout config id) = some d') :
    Moves rt d (.deleteInstance j a timeout config id) d' := by
  unfold step at h
  dsimp only at h
  split at h
  · rename_i provider hj hprovider
    split at h
    · rename_i hid
      cases h
      exact .deleteRefused (.inl hid)
    · rename_i hid
      obtain ⟨hempty, rfl⟩ | ⟨client, hclient, hendpoint, rfl⟩ := newKubernetesProvider_ok hprovider
      · cases h
        exact .deleteRefused (.inr hempty)
      · rw [hclient.verified] at h
        dsimp only at h
        rw [submit_deleteSandbox hclient husable hid hdot hdots] at h
        obtain ⟨w, hw, rfl⟩ := Option.map_eq_some_iff.mp h
        exact .deleting hid hendpoint hw
  · cases h

theorem moves_receiveDelete (hinv : Inv net rt d) {j : Nat}
    (h : d.step net rt (.receiveDelete j) = some d') : Moves rt d (.receiveDelete j) d' := by
  unfold step at h
  dsimp only at h
  split at h
  · rename_i a id hj
    split at h
    · cases h
    · rename_i reply hreply
      have hdeleting : d.world.Deleting a (arrivingID id) := hinv.removals hj
      split at h
      · cases h
        exact .deleteFailed
      · rename_i hok
        cases h
        obtain ⟨status, message, rfl, hstatus⟩ | ⟨rfl, hremoved⟩ := hdeleting.reply hreply
        · rw [Client.receive_error _ _ _ (.inr (by omega))] at hok
          cases hok
        · exact .deleted hj hremoved
  · cases h

/-- **The steps of a usable run.** -/
theorem moves (hinv : Inv net rt d) {action : HttpAction} (hok : action.Usable net rt d)
    (h : d.step net rt action = some d') : Moves rt d action d' := by
  cases action with
  | world l =>
    obtain ⟨w, hw, rfl⟩ := Option.map_eq_some_iff.mp h
    exact .world hw
  | createInstance i a timeout input => exact moves_createInstance hok.1 h
  | receive i b timeout => exact moves_receive hinv hok h
  | fail i err =>
    unfold step at h
    dsimp only at h
    split at h
    · rename_i a input hi
      cases h
      exact .failed ⟨_, hi⟩ (by simp only [Deployment.step, hi])
    · rename_i b hi
      cases h
      exact .failed ⟨_, hi⟩ (by simp only [Deployment.step, hi])
    · cases h
  | deleteInstance j a timeout config id => exact moves_deleteInstance hok.1 hok.2.1 hok.2.2 h
  | receiveDelete j => exact moves_receiveDelete hinv h
  | failDelete j err =>
    unfold step at h
    dsimp only at h
    split at h
    · cases h
      exact .deleteUnsent
    · cases h

end Moves

/-! ## The invariant -/

namespace Inv

variable {net : Net} {rt : Runtime} {d d' : HttpDeployment}

theorem start (net : Net) (rt : Runtime) (cfg : Server.Config) {c : Cluster}
    (hclasses : ∀ k cls, c.classes.get k = some cls → cls.spec.ValidMTU) :
    Inv net rt (HttpDeployment.start cfg c) where
  trace := .start cfg c
  report := .start cfg hclasses
  instances h := by cases h
  removals h := by cases h

theorem world (hinv : Inv net rt d) {l : Label} {w : World} (hl : l.ValidMTU)
    (h : d.world.step l = some w) :
    Inv net rt (d.withDeployment { d.toDeployment with world := w }) where
  trace := hinv.trace.step h
  report := hinv.report.step hinv.trace hl h
  instances hi := by
    obtain ⟨input, hinput, hs⟩ := hinv.instances hi
    exact ⟨input, hinput, hs.step h⟩
  removals hj := (hinv.removals hj).step hinv.trace h

/-- A call is made that has not been made before. -/
theorem called (hinv : Inv net rt d) {i : Nat} (input : InstanceRequest)
    (hi : d.instances.lookup i = none) : Inv net rt (d.called i input) where
  trace := hinv.trace
  report := hinv.report
  instances {j s} hj := by
    obtain ⟨input', hinput, hs⟩ := hinv.instances hj
    have hne : j ≠ i := by
      rintro rfl
      rw [show d.instances.lookup j = some s from hj] at hi
      cases hi
    exact ⟨input', (AList.lookup_insert_ne hne).trans hinput, hs⟩
  removals := hinv.removals

theorem insert (hinv : Inv net rt d) {i : Nat} {s : InstanceState} {generated : List Generated}
    {input : InstanceRequest} (hinput : d.inputs.lookup i = some input)
    (hs : s.Sound net rt d.world input) :
    Inv net rt (d.withDeployment ⟨d.world, d.instances.insert i s, generated⟩) where
  trace := hinv.trace
  report := hinv.report
  instances hi := by
    obtain ⟨rfl, rfl⟩ | ⟨-, hi⟩ := lookup_insert_cases hi
    · exact ⟨input, hinput, hs⟩
    · exact hinv.instances hi
  removals := hinv.removals

theorem setRemoval (hinv : Inv net rt d) {j : Nat} {s : RemovalState} (hs : s.Sound d.world) :
    Inv net rt (d.setRemoval j s) where
  trace := hinv.trace
  report := hinv.report
  instances := hinv.instances
  removals hj := by
    obtain ⟨-, rfl⟩ | ⟨-, hj⟩ := lookup_insert_cases hj
    · exact hs
    · exact hinv.removals hj

/-- What a create request is answered with makes an instance with the name of its sandbox. -/
theorem sound_afterCreate {w : World} {input : InstanceRequest} {userData : String} {reply : Reply}
    (h : (Route.createSandbox (.ok (rt.createSandboxRequest input userData))).Answers reply) :
    InstanceState.Sound net rt w input
      (.returned (rt.afterCreate reply).1 (rt.afterCreate reply).2) := by
  cases reply with
  | error status message => trivial
  | config => cases h
  | noContent =>
    obtain ⟨id, hroute⟩ := h
    cases hroute
  | created response =>
    obtain ⟨request, hroute, hid⟩ := h
    cases hroute
    obtain ⟨inst, hinst, hinstID⟩ : ∃ inst, (rt.afterCreate (.created response)).1 = some inst ∧
        inst.id = response.id := by
      simp only [Runtime.afterCreate, createResult, Runtime.instanceOf]
      split
      · exact ⟨_, rfl, rfl⟩
      · split
        · exact ⟨_, rfl, rfl⟩
        · exact ⟨_, rfl, rfl⟩
    rw [hinst]
    exact hinstID.trans hid

theorem step (hinv : Inv net rt d) {action : HttpAction} (hok : action.Usable net rt d)
    (hstep : d.step net rt action = some d') : Inv net rt d' := by
  have hmove := moves hinv hok hstep
  clear hstep
  cases hmove with
  | world h => exact hinv.world hok h
  | unconfigured hi hendpoint => exact (hinv.called _ hi).insert (AList.lookup_insert _) trivial
  | @asked i a timeout input w hi hendpoint h =>
    have hcalled := (hinv.called input hi).world (l := .arrive ..) trivial h
    exact hcalled.insert (AList.lookup_insert _) ⟨rfl, World.serving_arrive h, hok⟩
  | configFailed hi hreply h =>
    obtain ⟨input, hinput, -⟩ := hinv.instances hi
    exact hinv.insert hinput trivial
  | posted hi hreply hafter h =>
    obtain ⟨input, hinput, rfl, -⟩ := hinv.instances hi
    have hposted := hinv.world (l := .arrive ..) trivial h
    exact hposted.insert hinput ⟨_, World.serving_arrive h⟩
  | created hi hreply =>
    obtain ⟨input, hinput, userData, hserving⟩ := hinv.instances hi
    exact hinv.insert hinput (sound_afterCreate (hserving.reply hreply))
  | failed hi h =>
    obtain ⟨s, hi⟩ := hi
    obtain ⟨input, hinput, -⟩ := hinv.instances hi
    exact hinv.insert hinput trivial
  | deleteRefused h => exact hinv.setRemoval trivial
  | deleting hid hendpoint h =>
    exact (hinv.world (l := .arrive ..) trivial h).setRemoval (World.deleting_arrive h)
  | deleteFailed => exact hinv.setRemoval trivial
  | deleteUnsent => exact hinv.setRemoval trivial
  | deleted hj hremoved => exact hinv.setRemoval ⟨_, hremoved⟩

theorem of_run {cfg : Server.Config} {c : Cluster}
    (hclasses : ∀ k cls, c.classes.get k = some cls → cls.spec.ValidMTU) {actions : List HttpAction}
    (hrun : Run (HttpDeployment.step net rt) (fun d action => action.Usable net rt d)
      (HttpDeployment.start cfg c) actions d) : Inv net rt d :=
  hrun.invariant _ (fun _ _ _ hinv hok h => hinv.step hok h) (.start net rt cfg hclasses)

end Inv

/-! ## The refinement -/

section Refinement

variable {net : Net} {rt : Runtime} {d d' : HttpDeployment} {action : HttpAction}

theorem Moves.step_eq (h : Moves rt d action d') {m : Action} (hm : action.meaning = some m) :
    d.toDeployment.step rt m = some d'.toDeployment := by
  cases h with
  | world h =>
    cases hm
    simp only [Deployment.step, h, Option.map_some]
    rfl
  | unconfigured hi hendpoint =>
    cases hm
    simp only [Deployment.step, hi, hendpoint, if_true]
    rfl
  | asked hi hendpoint h =>
    cases hm
    simp only [Deployment.step, hi, if_neg hendpoint, h, Option.map_some]
    rfl
  | configFailed hi hreply h =>
    cases hm
    simp only [Deployment.step, hi, hreply, h]
    rfl
  | posted hi hreply hafter h =>
    cases hm
    simp only [Deployment.step, hi, hreply, hafter, Deployment.post, h, Option.map_some]
    rfl
  | created hi hreply =>
    cases hm
    simp only [Deployment.step, hi, hreply, Option.map_some]
    rfl
  | failed hi h =>
    cases hm
    exact h
  | deleteRefused h =>
    rw [HttpAction.meaning, if_pos h] at hm
    cases hm
  | deleting hid hendpoint h =>
    rw [HttpAction.meaning, if_neg (by tauto)] at hm
    cases hm
    simp only [Deployment.step, h, Option.map_some]
    rfl
  | deleteFailed => cases hm
  | deleteUnsent => cases hm
  | deleted => cases hm

/-- A `DeleteInstance` call changes nothing else when it returns. -/
theorem Moves.stutter (h : Moves rt d action d') (hm : action.meaning = none) :
    d'.toDeployment = d.toDeployment := by
  cases h with
  | deleteRefused => rfl
  | deleting hid hendpoint h =>
    rw [HttpAction.meaning, if_neg (by tauto)] at hm
    cases hm
  | deleteFailed => rfl
  | deleteUnsent => rfl
  | deleted => rfl
  | _ => cases hm

end Refinement

end HttpDeployment

/-! ## A call over HTTP -/

namespace Sample

def net : Net where
  urls := urls
  parseDuration _ := .error ""
  decodeErr _ := ""
  headerErr _ := ""
  basicAuth _ := []

def input : InstanceRequest where
  config := ⟨"http://provider:8080", "token"⟩
  podName := "workload"
  sandboxID := "sandbox"
  cloudConfig := .other (.ok "cloud-config")
  spec := {}

/-- An instance is created and deleted. -/
def createAndDelete : List HttpAction :=
  [.createInstance 1 1 "" input, .world (.run 1 {}), .receive 1 2 ""] ++
    (SandboxProvider.Sample.createSteps 2 1).map .world ++
    [.world (.writeStatus SandboxProvider.Sample.key (SandboxProvider.Sample.ready "10.0.0.7")),
      .world (.run 2 {}), .receive 1 3 "",
      .deleteInstance 1 4 "" input.config (sandboxName "sandbox"),
      .world (.run 4 {}), .world (.run 4 {}), .receiveDelete 1]

def instanceID : InstanceState → Option String
  | .returned (some inst) _ => some inst.id
  | _ => none

def removedID : RemovalState → Option String
  | .returned id none => some id
  | _ => none

theorem of_instanceID {o : Option InstanceState} {id : String} (h : o.bind instanceID = some id) :
    ∃ inst err, o = some (.returned (some inst) err) ∧ inst.id = id := by
  obtain ⟨s, rfl, hs⟩ := Option.bind_eq_some_iff.mp h
  unfold instanceID at hs
  split at hs
  · cases hs
    exact ⟨_, _, rfl, rfl⟩
  · cases hs

theorem of_removedID {o : Option RemovalState} {id : String} (h : o.bind removedID = some id) :
    o = some (.returned id none) := by
  obtain ⟨s, rfl, hs⟩ := Option.bind_eq_some_iff.mp h
  unfold removedID at hs
  split at hs
  · cases hs
    rfl
  · cases hs

set_option maxRecDepth 100000 in
theorem run_createAndDelete :
    ∃ d, Run (HttpDeployment.step net Runtime.oneAddress)
        (fun d action => action.Usable net Runtime.oneAddress d)
        (HttpDeployment.start SandboxProvider.Sample.cfg SandboxProvider.Sample.oneClass)
        createAndDelete d ∧
      (d.instances.lookup 1).bind instanceID = some (sandboxName "sandbox") ∧
      (d.removals.lookup 1).bind removedID = some (sandboxName "sandbox") := by
  refine Run.exists_of_checkRun _ (show (checkRun (HttpDeployment.step net Runtime.oneAddress)
    (fun d action => action.Usable net Runtime.oneAddress d)
    (HttpDeployment.start SandboxProvider.Sample.cfg SandboxProvider.Sample.oneClass)
    createAndDelete).any _ = true from ?_)
  decide +kernel

end Sample

/-- **Runs over HTTP are runs of a deployment.** -/
theorem http_run_is_run (net : Net) (rt : Runtime) (cfg : Server.Config) {c : Cluster}
    (hclasses : ∀ k cls, c.classes.get k = some cls → cls.spec.ValidMTU)
    {actions : List HttpAction} {d : HttpDeployment}
    (hrun : Run (HttpDeployment.step net rt) (fun d action => action.Usable net rt d)
      (HttpDeployment.start cfg c) actions d) :
    Run (Deployment.step rt) (fun _ _ => True) (Deployment.start cfg c)
      (actions.filterMap HttpAction.meaning) d.toDeployment := by
  refine Run.simulation (fun d : HttpDeployment => d.toDeployment) HttpAction.meaning
    (HttpDeployment.Inv net rt) ?_ ?_ ?_ hrun (.start net rt cfg hclasses)
  · exact fun d action d' hinv hok h => hinv.step hok h
  · exact fun d action d' m hinv hok h hm => ⟨trivial, (HttpDeployment.moves hinv hok h).step_eq hm⟩
  · exact fun d action d' hinv hok h hm => (HttpDeployment.moves hinv hok h).stutter hm

theorem created_and_deleted_is_run :
    ∃ d, Run (Deployment.step Runtime.oneAddress) (fun _ _ => True)
        (Deployment.start SandboxProvider.Sample.cfg SandboxProvider.Sample.oneClass)
        (Sample.createAndDelete.filterMap HttpAction.meaning) d ∧
      (d.instances.lookup 1).bind Sample.instanceID = some (sandboxName "sandbox") := by
  obtain ⟨d, hrun, hinst, -⟩ := Sample.run_createAndDelete
  exact ⟨d.toDeployment, http_run_is_run _ _ _ validMTU_oneClass hrun, hinst⟩

/-- **What was created can be deleted**: the instance of a `CreateInstance` call has the name of the
PodSandbox of its sandbox id, and when a `DeleteInstance` call with its id succeeds, the API server has
answered a delete of that name at a time when no PodSandbox of that name was stored. -/
theorem http_deletes_what_was_created (net : Net) (rt : Runtime) (cfg : Server.Config) {c : Cluster}
    (hclasses : ∀ k cls, c.classes.get k = some cls → cls.spec.ValidMTU)
    {actions : List HttpAction} {d : HttpDeployment}
    (hrun : Run (HttpDeployment.step net rt) (fun d action => action.Usable net rt d)
      (HttpDeployment.start cfg c) actions d)
    {i : Nat} {inst : Instance} {err : Option String}
    (hi : d.instances.lookup i = some (.returned (some inst) err)) :
    ∃ input, d.inputs.lookup i = some input ∧ inst.id = sandboxName input.sandboxID ∧
      ∀ j, d.removals.lookup j = some (.returned inst.id none) → ∃ a, d.world.Removed a inst.id := by
  have hinv := HttpDeployment.Inv.of_run hclasses hrun
  obtain ⟨input, hinput, hid⟩ := hinv.instances hi
  refine ⟨input, hinput, hid, fun j hj => ?_⟩
  obtain ⟨a, ha⟩ := hinv.removals hj
  have hplain : IsPlain (utf8 inst.id) := by
    rw [show inst.id = sandboxName input.sandboxID from hid]
    exact isPlain_sandboxName _
  rw [arrivingID_of_isPlain hplain] at ha
  exact ⟨a, ha⟩

theorem created_sandbox_is_deleted :
    ∃ d, Run (HttpDeployment.step Sample.net Runtime.oneAddress)
        (fun d action => action.Usable Sample.net Runtime.oneAddress d)
        (HttpDeployment.start SandboxProvider.Sample.cfg SandboxProvider.Sample.oneClass)
        Sample.createAndDelete d ∧
      ∃ a, d.world.Removed a (sandboxName "sandbox") := by
  obtain ⟨d, hrun, hinst, hremoved⟩ := Sample.run_createAndDelete
  obtain ⟨inst, err, hi, hid⟩ := Sample.of_instanceID hinst
  obtain ⟨input, -, -, hgone⟩ :=
    http_deletes_what_was_created _ _ _ validMTU_oneClass hrun hi
  rw [hid] at hgone
  exact ⟨d, hrun, hgone 1 (Sample.of_removedID hremoved)⟩

end SandboxProvider.Plugin
