import SandboxProvider.Lib.JsonStruct
import SandboxProvider.Plugin.UserData
import SandboxProvider.System.World

/-!
# Instances

`provider.go` and `client.go`: `CreateInstance` of the cloud provider plugin, which asks the API
server for its configuration, generates the user data and posts a create request; and a deployment,
the system of `World` together with the `CreateInstance` calls of any number of plugins. A request of
a plugin is a request of `World`, and a plugin waits for its reply.
-/

namespace SandboxProvider.Plugin

open Lib Server

/-! ## Arguments and requests -/

/-- The configuration of a plugin. -/
structure ProviderConfig where
  endpoint : String
  token : String
  deriving DecidableEq, Repr

/-- `providers.InstanceTypeSpec`. -/
structure InstanceTypeSpec where
  vcpus : Int := 0
  memory : Int := 0
  arch : String := ""
  deriving DecidableEq, Repr

/-- A `CreateInstance` call: the plugin it is made on and its arguments. -/
structure InstanceRequest where
  config : ProviderConfig
  podName : String
  sandboxID : String
  cloudConfig : Generator
  spec : InstanceTypeSpec

/-- `providers.Instance`. -/
structure Instance where
  id : String
  name : String
  ips : List String := []
  deriving DecidableEq, Repr

/-- The loop over the files, which stops at the first forwarder config. -/
def Runtime.workloadOf (rt : Runtime) (reference : WorkloadReference) :
    List WriteFile → WorkloadReference
  | [] => reference
  | file :: rest =>
    if file.path ≠ agentProtocolForwarderConfigPath then workloadOf rt reference rest
    else
      match rt.unmarshalForwarder file.content with
      | .error _ => reference
      | .ok document =>
        { name := if document.podName ≠ "" then document.podName else reference.name
          ns := document.podNamespace
          uid := document.podUID }

def Runtime.sourceWorkloadReference (rt : Runtime) (generator : Generator)
    (fallbackName : String) : WorkloadReference :=
  match generator with
  | .other _ => { name := fallbackName }
  | .cloudConfig config => rt.workloadOf { name := fallbackName } config.writeFiles

def Runtime.createSandboxRequest (rt : Runtime) (input : InstanceRequest) (userData : String) :
    CreateSandboxRequest where
  workloadRef := rt.sourceWorkloadReference input.cloudConfig input.podName
  sandboxID := input.sandboxID
  userData := userData
  vcpus := input.spec.vcpus
  memoryMiB := input.spec.memory
  arch := input.spec.arch

def ProviderConfig.authorization (config : ProviderConfig) : String :=
  if config.token ≠ "" then "Bearer " ++ config.token else ""

/-! ## Replies -/

/-- The reason phrase of the statuses that the API server writes. -/
def statusText : Nat → String
  | 400 => "Bad Request"
  | 401 => "Unauthorized"
  | 403 => "Forbidden"
  | 404 => "Not Found"
  | 405 => "Method Not Allowed"
  | 409 => "Conflict"
  | 500 => "Internal Server Error"
  | 503 => "Service Unavailable"
  | 504 => "Gateway Timeout"
  | _ => ""

/-- `unicode.IsSpace`. -/
def isSpace (ch : Char) : Bool :=
  let n := ch.toNat
  (0x09 ≤ n && n ≤ 0x0d) || (0x2000 ≤ n && n ≤ 0x200a) ||
    n ∈ [0x20, 0x85, 0xa0, 0x1680, 0x2028, 0x2029, 0x202f, 0x205f, 0x3000]

def trimSpace (s : List Char) : String :=
  String.ofList ((s.dropWhile isSpace).reverse.dropWhile isSpace).reverse

/-- The error of `httpSandboxClient.do` for a reply outside 2xx. -/
def apiError (status : Nat) (message : String) : String :=
  "pod sandbox API returned " ++ toString status ++ " " ++ statusText status ++ ": " ++
    trimSpace (limitBytes 4096 message.toList)

/-- `httpSandboxClient.Config` once the reply is there; a body without the field leaves it zero. -/
def configResult : Reply → Except String Int
  | .error status message => .error (apiError status message)
  | .config networkMTU => .ok networkMTU
  | .created _ | .noContent => .ok 0

/-- `httpSandboxClient.Create` once the reply is there. -/
def createResult : Reply → Except String SandboxResponse
  | .error status message => .error (apiError status message)
  | .created response => .ok response
  | .config _ | .noContent => .ok ⟨"", "", []⟩

/-- The addresses, up to the first one that does not parse. -/
def Runtime.parseIPs (rt : Runtime) : List String → Except String (List String)
  | [] => .ok []
  | rawIP :: rest =>
    match rt.parseAddr rawIP with
    | .error err => .error ("parse Pod Sandbox IP \"" ++ rawIP ++ "\": " ++ err)
    | .ok ip => (rt.parseIPs rest).map (ip :: ·)

/-- `CreateInstance` once the create request succeeded. -/
def Runtime.instanceOf (rt : Runtime) (created : SandboxResponse) :
    Option Instance × Option String :=
  match rt.parseIPs created.ips with
  | .error err => (some ⟨created.id, created.name, []⟩, some err)
  | .ok ips =>
    if created.id = "" ∨ ips = [] then
      (some ⟨created.id, created.name, ips⟩,
        some "pod sandbox API returned an incomplete instance")
    else (some ⟨created.id, created.name, ips⟩, none)

/-! ## CreateInstance -/

/-- `sandboxClient`, with what the calls change around it as a state. -/
structure SandboxClient (σ : Type) where
  config : σ → Except String Int × σ
  create : CreateSandboxRequest → σ → Except String SandboxResponse × σ

/-- A call on the client, with its answer. -/
inductive ClientCall
  | config (answer : Except String Int)
  | create (request : CreateSandboxRequest) (answer : Except String SandboxResponse)

/-- What a `CreateInstance` call returned, and the calls that it made on its client, in order. -/
structure Called (σ : Type) where
  instance? : Option Instance
  err : Option String
  calls : List ClientCall
  state : σ

def ProviderConfig.configVerifier {σ : Type} (config : ProviderConfig)
    (client : Option (SandboxClient σ)) : Except String (SandboxClient σ) :=
  if config.endpoint = "" then .error "KUBERNETES_POD_SANDBOX_ENDPOINT is required"
  else
    match client with
    | none => .error "pod sandbox API client is not configured"
    | some client => .ok client

def Runtime.createInstance {σ : Type} (rt : Runtime) (client : Option (SandboxClient σ))
    (input : InstanceRequest) (s : σ) : Called σ :=
  match input.config.configVerifier client with
  | .error err => ⟨none, some err, [], s⟩
  | .ok client =>
    match client.config s with
    | (.error err, s) =>
      ⟨none, some ("get Kubernetes Pod Sandbox configuration: " ++ err), [.config (.error err)], s⟩
    | (.ok networkMTU, s) =>
      match rt.generateUserData input.cloudConfig networkMTU with
      | .error err =>
        ⟨none, some ("generate Pod VM user data: " ++ err), [.config (.ok networkMTU)], s⟩
      | .ok userData =>
        let request := rt.createSandboxRequest input userData
        match client.create request s with
        | (.error err, s) =>
          ⟨none, some ("create Kubernetes Pod Sandbox: " ++ err),
            [.config (.ok networkMTU), .create request (.error err)], s⟩
        | (.ok created, s) =>
          ⟨(rt.instanceOf created).1, (rt.instanceOf created).2,
            [.config (.ok networkMTU), .create request (.ok created)], s⟩

/-! ## CreateInstance as a party -/

/-- A call waits for the configuration (request `a`), waits for the sandbox (request `b`), or has
returned. -/
inductive InstanceState
  | config (a : Nat) (input : InstanceRequest)
  | create (b : Nat)
  | returned (result : Option Instance) (err : Option String)

/-- What `CreateInstance` does with the configuration: it fails, or posts user data. -/
def Runtime.afterConfig (rt : Runtime) (input : InstanceRequest) (reply : Reply) :
    Except String (Int × String) :=
  match configResult reply with
  | .error err => .error ("get Kubernetes Pod Sandbox configuration: " ++ err)
  | .ok networkMTU =>
    match rt.generateUserData input.cloudConfig networkMTU with
    | .error err => .error ("generate Pod VM user data: " ++ err)
    | .ok userData => .ok (networkMTU, userData)

def Runtime.afterCreate (rt : Runtime) (reply : Reply) : Option Instance × Option String :=
  match createResult reply with
  | .error err => (none, some ("create Kubernetes Pod Sandbox: " ++ err))
  | .ok created => rt.instanceOf created

/-- User data was generated: for which arguments, from the reply to which request, with which MTU,
and in which request it was posted. -/
structure Generated where
  input : InstanceRequest
  a : Nat
  networkMTU : Int
  userData : String
  b : Nat

/-- `generated` is ghost state. -/
structure Deployment where
  world : World
  instances : AList fun _ : Nat => InstanceState := ∅
  generated : List Generated := []

inductive Action
  /-- A step of the cluster, the API server or the controller. -/
  | world (l : Label)
  /-- `CreateInstance` is called and asks for the configuration. -/
  | createInstance (i a : Nat) (input : InstanceRequest)
  /-- A call receives its reply; `b` numbers its next request, and `refused` says when the server
  cannot decode the body of that. -/
  | receive (i b : Nat) (refused : Option String)
  /-- The HTTP call of a `CreateInstance` call fails. -/
  | fail (i : Nat) (err : String)

namespace Deployment

/-- The reply to a request. -/
def replyTo (d : Deployment) (a : Nat) : Option Reply :=
  (d.world.procs.lookup a).bind (·.state.reply)

def setInstance (d : Deployment) (i : Nat) (s : InstanceState) : Deployment :=
  { d with instances := d.instances.insert i s }

/-- `CreateInstance` posts the user data it generated. -/
def post (rt : Runtime) (d : Deployment) (i a b : Nat) (refused : Option String)
    (input : InstanceRequest) (networkMTU : Int) (userData : String) : Option Deployment :=
  let body := match refused with
    | none => .ok (rt.createSandboxRequest input userData)
    | some err => .error err
  (d.world.step (.arrive b input.config.authorization (.createSandbox body))).map fun w =>
    { world := w
      instances := d.instances.insert i (.create b)
      generated := ⟨input, a, networkMTU, userData, b⟩ :: d.generated }

def step (rt : Runtime) (d : Deployment) : Action → Option Deployment
  | .world l => (d.world.step l).map fun w => { d with world := w }
  | .createInstance i a input =>
    match d.instances.lookup i with
    | some _ => none
    | none =>
      -- `ConfigVerifier`
      if input.config.endpoint = "" then
        some (d.setInstance i
          (.returned none (some "KUBERNETES_POD_SANDBOX_ENDPOINT is required")))
      else
        (d.world.step (.arrive a input.config.authorization .getConfig)).map fun w =>
          { d with world := w, instances := d.instances.insert i (.config a input) }
  | .receive i b refused =>
    match d.instances.lookup i with
    | some (.config a input) =>
      match d.replyTo a with
      | none => none
      | some reply =>
        match rt.afterConfig input reply with
        | .error err => some (d.setInstance i (.returned none (some err)))
        | .ok (networkMTU, userData) => d.post rt i a b refused input networkMTU userData
    | some (.create a) =>
      (d.replyTo a).map fun reply =>
        d.setInstance i (.returned (rt.afterCreate reply).1 (rt.afterCreate reply).2)
    | _ => none
  | .fail i err =>
    match d.instances.lookup i with
    | some (.config _ _) => some (d.setInstance i (.returned none
        (some ("get Kubernetes Pod Sandbox configuration: call Pod Sandbox API: " ++ err))))
    | some (.create _) => some (d.setInstance i (.returned none
        (some ("create Kubernetes Pod Sandbox: call Pod Sandbox API: " ++ err))))
    | _ => none

/-- A deployment before the first call. -/
def start (cfg : Server.Config) (c : Cluster) : Deployment where
  world := World.start cfg c

end Deployment

end SandboxProvider.Plugin
