import SandboxProvider.Plugin.Endpoint

/-!
# Plugins that speak HTTP

`manager.go`, `provider.go` and `client.go` put together: a provider is made of its configuration, its
calls make requests of an endpoint, a request is carried to the API server behind that endpoint, and the
bytes of the response are decoded. `HttpDeployment.step` follows any number of `CreateInstance` and
`DeleteInstance` calls through the same system as `Deployment.step`, which leaves all of this out.
-/

namespace SandboxProvider.Plugin

open Lib NetUrl ServeMux Server

/-- What the plugins and the API server take from their libraries. -/
structure Net where
  urls : UrlRuntime
  /-- `time.ParseDuration`, in nanoseconds. -/
  parseDuration : String → Except String Int
  /-- The text of an error of `encoding/json`. -/
  decodeErr : DecodeError → String
  /-- The text of the error of `http.Client` for a request with a header that cannot be sent. -/
  headerErr : HTTPRequest → String
  /-- The `Authorization` header that `http.Client` adds for a user in the URL. -/
  basicAuth : Userinfo → Bytes

/-- `newKubernetesProvider` without a client. -/
def newKubernetesProvider (net : Net) (config : ProviderConfig) (timeout : String) :
    Except String KubernetesProvider :=
  let parsed : Except String Int := if timeout ≠ "" then net.parseDuration timeout else .ok 120000000000
  match parsed with
  | .error err => .error ("parse KUBERNETES_POD_SANDBOX_TIMEOUT: " ++ err)
  | .ok _ =>
    if config.endpoint ≠ "" then
      match newHTTPSandboxClient net.urls (utf8 config.endpoint) (utf8 config.token) with
      | .error err => .error err
      | .ok client => .ok ⟨utf8 config.endpoint, some client⟩
    else .ok ⟨utf8 config.endpoint, none⟩

/-! ## Transport -/

/-- The bytes that `http.Client` sends in the value of a header. -/
def validFieldByte (b : UInt8) : Bool := b = byte '\t' || (byte ' ' ≤ b && b ≠ 127)

def isFieldSpace (b : UInt8) : Bool := b = byte ' ' || b = byte '\t' || b = byte '\n' || b = byte '\r'

/-- Blanks around the value of a header are not sent. -/
def trimField (value : Bytes) : Bytes :=
  ((value.dropWhile isFieldSpace).reverse.dropWhile isFieldSpace).reverse

/-- The `Authorization` header of a request, empty when there is none. -/
def Net.authorization (net : Net) (request : HTTPRequest) : Bytes :=
  request.authorization.getD ((request.url.user.map net.basicAuth).getD [])

/-- What the API server makes of a request: the text of the `Authorization` header and the route. The
client refuses a header that cannot be sent. Requests that reach no handler behind `authorize` are not
followed. -/
def Net.transport (net : Net) (client : HTTPSandboxClient) (request : HTTPRequest) :
    Option (Except String (String × Route)) :=
  let value := net.authorization request
  if value.all validFieldByte then
    match dispatch net.urls.parseAuthority client.basePath request.method request.url.requestURI with
    | .ok (.handler handler values) =>
      let body := (decodeCreateSandboxRequest (request.body.getD [])).mapError net.decodeErr
      match String.fromUTF8? (trimField value).toByteArray, handler.route body values with
      | some header, some route => some (.ok (header, route))
      | _, _ => none
    | _ => none
  else some (.error ("call Pod Sandbox API: " ++ net.headerErr request))

/-- `do` up to the arrival of its request. -/
def Net.submit (net : Net) (client : HTTPSandboxClient) (method : Method) (path : Bytes)
    (body : Option (List Char)) : Option (Except String (String × Route)) :=
  match client.newRequest net.urls method path body with
  | .error err => some (.error err)
  | .ok request => net.transport client request

/-- The body that `CreateInstance` posts. -/
def Runtime.wireRequest (rt : Runtime) (input : InstanceRequest) (userData : String) :
    Client.CreateSandboxRequest :=
  let reference := rt.sourceWorkloadReference input.cloudConfig input.podName
  { workloadRef := ⟨reference.ns, reference.name, reference.uid⟩
    sandboxID := input.sandboxID
    userData := userData
    vcpus := Int64.ofInt input.spec.vcpus
    memoryMiB := Int64.ofInt input.spec.memory
    arch := input.spec.arch }

/-! ## Calls -/

/-- A `DeleteInstance` call waits for the reply to request `a`, or has returned. -/
inductive RemovalState
  | waiting (a : Nat) (id : String)
  | returned (id : String) (err : Option String)

/-- `inputs` is ghost state: the arguments of the `CreateInstance` calls. -/
structure HttpDeployment extends Deployment where
  removals : AList fun _ : Nat => RemovalState := ∅
  inputs : AList fun _ : Nat => InstanceRequest := ∅

inductive HttpAction
  /-- A step of the cluster, the API server or the controller. -/
  | world (l : Label)
  /-- `CreateInstance` is called on a provider with this timeout. -/
  | createInstance (i a : Nat) (timeout : String) (input : InstanceRequest)
  /-- A call receives its reply; `b` numbers its next request. -/
  | receive (i b : Nat) (timeout : String)
  /-- The HTTP call of a `CreateInstance` call fails. -/
  | fail (i : Nat) (err : String)
  /-- `DeleteInstance` is called. -/
  | deleteInstance (j a : Nat) (timeout : String) (config : ProviderConfig) (id : String)
  /-- A `DeleteInstance` call receives its reply. -/
  | receiveDelete (j : Nat)
  /-- The HTTP call of a `DeleteInstance` call fails. -/
  | failDelete (j : Nat) (err : String)

namespace HttpDeployment

def withDeployment (d : HttpDeployment) (base : Deployment) : HttpDeployment :=
  { d with toDeployment := base }

def called (d : HttpDeployment) (i : Nat) (input : InstanceRequest) : HttpDeployment :=
  { d with inputs := d.inputs.insert i input }

/-- A `CreateInstance` call returns an error. -/
def failInstance (d : HttpDeployment) (i : Nat) (err : String) : HttpDeployment :=
  d.withDeployment (d.setInstance i (.returned none (some err)))

/-- The error of `DeleteInstance` for one of its client. -/
def removalError (net : Net) (id err : String) : RemovalState :=
  .returned id (some ("delete Kubernetes Pod Sandbox " ++ net.urls.quote (utf8 id) ++ ": " ++ err))

def setRemoval (d : HttpDeployment) (j : Nat) (s : RemovalState) : HttpDeployment :=
  { d with removals := d.removals.insert j s }

/-- `CreateInstance` asks for the configuration. -/
def ask (net : Net) (d : HttpDeployment) (i a : Nat) (input : InstanceRequest)
    (client : HTTPSandboxClient) : Option HttpDeployment :=
  match net.submit client .get (ascii "v1/config") none with
  | none => none
  | some (.error err) =>
    some (d.failInstance i ("get Kubernetes Pod Sandbox configuration: " ++ err))
  | some (.ok (header, route)) =>
    (d.world.step (.arrive a header route)).map fun w => d.withDeployment
      { d.toDeployment with world := w, instances := d.instances.insert i (.config a input) }

/-- `CreateInstance` posts the user data it generated. -/
def post (net : Net) (rt : Runtime) (d : HttpDeployment) (i a b : Nat) (input : InstanceRequest)
    (client : HTTPSandboxClient) (networkMTU : Int) (userData : String) : Option HttpDeployment :=
  match net.submit client .post (ascii "v1/sandboxes") (some (rt.wireRequest input userData).marshal) with
  | none => none
  | some (.error err) => some (d.failInstance i ("create Kubernetes Pod Sandbox: " ++ err))
  | some (.ok (header, route)) =>
    (d.world.step (.arrive b header route)).map fun w => d.withDeployment
      { world := w
        instances := d.instances.insert i (.create b)
        generated := ⟨input, a, networkMTU, userData, b⟩ :: d.generated }

/-- The configuration in a response. -/
def configOf (net : Net) (response : Response) : Except String Int :=
  (Client.receive Client.decodeProviderConfig {} net.decodeErr response).map fun c => c.networkMTU

/-- The sandbox in a response. -/
def sandboxOf (net : Net) (response : Response) : Except String SandboxResponse :=
  (Client.receive Client.decodeSandbox {} net.decodeErr response).map fun s =>
    ⟨s.id, s.name, s.ips.getD []⟩

def step (net : Net) (rt : Runtime) (d : HttpDeployment) : HttpAction → Option HttpDeployment
  | .world l => (d.world.step l).map fun w => d.withDeployment { d.toDeployment with world := w }
  | .createInstance i a timeout input =>
    match d.instances.lookup i, newKubernetesProvider net input.config timeout with
    | none, .ok provider =>
      match provider.configVerifier with
      | .error err => some ((d.called i input).failInstance i err)
      | .ok client => (d.called i input).ask net i a input client
    | _, _ => none
  | .receive i b timeout =>
    match d.instances.lookup i with
    | some (.config a input) =>
      match d.replyTo a, newKubernetesProvider net input.config timeout with
      | some reply, .ok ⟨_, some client⟩ =>
        match configOf net reply.response with
        | .error err =>
          some (d.failInstance i ("get Kubernetes Pod Sandbox configuration: " ++ err))
        | .ok networkMTU =>
          match rt.generateUserData input.cloudConfig networkMTU with
          | .error err => some (d.failInstance i ("generate Pod VM user data: " ++ err))
          | .ok userData => d.post net rt i a b input client networkMTU userData
      | _, _ => none
    | some (.create a) =>
      match d.replyTo a with
      | none => none
      | some reply =>
        match sandboxOf net reply.response with
        | .error err => some (d.failInstance i ("create Kubernetes Pod Sandbox: " ++ err))
        | .ok created => some (d.withDeployment
            (d.setInstance i (.returned (rt.instanceOf created).1 (rt.instanceOf created).2)))
    | _ => none
  | .fail i err =>
    match d.instances.lookup i with
    | some (.config _ _) => some (d.failInstance i
        ("get Kubernetes Pod Sandbox configuration: call Pod Sandbox API: " ++ err))
    | some (.create _) => some (d.failInstance i
        ("create Kubernetes Pod Sandbox: call Pod Sandbox API: " ++ err))
    | _ => none
  | .deleteInstance j a timeout config id =>
    match d.removals.lookup j, newKubernetesProvider net config timeout with
    | none, .ok provider =>
      if id = "" then
        some (d.setRemoval j (.returned id (some "DeleteInstance called with empty instanceID")))
      else
        match provider.configVerifier with
        | .error err => some (d.setRemoval j (.returned id (some err)))
        | .ok client =>
          match net.submit client .delete (HTTPSandboxClient.deletePath (utf8 id)) none with
          | none => none
          | some (.error err) => some (d.setRemoval j (removalError net id err))
          | some (.ok (header, route)) =>
            (d.world.step (.arrive a header route)).map fun w =>
              (d.withDeployment { d.toDeployment with world := w }).setRemoval j (.waiting a id)
    | _, _ => none
  | .receiveDelete j =>
    match d.removals.lookup j with
    | some (.waiting a id) =>
      match d.replyTo a with
      | none => none
      | some reply =>
        match Client.receive (fun _ => .ok ()) () (fun _ => "") reply.response with
        | .error err => some (d.setRemoval j (removalError net id err))
        | .ok () => some (d.setRemoval j (.returned id none))
    | _ => none
  | .failDelete j err =>
    match d.removals.lookup j with
    | some (.waiting _ id) =>
      some (d.setRemoval j (removalError net id ("call Pod Sandbox API: " ++ err)))
    | _ => none

/-- Before the first call. -/
def start (cfg : Server.Config) (c : Cluster) : HttpDeployment where
  toDeployment := .start cfg c

end HttpDeployment

end SandboxProvider.Plugin
