import SandboxProvider.Api.Client
import SandboxProvider.Lib.Sha256
import SandboxProvider.Server.Access

/-!
# The handlers of the API server

`internal/server/server.go`: `authorize`, `getConfig`, `createSandbox` and `deleteSandbox` as
resumable programs. A state is named after the client call it is about to make and holds the
handler's local variables at that point.
-/

namespace SandboxProvider.Server

open Lib

/-! ## Requests and replies -/

structure CreateSandboxRequest where
  workloadRef : WorkloadReference := {}
  sandboxID : String := ""
  userData : String := ""
  vcpus : Int := 0
  memoryMiB : Int := 0
  arch : String := ""
  deriving DecidableEq, Repr

structure SandboxResponse where
  id : String
  name : String
  ips : List String
  deriving DecidableEq, Repr

/-- The routes behind `authorize`. The body of a create is what the decoder made of it. -/
inductive Route
  | getConfig
  | createSandbox (body : Except String CreateSandboxRequest)
  | deleteSandbox (id : String)

inductive Reply
  | error (status : Nat) (message : String)
  | config (networkMTU : Int)
  | created (response : SandboxResponse)
  | noContent
  deriving DecidableEq, Repr

def Reply.status : Reply → Nat
  | .error status _ => status
  | .config _ => 200
  | .created _ => 201
  | .noContent => 204

/-! ## Names -/

def sandboxName (sandboxID : String) : String :=
  "psb-" ++ String.ofList (hexEncode ((sha256 sandboxID.toUTF8.data.toList).take 10))

def userDataKey : String := "userdata"

def secretName (name : String) : String := name ++ "-userdata"

def conditionByType (conditions : List Condition) (conditionType : String) : Option Condition :=
  conditions.find? (·.type = conditionType)

def conditionTrue (conditions : List Condition) (conditionType : String) : Bool :=
  (conditionByType conditions conditionType).any (·.status = .true)

/-! ## createSandbox -/

/-- The variables fixed before the first access to the PodSandbox: class, request (with its
defaults) and key. -/
structure Job where
  className : String
  request : CreateSandboxRequest
  key : NamespacedName
  deriving DecidableEq, Repr

def Job.secretKey (job : Job) : NamespacedName := ⟨job.key.ns, secretName job.key.name⟩

theorem Job.key_eq_of_secretKey {job job' : Job} (h : job.secretKey = job'.secretKey) :
    job.key = job'.key := by
  obtain ⟨hns, hname⟩ := NamespacedName.mk.inj h
  have hname : job.key.name = job'.key.name := (String.append_left_inj "-userdata").mp hname
  cases hk : job.key
  cases hk' : job'.key
  rw [hk, hk'] at hns hname
  cases hns
  cases hname
  rfl

/-- The userdata Secret that the handler creates. -/
def Job.secret (job : Job) : Secret where
  metadata := { name := secretName job.key.name, ns := job.key.ns }
  immutable := true
  data := StringMap.ofList [(userDataKey, job.request.userData)]

theorem Job.lookup_secret (job : Job) :
    job.secret.data.lookup userDataKey = some job.request.userData :=
  AList.lookup_insert ∅

/-- The PodSandbox that the handler creates. -/
def Job.sandbox (job : Job) : PodSandbox where
  metadata := { name := job.key.name, ns := job.key.ns }
  spec := {
    workloadRef := job.request.workloadRef
    sandboxID := job.request.sandboxID
    userDataSecretRef := ⟨secretName job.key.name⟩
    className := job.className
    vcpus := job.request.vcpus
    memoryMiB := job.request.memoryMiB
    arch := job.request.arch }

/-- The identity that an existing PodSandbox has to share with the request. -/
def Job.sameIdentity (job : Job) (sandbox : PodSandbox) : Prop :=
  sandbox.spec.sandboxID = job.request.sandboxID ∧ sandbox.spec.className = job.className ∧
    sandbox.spec.workloadRef = job.request.workloadRef

instance (job : Job) (sandbox : PodSandbox) : Decidable (job.sameIdentity sandbox) :=
  inferInstanceAs (Decidable (_ ∧ _ ∧ _))

inductive CreateState
  | getClass (access : AuthorizedAccess) (body : Except String CreateSandboxRequest)
  | getSandbox (job : Job)
  | createSecret (job : Job)
  | createSandbox (job : Job) (secret : Secret)
  | deleteSecret (job : Job) (secret : Secret) (message : String)
  | updateSecret (job : Job) (sandbox : PodSandbox) (secret : Secret)
  | poll (job : Job) (sandbox : PodSandbox) (createdHere : Bool)
  | wait (job : Job) (sandbox : PodSandbox) (createdHere : Bool)
  | rollback (job : Job) (sandbox : PodSandbox) (reply : Reply)
  | done (job : Job) (sandbox : PodSandbox) (reply : Reply)
  | rejected (reply : Reply)

/-- The defaults of the optional fields. -/
def CreateSandboxRequest.withDefaults (request : CreateSandboxRequest) : CreateSandboxRequest :=
  { request with
    vcpus := if request.vcpus ≤ 0 then 2 else request.vcpus
    memoryMiB := if request.memoryMiB ≤ 0 then 2048 else request.memoryMiB }

/-- The variables that a valid request leads to. -/
def Job.of (access : AuthorizedAccess) (request : CreateSandboxRequest) : Job :=
  ⟨access.className, request.withDefaults, ⟨access.ns, sandboxName request.sandboxID⟩⟩

/-- Decoding, validation and defaults, up to the first `Get` of the PodSandbox. -/
def prepare (access : AuthorizedAccess) :
    Except String CreateSandboxRequest → CreateState
  | .error err => .rejected (.error 400 ("invalid request: " ++ err))
  | .ok request =>
    if request.workloadRef.name = "" ∨ request.sandboxID = "" ∨ request.userData = "" then
      .rejected (.error 400 "workloadRef.name, sandboxID, and userData are required")
    else
      .getSandbox (.of access request)

/-- Returning without `completed`: the deferred function deletes a PodSandbox created here. -/
def finish (job : Job) (sandbox : PodSandbox) (createdHere : Bool) (reply : Reply) : CreateState :=
  if createdHere then .rollback job sandbox reply else .done job sandbox reply

/-- The new PodSandbox becomes the owner of the Secret, unless that has another one. -/
def adopt (job : Job) (sandbox : PodSandbox) (secret : Secret) : CreateState :=
  match setControllerReference sandbox secret with
  | .ok secret => .updateSecret job sandbox secret
  | .error _ => .poll job sandbox true

/-- The body of the polling loop after its `Get`. -/
def afterPoll (job : Job) (createdHere : Bool) (sandbox : PodSandbox) : CreateState :=
  if conditionTrue sandbox.status.conditions ConditionReady ∧ sandbox.status.ips ≠ [] then
    .done job sandbox
      (.created ⟨sandbox.metadata.name, job.request.workloadRef.name, sandbox.status.ips⟩)
  else
    match conditionByType sandbox.status.conditions ConditionReady with
    | some condition =>
      if condition.status = .false ∧ condition.reason = "RunnerFailed" then
        finish job sandbox createdHere (.error 500 condition.message)
      else .wait job sandbox createdHere
    | none => .wait job sandbox createdHere

/-- What the polling loop waits for. -/
def isReady (sandbox : PodSandbox) : Bool :=
  conditionTrue sandbox.status.conditions ConditionReady && sandbox.status.ips ≠ []

/-- What ends it with an error. -/
def runnerFailed (sandbox : PodSandbox) : Bool :=
  (conditionByType sandbox.status.conditions ConditionReady).any fun condition =>
    condition.status = .false ∧ condition.reason = "RunnerFailed"

def classError (className : String) (err : ApiError) : String :=
  "get PodSandboxClass \"" ++ className ++ "\": " ++ err.message

def CreateState.next : CreateState → Next CreateState
  | .getClass access body => .call .request (.getClass access.className) fun
    | _, .error err => .rejected (.error 503 (classError access.className err))
    | _, .ok _ => prepare access body
  | .getSandbox job => .call .request (.getSandbox job.key) fun
    | _, .error err =>
      if err.isNotFound then .createSecret job else .done job {} (.error 500 err.message)
    | _, .ok sandbox =>
      if job.sameIdentity sandbox then .poll job sandbox false
      else .done job sandbox (.error 409 "sandbox identity conflict")
  | .createSecret job => .call .request (.createSecret job.secret) fun
    | _, .error err =>
      if err.isAlreadyExists then .createSandbox job job.secret
      else .done job {} (.error 500 err.message)
    | _, .ok secret => .createSandbox job secret
  | .createSandbox job secret => .call .request (.createSandbox job.sandbox) fun
    | _, .error err => .deleteSecret job secret err.message
    | _, .ok sandbox => adopt job sandbox secret
  | .deleteSecret job secret message => .call .request (.deleteSecret secret.metadata.key) fun
    | _, _ => .done job job.sandbox (.error 500 message)
  | .updateSecret job sandbox secret => .call .request (.updateSecret secret) fun
    | _, _ => .poll job sandbox true
  | .poll job sandbox createdHere => .call .request (.getSandbox job.key) fun
    | _, .error err => finish job sandbox createdHere (.error 500 err.message)
    | _, .ok sandbox => afterPoll job createdHere sandbox
  | .wait job sandbox createdHere =>
    .select (fun err => finish job sandbox createdHere (.error 504 err))
      (.poll job sandbox createdHere)
  | .rollback job sandbox reply =>
    .call .withoutCancel (.deleteSandbox sandbox.metadata.key) fun
    | _, _ => .done job sandbox reply
  | .done .. => .done
  | .rejected _ => .done

/-- The reply, from the moment it is written: before the deferred function runs. -/
def CreateState.reply : CreateState → Option Reply
  | .rollback _ _ reply | .done _ _ reply | .rejected reply => some reply
  | _ => none

/-- The PodSandbox that this call stored, as long as the deferred function can delete it. -/
def CreateState.owned : CreateState → Option (Job × PodSandbox)
  | .updateSecret job sandbox _ | .poll job sandbox true | .wait job sandbox true
  | .rollback job sandbox _ => some (job, sandbox)
  | _ => none

/-- The call has passed the identity check (or stored the PodSandbox itself) and polls, or will. -/
def CreateState.checked : CreateState → Option Job
  | .updateSecret job _ _ | .poll job _ _ | .wait job _ _ => some job
  | _ => none

/-- The call created (or found) its Secret and still has to store the PodSandbox, to delete the
Secret again or to make the PodSandbox its owner. -/
def CreateState.pending : CreateState → Option Job
  | .createSandbox job _ | .deleteSecret job _ _ | .updateSecret job _ _ => some job
  | _ => none

/-- The job of a call, once the request is decoded. -/
def CreateState.job : CreateState → Option Job
  | .getSandbox job | .createSecret job | .createSandbox job _ | .deleteSecret job _ _
  | .updateSecret job _ _ | .poll job _ _ | .wait job _ _ | .rollback job _ _ | .done job _ _ =>
    some job
  | .getClass .. | .rejected _ => none

def Job.access (job : Job) : AuthorizedAccess := ⟨job.className, job.key.ns⟩

/-- The access in the context of the request, while it is used. -/
def CreateState.access : CreateState → Option AuthorizedAccess
  | .getClass access _ => some access
  | s => s.job.map Job.access

/-! ## deleteSandbox -/

inductive DeleteState
  | getSandbox (access : AuthorizedAccess) (id : String)
  | deleteSandbox (access : AuthorizedAccess) (sandbox : PodSandbox)
  | done (reply : Reply)

def DeleteState.next : DeleteState → Next DeleteState
  | .getSandbox access id => .call .request (.getSandbox ⟨access.ns, id⟩) fun
    | _, .error err =>
      if err.isNotFound then .done .noContent else .done (.error 500 err.message)
    | _, .ok sandbox =>
      if sandbox.spec.className ≠ access.className then .done (.error 403 "forbidden")
      else .deleteSandbox access sandbox
  | .deleteSandbox _ sandbox => .call .request (.deleteSandbox sandbox.metadata.key) fun
    | _, .error err =>
      if err.isNotFound then .done .noContent else .done (.error 500 err.message)
    | _, .ok _ => .done .noContent
  | .done _ => .done

def DeleteState.reply : DeleteState → Option Reply
  | .done reply => some reply
  | _ => none

def DeleteState.access : DeleteState → Option AuthorizedAccess
  | .getSandbox access _ | .deleteSandbox access _ => some access
  | .done _ => none

/-! ## getConfig -/

def defaultNetworkMTU : Int := 1500

/-- The MTU that `getConfig` reports for a class. -/
def reportedMTU (sandboxClass : PodSandboxClass) : Int :=
  if sandboxClass.spec.networkMTU = 0 then defaultNetworkMTU else sandboxClass.spec.networkMTU

inductive ConfigState
  | getClass (access : AuthorizedAccess)
  | done (reply : Reply)

def ConfigState.next : ConfigState → Next ConfigState
  | .getClass access => .call .request (.getClass access.className) fun
    | _, .error err => .done (.error 503 (classError access.className err))
    | _, .ok sandboxClass => .done (.config (reportedMTU sandboxClass))
  | .done _ => .done

def ConfigState.reply : ConfigState → Option Reply
  | .done reply => some reply
  | _ => none

def ConfigState.access : ConfigState → Option AuthorizedAccess
  | .getClass access => some access
  | .done _ => none

/-! ## authorize -/

inductive CallState
  | getToken (got : String) (route : Route)
  | listAccesses (got : String) (route : Route)
  | config (s : ConfigState)
  | create (s : CreateState)
  | delete (s : DeleteState)
  | replied (reply : Reply)

/-- The handler of a route. -/
def handler (access : AuthorizedAccess) : Route → CallState
  | .getConfig => .config (.getClass access)
  | .createSandbox body => .create (.getClass access body)
  | .deleteSandbox id =>
    if id = "" ∨ '/' ∈ id.toList then .delete (.done (.error 400 "invalid sandbox id"))
    else .delete (.getSandbox access id)

/-- `authorize` after `authorizedAccess` returned. -/
def authorized (route : Route) : Except String AuthorizedAccess → CallState
  | .error _ => .replied (.error 503 "authorization is unavailable")
  | .ok access =>
    if access.className = "" ∨ access.ns = "" then .replied (.error 401 "unauthorized")
    else handler access route

/-- `authorizedAccess` once the expected token is known. -/
def compareToken (cfg : Config) (got : String) (route : Route) : Except String String → CallState
  | .error err => authorized route (.error err)
  | .ok expected =>
    if tokenMatches got expected then authorized route (.ok ⟨cfg.className, cfg.ns⟩)
    else .listAccesses got route

def trimPrefix (s p : String) : String :=
  if p.toList.isPrefixOf s.toList then String.ofList (s.toList.drop p.toList.length) else s

/-- A request with its `Authorization` header arrives. -/
def authorize (cfg : Config) (header : String) (route : Route) : CallState :=
  let got := trimPrefix header "Bearer "
  if cfg.token ≠ "" then compareToken cfg got route (.ok cfg.token) else .getToken got route

def CallState.next (cfg : Config) : CallState → Next CallState
  | .getToken got route => .call .request (.getSecret cfg.tokenKey) fun
    | _, .error err => compareToken cfg got route (.error err.message)
    | _, .ok secret => compareToken cfg got route (secretToken secret)
  | .listAccesses got route =>
    .call .request (.listSecrets cfg.ns AccessSecretLabel AccessSecretLabelValue) fun
    | _, .error err =>
      authorized route (.error ("list Pod Sandbox API access secrets: " ++ err.message))
    | _, .ok items => authorized route (matchAccess got {} items)
  | .config s => s.next.map .config
  | .create s => s.next.map .create
  | .delete s => s.next.map .delete
  | .replied _ => .done

def CallState.reply : CallState → Option Reply
  | .config s => s.reply
  | .create s => s.reply
  | .delete s => s.reply
  | .replied reply => some reply
  | _ => none

def CallState.access : CallState → Option AuthorizedAccess
  | .config s => s.access
  | .create s => s.access
  | .delete s => s.access
  | _ => none

end SandboxProvider.Server
