import SandboxProvider.Lib.JsonStruct
import SandboxProvider.Server.Handlers

/-!
# Bodies of the API server

`internal/server/server.go`: the JSON of `createSandboxRequest`, `sandboxResponse` and
`providerConfigResponse`, as `createSandbox` decodes it and `writeJSON` writes it, and the responses that
the replies of the handlers become.
-/

namespace SandboxProvider.Server

open Lib

/-! ## Requests -/

/-- `sandboxv1alpha1.WorkloadReference`. -/
def workloadReferenceFields : List (JsonField WorkloadReference) :=
  [.of "namespace" (·.ns) (fun r ns => { r with ns }) (decodeString "string"),
    .of "name" (·.name) (fun r name => { r with name }) (decodeString "string"),
    .of "uid" (·.uid) (fun r uid => { r with uid }) (decodeString "types.UID")]

def createSandboxRequestFields : List (JsonField CreateSandboxRequest) :=
  [.of "workloadRef" (·.workloadRef) (fun r workloadRef => { r with workloadRef })
      (decodeStruct "v1alpha1.WorkloadReference" workloadReferenceFields),
    .of "sandboxID" (·.sandboxID) (fun r sandboxID => { r with sandboxID }) (decodeString "string"),
    .of "userData" (·.userData) (fun r userData => { r with userData }) (decodeString "string"),
    .of "vcpus" (·.vcpus) (fun r vcpus => { r with vcpus }) (decodeInt "int64"),
    .of "memoryMiB" (·.memoryMiB) (fun r memoryMiB => { r with memoryMiB }) (decodeInt "int64"),
    .of "arch" (·.arch) (fun r arch => { r with arch }) (decodeString "string")]

/-- The limit of the `MaxBytesReader`. -/
def maxBodyBytes : Nat := 2 ^ 20

/-- What `createSandbox` makes of a body. -/
def decodeCreateSandboxRequest (body : List Char) : Except DecodeError CreateSandboxRequest :=
  decodeText (decodeStruct "server.createSandboxRequest" createSandboxRequestFields) {}
    (limitBytes maxBodyBytes body)

/-! ## Responses -/

/-- `sandboxResponse`, with its addresses as the slice they are. -/
structure SandboxBody where
  id : String
  name : String
  ips : Slice String
  deriving DecidableEq, Repr

def SandboxBody.encode (response : SandboxBody) : JsonTree :=
  .object <| List.flatten
    [member false "id" (.string response.id),
      member false "name" (.string response.name),
      member false "ips" (encodeSlice .string response.ips)]

/-- `providerConfigResponse`. -/
structure ProviderConfigBody where
  networkMTU : Int32
  deriving DecidableEq

def ProviderConfigBody.encode (response : ProviderConfigBody) : JsonTree :=
  .object <| List.flatten [member false "networkMTU" (encodeInt response.networkMTU.toInt)]

/-- The body that `writeJSON` sends. -/
def writeJSON (tree : JsonTree) : List Char := tree.write ++ ['\n']

/-- A reply on the wire. -/
structure Response where
  status : Nat
  body : List Char

/-- What a handler writes: `http.Error`, `writeJSON` or a status alone. A reply that a sandbox was
created has addresses, and the MTU of a class is an `int32`. -/
def Reply.response (reply : Reply) : Response where
  status := reply.status
  body :=
    match reply with
    | .error _ message => message.toList ++ ['\n']
    | .config networkMTU => writeJSON (ProviderConfigBody.encode ⟨Int32.ofInt networkMTU⟩)
    | .created response => writeJSON (SandboxBody.encode ⟨response.id, response.name, response.ips⟩)
    | .noContent => []

end SandboxProvider.Server
