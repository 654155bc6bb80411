import SandboxProvider.Plugin.CreateInstance
import SandboxProvider.Server.Wire

/-!
# Bodies of the plugin

`client.go`: the types of the HTTP protocol as the plugin declares them, which share nothing with those
of the API server, and their JSON in `httpSandboxClient`.
-/

namespace SandboxProvider.Plugin.Client

open Lib Server

/-! ## Requests -/

/-- `workloadReference`. -/
structure WorkloadReference where
  ns : String := ""
  name : String := ""
  uid : String := ""
  deriving DecidableEq

structure CreateSandboxRequest where
  workloadRef : WorkloadReference := {}
  sandboxID : String := ""
  userData : String := ""
  vcpus : Int64 := 0
  memoryMiB : Int64 := 0
  arch : String := ""
  deriving DecidableEq

def WorkloadReference.encode (reference : WorkloadReference) : JsonTree :=
  .object <| List.flatten
    [member (reference.ns = "") "namespace" (.string reference.ns),
      member false "name" (.string reference.name),
      member (reference.uid = "") "uid" (.string reference.uid)]

def CreateSandboxRequest.encode (request : CreateSandboxRequest) : JsonTree :=
  .object <| List.flatten
    [member false "workloadRef" request.workloadRef.encode,
      member false "sandboxID" (.string request.sandboxID),
      member false "userData" (.string request.userData),
      member (request.vcpus = 0) "vcpus" (encodeInt request.vcpus.toInt),
      member (request.memoryMiB = 0) "memoryMiB" (encodeInt request.memoryMiB.toInt),
      member (request.arch = "") "arch" (.string request.arch)]

/-- The body that `Create` posts. -/
def CreateSandboxRequest.marshal (request : CreateSandboxRequest) : List Char :=
  request.encode.write

/-! ## Responses -/

structure Sandbox where
  id : String := ""
  name : String := ""
  ips : Slice String := none
  deriving DecidableEq, Repr

/-- `sandboxProviderConfig`; its `int` has 64 bits. -/
structure SandboxProviderConfig where
  networkMTU : Int := 0
  deriving DecidableEq, Repr

def sandboxFields : List (JsonField Sandbox) :=
  [.of "id" (·.id) (fun r id => { r with id }) (decodeString "string"),
    .of "name" (·.name) (fun r name => { r with name }) (decodeString "string"),
    .of "ips" (·.ips) (fun r ips => { r with ips })
      (decodeSlice "[]string" (decodeString "string") "")]

def sandboxProviderConfigFields : List (JsonField SandboxProviderConfig) :=
  [.of "networkMTU" (·.networkMTU) (fun r networkMTU => { r with networkMTU }) (decodeInt "int")]

def decodeSandbox : List Char → Except DecodeError Sandbox :=
  decodeText (decodeStruct "main.sandbox" sandboxFields) {}

def decodeProviderConfig : List Char → Except DecodeError SandboxProviderConfig :=
  decodeText (decodeStruct "main.sandboxProviderConfig" sandboxProviderConfigFields) {}

/-- `httpSandboxClient.do` once the response is there. -/
def receive {α : Type} (decode : List Char → Except DecodeError α) (zero : α)
    (errText : DecodeError → String) (response : Response) : Except String α :=
  if response.status < 200 ∨ 300 ≤ response.status then
    .error (apiError response.status (String.ofList response.body))
  else if response.status = 204 then .ok zero
  else
    match decode response.body with
    | .error err => .error ("decode Pod Sandbox response: " ++ errText err)
    | .ok result => .ok result

end SandboxProvider.Plugin.Client
