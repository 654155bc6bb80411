import SandboxProvider.Plugin.Client
import SandboxProvider.Server.Wire

/-!
# The HTTP protocol between plugin and API server

Each side decodes what the other one writes. The types of the two sides are declared apart, so every
field is followed from its name and option on one side to its name and type on the other.
-/

namespace SandboxProvider.Plugin.Client

open Lib Server

/-! ## Requests -/

theorem decode_workloadReference (reference : WorkloadReference) :
    decodeStruct "v1alpha1.WorkloadReference" workloadReferenceFields reference.encode {} =
      .ok ⟨reference.ns, reference.name, reference.uid⟩ := by
  simp only [WorkloadReference.encode, decodeStruct, List.flatten_cons, List.flatten_nil]
  rw [decodeMembers_omitempty rfl rfl, decodeMembers_member rfl rfl,
    decodeMembers_omitempty rfl rfl]
  · rfl
  · intro huid
    rw [of_decide_eq_true huid]
  · intro hns
    rw [of_decide_eq_true hns]

theorem writable_workloadReference (room : Nat) (reference : WorkloadReference) :
    reference.encode.Writable (room + 1) := by
  refine .object ?_
  simp only [List.flatten_cons, List.flatten_nil, List.append_nil, List.forall_mem_append]
  exact ⟨forall_member .string _, forall_member .string _, forall_member .string _⟩

theorem writable_request (request : CreateSandboxRequest) :
    request.encode.Writable maxNestingDepth := by
  refine .object ?_
  simp only [List.flatten_cons, List.flatten_nil, List.append_nil, List.forall_mem_append]
  exact ⟨forall_member (writable_workloadReference _ _) _, forall_member .string _,
    forall_member .string _, forall_member (writable_encodeInt _ _) _,
    forall_member (writable_encodeInt _ _) _, forall_member .string _⟩

/-- The request as the server has it. -/
def CreateSandboxRequest.received (request : CreateSandboxRequest) :
    Server.CreateSandboxRequest where
  workloadRef := ⟨request.workloadRef.ns, request.workloadRef.name, request.workloadRef.uid⟩
  sandboxID := request.sandboxID
  userData := request.userData
  vcpus := request.vcpus.toInt
  memoryMiB := request.memoryMiB.toInt
  arch := request.arch

theorem decodeInt_toInt (n : Int64) (old : Int) :
    decodeInt "int64" (encodeInt n.toInt) old = .ok n.toInt :=
  decodeInt_encodeInt _ n.le_toInt n.toInt_lt old

theorem decode_request (request : CreateSandboxRequest) :
    decodeStruct "server.createSandboxRequest" createSandboxRequestFields request.encode {} =
      .ok request.received := by
  have href := decode_workloadReference request.workloadRef
  have hvcpus (old : Int) := decodeInt_toInt request.vcpus old
  have hmemory (old : Int) := decodeInt_toInt request.memoryMiB old
  simp only [CreateSandboxRequest.encode, decodeStruct, List.flatten_cons, List.flatten_nil]
  rw [decodeMembers_member (s := ({} : Server.CreateSandboxRequest)) rfl href,
    decodeMembers_member rfl rfl, decodeMembers_member rfl rfl,
    decodeMembers_omitempty rfl (hvcpus _), decodeMembers_omitempty rfl (hmemory _),
    decodeMembers_omitempty rfl rfl]
  · rfl
  · intro harch
    rw [of_decide_eq_true harch]
  · intro hzero
    rw [of_decide_eq_true hzero]
    rfl
  · intro hzero
    rw [of_decide_eq_true hzero]
    rfl

theorem decode_marshal (request : CreateSandboxRequest)
    (hsize : (String.ofList request.marshal).utf8ByteSize ≤ maxBodyBytes) :
    decodeCreateSandboxRequest request.marshal = .ok request.received := by
  have htext := decodeText_write
    (decodeStruct "server.createSandboxRequest" createSandboxRequestFields) {}
    (writable_request request) endsNumber_nil
  rw [List.append_nil, decode_request] at htext
  rw [decodeCreateSandboxRequest, limitBytes_of_le hsize]
  exact htext

/-! ## Responses -/

theorem endsNumber_newline : EndsNumber ['\n'] :=
  endsNumber_cons (by intro state; cases state <;> rfl) []

theorem decodeSandbox_writeJSON (response : SandboxBody) :
    decodeSandbox (writeJSON response.encode) =
      .ok ⟨response.id, response.name, response.ips⟩ := by
  have hwritable : response.encode.Writable maxNestingDepth := by
    refine .object ?_
    simp only [List.flatten_cons, List.flatten_nil, List.append_nil, List.forall_mem_append]
    exact ⟨forall_member .string _, forall_member .string _,
      forall_member (writable_encodeSlice (fun _ => .string) _) _⟩
  have hips (old : Slice String) := decodeSlice_encodeSlice "[]string" .string
    (decodeString "string") "" (fun _ => rfl) response.ips old
  rw [decodeSandbox, writeJSON, decodeText_write _ _ hwritable endsNumber_newline]
  simp only [SandboxBody.encode, decodeStruct, List.flatten_cons, List.flatten_nil]
  rw [decodeMembers_member rfl rfl, decodeMembers_member rfl rfl, decodeMembers_member rfl (hips _)]
  rfl

theorem decodeProviderConfig_writeJSON (response : ProviderConfigBody) :
    decodeProviderConfig (writeJSON response.encode) = .ok ⟨response.networkMTU.toInt⟩ := by
  have hwritable : response.encode.Writable maxNestingDepth := by
    refine .object ?_
    simp only [List.flatten_cons, List.flatten_nil, List.append_nil]
    exact forall_member (writable_encodeInt _ _) _
  have hlow := response.networkMTU.le_toInt
  have hhigh := response.networkMTU.toInt_lt
  have hmtu (old : Int) := decodeInt_encodeInt "int" (n := response.networkMTU.toInt) (by omega)
    (by omega) old
  rw [decodeProviderConfig, writeJSON, decodeText_write _ _ hwritable endsNumber_newline]
  simp only [ProviderConfigBody.encode, decodeStruct, List.flatten_cons, List.flatten_nil]
  rw [decodeMembers_member rfl (hmtu _)]
  rfl

/-! ## Replies on the wire -/

theorem limitBytes_append_newline (n : Nat) (text : List Char) :
    limitBytes n (text ++ ['\n']) = limitBytes n text ∨
      limitBytes n (text ++ ['\n']) = limitBytes n text ++ ['\n'] := by
  induction text generalizing n with
  | nil =>
    by_cases hfits : Char.utf8Size '\n' ≤ n
    · exact .inr (if_pos hfits)
    · exact .inl (if_neg hfits)
  | cons c text ih =>
    by_cases hfits : c.utf8Size ≤ n
    · simp only [List.cons_append, limitBytes, if_pos hfits]
      rcases ih (n - c.utf8Size) with h | h
      · exact .inl (by rw [h])
      · exact .inr (by rw [h])
    · simp only [List.cons_append, limitBytes, if_neg hfits]
      exact .inl trivial

theorem trimSpace_append_newline (text : List Char) :
    trimSpace (text ++ ['\n']) = trimSpace text := by
  have hnewline : isSpace '\n' = true := rfl
  unfold trimSpace
  rw [List.dropWhile_append]
  by_cases hblank : (text.dropWhile isSpace).isEmpty = true
  · rw [if_pos hblank, List.isEmpty_iff.mp hblank]
    rfl
  · rw [if_neg hblank, List.reverse_append, List.reverse_singleton, List.singleton_append,
      List.dropWhile_cons_of_pos hnewline]

/-- The newline of `http.Error` does not show in the error of the client. -/
theorem apiError_newline (status : Nat) (message : String) :
    apiError status (String.ofList (message.toList ++ ['\n'])) = apiError status message := by
  unfold apiError
  rw [String.toList_ofList]
  rcases limitBytes_append_newline 4096 message.toList with h | h
  · rw [h]
  · rw [h, trimSpace_append_newline]

/-- The replies of the handlers behind `POST /v1/sandboxes`. -/
def AnswersCreate : Reply → Prop
  | .error status _ => status < 200 ∨ 300 ≤ status
  | .created _ => True
  | .config _ | .noContent => False

/-- The replies of the handlers behind `GET /v1/config`. -/
def AnswersConfig : Reply → Prop
  | .error status _ => status < 200 ∨ 300 ≤ status
  | .config networkMTU => -2 ^ 31 ≤ networkMTU ∧ networkMTU < 2 ^ 31
  | .created _ | .noContent => False

def Sandbox.toResponse (sandbox : Sandbox) : SandboxResponse :=
  ⟨sandbox.id, sandbox.name, sandbox.ips.getD []⟩

section Receive

variable (errText : DecodeError → String)

/-- The client's error for a reply outside 2xx is that of the text that the handler wrote. -/
theorem receive_error {α : Type} (decode : List Char → Except DecodeError α) (zero : α)
    {status : Nat} {message : String} (h : status < 200 ∨ 300 ≤ status) :
    receive decode zero errText (Reply.response (.error status message)) =
      .error (apiError status message) := by
  simp only [receive, Reply.response, Reply.status, if_pos h, apiError_newline]

/-- `createResult` is what the client makes of the response to a create request. -/
theorem createResult_eq_receive {reply : Reply} (h : AnswersCreate reply) :
    createResult reply =
      (receive decodeSandbox {} errText reply.response).map Sandbox.toResponse := by
  cases reply with
  | error status message =>
    rw [receive_error errText decodeSandbox {} h]
    rfl
  | created response =>
    simp only [receive, Reply.response, Reply.status, decodeSandbox_writeJSON]
    rfl
  | config => exact h.elim
  | noContent => exact h.elim

/-- `configResult` is what the client makes of the response to a request for the configuration. -/
theorem configResult_eq_receive {reply : Reply} (h : AnswersConfig reply) :
    configResult reply =
      (receive decodeProviderConfig {} errText reply.response).map (·.networkMTU) := by
  cases reply with
  | error status message =>
    rw [receive_error errText decodeProviderConfig {} h]
    rfl
  | config networkMTU =>
    have hmtu : (Int32.ofInt networkMTU).toInt = networkMTU := Int32.toInt_ofInt_of_le h.1 h.2
    simp only [receive, Reply.response, Reply.status, decodeProviderConfig_writeJSON, hmtu]
    rfl
  | created => exact h.elim
  | noContent => exact h.elim

end Receive

/-- **Plugin and API server agree** on every request of the plugin that the server reads whole, and on
every response. -/
theorem plugin_and_server_agree :
    (∀ request : CreateSandboxRequest,
      (String.ofList request.marshal).utf8ByteSize ≤ 2 ^ 20 →
      ∃ decoded, decodeCreateSandboxRequest request.marshal = .ok decoded ∧
        decoded.workloadRef.ns = request.workloadRef.ns ∧
        decoded.workloadRef.name = request.workloadRef.name ∧
        decoded.workloadRef.uid = request.workloadRef.uid ∧
        decoded.sandboxID = request.sandboxID ∧
        decoded.userData = request.userData ∧
        decoded.vcpus = request.vcpus.toInt ∧
        decoded.memoryMiB = request.memoryMiB.toInt ∧
        decoded.arch = request.arch) ∧
    (∀ response : SandboxBody, ∃ decoded,
      decodeSandbox (writeJSON response.encode) = .ok decoded ∧
        decoded.id = response.id ∧ decoded.name = response.name ∧ decoded.ips = response.ips) ∧
    (∀ response : ProviderConfigBody, ∃ decoded,
      decodeProviderConfig (writeJSON response.encode) = .ok decoded ∧
        decoded.networkMTU = response.networkMTU.toInt) := by
  refine ⟨fun request hsize => ?_, fun response => ?_, fun response => ?_⟩
  · exact ⟨request.received, decode_marshal request hsize, rfl, rfl, rfl, rfl, rfl, rfl, rfl, rfl⟩
  · exact ⟨_, decodeSandbox_writeJSON response, rfl, rfl, rfl⟩
  · exact ⟨_, decodeProviderConfig_writeJSON response, rfl⟩

/-- Escapes, an omitted field, a negative number and no architecture. -/
def sampleRequest : CreateSandboxRequest where
  workloadRef := { name := "pod \"a\"" }
  sandboxID := "<1>"
  userData := "#cloud-config\nü"
  vcpus := -3

set_option maxRecDepth 100000 in
theorem server_reads_sampleRequest :
    ∃ decoded, decodeCreateSandboxRequest sampleRequest.marshal = .ok decoded ∧
      decoded.workloadRef.name = "pod \"a\"" ∧ decoded.sandboxID = "<1>" ∧ decoded.vcpus = -3 ∧
      decoded.memoryMiB = 0 := by
  obtain ⟨decoded, hdecoded, -, hname, -, hid, -, hvcpus, hmemory, -⟩ :=
    plugin_and_server_agree.1 sampleRequest (by decide +kernel)
  exact ⟨decoded, hdecoded, hname, hid, hvcpus, hmemory⟩

end SandboxProvider.Plugin.Client
