import SandboxProvider.Plugin.Endpoint
import SandboxProvider.Server.Moves

/-!
# The path of a deleted sandbox

`Delete` escapes the id of a sandbox and puts it into `URL.Path`, which is escaped again when the URL of
the request is rendered. The API server unescapes once, so the `PathValue` that `deleteSandbox` gets is
the escaped id (`deleteInstance_pathValue`). That is the id itself exactly when no byte of it is escaped
in a path segment, as in every name that `createSandbox` hands out (`isPlain_sandboxName`). A delete of
such an id that is reported as a success leaves no PodSandbox of that name.
-/

namespace SandboxProvider.Server

open Lib

/-! ## deleteSandbox calls -/

/-- The states of a deleteSandbox call for a name, with any changes of the cluster between its steps. -/
inductive DeleteCall (access : AuthorizedAccess) (id : String) : DeleteState → Prop
  | arrived {s : DeleteState} (h : handler access (.deleteSandbox id) = .delete s) :
      DeleteCall access id s
  | step {env : Env} {ctxErr : Option String} {c c' : Cluster} {out : Outcome} {s s' : DeleteState}
      (h : DeleteCall access id s) (hstep : s.next.step env ctxErr c = some (s', c', out)) :
      DeleteCall access id s'

/-- The PodSandbox that a call is about. -/
def DeleteState.About (key : NamespacedName) : DeleteState → Prop
  | .getSandbox access id => ⟨access.ns, id⟩ = key
  | .deleteSandbox _ sandbox => sandbox.metadata.key = key
  | .done _ => True

section Moves

variable {env : Env} {ctxErr : Option String} {c c' : Cluster} {out : Outcome} {s s' : DeleteState}
  {key : NamespacedName}

theorem DeleteMove.about (h : DeleteMove env ctxErr c s s' c' out) (hs : s.About key) :
    s'.About key := by
  cases h with
  | found hget hclass => exact (Table.key_of_get hget).trans hs
  | unread | missing | forbidden | failed | gone | deleted => trivial

/-- A call that does not end in an error leaves no PodSandbox under its key. -/
theorem DeleteMove.gone_of_status {reply : Reply} (h : DeleteMove env ctxErr c s (.done reply) c' out)
    (hstatus : reply.status < 300) (hs : s.About key) : c'.sandboxes.get key = none := by
  cases h with
  | unread | forbidden | failed =>
    exact absurd hstatus (by simp [Reply.status])
  | missing hget => rwa [← (hs : _ = key)]
  | gone hget => rwa [← (hs : _ = key)]
  | deleted hget hremoves =>
    rename_i access sandbox o t
    have hkey : o.metadata.key = key := (Table.key_of_get hget).trans hs
    exact (hremoves.get key).trans (if_pos hkey.symm)

theorem DeleteCall.about {access : AuthorizedAccess} {id : String} (h : DeleteCall access id s) :
    s.About ⟨access.ns, id⟩ := by
  induction h with
  | arrived h =>
    simp only [handler] at h
    split at h
    · cases h
      trivial
    · cases h
      rfl
  | step _ hstep ih => exact (DeleteState.moves hstep).about ih

end Moves

end SandboxProvider.Server

namespace SandboxProvider.Plugin

open Lib NetUrl ServeMux Server

/-! ## DeleteInstance and its request -/

/-- The error of `DeleteInstance` for one of its client. -/
def deleteError (rt : UrlRuntime) (instanceID : Bytes) (err : String) : String :=
  "delete Kubernetes Pod Sandbox " ++ rt.quote instanceID ++ ": " ++ err

/-- What `DeleteInstance` returns for the answer to its request. -/
def deleted (rt : UrlRuntime) (instanceID : Bytes) (answer : Except String Response) :
    Except String Unit :=
  match answer with
  | .error err => .error (deleteError rt instanceID ("call Pod Sandbox API: " ++ err))
  | .ok response =>
    if response.status < 200 ∨ 300 ≤ response.status then
      .error (deleteError rt instanceID (apiError response.status (String.ofList response.body)))
    else .ok ()

theorem status_of_deleted {rt : UrlRuntime} {id : Bytes} {response : Response}
    (h : deleted rt id (.ok response) = .ok ()) : response.status < 300 := by
  simp only [deleted] at h
  split at h
  · cases h
  · omega

theorem deleteInstance_eq (rt : UrlRuntime) {p : KubernetesProvider} {client : HTTPSandboxClient}
    (hverify : p.configVerifier = .ok client) {id : Bytes} (hne : id ≠ [])
    (send : HTTPRequest → Except String Response) :
    p.deleteInstance rt send id =
      match client.newRequest rt .delete (HTTPSandboxClient.deletePath id) none with
      | .error err => .error (deleteError rt id err)
      | .ok request => deleted rt id (send request) := by
  unfold KubernetesProvider.deleteInstance
  rw [if_neg hne, hverify]
  dsimp only
  unfold HTTPSandboxClient.delete HTTPSandboxClient.doRequest
  cases client.newRequest rt .delete (HTTPSandboxClient.deletePath id) none with
  | error err => rfl
  | ok request =>
    dsimp only
    cases send request with
    | error err => rfl
    | ok response =>
      simp only [Client.receive, deleted]
      by_cases hstatus : response.status < 200 ∨ 300 ≤ response.status
      · rw [if_pos hstatus, if_pos hstatus]
        rfl
      · rw [if_neg hstatus, if_neg hstatus]
        split
        · rename_i herr
          split at herr <;> cases herr
        · rfl

theorem configVerifier_eq {rt : UrlRuntime} {endpoint token : Bytes} {client : HTTPSandboxClient}
    (hnew : newHTTPSandboxClient rt endpoint token = .ok client) :
    (KubernetesProvider.mk endpoint (some client)).configVerifier = .ok client :=
  if_neg (endpoint_ne_nil hnew)

/-- The parser of authorities refuses the one that a client renders, and `DeleteInstance` sends nothing. -/
def AuthorityRefused (rt : UrlRuntime) (endpoint : Bytes) (client : HTTPSandboxClient) (id : Bytes) :
    Prop :=
  ∃ message, rt.parseAuthority client.baseURL.scheme client.baseURL.authority = .error message ∧
    ∀ send, (KubernetesProvider.mk endpoint (some client)).deleteInstance rt send id =
      .error (deleteError rt id ("create Pod Sandbox request: " ++
        rt.errText (client.requestURL (HTTPSandboxClient.deletePath id)).render (.authority message)))

/-- **The `PathValue` of a delete** is the escaped id. -/
theorem deleteInstance_pathValue (rt : UrlRuntime) {endpoint token : Bytes}
    {client : HTTPSandboxClient} (hnew : newHTTPSandboxClient rt endpoint token = .ok client)
    {id : Bytes} (hne : id ≠ []) (hdot : id ≠ ascii ".") (hdots : id ≠ ascii "..") :
    AuthorityRefused rt endpoint client id ∨
      ∃ request,
        (∀ send, (KubernetesProvider.mk endpoint (some client)).deleteInstance rt send id =
          deleted rt id (send request)) ∧
        dispatch rt.parseAuthority client.basePath request.method request.url.requestURI =
          .ok (.handler .deleteSandbox [pathEscape id]) := by
  have heq := deleteInstance_eq rt (configVerifier_eq hnew) hne
  rcases client.reaches_deleteSandbox rt hne hdot hdots with
    ⟨message, hauthority, hrefused⟩ | ⟨request, hrequest, hdispatch⟩
  · left
    refine ⟨message, hauthority, fun send => ?_⟩
    rw [heq send, hrefused]
  · right
    refine ⟨request, fun send => ?_, hdispatch⟩
    rw [heq send, hrequest]

/-! ## Ids that stay -/

/-- No byte is escaped in a path segment. -/
def IsPlain (id : Bytes) : Prop := ∀ b ∈ id, shouldEscape .pathSegment b = false

instance (id : Bytes) : Decidable (IsPlain id) :=
  List.decidableBAll (fun b => shouldEscape .pathSegment b = false) id

theorem pathEscape_eq_self_iff {id : Bytes} : pathEscape id = id ↔ IsPlain id := escape_eq_self_iff

theorem plain_of_mem {ch : Char} (h : ch ∈ "psb-".toList ∨ IsHexDigit ch) :
    ch.toNat < 128 ∧ shouldEscape .pathSegment (byte ch) = false := by
  rcases h with h | ⟨n, hn, rfl⟩
  · have hch : ch = 'p' ∨ ch = 's' ∨ ch = 'b' ∨ ch = '-' := by simpa using h
    rcases hch with rfl | rfl | rfl | rfl
    · decide
    · decide
    · decide
    · decide
  · have hhex : ∀ n < 16, (hexDigit n).toNat < 128 ∧
        shouldEscape .pathSegment (byte (hexDigit n)) = false := by
      decide +kernel
    exact hhex n hn

theorem utf8_sandboxName (sandboxID : String) :
    ∃ hex : List Char, (∀ ch ∈ hex, IsHexDigit ch) ∧
      utf8 (sandboxName sandboxID) = ("psb-".toList ++ hex).map byte := by
  refine ⟨hexEncode ((sha256 sandboxID.toUTF8.data.toList).take 10), fun _ => hexEncode_isHex, ?_⟩
  have hname : sandboxName sandboxID = String.ofList
      ("psb-".toList ++ hexEncode ((sha256 sandboxID.toUTF8.data.toList).take 10)) := by
    rw [String.ofList_append, String.ofList_toList]
    rfl
  rw [hname]
  refine utf8_ofList fun ch hch => ?_
  rcases List.mem_append.mp hch with hch | hch
  · exact (plain_of_mem (.inl hch)).1
  · exact (plain_of_mem (.inr (hexEncode_isHex hch))).1

/-- The names that `createSandbox` hands out have nothing to escape. -/
theorem isPlain_sandboxName (sandboxID : String) : IsPlain (utf8 (sandboxName sandboxID)) := by
  obtain ⟨hex, hhex, hname⟩ := utf8_sandboxName sandboxID
  intro b hb
  rw [hname] at hb
  obtain ⟨ch, hch, rfl⟩ := List.mem_map.mp hb
  rcases List.mem_append.mp hch with hch | hch
  · exact (plain_of_mem (.inl hch)).2
  · exact (plain_of_mem (.inr (hhex ch hch))).2

/-- **What was created can be deleted**: a delete of a name that `createSandbox` handed out arrives as
one of that name. -/
theorem deleteInstance_sandboxName (rt : UrlRuntime) {endpoint token : Bytes}
    {client : HTTPSandboxClient} (hnew : newHTTPSandboxClient rt endpoint token = .ok client)
    (sandboxID : String) :
    AuthorityRefused rt endpoint client (utf8 (sandboxName sandboxID)) ∨
      ∃ request values,
        (∀ send, (KubernetesProvider.mk endpoint (some client)).deleteInstance rt send
            (utf8 (sandboxName sandboxID)) =
          deleted rt (utf8 (sandboxName sandboxID)) (send request)) ∧
        dispatch rt.parseAuthority client.basePath request.method request.url.requestURI =
          .ok (.handler .deleteSandbox values) ∧
        ∀ body, Registered.route body values .deleteSandbox =
          some (.deleteSandbox (sandboxName sandboxID)) := by
  have hhead : (utf8 (sandboxName sandboxID)).head? = some (byte 'p') := by
    obtain ⟨hex, -, hname⟩ := utf8_sandboxName sandboxID
    rw [hname]
    rfl
  have hother {id : Bytes} (hid : id.head? ≠ some (byte 'p')) : utf8 (sandboxName sandboxID) ≠ id := by
    rintro rfl
    exact hid hhead
  rcases deleteInstance_pathValue rt hnew (hother (by decide)) (hother (by decide))
    (hother (by decide)) with hrefused | ⟨request, hsent, hdispatch⟩
  · exact .inl hrefused
  · right
    rw [pathEscape_eq_self_iff.mpr (isPlain_sandboxName sandboxID)] at hdispatch
    exact ⟨request, _, hsent, hdispatch, fun body => route_deleteSandbox body rfl⟩

/-! ## Deletes by id -/

namespace Sample

/-- A library that takes every authority for a host. -/
def urls : UrlRuntime where
  parseAuthority _ authority := .ok (none, authority)
  errText _ _ := ""
  quote _ := ""

theorem parse_endpoint : parseReference urls.parseAuthority (ascii "http://provider:8080") =
    .ok { scheme := ascii "http", host := ascii "provider:8080" } := by
  decide +kernel

theorem newHTTPSandboxClient_endpoint :
    ∃ client, newHTTPSandboxClient urls (ascii "http://provider:8080") (ascii "token") = .ok client := by
  obtain ⟨client, hnew, -⟩ :=
    newHTTPSandboxClient_of_parse parse_endpoint (.inl rfl) (by decide) (ascii "token")
  exact ⟨client, hnew⟩

end Sample

/-- **A delete reaches its sandbox** exactly when no byte of its id is escaped. For every endpoint with a
client and every id other than the empty one, `.` and `..`, the request that `DeleteInstance` sends gives
`deleteSandbox` the id as its `PathValue` if and only if there is nothing to escape in it; and then, when
`DeleteInstance` takes the reply of that call for a success, no PodSandbox of that name is left. -/
theorem deleteInstance_reaches (rt : UrlRuntime) {endpoint token : Bytes} {client : HTTPSandboxClient}
    (hnew : newHTTPSandboxClient rt endpoint token = .ok client) {id : Bytes} (hne : id ≠ [])
    (hdot : id ≠ ascii ".") (hdots : id ≠ ascii "..") :
    AuthorityRefused rt endpoint client id ∨
      ∃ request values,
        (∀ send, (KubernetesProvider.mk endpoint (some client)).deleteInstance rt send id =
          deleted rt id (send request)) ∧
        dispatch rt.parseAuthority client.basePath request.method request.url.requestURI =
          .ok (.handler .deleteSandbox values) ∧
        (pathValue values = id ↔ IsPlain id) ∧
        (IsPlain id → ∀ body name, utf8 name = id →
          Registered.route body values .deleteSandbox = some (.deleteSandbox name) ∧
          ∀ access s env ctxErr c c' out reply, DeleteCall access name s →
            s.next.step env ctxErr c = some (.done reply, c', out) →
            deleted rt id (.ok reply.response) = .ok () →
            c'.sandboxes.get ⟨access.ns, name⟩ = none) := by
  rcases deleteInstance_pathValue rt hnew hne hdot hdots with hrefused | ⟨request, hsent, hdispatch⟩
  · exact .inl hrefused
  right
  refine ⟨request, [pathEscape id], hsent, hdispatch, pathEscape_eq_self_iff, fun hplain => ?_⟩
  rintro body name rfl
  rw [pathEscape_eq_self_iff.mpr hplain]
  refine ⟨route_deleteSandbox body rfl, ?_⟩
  intro access s env ctxErr c c' out reply hcall hstep hok
  exact (DeleteState.moves hstep).gone_of_status (status_of_deleted hok) hcall.about

/-- The id of a test of the source. -/
theorem sandbox_1_is_reached :
    IsPlain (ascii "sandbox-1") ∧
      ∃ client, newHTTPSandboxClient Sample.urls (ascii "http://provider:8080") (ascii "token") =
          .ok client ∧
        ∃ request values,
          (∀ send, (KubernetesProvider.mk (ascii "http://provider:8080") (some client)).deleteInstance
              Sample.urls send (ascii "sandbox-1") =
            deleted Sample.urls (ascii "sandbox-1") (send request)) ∧
          dispatch Sample.urls.parseAuthority client.basePath request.method request.url.requestURI =
            .ok (.handler .deleteSandbox values) ∧
          pathValue values = ascii "sandbox-1" := by
  have hplain : IsPlain (ascii "sandbox-1") := by decide +kernel
  obtain ⟨client, hnew⟩ := Sample.newHTTPSandboxClient_endpoint
  refine ⟨hplain, client, hnew, ?_⟩
  have hne : ascii "sandbox-1" ≠ [] := by decide
  rcases deleteInstance_reaches Sample.urls hnew hne (by decide) (by decide) with
    ⟨message, hauthority, -⟩ | ⟨request, values, hsent, hdispatch, hvalue, -⟩
  · cases hauthority
  · exact ⟨request, values, hsent, hdispatch, hvalue.mpr hplain⟩

/-- `deleteSandbox` is asked for `a%20b` when `a b` is deleted. -/
theorem escaped_id_is_changed :
    (ascii "a b" ≠ [] ∧ ascii "a b" ≠ ascii "." ∧ ascii "a b" ≠ ascii ".." ∧ byte '/' ∉ ascii "a b") ∧
      ∃ client, newHTTPSandboxClient Sample.urls (ascii "http://provider:8080") (ascii "token") =
          .ok client ∧
        ∃ request values,
          (∀ send, (KubernetesProvider.mk (ascii "http://provider:8080") (some client)).deleteInstance
              Sample.urls send (ascii "a b") =
            deleted Sample.urls (ascii "a b") (send request)) ∧
          dispatch Sample.urls.parseAuthority client.basePath request.method request.url.requestURI =
            .ok (.handler .deleteSandbox values) ∧
          pathValue values = ascii "a%20b" ∧ pathValue values ≠ ascii "a b" := by
  refine ⟨by decide, ?_⟩
  obtain ⟨client, hnew⟩ := Sample.newHTTPSandboxClient_endpoint
  refine ⟨client, hnew, ?_⟩
  have hescape : pathEscape (ascii "a b") = ascii "a%20b" := by decide
  have hne : ascii "a b" ≠ [] := by decide
  rcases deleteInstance_pathValue Sample.urls hnew hne (by decide) (by decide) with
    ⟨message, hauthority, -⟩ | ⟨request, hsent, hdispatch⟩
  · cases hauthority
  · rw [hescape] at hdispatch
    exact ⟨request, _, hsent, hdispatch, rfl, by decide⟩

end SandboxProvider.Plugin
