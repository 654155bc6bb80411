import SandboxProvider.Plugin.Client
import SandboxProvider.Server.Routes

/-!
# Endpoints

`client.go` and `provider.go`: `newHTTPSandboxClient`, the requests that `httpSandboxClient` makes of its
base URL, and `DeleteInstance`. Texts are bytes here. What an HTTP client does with a request is left to a
function that sends it.

The request for a path of clean segments reaches the handler that the routes of the API server give for
these segments, whatever the endpoint (`HTTPSandboxClient.reaches_of_segments`).
-/

namespace SandboxProvider.Plugin

open Lib NetUrl ServeMux Server

/-- What the plugin takes from its libraries: the parser of authorities, the text of a `url.Error` about
a URL, and `%q`. -/
structure UrlRuntime where
  parseAuthority : Bytes → Bytes → Except String (Option Userinfo × Bytes)
  errText : Bytes → ParseError → String
  quote : Bytes → String

/-- `httpSandboxClient`: `newHTTPSandboxClient` refuses other base URLs. -/
structure HTTPSandboxClient where
  baseURL : Url
  token : Bytes
  parsed : baseURL.Parsed
  scheme : baseURL.scheme = ascii "http" ∨ baseURL.scheme = ascii "https"
  host_ne : baseURL.host ≠ []

def newHTTPSandboxClient (rt : UrlRuntime) (endpoint token : Bytes) : Except String HTTPSandboxClient :=
  match hparse : parseReference rt.parseAuthority endpoint with
  | .error err => .error ("parse Pod Sandbox endpoint: " ++ rt.errText endpoint err)
  | .ok baseURL =>
    if hscheme : baseURL.scheme ≠ ascii "http" ∧ baseURL.scheme ≠ ascii "https" then
      .error "pod sandbox endpoint must use http or https"
    else if hhost : baseURL.host = [] then .error "pod sandbox endpoint must include a host"
    else .ok ⟨baseURL, token, parsed_of_parseReference hparse, by tauto, hhost⟩

/-! ## Requests -/

/-- `strings.TrimSuffix(s, "/")`. -/
def trimSlash (s : Bytes) : Bytes := if s.getLast? = some (byte '/') then s.dropLast else s

/-- An HTTP request with the headers that are set. -/
structure HTTPRequest where
  method : Method
  url : Url
  contentType : Option String
  authorization : Option Bytes
  body : Option (List Char)

namespace HTTPSandboxClient

/-- The path that the API server stands behind. -/
def basePath (c : HTTPSandboxClient) : Bytes := trimSlash c.baseURL.path

def requestURL (c : HTTPSandboxClient) (path : Bytes) : Url :=
  { c.baseURL with path := c.basePath ++ ascii "/" ++ path }

/-- `do` up to the call: the request is made of the text of its URL. -/
def newRequest (rt : UrlRuntime) (c : HTTPSandboxClient) (method : Method) (path : Bytes)
    (body : Option (List Char)) : Except String HTTPRequest :=
  match parseReference rt.parseAuthority (c.requestURL path).render with
  | .error err =>
    .error ("create Pod Sandbox request: " ++ rt.errText (c.requestURL path).render err)
  | .ok url => .ok {
      method, url, body
      contentType := body.map fun _ => "application/json"
      authorization := if c.token ≠ [] then some (ascii "Bearer " ++ c.token) else none }

/-- `do`, with what it makes of the response. -/
def doRequest {α : Type} (rt : UrlRuntime) (c : HTTPSandboxClient)
    (send : HTTPRequest → Except String Response) (method : Method) (path : Bytes)
    (body : Option (List Char)) (receive : Response → Except String α) : Except String α :=
  match c.newRequest rt method path body with
  | .error err => .error err
  | .ok request =>
    match send request with
    | .error err => .error ("call Pod Sandbox API: " ++ err)
    | .ok response => receive response

/-- `Config`. -/
def config (rt : UrlRuntime) (c : HTTPSandboxClient) (send : HTTPRequest → Except String Response)
    (errText : DecodeError → String) : Except String Client.SandboxProviderConfig :=
  c.doRequest rt send .get (ascii "v1/config") none (Client.receive Client.decodeProviderConfig {} errText)

/-- `Create`. -/
def create (rt : UrlRuntime) (c : HTTPSandboxClient) (send : HTTPRequest → Except String Response)
    (errText : DecodeError → String) (request : Client.CreateSandboxRequest) :
    Except String Client.Sandbox :=
  c.doRequest rt send .post (ascii "v1/sandboxes") (some request.marshal)
    (Client.receive Client.decodeSandbox {} errText)

/-- The path of a sandbox. -/
def deletePath (id : Bytes) : Bytes := ascii "v1/sandboxes/" ++ pathEscape id

/-- `Delete`: without a result the body of a response is not decoded. -/
def delete (rt : UrlRuntime) (c : HTTPSandboxClient) (send : HTTPRequest → Except String Response)
    (id : Bytes) : Except String Unit :=
  c.doRequest rt send .delete (deletePath id) none (Client.receive (fun _ => .ok ()) () fun _ => "")

end HTTPSandboxClient

/-! ## DeleteInstance -/

/-- `kubernetesProvider`, with the endpoint of its configuration. -/
structure KubernetesProvider where
  endpoint : Bytes
  client : Option HTTPSandboxClient

namespace KubernetesProvider

def configVerifier (p : KubernetesProvider) : Except String HTTPSandboxClient :=
  if p.endpoint = [] then .error "KUBERNETES_POD_SANDBOX_ENDPOINT is required"
  else
    match p.client with
    | none => .error "pod sandbox API client is not configured"
    | some client => .ok client

def deleteInstance (rt : UrlRuntime) (p : KubernetesProvider)
    (send : HTTPRequest → Except String Response) (instanceID : Bytes) : Except String Unit :=
  if instanceID = [] then .error "DeleteInstance called with empty instanceID"
  else
    match p.configVerifier with
    | .error err => .error err
    | .ok client =>
      match client.delete rt send instanceID with
      | .error err =>
        .error ("delete Kubernetes Pod Sandbox " ++ rt.quote instanceID ++ ": " ++ err)
      | .ok () => .ok ()

end KubernetesProvider

/-! ## Base URLs -/

theorem length_trimSlash (s : Bytes) : s.length ≤ (trimSlash s).length + 1 := by
  unfold trimSlash
  split
  · rw [List.length_dropLast]
    omega
  · omega

theorem trimSlash_rooted {s : Bytes} (h : s = [] ∨ s.head? = some (byte '/')) :
    trimSlash s = [] ∨ (trimSlash s).head? = some (byte '/') := by
  unfold trimSlash
  split
  · rcases h with rfl | h
    · exact .inl rfl
    · obtain ⟨rest, rfl⟩ := List.head?_eq_some_iff.mp h
      cases rest with
      | nil => exact .inl rfl
      | cons c rest => exact .inr rfl
  · exact h

theorem newHTTPSandboxClient_ok {rt : UrlRuntime} {endpoint token : Bytes} {client : HTTPSandboxClient}
    (h : newHTTPSandboxClient rt endpoint token = .ok client) :
    parseReference rt.parseAuthority endpoint = .ok client.baseURL ∧ client.token = token := by
  unfold newHTTPSandboxClient at h
  split at h
  · cases h
  rename_i baseURL hparse
  split at h
  · cases h
  split at h
  · cases h
  cases h
  exact ⟨hparse, rfl⟩

/-- An endpoint with a host and one of the two schemes has a client. -/
theorem newHTTPSandboxClient_of_parse {rt : UrlRuntime} {endpoint : Bytes} {baseURL : Url}
    (hparse : parseReference rt.parseAuthority endpoint = .ok baseURL)
    (hscheme : baseURL.scheme = ascii "http" ∨ baseURL.scheme = ascii "https")
    (hhost : baseURL.host ≠ []) (token : Bytes) :
    ∃ client, newHTTPSandboxClient rt endpoint token = .ok client ∧ client.baseURL = baseURL := by
  unfold newHTTPSandboxClient
  split
  · rename_i err herr
    rw [hparse] at herr
    cases herr
  · rename_i url hurl
    rw [hparse] at hurl
    cases hurl
    rw [dif_neg (by tauto), dif_neg hhost]
    exact ⟨_, rfl, rfl⟩

/-- No client is made for an empty endpoint. -/
theorem endpoint_ne_nil {rt : UrlRuntime} {endpoint token : Bytes} {client : HTTPSandboxClient}
    (h : newHTTPSandboxClient rt endpoint token = .ok client) : endpoint ≠ [] := by
  rintro rfl
  have hempty : parseReference rt.parseAuthority [] = .ok {} := rfl
  have hbase : client.baseURL = {} := Except.ok.inj ((newHTTPSandboxClient_ok h).1.symm.trans hempty)
  have hscheme := client.scheme
  rw [hbase] at hscheme
  revert hscheme
  decide

namespace HTTPSandboxClient

variable (rt : UrlRuntime) (c : HTTPSandboxClient)

theorem scheme_lower : c.baseURL.scheme.map toLower = c.baseURL.scheme := by
  rcases c.scheme with h | h
  · rw [h]
    decide
  · rw [h]
    decide

theorem basePath_rooted : c.basePath = [] ∨ c.basePath.head? = some (byte '/') :=
  trimSlash_rooted (c.parsed.path c.host_ne)

theorem head?_requestURL (path : Bytes) : (c.requestURL path).path.head? = some (byte '/') := by
  have hpath : (c.requestURL path).path = c.basePath ++ ascii "/" ++ path := rfl
  rw [hpath, List.append_assoc]
  rcases c.basePath_rooted with h | h
  · rw [h]
    rfl
  · rw [List.head?_append, h]
    rfl

/-- The path of a request is longer than that of the base URL, so the escaped form of the latter is not
taken for it. -/
theorem escapedPath_requestURL {path : Bytes} (hne : path ≠ []) :
    (c.requestURL path).escapedPath = escape .path (c.requestURL path).path := by
  refine (c.requestURL path).escapedPath_of_ne ?_ (c.head?_requestURL path)
  intro h
  have hlength : (c.requestURL path).path.length = c.basePath.length + 1 + path.length := by
    have hpath : (c.requestURL path).path = c.basePath ++ ascii "/" ++ path := rfl
    rw [hpath, List.length_append, List.length_append]
    rfl
  have hpos : 0 < path.length := List.length_pos_iff.mpr hne
  rcases c.parsed.rawPath with hraw | hraw
  · have hnil : unescapeBytes c.baseURL.rawPath = some [] := by rw [hraw]; rfl
    have hpath : (c.requestURL path).path = [] := Option.some.inj (h.symm.trans hnil)
    rw [hpath, List.length_nil] at hlength
    omega
  · have hpath : (c.requestURL path).path = c.baseURL.path := Option.some.inj (h.symm.trans hraw)
    have htrim := length_trimSlash c.baseURL.path
    have hbase : c.basePath = trimSlash c.baseURL.path := rfl
    rw [hpath, hbase] at hlength
    omega

theorem requestURL_absolute {path : Bytes} (hne : path ≠ []) : (c.requestURL path).Absolute where
  scheme_ne := by
    change c.baseURL.scheme ≠ []
    rcases c.scheme with h | h <;> rw [h] <;> decide
  scheme := by
    change ∀ b ∈ c.baseURL.scheme, isLetter b = true
    rcases c.scheme with h | h <;> rw [h] <;> decide +kernel
  rootless := c.parsed.rootless c.host_ne
  host_ne := c.host_ne
  path := c.head?_requestURL path
  rawPath := c.escapedPath_requestURL hne
  hash := c.parsed.hash
  control := c.parsed.control

/-- The handler that a request reaches in the API server behind the base URL. No request is made when
the parser of authorities refuses the rendered one. -/
def Reaches (method : Method) (path : Bytes) (body : Option (List Char)) (handler : Registered)
    (values : List Bytes) : Prop :=
  (∃ message, rt.parseAuthority c.baseURL.scheme c.baseURL.authority = .error message ∧
      c.newRequest rt method path body = .error ("create Pod Sandbox request: " ++
        rt.errText (c.requestURL path).render (.authority message))) ∨
    ∃ request, c.newRequest rt method path body = .ok request ∧
      dispatch rt.parseAuthority c.basePath request.method request.url.requestURI =
        .ok (.handler handler values)

/-- **Requests reach their handler**: a request for clean segments is dispatched by these segments. -/
theorem reaches_of_segments {method : Method} {path : Bytes} {segs values : List Bytes}
    {handler : Registered} (body : Option (List Char)) (hpath : path = [byte '/'].intercalate segs)
    (hne : segs ≠ []) (h : ∀ s ∈ segs, IsSegment s)
    (hmatch : matchPath (methodNode patterns method) [] segs = some (handler, values)) :
    c.Reaches rt method path body handler values := by
  have hnil : path ≠ [] := by
    intro hnil
    obtain ⟨b, hb, -⟩ := getLast?_intercalate hne h
    rw [← hpath, hnil] at hb
    cases hb
  have habsolute := c.requestURL_absolute hnil
  unfold Reaches newRequest
  rcases habsolute.parseReference_render rt.parseAuthority with
    ⟨message, hauthority, hrefused⟩ | ⟨url, hurl, htarget⟩
  · left
    have hscheme : (c.requestURL path).scheme.map toLower = c.baseURL.scheme := c.scheme_lower
    rw [hscheme] at hauthority
    rw [hrefused]
    exact ⟨message, hauthority, rfl⟩
  · right
    rw [hurl]
    refine ⟨_, rfl, ?_⟩
    have hsegs : (c.requestURL path).path = c.basePath ++ rooted segs := by
      rw [rooted, ← hpath]
      exact List.append_assoc _ _ _
    dsimp only
    rw [htarget, hsegs]
    exact dispatch_rooted rt.parseAuthority c.basePath_rooted hne h hmatch _
      habsolute.any_isControl_query

theorem isSegment_literal : ∀ s ∈ [ascii "v1", ascii "config", ascii "sandboxes"], IsSegment s := by
  have hliteral : ∀ s ∈ [ascii "v1", ascii "config", ascii "sandboxes"],
      s ≠ [] ∧ s ≠ ascii "." ∧ s ≠ ascii ".." ∧ byte '/' ∉ s := by
    decide
  intro s hs
  obtain ⟨hne, hdot, hdots, hslash⟩ := hliteral s hs
  exact ⟨hne, hdot, hdots, hslash⟩

theorem reaches_getConfig : c.Reaches rt .get (ascii "v1/config") none .getConfig [] := by
  refine c.reaches_of_segments rt none rfl (List.cons_ne_nil _ _) ?_ matchPath_getConfig
  intro s hs
  apply isSegment_literal
  simp only [List.mem_cons] at hs ⊢
  tauto

theorem reaches_createSandbox (request : Client.CreateSandboxRequest) :
    c.Reaches rt .post (ascii "v1/sandboxes") (some request.marshal) .createSandbox [] := by
  refine c.reaches_of_segments rt _ rfl (List.cons_ne_nil _ _) ?_ matchPath_createSandbox
  intro s hs
  apply isSegment_literal
  simp only [List.mem_cons] at hs ⊢
  tauto

/-- The API server unescapes what was escaped twice once. -/
theorem reaches_deleteSandbox {id : Bytes} (hne : id ≠ []) (hdot : id ≠ ascii ".")
    (hdots : id ≠ ascii "..") :
    c.Reaches rt .delete (deletePath id) none .deleteSandbox [pathEscape id] := by
  have hslash : byte '/' ∉ pathEscape id := not_mem_escape (by decide) (by decide) id
  have hid : IsSegment (pathEscape id) := .of_ne hne hdot hdots hslash
  have hpath : deletePath id = [byte '/'].intercalate [ascii "v1", ascii "sandboxes", pathEscape id] := by
    simp only [deletePath, List.intercalate_cons_cons, List.intercalate_singleton]
    rfl
  have hmatch : pathEscape id ≠ ascii "/" := by
    intro h
    rw [h] at hslash
    exact hslash (by decide)
  refine c.reaches_of_segments rt none hpath (List.cons_ne_nil _ _) ?_ (matchPath_deleteSandbox hmatch)
  intro s hs
  simp only [List.mem_cons, List.not_mem_nil, or_false] at hs
  rcases hs with rfl | rfl | rfl
  · exact isSegment_literal _ (by simp)
  · exact isSegment_literal _ (by simp)
  · exact hid

end HTTPSandboxClient

end SandboxProvider.Plugin
