import SandboxProvider.Api.Cluster

/-!
# Configuration and tokens of the API server

`internal/server/server.go`: `New`, `token`, `tokenMatches`, `authorizedAccess`. The functions here
compute on what was read from the cluster; the handlers in `Server.Handlers` interleave the reads.
-/

namespace SandboxProvider.Server

/-- The fields of `Config` as the caller of `New` gives them. -/
structure Options where
  address : String := ""
  ns : String := ""
  token : String := ""
  tokenSecretName : String := ""
  className : String := ""
  deriving DecidableEq, Repr

/-- The configuration of a running server: `New` refuses an empty namespace or class name. -/
structure Config extends Options where
  ns_ne : ns ≠ ""
  className_ne : className ≠ ""

/-- `New`: the defaults, and the two required fields. -/
def new (o : Options) : Except String Config :=
  let o := { o with
    address := if o.address = "" then ":8080" else o.address
    tokenSecretName := if o.tokenSecretName = "" then "pod-sandbox-api" else o.tokenSecretName }
  if h : o.ns = "" ∨ o.className = "" then
    .error "namespace and class name are required"
  else
    .ok ⟨o, fun e => h (.inl e), fun e => h (.inr e)⟩

def AccessSecretLabel : String := "sandbox.caa.mnicloud.jp/access"
def AccessSecretLabelValue : String := "true"
def AccessSecretTokenKey : String := "token"
def AccessSecretClassKey : String := "className"
def AccessSecretNamespaceKey : String := "namespace"

/-- `authorizedAccess` (the struct): the class and namespace a token stands for. -/
structure AuthorizedAccess where
  className : String := ""
  ns : String := ""
  deriving DecidableEq, Repr

/-- The comparison in constant time is an equality test. -/
def tokenMatches (got expected : String) : Bool :=
  got ≠ "" && got.utf8ByteSize = expected.utf8ByteSize && got = expected

theorem tokenMatches_iff {got expected : String} :
    tokenMatches got expected = true ↔ got ≠ "" ∧ got = expected := by
  unfold tokenMatches
  constructor
  · intro h
    simp only [Bool.and_eq_true, decide_eq_true_eq] at h
    exact ⟨h.1.1, h.2⟩
  · rintro ⟨hne, rfl⟩
    simp [hne]

/-- The key of the Secret that holds the API token. -/
def Config.tokenKey (cfg : Config) : NamespacedName := ⟨cfg.ns, cfg.tokenSecretName⟩

/-- The token of the Secret read by `token`. -/
def secretToken (secret : Secret) : Except String String :=
  let token := secret.data.getD "token"
  if token = "" then .error "pod sandbox API token is empty" else .ok token

/-- The class and namespace that an access Secret grants. -/
def grant (secret : Secret) : AuthorizedAccess :=
  ⟨secret.data.getD AccessSecretClassKey, secret.data.getD AccessSecretNamespaceKey⟩

/-- The loop over the access Secrets, with `matched` as the accumulator. -/
def matchAccess (got : String) : AuthorizedAccess → List Secret → Except String AuthorizedAccess
  | matched, [] => .ok matched
  | matched, secret :: rest =>
    if ¬ tokenMatches got (secret.data.getD AccessSecretTokenKey) then
      matchAccess got matched rest
    else
      let candidate := grant secret
      if candidate.className = "" ∨ candidate.ns = "" ∨
          (matched.className ≠ "" ∧ matched ≠ candidate) then
        .error "pod sandbox API access secret is invalid"
      else
        matchAccess got candidate rest

/-- The access Secrets of the provider's namespace. -/
def accessSecrets (cfg : Config) (c : Cluster) : List Secret :=
  c.secrets.list.filter fun o =>
    o.metadata.ns = cfg.ns && hasLabel o AccessSecretLabel AccessSecretLabelValue

/-- `token`. -/
def token (cfg : Config) (c : Cluster) : Except String String :=
  if cfg.token ≠ "" then .ok cfg.token
  else
    match c.secrets.get cfg.tokenKey with
    | none => .error (notFound Secret cfg.tokenKey).message
    | some secret => secretToken secret

/-- `authorizedAccess`, with both reads made in one state of the cluster. -/
def authorizedAccess (cfg : Config) (c : Cluster) (got : String) :
    Except String AuthorizedAccess := do
  let expected ← token cfg c
  if tokenMatches got expected then
    pure ⟨cfg.className, cfg.ns⟩
  else
    matchAccess got {} (accessSecrets cfg c)

end SandboxProvider.Server
