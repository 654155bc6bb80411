import SandboxProvider.Server.Credentials

/-!
# A createSandbox call and its replays

What one createSandbox call knows and leaves behind. `CallState.found` are the states in which a call
that found its PodSandbox stays: it only reads there. `CallState.Attends` follows a call from its
arrival to its reply, `Established` is what a 201 leaves in the cluster, and `Replaying` are the states
that a replay of the request then runs through.
-/

namespace SandboxProvider

open Lib Server

/-! ## Calls that write nothing -/

namespace Server

/-- The states of a createSandbox call up to its first `Get` of the PodSandbox. -/
def CallState.early : CallState → Bool
  | .getToken .. | .listAccesses .. | .create (.getClass ..) | .create (.getSandbox _) => true
  | _ => false

/-- The states of a createSandbox call that has found its PodSandbox. -/
def CallState.found : CallState → Bool
  | .create (.poll _ _ false) | .create (.wait _ _ false) | .create (.done ..) => true
  | _ => false

section Quiet

variable {env : Env} {ctxErr : Option String} {c c' : Cluster} {out : Outcome} {cfg : Config}
  {s s' : CallState}

theorem CallMove.quiet_of_early (h : CallMove env ctxErr c cfg s s' c' out)
    (hs : s.early = true) : c' = c ∧ out.writes = [] := by
  cases h with
  | create h =>
    cases h
    case classFailed | classRead | sandboxUnread | sandboxMissing | sandboxFound |
      sandboxConflict => exact ⟨rfl, rfl⟩
    all_goals cases hs
  | config | delete => cases hs
  | tokenFailed | tokenRead | accessesFailed | accessesRead => exact ⟨rfl, rfl⟩

/-- The first states are not reached from later ones. -/
theorem CallMove.early_of_early (h : CallMove env ctxErr c cfg s s' c' out)
    (hs : s'.early = true) : s.early = true := by
  cases h with
  | create h =>
    cases h
    case classRead | sandboxUnread | sandboxMissing | sandboxFound | sandboxConflict => rfl
    case sandboxStored job secret t _ =>
      obtain ⟨_, _, he⟩ | he := adopt_cases job (asCreated env.uid job.sandbox) secret <;>
        rw [he] at hs <;> cases hs
    case polled job before createdHere o _ =>
      obtain ⟨_, he⟩ | ⟨_, -, he⟩ | he := afterPoll_cases job createdHere o <;> rw [he] at hs
      · cases hs
      · cases createdHere <;> cases hs
      · cases hs
    case pollFailed job sandbox createdHere err _ => cases createdHere <;> cases hs
    case expired job sandbox createdHere err _ => cases createdHere <;> cases hs
    all_goals cases hs
  | config | delete => cases hs
  | tokenFailed | tokenRead | accessesFailed | accessesRead => rfl

/-- A call that has found its PodSandbox only reads. -/
theorem CallMove.quiet_of_found (h : CallMove env ctxErr c cfg s s' c' out)
    (hs : s.found = true) : s'.found = true ∧ c' = c ∧ out.writes = [] := by
  cases h with
  | create h =>
    cases h
    case polled job before createdHere o _ =>
      cases createdHere with
      | true => cases hs
      | false =>
        obtain ⟨_, he⟩ | ⟨_, -, he⟩ | he := afterPoll_cases job false o <;> rw [he] <;>
          exact ⟨rfl, rfl, rfl⟩
    case pollFailed job sandbox createdHere err _ =>
      cases createdHere with
      | true => cases hs
      | false => exact ⟨rfl, rfl, rfl⟩
    case expired job sandbox createdHere err _ =>
      cases createdHere with
      | true => cases hs
      | false => exact ⟨rfl, rfl, rfl⟩
    case ticked job sandbox createdHere =>
      cases createdHere with
      | true => cases hs
      | false => exact ⟨rfl, rfl, rfl⟩
    all_goals cases hs
  | config | delete => cases hs
  | tokenFailed | tokenRead | accessesFailed | accessesRead => cases hs

/-- The `Get` that finds the PodSandbox. -/
theorem CreateMove.found_of_get {job : Job} {t : CreateState} {o : PodSandbox}
    (h : CreateMove env ctxErr c (.getSandbox job) t c' out)
    (hget : c.sandboxes.get job.key = some o) (hreached : refusal env ctxErr .request = none) :
    (CallState.create t).found = true := by
  cases h with
  | sandboxUnread hrefused =>
    obtain ⟨message, hmessage, -⟩ := hrefused
    rw [hreached] at hmessage
    cases hmessage
  | sandboxMissing hnone =>
    rw [hget] at hnone
    cases hnone
  | sandboxFound | sandboxConflict => rfl

end Quiet

end Server

/-! ## The call that answers 201 -/

namespace Cluster

/-- No Secret that requests are authorized with is stored under the key. -/
structure Spares (cfg : Config) (key : NamespacedName) (c : Cluster) : Prop where
  token : cfg.token = "" → cfg.tokenKey ≠ key
  accesses : ∀ x, c.secrets.get key = some x → ¬ isAccessSecret cfg x

/-- The Secrets are the same but for the one under the key, which authorizes nobody. -/
structure AgreeOff (cfg : Config) (key : NamespacedName) (c₀ c : Cluster) : Prop where
  others : ∀ k, k ≠ key → c.secrets.get k = c₀.secrets.get k
  before : c₀.Spares cfg key
  after : c.Spares cfg key

variable {cfg : Config} {key : NamespacedName} {c₀ c c' : Cluster}

theorem AgreeOff.authorizedAccess (h : AgreeOff cfg key c₀ c) (got : String) :
    Server.authorizedAccess cfg c got = Server.authorizedAccess cfg c₀ got := by
  have htoken : Server.token cfg c = Server.token cfg c₀ := by
    unfold Server.token
    by_cases hcfg : cfg.token = ""
    · rw [h.others _ (h.before.token hcfg)]
    · simp [hcfg]
  have haccesses {k : NamespacedName} {x : Secret} (hx : isAccessSecret cfg x) :
      c.secrets.get k = some x ↔ c₀.secrets.get k = some x := by
    by_cases hk : k = key
    · subst hk
      exact ⟨fun hget => absurd hx (h.after.accesses x hget),
        fun hget => absurd hx (h.before.accesses x hget)⟩
    · rw [h.others k hk]
  unfold Server.authorizedAccess
  rw [htoken, matchAccess_perm (accessSecrets_perm haccesses)]

theorem AgreeOff.trans (h : AgreeOff cfg key c₀ c) (h' : AgreeOff cfg key c c') :
    AgreeOff cfg key c₀ c' :=
  ⟨fun k hk => (h'.others k hk).trans (h.others k hk), h.before, h'.after⟩

theorem AgreeOff.of_secrets (h : c.Spares cfg key) (hsame : c'.secrets = c.secrets) :
    AgreeOff cfg key c c' :=
  ⟨fun k _ => by rw [hsame], h, ⟨h.token, fun x hx => h.accesses x (by rw [← hsame]; exact hx)⟩⟩

end Cluster

namespace Server

variable {env : Env} {ctxErr : Option String} {c₀ c c' : Cluster} {out : Outcome} {cfg : Config}
  {access : AuthorizedAccess} {request : CreateSandboxRequest} {got : String}

theorem not_isAccessSecret_of_labels {x : Secret} (h : x.metadata.labels = ∅) :
    ¬ isAccessSecret cfg x := by
  simp [isAccessSecret, hasLabel, h]

/-- One Secret changes, and has no labels afterwards. -/
theorem agreeOff_of_get {key : NamespacedName} {x : Option Secret} (hspares : c.Spares cfg key)
    (hget : ∀ k, c'.secrets.get k = if k = key then x else c.secrets.get k)
    (hlabels : ∀ y, x = some y → y.metadata.labels = ∅) : Cluster.AgreeOff cfg key c c' := by
  refine ⟨fun k hk => by rw [hget, if_neg hk], hspares, hspares.token, fun y hy => ?_⟩
  rw [hget, if_pos rfl] at hy
  exact not_isAccessSecret_of_labels (hlabels y hy)

/-- A call changes no Secret but its own. -/
theorem CreateMove.agreeOff {s s' : CreateState} (h : CreateMove env ctxErr c s s' c' out)
    (hheld : s.Held) {job : Job} (hjob : s.job = some job) (hspares : c.Spares cfg job.secretKey) :
    Cluster.AgreeOff cfg job.secretKey c c' := by
  cases h.secrets with
  | same hsame => exact .of_secrets hspares hsame
  | stored hst =>
    cases hjob
    refine agreeOff_of_get hspares hst.get fun y hy => ?_
    cases hy
    rfl
  | @deleted j secret message o hget hrm =>
    cases hjob
    have hkey : Keyed.key o = job.secretKey := (Table.key_of_get hget).trans hheld.1
    refine agreeOff_of_get (x := none) hspares (hkey ▸ hrm.get) fun y hy => ?_
    cases hy
  | @owned j o secret cur hget hrep =>
    cases hjob
    have hkey : Keyed.key cur = job.secretKey := (Table.key_of_get hget).trans hheld.1.1
    refine agreeOff_of_get hspares (hkey ▸ hrep.get) fun y hy => ?_
    cases hy
    exact hheld.1.2

/-- The fields that `createSandbox` requires. -/
def CreateSandboxRequest.Valid (request : CreateSandboxRequest) : Prop :=
  request.workloadRef.name ≠ "" ∧ request.sandboxID ≠ "" ∧ request.userData ≠ ""

/-- What a createSandbox call knows that was started with this access and request, in a cluster whose
Secrets were those of `c₀`. -/
structure CreateState.Attends (cfg : Config) (c₀ : Cluster) (access : AuthorizedAccess)
    (request : CreateSandboxRequest) (c : Cluster) (s : CreateState) : Prop where
  held : s.Held
  opening : s.job = none → s = .getClass access (.ok request) ∨ ∃ reply, s = .rejected reply
  job : ∀ {job}, s.job = some job → job = .of access request ∧ request.Valid ∧
    ∃ sandboxClass, c.classes.get ⟨"", access.className⟩ = some sandboxClass
  identity : ∀ {job}, s.checked = some job →
    ∃ o, c.sandboxes.get job.key = some o ∧ job.sameIdentity o
  secrets : Cluster.AgreeOff cfg (Job.of access request).secretKey c₀ c

theorem attends_rejected (h : Cluster.AgreeOff cfg (Job.of access request).secretKey c₀ c)
    (reply : Reply) : (CreateState.rejected reply).Attends cfg c₀ access request c where
  held := trivial
  opening _ := .inr ⟨reply, rfl⟩
  job hjob := nomatch hjob
  identity hchecked := nomatch hchecked
  secrets := h

theorem CreateMove.classes_eq {s s' : CreateState} (h : CreateMove env ctxErr c s s' c' out) :
    c'.classes = c.classes := by
  cases h <;> rfl

theorem CreateMove.attends {s s' : CreateState} (h : CreateMove env ctxErr c s s' c' out)
    (hs : s.Attends cfg c₀ access request c) : s'.Attends cfg c₀ access request c' := by
  cases hj : s.job with
  | none =>
    -- only the first state moves, to the first `Get` or to a rejection
    obtain rfl | ⟨reply, rfl⟩ := hs.opening hj
    · cases h with
      | classFailed => exact attends_rejected hs.secrets _
      | classRead hget =>
        obtain ⟨reply, -, he⟩ | ⟨r, hr, hname, hid, hdata, he⟩ := prepare_cases access (.ok request)
        · rw [he]
          exact attends_rejected hs.secrets reply
        · cases hr
          rw [he]
          refine ⟨trivial, nofun, fun hjob => ?_, fun hc => (nomatch hc), hs.secrets⟩
          cases hjob
          exact ⟨rfl, ⟨hname, hid, hdata⟩, _, hget⟩
    · cases h
  | some job =>
    obtain ⟨rfl, hvalid, hclass⟩ := hs.job hj
    have hjob' := h.job_eq hj
    refine ⟨h.held hs.held, fun hnone => ?_, fun hsome => ?_, fun hchecked => ?_, ?_⟩
    · rw [hjob'] at hnone
      cases hnone
    · rw [hjob'] at hsome
      cases hsome
      rw [h.classes_eq]
      exact ⟨rfl, hvalid, hclass⟩
    · rcases h.checked_cases hchecked with hbefore | ⟨o, -, hget, hid, rfl⟩ | ⟨secret, -, hst⟩
      · obtain ⟨o, hget, hid⟩ := hs.identity hbefore
        cases h.sandboxes with
        | same hsame => exact ⟨o, by rw [hsame]; exact hget, hid⟩
        | stored => cases hbefore
        | rolledBack => cases hbefore
      · exact ⟨o, hget, hid⟩
      · exact ⟨_, hst.get_self, rfl, rfl, rfl⟩
    · exact hs.secrets.trans (h.agreeOff hs.held hj hs.secrets.after)

/-- The token is accepted with this access. -/
structure Admits (cfg : Config) (c : Cluster) (got : String) (access : AuthorizedAccess) : Prop where
  granted : authorizedAccess cfg c got = .ok access
  className : access.className ≠ ""
  ns : access.ns ≠ ""

/-- What the request knows at each place, `c₀` being the cluster at its arrival. -/
def CallState.Attends (cfg : Config) (c₀ : Cluster) (got : String) (request : CreateSandboxRequest)
    (c : Cluster) : CallState → Prop
  | .getToken got' route => (got' = got ∧ route = .createSandbox (.ok request)) ∧
      c.secrets = c₀.secrets ∧ cfg.token = ""
  | .listAccesses got' route => (got' = got ∧ route = .createSandbox (.ok request)) ∧
      c.secrets = c₀.secrets ∧
      ∃ expected, token cfg c₀ = .ok expected ∧ ¬ tokenMatches got expected
  | .create s => ∃ access, Admits cfg c₀ got access ∧ s.Attends cfg c₀ access request c
  | .config _ | .delete _ | .replied _ => True

/-- The condition on the cluster in which a request arrives. -/
def Spared (cfg : Config) (c : Cluster) (got : String) (request : CreateSandboxRequest) : Prop :=
  ∀ access, authorizedAccess cfg c got = .ok access →
    c.Spares cfg (Job.of access request).secretKey

theorem authorized_attends {res : Except String AuthorizedAccess} (hspared : Spared cfg c₀ got request)
    (hsame : c.secrets = c₀.secrets)
    (hres : ∀ access, res = .ok access → authorizedAccess cfg c₀ got = .ok access) :
    (authorized (.createSandbox (.ok request)) res).Attends cfg c₀ got request c := by
  unfold authorized
  split
  · trivial
  · rename_i access
    split
    · trivial
    · rename_i hne
      obtain ⟨hclass, hns⟩ := not_or.mp hne
      have haccess := hres access rfl
      refine ⟨access, ⟨haccess, hclass, hns⟩, trivial, fun _ => .inl rfl, fun hjob => (nomatch hjob),
        fun hchecked => (nomatch hchecked), ?_⟩
      exact .of_secrets (hspared access haccess) hsame

theorem compareToken_attends {res : Except String String} (hspared : Spared cfg c₀ got request)
    (hsame : c.secrets = c₀.secrets)
    (hres : ∀ expected, res = .ok expected → token cfg c₀ = .ok expected) :
    (compareToken cfg got (.createSandbox (.ok request)) res).Attends cfg c₀ got request c := by
  unfold compareToken
  split
  · exact authorized_attends hspared hsame nofun
  · rename_i expected
    have htoken := hres expected rfl
    split
    · rename_i hmatches
      refine authorized_attends hspared hsame fun access haccess => ?_
      rw [authorizedAccess_of_token htoken, if_pos hmatches]
      exact haccess
    · rename_i hmatches
      exact ⟨⟨rfl, rfl⟩, hsame, expected, htoken, hmatches⟩

theorem authorize_attends {header : String}
    (hspared : Spared cfg c (trimPrefix header "Bearer ") request) :
    (authorize cfg header (.createSandbox (.ok request))).Attends cfg c
      (trimPrefix header "Bearer ") request c := by
  unfold authorize
  dsimp only
  split
  · rename_i htoken
    refine compareToken_attends hspared rfl fun expected he => ?_
    cases he
    simp [token, htoken]
  · rename_i htoken
    exact ⟨⟨rfl, rfl⟩, rfl, not_not.mp htoken⟩

theorem CallMove.attends {s s' : CallState} (hspared : Spared cfg c₀ got request)
    (h : CallMove env ctxErr c cfg s s' c' out) (hs : s.Attends cfg c₀ got request c) :
    s'.Attends cfg c₀ got request c' := by
  cases h with
  | tokenFailed =>
    obtain ⟨⟨rfl, rfl⟩, hsame, -⟩ := hs
    exact compareToken_attends hspared hsame nofun
  | tokenRead hget =>
    obtain ⟨⟨rfl, rfl⟩, hsame, htoken⟩ := hs
    refine compareToken_attends hspared hsame fun expected he => ?_
    rw [hsame] at hget
    unfold token
    rw [if_neg (not_not.mpr htoken), hget]
    exact he
  | accessesFailed =>
    obtain ⟨⟨rfl, rfl⟩, hsame, -⟩ := hs
    exact authorized_attends hspared hsame nofun
  | accessesRead =>
    obtain ⟨⟨rfl, rfl⟩, hsame, expected, htoken, hne⟩ := hs
    refine authorized_attends hspared hsame fun access haccess => ?_
    rw [authorizedAccess_of_token htoken, if_neg hne]
    unfold accessSecrets at haccess ⊢
    rw [hsame] at haccess
    exact haccess
  | create h =>
    obtain ⟨access, hadmits, hs⟩ := hs
    exact ⟨access, hadmits, h.attends hs⟩
  | config | delete => trivial

/-- A status write changes nothing that the request relies on. -/
theorem CallState.Attends.statusWritten {s : CallState} (hs : s.Attends cfg c₀ got request c)
    (hsecrets : c'.secrets = c.secrets) (hclasses : c'.classes = c.classes)
    (hsandboxes : ∀ {k o}, c.sandboxes.get k = some o →
      ∃ o', c'.sandboxes.get k = some o' ∧ o'.spec = o.spec) :
    s.Attends cfg c₀ got request c' := by
  cases s with
  | getToken => exact ⟨hs.1, hsecrets.trans hs.2.1, hs.2.2⟩
  | listAccesses => exact ⟨hs.1, hsecrets.trans hs.2.1, hs.2.2⟩
  | create s =>
    obtain ⟨access, hadmits, hs⟩ := hs
    refine ⟨access, hadmits, hs.held, hs.opening, fun hjob => ?_, fun hchecked => ?_, ?_⟩
    · rw [hclasses]
      exact hs.job hjob
    · obtain ⟨o, hget, hid, hclass, hworkload⟩ := hs.identity hchecked
      obtain ⟨o', hget', hspec⟩ := hsandboxes hget
      refine ⟨o', hget', ?_⟩
      unfold Job.sameIdentity
      rw [hspec]
      exact ⟨hid, hclass, hworkload⟩
    · exact hs.secrets.trans (.of_secrets hs.secrets.after hsecrets)
  | config | delete | replied => trivial

/-- What a 201 leaves behind: the token is accepted, the class and the PodSandbox are there, of the
identity of the request and ready. -/
structure Established (cfg : Config) (c : Cluster) (got : String) (request : CreateSandboxRequest)
    (response : SandboxResponse) (access : AuthorizedAccess) (sandboxClass : PodSandboxClass)
    (o : PodSandbox) : Prop where
  admits : Admits cfg c got access
  valid : request.Valid
  sandboxClass : c.classes.get ⟨"", access.className⟩ = some sandboxClass
  stored : c.sandboxes.get (Job.of access request).key = some o
  identity : (Job.of access request).sameIdentity o
  ready : isReady o = true
  response : response = ⟨o.metadata.name, request.workloadRef.name, o.status.ips⟩

theorem Entry.reply_ne_created {route : Route} {s : CallState} (h : Entry route s)
    {response : SandboxResponse} : s.reply ≠ some (.created response) := by
  cases h <;> simp [CallState.reply, CreateState.reply, ConfigState.reply, DeleteState.reply]

theorem CallMove.establishes {s s' : CallState} {response : SandboxResponse}
    (h : CallMove env ctxErr c cfg s s' c' out) (hs : s.Attends cfg c₀ got request c)
    (hnone : s.reply = none) (hreply : s'.reply = some (.created response)) :
    ∃ access sandboxClass o,
      Established cfg c' got request response access sandboxClass o := by
  cases h with
  | tokenFailed => exact absurd hreply (compareToken_entry _ _ _ _).reply_ne_created
  | tokenRead => exact absurd hreply (compareToken_entry _ _ _ _).reply_ne_created
  | accessesFailed => exact absurd hreply (authorized_entry _ _).reply_ne_created
  | accessesRead => exact absurd hreply (authorized_entry _ _).reply_ne_created
  | config h => cases h <;> cases hreply
  | delete h => cases h <;> cases hreply
  | create h =>
    obtain ⟨access, hadmits, hs⟩ := hs
    obtain ⟨job, before, createdHere, o, rfl, hget, hready, rfl, hresponse, rfl, -⟩ :=
      h.answers hnone hreply
    obtain ⟨rfl, hvalid, sandboxClass, hclass⟩ := hs.job rfl
    obtain ⟨o', hget', hid⟩ := hs.identity rfl
    rw [hget] at hget'
    cases hget'
    refine ⟨access, sandboxClass, o, ?_, hvalid, hclass, hget, hid, hready, hresponse⟩
    refine ⟨?_, hadmits.className, hadmits.ns⟩
    rw [hs.secrets.authorizedAccess]
    exact hadmits.granted

/-! ## The replays -/

/-- The request with other optional fields. -/
def CreateSandboxRequest.resized (request : CreateSandboxRequest) (vcpus memoryMiB : Int)
    (arch : String) : CreateSandboxRequest :=
  { request with vcpus := vcpus, memoryMiB := memoryMiB, arch := arch }

/-- The states of a replay, with a bound on the steps that it still takes. -/
inductive Replaying (cfg : Config) (c : Cluster) (got : String) (access : AuthorizedAccess)
    (request : CreateSandboxRequest) (reply : Reply) : Nat → CallState → Prop
  | getToken (htoken : cfg.token = "") :
      Replaying cfg c got access request reply 5 (.getToken got (.createSandbox (.ok request)))
  | listAccesses {expected} (htoken : token cfg c = .ok expected)
      (hne : ¬ tokenMatches got expected) :
      Replaying cfg c got access request reply 4 (.listAccesses got (.createSandbox (.ok request)))
  | getClass :
      Replaying cfg c got access request reply 3 (.create (.getClass access (.ok request)))
  | getSandbox :
      Replaying cfg c got access request reply 2 (.create (.getSandbox (.of access request)))
  | poll (sandbox : PodSandbox) :
      Replaying cfg c got access request reply 1 (.create (.poll (.of access request) sandbox false))
  | done (job : Job) (sandbox : PodSandbox) :
      Replaying cfg c got access request reply 0 (.create (.done job sandbox reply))

section Replaying

variable {response : SandboxResponse} {sandboxClass : PodSandboxClass} {o : PodSandbox}
  {vcpus memoryMiB : Int} {arch : String}

theorem authorized_replaying (h : Admits cfg c got access) (reply : Reply) :
    Replaying cfg c got access request reply 3
      (authorized (.createSandbox (.ok request)) (.ok access)) := by
  unfold authorized
  dsimp only
  rw [if_neg (not_or.mpr ⟨h.className, h.ns⟩)]
  exact .getClass

theorem compareToken_replaying {expected : String} (h : Admits cfg c got access)
    (htoken : token cfg c = .ok expected) (reply : Reply) :
    ∃ n ≤ 4, Replaying cfg c got access request reply n
      (compareToken cfg got (.createSandbox (.ok request)) (.ok expected)) := by
  have hgranted := h.granted
  rw [authorizedAccess_of_token htoken] at hgranted
  unfold compareToken
  dsimp only
  split
  · rename_i hmatches
    rw [if_pos hmatches] at hgranted
    refine ⟨3, by omega, ?_⟩
    rw [hgranted]
    exact authorized_replaying h reply
  · rename_i hne
    exact ⟨4, by omega, .listAccesses htoken hne⟩

/-- The expected token is known where the token is accepted. -/
theorem Admits.token (h : Admits cfg c got access) : ∃ expected, Server.token cfg c = .ok expected := by
  have hgranted := h.granted
  unfold authorizedAccess at hgranted
  cases htoken : Server.token cfg c with
  | ok expected => exact ⟨expected, rfl⟩
  | error err =>
    rw [htoken] at hgranted
    cases hgranted

theorem authorize_replaying {header : String}
    (h : Admits cfg c (trimPrefix header "Bearer ") access) (reply : Reply) :
    ∃ n, Replaying cfg c (trimPrefix header "Bearer ") access request reply n
      (authorize cfg header (.createSandbox (.ok request))) := by
  unfold authorize
  dsimp only
  split
  · rename_i htoken
    have hexpected : Server.token cfg c = .ok cfg.token := by simp [Server.token, htoken]
    obtain ⟨n, -, hn⟩ := compareToken_replaying h hexpected reply
    exact ⟨n, hn⟩
  · rename_i htoken
    exact ⟨5, .getToken (not_not.mp htoken)⟩

/-- A call that reaches the server. -/
theorem step_of_exec {σ : Type} {req : Request} {resume : Time → Except ApiError req.Result → σ}
    {res : Except ApiError req.Result} {ws : List Write} (hfault : env.fault = none)
    (hexec : c.exec env req = some (res, c', ws)) :
    (Next.call .request req resume).step env none c =
      some (resume env.now res, c', res.map fun _ => ws) := by
  simp only [Next.step, respond, refusal, hfault, Option.or_none, hexec]

theorem afterPoll_of_ready {job : Job} (h : isReady o = true) (createdHere : Bool) :
    afterPoll job createdHere o =
      .done job o (.created ⟨o.metadata.name, job.request.workloadRef.name, o.status.ips⟩) := by
  unfold afterPoll
  rw [if_pos]
  simpa [isReady] using h

/-- **A replay takes its next step**, whatever the clock says, and changes nothing. -/
theorem Established.replay_step
    (he : Established cfg c got request response access sandboxClass o) (hfault : env.fault = none)
    {n : Nat} {s : CallState}
    (hs : Replaying cfg c got access (request.resized vcpus memoryMiB arch) (.created response)
      (n + 1) s) :
    ∃ m ≤ n, ∃ s', (s.next cfg).step env none c = some (s', c, .ok []) ∧
      Replaying cfg c got access (request.resized vcpus memoryMiB arch) (.created response) m s' := by
  have hread : c.exec env (.getSandbox (Job.of access (request.resized vcpus memoryMiB arch)).key) =
      some (.ok o, c, []) := by
    have hstored : c.sandboxes.get (Job.of access (request.resized vcpus memoryMiB arch)).key =
        some o := he.stored
    simp [Cluster.exec, getObject, hstored]
  cases hs with
  | getToken htoken =>
    obtain ⟨expected, hexpected⟩ := he.admits.token
    unfold Server.token at hexpected
    rw [if_neg (not_not.mpr htoken)] at hexpected
    cases hget : c.secrets.get cfg.tokenKey with
    | none =>
      rw [hget] at hexpected
      cases hexpected
    | some secret =>
      rw [hget] at hexpected
      have htoken' : Server.token cfg c = .ok expected := by
        unfold Server.token
        rw [if_neg (not_not.mpr htoken), hget]
        exact hexpected
      obtain ⟨m, hm, hreplaying⟩ := compareToken_replaying he.admits htoken' (.created response)
      refine ⟨m, hm, _, ?_, hreplaying⟩
      have hexec : c.exec env (.getSecret cfg.tokenKey) = some (.ok secret, c, []) := by
        simp [Cluster.exec, getObject, hget]
      rw [CallState.next, step_of_exec hfault hexec, ← hexpected]
      rfl
  | listAccesses htoken hne =>
    have hgranted := he.admits.granted
    rw [authorizedAccess_of_token htoken, if_neg hne] at hgranted
    refine ⟨3, by omega, _, ?_, authorized_replaying he.admits (.created response)⟩
    rw [CallState.next, step_of_exec hfault rfl, ← hgranted]
    rfl
  | getClass =>
    refine ⟨2, by omega, _, ?_, .getSandbox⟩
    have hexec : c.exec env (.getClass access.className) = some (.ok sandboxClass, c, []) := by
      simp [Cluster.exec, getObject, he.sandboxClass]
    obtain ⟨hname, hid, hdata⟩ := he.valid
    rw [CallState.next, Next.step_map, CreateState.next, step_of_exec hfault hexec]
    simp [prepare, CreateSandboxRequest.resized, hname, hid, hdata, Except.map]
  | getSandbox =>
    refine ⟨1, by omega, _, ?_, .poll o⟩
    have hid : (Job.of access (request.resized vcpus memoryMiB arch)).sameIdentity o := he.identity
    rw [CallState.next, Next.step_map, CreateState.next, step_of_exec hfault hread]
    dsimp only
    rw [if_pos hid]
    rfl
  | poll =>
    refine ⟨0, by omega, _, ?_, .done (.of access (request.resized vcpus memoryMiB arch)) o⟩
    rw [CallState.next, Next.step_map, CreateState.next, step_of_exec hfault hread, he.response]
    dsimp only
    rw [afterPoll_of_ready he.ready]
    rfl

theorem Replaying.reply_eq {reply : Reply} {n : Nat} {s : CallState}
    (h : Replaying cfg c got access request reply n s) :
    s.reply = if n = 0 then some reply else none := by
  cases h <;> rfl

/-- Nothing follows the reply. -/
theorem Replaying.step_zero {reply : Reply} {s : CallState}
    (h : Replaying cfg c got access request reply 0 s) : (s.next cfg).step env ctxErr c = none := by
  cases h
  rfl

end Replaying

end Server

end SandboxProvider
