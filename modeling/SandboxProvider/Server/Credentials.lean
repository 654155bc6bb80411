import SandboxProvider.Server.Scope

/-!
# Tokens and the Secrets they are compared with

What `authorizedAccess` returns depends on the API token Secret and on the access Secrets only, not
on the order in which they are listed. A call within a scope leaves them alone, as long as none of
them has the name of a userdata Secret. `CallState.Grants` follows a request from its token to the
access its handler works with.
-/

namespace SandboxProvider

open Lib Server

/-- An access Secret of the provider. -/
def Server.isAccessSecret (cfg : Config) (o : Secret) : Bool :=
  o.metadata.ns = cfg.ns && hasLabel o AccessSecretLabel AccessSecretLabelValue

/-! ## The loop over the access Secrets -/

/-- The order of the access Secrets does not matter. -/
theorem matchAccess_perm {got : String} {l l' : List Secret} (h : l.Perm l') :
    ∀ matched, matchAccess got matched l = matchAccess got matched l' := by
  induction h with
  | nil => intro matched; rfl
  | cons secret _ ih =>
    intro matched
    unfold matchAccess
    simp only [ih]
  | swap x y l =>
    intro matched
    simp only [matchAccess]
    generalize grant x = gx
    generalize grant y = gy
    grind
  | trans _ _ ih₁ ih₂ => exact fun matched => (ih₁ matched).trans (ih₂ matched)

/-! ## Clusters with the same credentials -/

namespace Cluster

/-- The token-bearing Secrets are the same. -/
structure SameCredentials (cfg : Config) (c c' : Cluster) : Prop where
  token : c'.secrets.get cfg.tokenKey = c.secrets.get cfg.tokenKey
  accesses : ∀ {k x}, isAccessSecret cfg x →
    (c'.secrets.get k = some x ↔ c.secrets.get k = some x)

/-- The same access Secrets are listed, in some order. -/
theorem accessSecrets_perm {cfg : Config} {c c' : Cluster}
    (h : ∀ {k x}, isAccessSecret cfg x → (c'.secrets.get k = some x ↔ c.secrets.get k = some x)) :
    (accessSecrets cfg c').Perm (accessSecrets cfg c) := by
  refine (List.perm_ext_iff_of_nodup ?_ ?_).mpr fun x => ?_
  · exact (Table.nodup_list _).filter _
  · exact (Table.nodup_list _).filter _
  · unfold Server.accessSecrets
    simp only [List.mem_filter, Table.mem_list]
    constructor
    · rintro ⟨hget, hx⟩
      exact ⟨(h hx).mp hget, hx⟩
    · rintro ⟨hget, hx⟩
      exact ⟨(h hx).mpr hget, hx⟩

/-- No token-bearing Secret has the name of a userdata Secret. -/
structure CredentialNames (cfg : Config) (c : Cluster) : Prop where
  token : ¬ IsUserdataName cfg.tokenSecretName
  accesses : ∀ {k x}, c.secrets.get k = some x → isAccessSecret cfg x → ¬ IsUserdataName k.name

namespace SameCredentials

variable {cfg : Config} {c c' c'' : Cluster}

theorem refl (cfg : Config) (c : Cluster) : SameCredentials cfg c c :=
  ⟨rfl, fun _ => .rfl⟩

theorem symm (h : SameCredentials cfg c c') : SameCredentials cfg c' c :=
  ⟨h.token.symm, fun hx => (h.accesses hx).symm⟩

theorem trans (h : SameCredentials cfg c c') (h' : SameCredentials cfg c' c'') :
    SameCredentials cfg c c'' :=
  ⟨h'.token.trans h.token, fun hx => (h'.accesses hx).trans (h.accesses hx)⟩

theorem names (h : SameCredentials cfg c c') (hn : CredentialNames cfg c) :
    CredentialNames cfg c' :=
  ⟨hn.token, fun hget hx => hn.accesses ((h.accesses hx).mp hget) hx⟩

theorem accessSecrets (h : SameCredentials cfg c c') :
    (Server.accessSecrets cfg c').Perm (Server.accessSecrets cfg c) :=
  accessSecrets_perm h.accesses

theorem token_eq (h : SameCredentials cfg c c') : Server.token cfg c' = Server.token cfg c := by
  unfold Server.token
  rw [h.token]

theorem matchAccess (h : SameCredentials cfg c c') (got : String) :
    Server.matchAccess got {} (Server.accessSecrets cfg c') =
      Server.matchAccess got {} (Server.accessSecrets cfg c) :=
  matchAccess_perm h.accessSecrets {}

theorem authorizedAccess (h : SameCredentials cfg c c') (got : String) :
    Server.authorizedAccess cfg c' got = Server.authorizedAccess cfg c got := by
  unfold Server.authorizedAccess
  rw [h.token_eq, h.matchAccess got]

end SameCredentials

/-- A call within a scope, even the provider's own namespace, keeps the credentials. -/
theorem Confined.sameCredentials {access : AuthorizedAccess} {cfg : Config} {c c' : Cluster}
    (h : Confined access c c') (hn : CredentialNames cfg c) : SameCredentials cfg c c' where
  token := h.secrets (.inr hn.token)
  accesses {k x} hx := by
    constructor
    · intro hget
      obtain hget | hlabels := h.unlabelled hget
      · exact hget
      · simp [isAccessSecret, hasLabel, hlabels] at hx
    · intro hget
      rw [h.secrets (.inr (hn.accesses hget hx))]
      exact hget

end Cluster

/-! ## From the token to the access -/

namespace Server

/-- Every access that the request has, or will be given, satisfies `P`. -/
def CallState.Grants (cfg : Config) (c : Cluster) (P : AuthorizedAccess → Prop) : CallState → Prop
  | .getToken got _ => cfg.token = "" ∧ ∀ access, authorizedAccess cfg c got = .ok access → P access
  | .listAccesses got _ =>
    (∃ expected, token cfg c = .ok expected ∧ ¬ tokenMatches got expected) ∧
      ∀ access, authorizedAccess cfg c got = .ok access → P access
  | s => ∀ access ∈ s.access, P access

section Grants

variable {env : Env} {ctxErr : Option String} {c c' : Cluster} {out : Outcome} {cfg : Config}
  {P Q : AuthorizedAccess → Prop} {got : String} {route : Route}

theorem CallState.Grants.of_access {s : CallState} {access : AuthorizedAccess}
    (h : s.Grants cfg c P) (haccess : s.access = some access) : P access := by
  cases s with
  | getToken => cases haccess
  | listAccesses => cases haccess
  | _ => exact h access haccess

theorem CallState.Grants.mono {s : CallState} (h : s.Grants cfg c P)
    (himp : ∀ access, P access → Q access)
    (hsame : Cluster.SameCredentials cfg c c') : s.Grants cfg c' Q := by
  cases s with
  | getToken got route =>
    refine ⟨h.1, fun access haccess => himp access (h.2 access ?_)⟩
    rw [← hsame.authorizedAccess]
    exact haccess
  | listAccesses got route =>
    obtain ⟨⟨expected, htoken, hne⟩, hP⟩ := h
    refine ⟨⟨expected, hsame.token_eq.trans htoken, hne⟩, fun access haccess => ?_⟩
    refine himp access (hP access ?_)
    rw [← hsame.authorizedAccess]
    exact haccess
  | _ => exact fun access haccess => himp access (h access haccess)

theorem handler_access {access access' : AuthorizedAccess}
    (h : (handler access route).access = some access') : access' = access := by
  unfold handler at h
  split at h
  · cases h; rfl
  · cases h; rfl
  · split at h
    · cases h
    · cases h; rfl

theorem authorized_grants {res : Except String AuthorizedAccess}
    (h : ∀ access, res = .ok access → P access) : (authorized route res).Grants cfg c P := by
  unfold authorized
  split
  · exact fun _ haccess => nomatch haccess
  · rename_i access
    split
    · exact fun _ haccess => nomatch haccess
    · have hhandler : ∀ access' ∈ (handler access route).access, P access' := by
        intro access' haccess
        rw [handler_access haccess]
        exact h access rfl
      unfold handler at hhandler ⊢
      split
      · exact hhandler
      · exact hhandler
      · split
        · exact fun _ haccess => nomatch haccess
        · rename_i hid
          simp only [if_neg hid] at hhandler
          exact hhandler

theorem authorizedAccess_of_token {expected : String} (h : token cfg c = .ok expected) :
    authorizedAccess cfg c got =
      if tokenMatches got expected then .ok ⟨cfg.className, cfg.ns⟩
      else matchAccess got {} (accessSecrets cfg c) := by
  unfold authorizedAccess
  rw [h]
  rfl

theorem compareToken_grants {res : Except String String}
    (htoken : ∀ expected, res = .ok expected → token cfg c = .ok expected)
    (h : ∀ access, authorizedAccess cfg c got = .ok access → P access) :
    (compareToken cfg got route res).Grants cfg c P := by
  unfold compareToken
  split
  · exact authorized_grants fun _ he => nomatch he
  · rename_i expected
    have hexp := htoken expected rfl
    split
    · rename_i hm
      refine authorized_grants fun access haccess => h access ?_
      rw [authorizedAccess_of_token hexp, if_pos hm]
      exact haccess
    · rename_i hm
      exact ⟨⟨expected, hexp, hm⟩, h⟩

/-- A request that just arrived: its access will be what `authorizedAccess` says about its token. -/
theorem authorize_grants {header : String}
    (h : ∀ access, authorizedAccess cfg c (trimPrefix header "Bearer ") = .ok access → P access) :
    (authorize cfg header route).Grants cfg c P := by
  unfold authorize
  dsimp only
  split
  · rename_i htoken
    refine compareToken_grants (fun expected he => ?_) h
    cases he
    simp [token, htoken]
  · rename_i htoken
    exact ⟨not_not.mp htoken, h⟩

theorem CallMove.grants {s s' : CallState} (h : CallMove env ctxErr c cfg s s' c' out)
    (hs : s.Grants cfg c P) : s'.Grants cfg c P := by
  cases h with
  | tokenFailed => exact compareToken_grants (fun _ he => nomatch he) hs.2
  | @tokenRead got route secret hget =>
    refine compareToken_grants (fun expected he => ?_) hs.2
    unfold token
    rw [if_neg (not_not.mpr hs.1), hget]
    exact he
  | accessesFailed => exact authorized_grants fun _ he => nomatch he
  | accessesRead =>
    obtain ⟨⟨expected, htoken, hne⟩, hP⟩ := hs
    refine authorized_grants fun access haccess => hP access ?_
    rw [authorizedAccess_of_token htoken, if_neg hne]
    exact haccess
  | config h => cases h <;> exact fun _ haccess => nomatch haccess
  | create h => exact fun access haccess => hs access (h.access_eq haccess)
  | delete h =>
    cases h
    case found => exact fun access haccess => hs access haccess
    all_goals exact fun _ haccess => nomatch haccess

end Grants

end Server

end SandboxProvider
