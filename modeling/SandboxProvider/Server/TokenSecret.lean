import SandboxProvider.Api.Client
import SandboxProvider.Lib.Sha256
import SandboxProvider.Server.Access

/-!
# The token Secret

`internal/server/server.go`: `ensureTokenSecret`, which a server without a configured token runs
before it serves, as a resumable program, and what its steps can do. The random bytes are drawn
between the two client calls.
-/

namespace SandboxProvider.Server

open Lib

/-- What `rand.Read` does with a buffer of 32 bytes. -/
abbrev Random := Except String (Vector UInt8 32)

/-- The Secret that `ensureTokenSecret` creates. -/
def tokenSecret (cfg : Config) (random : Vector UInt8 32) : Secret where
  metadata := { name := cfg.tokenSecretName, ns := cfg.ns }
  data := StringMap.ofList [("token", String.ofList (hexEncode random.toList))]

/-- A generated token is not empty. -/
theorem getD_tokenSecret_ne (cfg : Config) (random : Vector UInt8 32) :
    (tokenSecret cfg random).data.getD "token" ≠ "" := by
  have hget : (tokenSecret cfg random).data.getD "token" =
      String.ofList (hexEncode random.toList) := by
    have hlookup : (tokenSecret cfg random).data.lookup "token" =
        some (String.ofList (hexEncode random.toList)) := AList.lookup_insert ∅
    rw [StringMap.getD, hlookup]
    rfl
  have hlength : random.toList.length = 32 := random.length_toList
  rw [hget]
  cases hbytes : random.toList with
  | nil =>
    rw [hbytes] at hlength
    cases hlength
  | cons byte rest =>
    intro hempty
    have hchars := congrArg String.toList hempty
    simp [hexEncode] at hchars

inductive EnsureState
  | getSecret
  | createSecret (secret : Secret)
  | done (err : Option String)

def EnsureState.next (cfg : Config) (random : Random) : EnsureState → Next EnsureState
  | .getSecret => .call .request (.getSecret cfg.tokenKey) fun
    | _, .ok existing =>
      if existing.data.getD "token" = "" then
        .done (some ("secret " ++ cfg.ns ++ "/" ++ cfg.tokenSecretName ++ " has no token key"))
      else .done none
    | _, .error err =>
      if err.isNotFound then
        match random with
        | .error message => .done (some ("generate Pod Sandbox API token: " ++ message))
        | .ok bytes => .createSecret (tokenSecret cfg bytes)
      else .done (some ("get Pod Sandbox API token secret: " ++ err.message))
  | .createSecret secret => .call .request (.createSecret secret) fun
    | _, .error err =>
      if err.isAlreadyExists then .done none
      else .done (some ("create Pod Sandbox API token secret: " ++ err.message))
    | _, .ok _ => .done none
  | .done _ => .done

/-- The steps of `ensureTokenSecret`. -/
inductive EnsureMove (cfg : Config) (env : Env) (ctxErr : Option String) (c : Cluster)
    (random : Random) : EnsureState → EnsureState → Cluster → Outcome → Prop
  | found {existing} (h : c.secrets.get cfg.tokenKey = some existing)
      (htoken : existing.data.getD "token" ≠ "") :
      EnsureMove cfg env ctxErr c random .getSecret (.done none) c (.ok [])
  | keyless {existing message} (h : c.secrets.get cfg.tokenKey = some existing)
      (htoken : existing.data.getD "token" = "") :
      EnsureMove cfg env ctxErr c random .getSecret (.done (some message)) c (.ok [])
  | unread {err message} (h : Refused env ctxErr .request err) :
      EnsureMove cfg env ctxErr c random .getSecret (.done (some message)) c (.error err)
  | notRandom {err message} (h : c.secrets.get cfg.tokenKey = none) :
      EnsureMove cfg env ctxErr c random .getSecret (.done (some message)) c (.error err)
  | missing {err bytes} (h : c.secrets.get cfg.tokenKey = none) :
      EnsureMove cfg env ctxErr c random .getSecret (.createSecret (tokenSecret cfg bytes)) c
        (.error err)
  | stored {secret t} (h : c.secrets.Stores (asCreated env.uid secret) t) :
      EnsureMove cfg env ctxErr c random (.createSecret secret) (.done none)
        { c with secrets := t } (.ok [.createSecret (asCreated env.uid secret)])
  | lost {secret cur err} (h : c.secrets.get secret.metadata.key = some cur) :
      EnsureMove cfg env ctxErr c random (.createSecret secret) (.done none) c (.error err)
  | createFailed {secret err message} (h : Refused env ctxErr .request err) :
      EnsureMove cfg env ctxErr c random (.createSecret secret) (.done (some message)) c
        (.error err)

theorem EnsureState.moves {cfg : Config} {env : Env} {ctxErr : Option String} {c c' : Cluster}
    {random : Random} {s s' : EnsureState} {out : Outcome}
    (h : (s.next cfg random).step env ctxErr c = some (s', c', out)) :
    EnsureMove cfg env ctxErr c random s s' c' out := by
  cases s with
  | getSecret =>
    obtain ⟨err, hr, rfl, rfl, rfl⟩ | ⟨res, ws, hx, rfl, rfl⟩ := Next.step_call h
    · dsimp only
      rw [if_neg (by rw [hr.isNotFound]; decide)]
      exact .unread hr
    · obtain ⟨hnone, hget⟩ | ⟨existing, hsome, hget⟩ := getObject_cases c.secrets cfg.tokenKey <;>
        simp only [Cluster.exec, hget, Option.some.injEq, Prod.mk.injEq] at hx <;>
        obtain ⟨rfl, rfl, rfl⟩ := hx
      · cases random with
        | error message => exact .notRandom hnone
        | ok bytes => exact .missing hnone
      · dsimp only
        split
        · rename_i htoken
          exact .keyless hsome htoken
        · rename_i htoken
          exact .found hsome htoken
  | createSecret secret =>
    obtain ⟨err, hr, rfl, rfl, rfl⟩ | ⟨res, ws, hx, rfl, rfl⟩ := Next.step_call h
    · dsimp only
      rw [if_neg (by rw [hr.isAlreadyExists]; decide)]
      exact .createFailed hr
    · obtain ⟨cur, hcur, rfl, rfl, rfl⟩ | ⟨t, hst, rfl, rfl, rfl⟩ := createCall_cases hx
      · exact .lost hcur
      · exact .stored hst
  | done err => cases h

end SandboxProvider.Server
