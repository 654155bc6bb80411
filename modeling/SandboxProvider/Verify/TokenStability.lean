import SandboxProvider.Lib.Transition
import SandboxProvider.Server.TokenSecret

/-!
# The API token is chosen once

Replicas of the server start side by side, each running `ensureTokenSecret` with its own random
bytes, and read the token when they serve requests. Others change the cluster in any way that leaves
the token Secret alone. The Secret is created at most once and never changes: a call that lost the
race relies on the winner's Secret, which has a token because no call creates one without.
-/

namespace SandboxProvider.Server

open Lib

/-- What the replicas did, the latest first: ghost state. -/
inductive TokenEvent
  | wrote (a : Nat) (w : Write)
  | returned (a : Nat) (err : Option String)
  | read (a : Nat) (result : Except String String)
  | unread (a : Nat) (err : String)

def TokenEvent.write : TokenEvent → Option Write
  | .wrote _ w => some w
  | _ => none

structure Replicas where
  cluster : Cluster
  calls : AList fun _ : Nat => EnsureState := ∅
  history : List TokenEvent := []

inductive TokenLabel
  /-- A replica calls `ensureTokenSecret`. -/
  | ensure (a : Nat)
  /-- A call runs from one client call to the next. -/
  | run (a : Nat) (env : Env) (ctxErr : Option String) (random : Random)
  /-- A replica calls `token`, and its `Get` is executed or fails. -/
  | token (a : Nat) (fault : Option String)
  /-- Others change the cluster. -/
  | other (c : Cluster)

namespace Replicas

/-- The return of a call that has come to its end. -/
def returnEvents (a : Nat) : EnsureState → List TokenEvent
  | .done err => [.returned a err]
  | _ => []

def step (cfg : Config) (w : Replicas) : TokenLabel → Option Replicas
  | .ensure a =>
    match w.calls.lookup a with
    | some _ => none
    | none => some { w with calls := w.calls.insert a .getSecret }
  | .run a env ctxErr random =>
    match w.calls.lookup a with
    | none => none
    | some s =>
      ((s.next cfg random).step env ctxErr w.cluster).map fun (s', c', out) =>
        { cluster := c'
          calls := w.calls.insert a s'
          history := returnEvents a s' ++ out.writes.map (.wrote a) ++ w.history }
  | .token a none => some { w with history := .read a (token cfg w.cluster) :: w.history }
  | .token a (some err) => some { w with history := .unread a err :: w.history }
  | .other c => some { w with cluster := c }

/-- Nobody else writes the token Secret. -/
def OnlyReplicas (cfg : Config) (w : Replicas) : TokenLabel → Prop
  | .other c => c.secrets.get cfg.tokenKey = w.cluster.secrets.get cfg.tokenKey
  | _ => True

/-- The replicas before the first call. -/
def start (c : Cluster) : Replicas where
  cluster := c

/-- What the replicas wrote. -/
def writes (w : Replicas) : List Write := w.history.filterMap TokenEvent.write

/-- The steps of the replicas. -/
inductive Moves (cfg : Config) (w : Replicas) : Replicas → Prop
  | begun {a} (hnew : w.calls.lookup a = none) :
      Moves cfg w { w with calls := w.calls.insert a .getSecret }
  | ran {a env ctxErr random s s' c' out} (hcall : w.calls.lookup a = some s)
      (hmove : EnsureMove cfg env ctxErr w.cluster random s s' c' out) :
      Moves cfg w
        { cluster := c'
          calls := w.calls.insert a s'
          history := returnEvents a s' ++ out.writes.map (.wrote a) ++ w.history }
  | read {a} : Moves cfg w { w with history := .read a (token cfg w.cluster) :: w.history }
  | unread {a err} : Moves cfg w { w with history := .unread a err :: w.history }
  | other {c} (hkept : c.secrets.get cfg.tokenKey = w.cluster.secrets.get cfg.tokenKey) :
      Moves cfg w { w with cluster := c }

theorem moves {cfg : Config} {w w' : Replicas} {l : TokenLabel} (hok : OnlyReplicas cfg w l)
    (h : step cfg w l = some w') : Moves cfg w w' := by
  cases l with
  | ensure a =>
    simp only [step] at h
    split at h
    · cases h
    · rename_i hnew
      cases h
      exact .begun hnew
  | run a env ctxErr random =>
    simp only [step] at h
    split at h
    · cases h
    · rename_i s hcall
      obtain ⟨⟨s', c', out⟩, hstep, rfl⟩ := Option.map_eq_some_iff.mp h
      exact .ran hcall (EnsureState.moves hstep)
  | token a fault =>
    cases fault with
    | none =>
      cases h
      exact .read
    | some err =>
      cases h
      exact .unread
  | other c =>
    cases h
    exact .other hok

/-! ## The invariant -/

section Invariant

variable {cfg : Config} {c : Cluster} {w w' : Replicas}

/-- The token Secret: it was there before, it is missing, or some call created it. -/
inductive Stored (cfg : Config) (c : Cluster) (w : Replicas) : Prop
  | before {secret} (hstart : c.secrets.get cfg.tokenKey = some secret)
      (hnow : w.cluster.secrets.get cfg.tokenKey = some secret) (hwrites : w.writes = [])
      (hidle : ∀ a secret, w.calls.lookup a ≠ some (.createSecret secret))
  | missing (hstart : c.secrets.get cfg.tokenKey = none)
      (hnow : w.cluster.secrets.get cfg.tokenKey = none) (hwrites : w.writes = [])
  | created {random uid} (hstart : c.secrets.get cfg.tokenKey = none)
      (hnow : w.cluster.secrets.get cfg.tokenKey = some (asCreated uid (tokenSecret cfg random)))
      (hwrites : w.writes = [.createSecret (asCreated uid (tokenSecret cfg random))])

/-- The Secret holds a token. -/
def HasToken (cfg : Config) (w : Replicas) : Prop :=
  ∃ secret, w.cluster.secrets.get cfg.tokenKey = some secret ∧ secret.data.getD "token" ≠ ""

structure TokenInv (cfg : Config) (c : Cluster) (w : Replicas) : Prop where
  stored : Stored cfg c w
  creating : ∀ {a secret}, w.calls.lookup a = some (.createSecret secret) →
    ∃ random, secret = tokenSecret cfg random
  returned : ∀ {a}, .returned a none ∈ w.history → HasToken cfg w

theorem TokenInv.start (cfg : Config) (c : Cluster) : TokenInv cfg c (start c) where
  stored := by
    cases hget : c.secrets.get cfg.tokenKey with
    | none => exact .missing hget hget rfl
    | some secret => exact .before hget hget rfl fun _ _ h => by cases h
  creating h := by cases h
  returned h := by cases h

/-- The Secret stays as it is under every step. -/
theorem Moves.get_of_get (h : Moves cfg w w') {secret : Secret}
    (hget : w.cluster.secrets.get cfg.tokenKey = some secret) :
    w'.cluster.secrets.get cfg.tokenKey = some secret := by
  cases h with
  | begun => exact hget
  | read => exact hget
  | unread => exact hget
  | other hkept => exact hkept.trans hget
  | ran hcall hmove =>
    cases hmove with
    | stored hst =>
      -- a Create under the key of an existing Secret does not store
      exact hst.get_of_get hget
    | _ => exact hget

namespace TokenInv

theorem creating_step (hinv : TokenInv cfg c w) (h : Moves cfg w w') {a : Nat} {secret : Secret}
    (ha : w'.calls.lookup a = some (.createSecret secret)) :
    ∃ random, secret = tokenSecret cfg random := by
  cases h with
  | begun =>
    obtain ⟨-, hs⟩ | ⟨-, hold⟩ := lookup_insert_cases ha
    · cases hs
    · exact hinv.creating hold
  | ran hcall hmove =>
    obtain ⟨-, hs⟩ | ⟨-, hold⟩ := lookup_insert_cases ha
    · cases hmove with
      | missing =>
        cases hs
        exact ⟨_, rfl⟩
      | _ => cases hs
    · exact hinv.creating hold
  | read => exact hinv.creating ha
  | unread => exact hinv.creating ha
  | other => exact hinv.creating ha

/-- A step that writes nothing and leaves the Secret as it is. -/
theorem stored_of_same (hinv : TokenInv cfg c w)
    (hget : w'.cluster.secrets.get cfg.tokenKey = w.cluster.secrets.get cfg.tokenKey)
    (hwrites : w'.writes = w.writes)
    (hidle : w.cluster.secrets.get cfg.tokenKey ≠ none → ∀ a secret,
      w'.calls.lookup a = some (.createSecret secret) →
        w.calls.lookup a = some (.createSecret secret)) : Stored cfg c w' := by
  cases hinv.stored with
  | before hstart hnow hnone hcalls =>
    refine .before hstart (hget.trans hnow) (hwrites.trans hnone) fun a secret ha => ?_
    exact hcalls a secret (hidle (by rw [hnow]; exact Option.some_ne_none _) a secret ha)
  | missing hstart hnow hnone =>
    exact .missing hstart (hget.trans hnow) (hwrites.trans hnone)
  | created hstart hnow hone => exact .created hstart (hget.trans hnow) (hwrites.trans hone)

/-- With the Secret there, no call comes to creating it. -/
theorem ran_idle {env : Env} {ctxErr : Option String} {random : Random} {s s' : EnsureState}
    {c' : Cluster} {out : Outcome} (a : Nat)
    (hmove : EnsureMove cfg env ctxErr w.cluster random s s' c' out)
    (hsome : w.cluster.secrets.get cfg.tokenKey ≠ none) (b : Nat) (secret : Secret)
    (hb : (w.calls.insert a s').lookup b = some (.createSecret secret)) :
    w.calls.lookup b = some (.createSecret secret) := by
  obtain ⟨-, hs⟩ | ⟨-, hold⟩ := lookup_insert_cases hb
  · cases hmove with
    | missing hnone => exact absurd hnone hsome
    | _ => cases hs
  · exact hold

theorem stored_step (hinv : TokenInv cfg c w) (h : Moves cfg w w') : Stored cfg c w' := by
  cases h with
  | begun =>
    refine hinv.stored_of_same rfl rfl fun _ a secret ha => ?_
    obtain ⟨-, hs⟩ | ⟨-, hold⟩ := lookup_insert_cases ha
    · cases hs
    · exact hold
  | read => exact hinv.stored_of_same rfl rfl fun _ _ _ ha => ha
  | unread => exact hinv.stored_of_same rfl rfl fun _ _ _ ha => ha
  | other hkept => exact hinv.stored_of_same hkept rfl fun _ _ _ ha => ha
  | @ran a env ctxErr random s s' c' out hcall hmove =>
    have hidle := ran_idle a hmove
    cases hmove with
    | @stored secret t hst =>
      obtain ⟨bytes, rfl⟩ := hinv.creating hcall
      have hvacant : w.cluster.secrets.get cfg.tokenKey = none := hst.vacant
      cases hinv.stored with
      | before hstart hnow =>
        rw [hvacant] at hnow
        cases hnow
      | missing hstart hnow hnone =>
        refine .created hstart hst.get_self ?_
        exact congrArg (Write.createSecret _ :: ·) hnone
      | created hstart hnow =>
        rw [hvacant] at hnow
        cases hnow
    | _ => exact hinv.stored_of_same rfl rfl hidle

theorem hasToken_step (h : Moves cfg w w') (htoken : HasToken cfg w) : HasToken cfg w' := by
  obtain ⟨secret, hget, hne⟩ := htoken
  exact ⟨secret, h.get_of_get hget, hne⟩

/-- A call that returns without an error found a token, created one, or lost against a call that
created one. -/
theorem returned_step (hinv : TokenInv cfg c w) (h : Moves cfg w w') {a : Nat}
    (ha : .returned a none ∈ w'.history) : HasToken cfg w' := by
  have hold (hmem : .returned a none ∈ w.history) : HasToken cfg w' :=
    hasToken_step h (hinv.returned hmem)
  cases h with
  | begun => exact hold ha
  | other => exact hold ha
  | read =>
    rcases List.mem_cons.mp ha with heq | hmem
    · cases heq
    · exact hold hmem
  | unread =>
    rcases List.mem_cons.mp ha with heq | hmem
    · cases heq
    · exact hold hmem
  | @ran b env ctxErr random s s' c' out hcall hmove =>
    cases hmove with
    | found hget htoken => exact ⟨_, hget, htoken⟩
    | @stored secret t hst =>
      obtain ⟨bytes, rfl⟩ := hinv.creating hcall
      exact ⟨_, hst.get_self, getD_tokenSecret_ne cfg bytes⟩
    | @lost secret cur err hcur =>
      obtain ⟨bytes, rfl⟩ := hinv.creating hcall
      cases hinv.stored with
      | before _ _ _ hidle => exact absurd hcall (hidle b _)
      | missing _ hnow =>
        rw [show w.cluster.secrets.get cfg.tokenKey = some cur from hcur] at hnow
        cases hnow
      | created _ hnow => exact ⟨_, hnow, getD_tokenSecret_ne cfg _⟩
    | missing => exact hold ha
    | _ =>
      rcases List.mem_cons.mp ha with heq | hmem
      · cases heq
      · exact hold hmem

theorem step (hinv : TokenInv cfg c w) (h : Moves cfg w w') : TokenInv cfg c w' where
  stored := hinv.stored_step h
  creating := hinv.creating_step h
  returned := hinv.returned_step h

end TokenInv

/-- The history grows, and what is read while the Secret holds a token is that token, unless the
servers have a configured one. -/
theorem Moves.reads (h : Moves cfg w w') {secret : Secret}
    (hget : w.cluster.secrets.get cfg.tokenKey = some secret)
    (htoken : secret.data.getD "token" ≠ "") :
    ∃ events, w'.history = events ++ w.history ∧
      (cfg.token = "" →
        ∀ b result, .read b result ∈ events → result = .ok (secret.data.getD "token")) := by
  cases h with
  | begun => exact ⟨[], rfl, fun _ b result hmem => absurd hmem List.not_mem_nil⟩
  | other => exact ⟨[], rfl, fun _ b result hmem => absurd hmem List.not_mem_nil⟩
  | unread =>
    refine ⟨[_], rfl, fun _ b result hmem => ?_⟩
    cases List.mem_singleton.mp hmem
  | read =>
    refine ⟨[_], rfl, fun hconfig b result hmem => ?_⟩
    cases List.mem_singleton.mp hmem
    simp [token, hconfig, hget, secretToken, htoken]
  | @ran a env ctxErr random s s' c' out hcall hmove =>
    refine ⟨_, rfl, fun _ b result hmem => ?_⟩
    rcases List.mem_append.mp hmem with hmem | hmem
    · cases s' with
      | done err => cases List.mem_singleton.mp hmem
      | getSecret => cases hmem
      | createSecret => cases hmem
    · obtain ⟨wr, -, heq⟩ := List.mem_map.mp hmem
      cases heq

end Invariant

/-- **The token is chosen once.** Whatever the store held at first and however calls of
`ensureTokenSecret` and `token` of any number of replicas interleave, with nobody else writing the
token Secret: the Secret is written at most once; once it is there it does not change any more; if it
was there before, it is never written; and once some call of `ensureTokenSecret` has returned nil,
there is a token, and every later call of `token` that reaches the API server returns it. (Servers
with a configured token, which do not call `ensureTokenSecret`, do not read the Secret.) -/
theorem token_is_chosen_once (cfg : Config) (c : Cluster) (ls₁ ls₂ : List TokenLabel)
    (w₁ w₂ : Replicas)
    (h₁ : Run (step cfg) (OnlyReplicas cfg) (start c) ls₁ w₁)
    (h₂ : Run (step cfg) (OnlyReplicas cfg) w₁ ls₂ w₂) :
    w₂.writes.length ≤ 1 ∧
    (∀ secret, w₁.cluster.secrets.get cfg.tokenKey = some secret →
      w₂.cluster.secrets.get cfg.tokenKey = some secret) ∧
    (∀ secret, c.secrets.get cfg.tokenKey = some secret →
      w₂.cluster.secrets.get cfg.tokenKey = some secret ∧ w₂.writes = []) ∧
    ∀ a, .returned a none ∈ w₁.history →
      ∃ value, value ≠ "" ∧
        (∃ secret, w₂.cluster.secrets.get cfg.tokenKey = some secret ∧
          secret.data.getD "token" = value) ∧
        ∃ events, w₂.history = events ++ w₁.history ∧
          (cfg.token = "" → ∀ b result, .read b result ∈ events → result = .ok value) := by
  have hinv₁ : TokenInv cfg c w₁ :=
    h₁.invariant (TokenInv cfg c) (fun _ _ _ hi hok hstep => hi.step (moves hok hstep))
      (.start cfg c)
  have hinv₂ : TokenInv cfg c w₂ :=
    h₂.invariant (TokenInv cfg c) (fun _ _ _ hi hok hstep => hi.step (moves hok hstep)) hinv₁
  have hkept {secret : Secret} (hget : w₁.cluster.secrets.get cfg.tokenKey = some secret) :
      w₂.cluster.secrets.get cfg.tokenKey = some secret :=
    h₂.invariant (fun w => w.cluster.secrets.get cfg.tokenKey = some secret)
      (fun _ _ _ hi hok hstep => (moves hok hstep).get_of_get hi) hget
  refine ⟨?_, fun secret hget => hkept hget, fun secret hget => ?_, fun a ha => ?_⟩
  · cases hinv₂.stored with
    | before _ _ hwrites => rw [hwrites]; exact Nat.zero_le 1
    | missing _ _ hwrites => rw [hwrites]; exact Nat.zero_le 1
    | created _ _ hwrites => rw [hwrites]; exact Nat.le_refl 1
  · cases hinv₂.stored with
    | before hstart hnow hwrites =>
      rw [hget] at hstart
      cases hstart
      exact ⟨hnow, hwrites⟩
    | missing hstart =>
      rw [hget] at hstart
      cases hstart
    | created hstart =>
      rw [hget] at hstart
      cases hstart
  · obtain ⟨secret, hget, hne⟩ := hinv₁.returned ha
    refine ⟨secret.data.getD "token", hne, ⟨secret, hkept hget, rfl⟩, ?_⟩
    -- along the second run the Secret stays, so each new read returns its token
    have hrun := h₂.invariant
      (fun w => w.cluster.secrets.get cfg.tokenKey = some secret ∧
        ∃ events, w.history = events ++ w₁.history ∧
          (cfg.token = "" →
            ∀ b result, .read b result ∈ events → result = .ok (secret.data.getD "token")))
      (fun w l w' hi hok hstep => by
        obtain ⟨hstill, events, hhistory, hreads⟩ := hi
        obtain ⟨new, hnew, hnewReads⟩ := (moves hok hstep).reads hstill hne
        refine ⟨(moves hok hstep).get_of_get hstill, new ++ events, ?_,
          fun hconfig b result hmem => ?_⟩
        · rw [hnew, hhistory, List.append_assoc]
        · rcases List.mem_append.mp hmem with hmem | hmem
          · exact hnewReads hconfig b result hmem
          · exact hreads hconfig b result hmem)
      ⟨hget, [], rfl, fun _ b result hmem => absurd hmem List.not_mem_nil⟩
    exact hrun.2

end Replicas

/-! ## Two replicas -/

/-- A call that returned nil. -/
def TokenEvent.succeeded : TokenEvent → Option Nat
  | .returned a none => some a
  | _ => none

theorem TokenEvent.succeeded_eq_some {e : TokenEvent} {a : Nat} (h : e.succeeded = some a) :
    e = .returned a none := by
  unfold succeeded at h
  split at h
  · cases h
    rfl
  · cases h

/-- A step of a replica. -/
def TokenLabel.ofReplica : TokenLabel → Bool
  | .other _ => false
  | _ => true

namespace Replicas

theorem onlyReplicas_of_ofReplica (cfg : Config) (w : Replicas) {l : TokenLabel}
    (h : l.ofReplica = true) : OnlyReplicas cfg w l := by
  cases l with
  | other => cases h
  | _ => trivial

/-- A server without a configured token. -/
def sampleConfig : Config :=
  ⟨{ ns := "provider", tokenSecretName := "pod-sandbox-api", className := "kata" }, by decide,
    by decide⟩

/-- Both replicas find no Secret; the second one creates it. -/
def race : List TokenLabel :=
  [.ensure 1, .ensure 2, .run 1 {} none (.ok (.replicate 32 1)),
    .run 2 {} none (.ok (.replicate 32 2)), .run 2 { uid := 1 } none (.error "unused"),
    .run 1 { uid := 2 } none (.error "unused")]

set_option maxRecDepth 100000 in
theorem race_chooses_one_token :
    ∃ w₁ w₂, Run (step sampleConfig) (OnlyReplicas sampleConfig) (start Cluster.empty) race w₁ ∧
      Run (step sampleConfig) (OnlyReplicas sampleConfig) w₁ [.token 1 none, .token 2 none] w₂ ∧
      .returned 1 none ∈ w₁.history ∧ w₂.writes.length ≤ 1 ∧
      ∃ value, value ≠ "" ∧
        (∃ secret, w₂.cluster.secrets.get sampleConfig.tokenKey = some secret ∧
          secret.data.getD "token" = value) ∧
        ∃ events, w₂.history = events ++ w₁.history ∧
          ∀ b result, .read b result ∈ events → result = .ok value := by
  obtain ⟨w₁, hrun₁, e, he, hsucceeded⟩ := Run.exists_of_checkRun
    (fun w : Replicas => ∃ e ∈ w.history, e.succeeded = some 1)
    (show (checkRun (step sampleConfig) (fun _ l => l.ofReplica = true) (start Cluster.empty)
      race).any _ = true by decide +kernel)
  rw [TokenEvent.succeeded_eq_some hsucceeded] at he
  have h₁ := hrun₁.mono fun w l h => onlyReplicas_of_ofReplica sampleConfig w h
  have h₂ : Run (step sampleConfig) (OnlyReplicas sampleConfig) w₁
      [.token 1 none, .token 2 none] _ := .cons trivial rfl (.cons trivial rfl (.nil _))
  obtain ⟨hwrites, -, -, hreturned⟩ := token_is_chosen_once sampleConfig _ _ _ _ _ h₁ h₂
  obtain ⟨value, hne, hstored, events, hhistory, hreads⟩ := hreturned 1 he
  exact ⟨w₁, _, h₁, h₂, he, hwrites, value, hne, hstored, events, hhistory, hreads rfl⟩

end Replicas

end SandboxProvider.Server
