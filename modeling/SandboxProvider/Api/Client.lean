import SandboxProvider.Api.Cluster

/-!
# Clients as resumable programs

A handler of the API server or a Reconcile call is a program that runs between two client calls
without being observed. Its states are the places where it waits, and `Next` says what it waits
for: the reply to a request, the `select` at the end of a polling loop, or nothing any more.
`respond` is what the outside does with a request: a call on a cancelled context fails, any call
may fail without effect, and otherwise the server executes it.
-/

namespace SandboxProvider

/-- The context a client call is made with: that of the HTTP request (or of the Reconcile call),
or one made by `context.WithoutCancel`. -/
inductive Ctx
  | request | withoutCancel
  deriving DecidableEq, Repr

/-- What a program does next. A continuation also gets the time, for `time.Now()`. -/
inductive Next (σ : Type)
  | call (ctx : Ctx) (req : Request) (resume : Time → Except ApiError req.Result → σ)
  | select (expired : String → σ) (tick : σ)
  | done

/-- A program as a part of a larger one. -/
def Next.map {σ τ : Type} (f : σ → τ) : Next σ → Next τ
  | .call ctx req resume => .call ctx req fun now res => f (resume now res)
  | .select expired tick => .select (fun err => f (expired err)) (f tick)
  | .done => .done

/-- A call that fails without reaching the server. -/
def ApiError.unavailable (message : String) : ApiError := ⟨.other, message⟩

/-- The error with which a call fails instead of reaching the server. -/
def refusal (env : Env) (ctxErr : Option String) (ctx : Ctx) : Option String :=
  match ctx with
  | .request => ctxErr.or env.fault
  | .withoutCancel => env.fault

/-- The reply to a request and its effect. -/
def respond (env : Env) (ctxErr : Option String) (c : Cluster) (ctx : Ctx) (r : Request) :
    Option (Except ApiError r.Result × Cluster × List Write) :=
  match refusal env ctxErr ctx with
  | some message => some (.error (.unavailable message), c, [])
  | none => c.exec env r

/-- The outcome of a program's step: what was written, or the error of its call. -/
abbrev Outcome := Except ApiError (List Write)

def Outcome.writes : Outcome → List Write
  | .ok ws => ws
  | .error _ => []

/-- A program's step: where it waits next, the cluster afterwards and the outcome of its call. -/
def Next.step {σ : Type} (env : Env) (ctxErr : Option String) (c : Cluster) :
    Next σ → Option (σ × Cluster × Outcome)
  | .call ctx req resume =>
    match respond env ctxErr c ctx req with
    | some (res, c', ws) => some (resume env.now res, c', res.map fun _ => ws)
    | none => none
  | .select expired tick =>
    if env.expire then
      match ctxErr with
      | some err => some (expired err, c, .ok [])
      | none => none
    else some (tick, c, .ok [])
  | .done => none

/-! ## What a step can do -/

/-- The call fails before it reaches the server. -/
def Refused (env : Env) (ctxErr : Option String) (ctx : Ctx) (err : ApiError) : Prop :=
  ∃ message, refusal env ctxErr ctx = some message ∧ err = .unavailable message

/-- A call about one object fails: it is refused, or the object is missing. -/
def Fails {α : Type} [KubeObject α] (env : Env) (ctxErr : Option String) (ctx : Ctx)
    (t : Lib.Table NamespacedName α) (key : NamespacedName) (err : ApiError) : Prop :=
  Refused env ctxErr ctx err ∨ (t.get key = none ∧ err = notFound α key)

section Steps

variable {env : Env} {ctxErr : Option String} {c c' : Cluster} {ctx : Ctx} {out : Outcome}

/-- Without a fault and with a live context a call reaches the server. -/
theorem not_refused (hfault : env.fault = none) {err : ApiError} : ¬ Refused env none ctx err := by
  rintro ⟨message, hmessage, -⟩
  cases ctx <;> simp [refusal, hfault] at hmessage

theorem Refused.isNotFound {err : ApiError} (h : Refused env ctxErr ctx err) :
    err.isNotFound = false := by
  obtain ⟨message, -, rfl⟩ := h
  rfl

theorem Refused.isAlreadyExists {err : ApiError} (h : Refused env ctxErr ctx err) :
    err.isAlreadyExists = false := by
  obtain ⟨message, -, rfl⟩ := h
  rfl

theorem Next.step_map {σ τ : Type} (f : σ → τ) (n : Next σ) :
    (n.map f).step env ctxErr c = (n.step env ctxErr c).map fun r => (f r.1, r.2) := by
  cases n with
  | call ctx req resume =>
    simp only [Next.map, Next.step]
    split <;> rfl
  | select expired tick =>
    simp only [Next.map, Next.step]
    split
    · split <;> rfl
    · rfl
  | done => rfl

/-- A call is refused, or the server executes it. -/
theorem Next.step_call {σ : Type} {req : Request} {resume : Time → Except ApiError req.Result → σ}
    {s : σ} (h : (Next.call ctx req resume).step env ctxErr c = some (s, c', out)) :
    (∃ err, Refused env ctxErr ctx err ∧ s = resume env.now (.error err) ∧ c' = c ∧
      out = .error err) ∨
    (∃ res ws, c.exec env req = some (res, c', ws) ∧ s = resume env.now res ∧
      out = res.map fun _ => ws) := by
  simp only [Next.step] at h
  split at h
  · rename_i res c₁ ws hres
    cases h
    unfold respond at hres
    split at hres
    · rename_i message hm
      cases hres
      exact .inl ⟨.unavailable message, ⟨message, hm, rfl⟩, rfl, rfl, rfl⟩
    · exact .inr ⟨res, ws, hres, rfl, rfl⟩
  · cases h

theorem getObject_cases {α : Type} [KubeObject α] (t : Lib.Table NamespacedName α)
    (key : NamespacedName) :
    (t.get key = none ∧ getObject t key = .error (notFound α key)) ∨
    (∃ o, t.get key = some o ∧ getObject t key = .ok o) := by
  unfold getObject
  split
  · rename_i o ho
    exact .inr ⟨o, ho, rfl⟩
  · rename_i hnone
    exact .inl ⟨hnone, rfl⟩

end Steps

end SandboxProvider
