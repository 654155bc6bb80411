import Mathlib.Data.List.Basic

/-!
# Runs of a labelled transition function

A system is a partial function `step : σ → ℓ → Option σ`: a label is one move of one party (or
of the environment), and `none` says that the move is not possible in the state. `Run step ok`
collects the finite runs all of whose steps meet `ok`, a condition on the state before the step
and on the label. Every interleaving of the parties is some list of labels, so a statement about
every run is a statement about every interleaving.

* `Run.invariant`: what one step keeps, a whole run keeps.
* `Run.simulation`: runs of one system are runs of another one.
* `Run.unwinding`: the two-run version, for what an observer of some labels can tell apart.
* `Run.of_checkRun`: runs of concrete systems are found by evaluation.

A history is the list of what happened in a run, the latest event first. `Historically P` says that
every event is related by `P` to the events before it.
-/

namespace SandboxProvider.Lib

universe u v w x

variable {σ : Type u} {ℓ : Type v} {step : σ → ℓ → Option σ} {ok ok' : σ → ℓ → Prop}

/-- Runs from `s` along a list of labels, each of whose steps meets `ok`. -/
inductive Run (step : σ → ℓ → Option σ) (ok : σ → ℓ → Prop) : σ → List ℓ → σ → Prop
  | nil (s : σ) : Run step ok s [] s
  | cons {s t u : σ} {l : ℓ} {ls : List ℓ} (hok : ok s l) (hstep : step s l = some t)
      (hrest : Run step ok t ls u) : Run step ok s (l :: ls) u

namespace Run

/-- **The invariant rule**: what holds at the start and is kept by every step that meets `ok`
holds after every run. -/
theorem invariant {s t : σ} {ls : List ℓ} (h : Run step ok s ls t) (I : σ → Prop)
    (hkeep : ∀ s l t, I s → ok s l → step s l = some t → I t) (h0 : I s) : I t := by
  induction h with
  | nil => exact h0
  | cons hok hstep _ ih => exact ih (hkeep _ _ _ h0 hok hstep)

/-- A weaker condition on the steps admits the run as well. -/
theorem mono {s t : σ} {ls : List ℓ} (h : Run step ok s ls t) (himp : ∀ s l, ok s l → ok' s l) :
    Run step ok' s ls t := by
  induction h with
  | nil => exact .nil _
  | cons hok hstep _ ih => exact .cons (himp _ _ hok) hstep ih

/-- **The simulation rule**: when every step is a step of another system with the label it stands for, or
changes nothing there, every run is a run of the other system. -/
theorem simulation {τ : Type w} {μ : Type x} {step' : τ → μ → Option τ} {ok' : τ → μ → Prop}
    (abs : σ → τ) (label : ℓ → Option μ) (I : σ → Prop)
    (hkeep : ∀ s l t, I s → ok s l → step s l = some t → I t)
    (hstep : ∀ s l t m, I s → ok s l → step s l = some t → label l = some m →
      ok' (abs s) m ∧ step' (abs s) m = some (abs t))
    (hstutter : ∀ s l t, I s → ok s l → step s l = some t → label l = none → abs t = abs s)
    {s t : σ} {ls : List ℓ} (h : Run step ok s ls t) (h0 : I s) :
    Run step' ok' (abs s) (ls.filterMap label) (abs t) := by
  induction h with
  | nil => exact .nil _
  | @cons s t u l ls hok hl hrest ih =>
    have hrun := ih (hkeep s l t h0 hok hl)
    cases hm : label l with
    | none =>
      rw [List.filterMap_cons_none hm, ← hstutter s l t h0 hok hl hm]
      exact hrun
    | some m =>
      obtain ⟨hok', hl'⟩ := hstep s l t m h0 hok hl hm
      rw [List.filterMap_cons_some hm]
      exact .cons hok' hl' hrun

/-- Skips the steps of one run up to its next low one. -/
private theorem skip_high {low : ℓ → Bool} {R : σ → σ → Prop} {s₁ : σ} {l : ℓ} {rest : List ℓ}
    (hhigh : ∀ {s₂ l t₂}, low l = false → R s₁ s₂ → ok s₂ l → step s₂ l = some t₂ → R s₁ t₂)
    {s₂ t₂ : σ} {ls : List ℓ} (h : Run step ok s₂ ls t₂) (hlow : ls.filter low = l :: rest)
    (hR : R s₁ s₂) :
    ∃ u₂ v₂ ls', R s₁ u₂ ∧ ok u₂ l ∧ step u₂ l = some v₂ ∧ Run step ok v₂ ls' t₂ ∧
      ls'.filter low = rest := by
  induction h with
  | nil => cases hlow
  | @cons s t u m ls hok hstep hrest ih =>
    cases hm : low m with
    | false =>
      rw [List.filter_cons_of_neg (by simp [hm])] at hlow
      exact ih hlow (hhigh hm hR hok hstep)
    | true =>
      rw [List.filter_cons_of_pos hm] at hlow
      cases hlow
      exact ⟨s, t, ls, hR, hok, hstep, hrest, rfl⟩

/-- **The unwinding rule**, for two runs with the same low labels: a symmetric relation that a common
low step keeps, and a high step of one side alone, relates the ends of the runs. -/
theorem unwinding {low : ℓ → Bool} {R : σ → σ → Prop}
    (hsymm : ∀ {s₁ s₂}, R s₁ s₂ → R s₂ s₁)
    (hhigh : ∀ {s₁ s₂ l t₁}, low l = false → R s₁ s₂ → ok s₁ l → step s₁ l = some t₁ → R t₁ s₂)
    (hboth : ∀ {s₁ s₂ l t₁ t₂}, low l = true → R s₁ s₂ → ok s₁ l → ok s₂ l →
      step s₁ l = some t₁ → step s₂ l = some t₂ → R t₁ t₂)
    {ls₁ ls₂ : List ℓ} {s₁ s₂ t₁ t₂ : σ} (h₁ : Run step ok s₁ ls₁ t₁) (h₂ : Run step ok s₂ ls₂ t₂)
    (hlow : ls₁.filter low = ls₂.filter low) (hR : R s₁ s₂) : R t₁ t₂ := by
  have hright {s₁ s₂ : σ} {l : ℓ} {t₂ : σ} (hl : low l = false) (hR : R s₁ s₂) (hok : ok s₂ l)
      (hstep : step s₂ l = some t₂) : R s₁ t₂ :=
    hsymm (hhigh hl (hsymm hR) hok hstep)
  induction h₁ generalizing s₂ ls₂ with
  | nil s₁ =>
    -- what is left on the right is high
    induction h₂ with
    | nil => exact hR
    | @cons s t u m ls hok hstep hrest ih =>
      cases hm : low m with
      | false =>
        rw [List.filter_cons_of_neg (by simp [hm])] at hlow
        exact ih hlow (hright hm hR hok hstep)
      | true =>
        rw [List.filter_cons_of_pos hm] at hlow
        cases hlow
  | @cons s t u m ls hok hstep hrest ih =>
    cases hm : low m with
    | false =>
      rw [List.filter_cons_of_neg (by simp [hm])] at hlow
      exact ih h₂ hlow (hhigh hm hR hok hstep)
    | true =>
      rw [List.filter_cons_of_pos hm] at hlow
      obtain ⟨u₂, v₂, ls', hR, hok₂, hstep₂, hrest₂, hlow⟩ := skip_high hright h₂ hlow.symm hR
      exact ih hrest₂ hlow.symm (hboth hm hR hok hok₂ hstep hstep₂)

end Run

/-- Evaluates a list of labels, checking `ok` before every step. -/
def checkRun (step : σ → ℓ → Option σ) (ok : σ → ℓ → Prop) [∀ s l, Decidable (ok s l)] (s : σ) :
    List ℓ → Option σ
  | [] => some s
  | l :: ls => if ok s l then (step s l).bind fun t => checkRun step ok t ls else none

/-- An evaluated run is a run. -/
theorem Run.of_checkRun [∀ s l, Decidable (ok s l)] {ls : List ℓ} {s t : σ}
    (h : checkRun step ok s ls = some t) : Run step ok s ls t := by
  induction ls generalizing s with
  | nil => cases h; exact .nil _
  | cons l ls ih =>
    simp only [checkRun] at h
    split at h
    · rename_i hok
      obtain ⟨r, hr, h⟩ := Option.bind_eq_some_iff.mp h
      exact .cons hok hr (ih h)
    · cases h

/-- An evaluated run that ends in a state with a decidable property. -/
theorem Run.exists_of_checkRun [∀ s l, Decidable (ok s l)] {ls : List ℓ} {s : σ} (P : σ → Prop)
    [DecidablePred P] (h : (checkRun step ok s ls).any (P ·) = true) :
    ∃ t, Run step ok s ls t ∧ P t := by
  obtain ⟨t, ht, hP⟩ := (Option.any_eq_true _ _).mp h
  exact ⟨t, .of_checkRun ht, of_decide_eq_true hP⟩

/-! ## Histories -/

section History

variable {ε : Type w} {new old newer past : List ε} {e : ε}

/-- An event of an extended history is among the new ones or among the old ones. -/
theorem append_eq_split (h : new ++ old = newer ++ e :: past) :
    (∃ mid, new = newer ++ e :: mid ∧ past = mid ++ old) ∨
    (∃ mid, newer = new ++ mid ∧ old = mid ++ e :: past) := by
  rcases List.append_eq_append_iff.mp h with ⟨mid, hnewer, hold⟩ | ⟨mid, hnew, hpast⟩
  · exact .inr ⟨mid, hnewer, hold⟩
  · cases mid with
    | nil =>
      refine .inr ⟨[], ?_, ?_⟩
      · rw [hnew, List.append_nil, List.append_nil]
      · simpa using hpast.symm
    | cons x mid =>
      cases hpast
      exact .inl ⟨mid, hnew, rfl⟩

/-- Every event of the history is related to the events before it. -/
def Historically (P : List ε → ε → Prop) : List ε → Prop
  | [] => True
  | e :: past => P past e ∧ Historically P past

instance decidableHistorically (P : List ε → ε → Prop) [∀ past e, Decidable (P past e)] :
    ∀ h : List ε, Decidable (Historically P h)
  | [] => isTrue trivial
  | e :: past =>
    have := decidableHistorically P past
    inferInstanceAs (Decidable (P past e ∧ Historically P past))

/-- The new events of an extended history are judged one by one. -/
theorem Historically.append {P : List ε → ε → Prop} (h : Historically P old)
    (hnew : ∀ newer e mid, new = newer ++ e :: mid → P (mid ++ old) e) :
    Historically P (new ++ old) := by
  induction new with
  | nil => exact h
  | cons x new ih =>
    refine ⟨hnew [] x new rfl, ih fun newer e mid heq => ?_⟩
    exact hnew (x :: newer) e mid (by rw [heq]; rfl)

theorem Historically.holdsAt {P : List ε → ε → Prop} {newer past : List ε} {e : ε}
    (h : Historically P (newer ++ e :: past)) : P past e := by
  induction newer with
  | nil => exact h.1
  | cons x newer ih => exact ih h.2

end History

end SandboxProvider.Lib
