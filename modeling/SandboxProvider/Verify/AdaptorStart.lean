import SandboxProvider.Node.StartCAA

/-!
# `startCAA` and the adaptors it starts

In every run of `startCAA` at most one of the adaptors that it has started is alive. When it returns
an error, none is alive, except where `waitForPath` finds the kubelet gone while the adaptor of the
attempt is running: that one is neither stopped nor known to the deferred `terminate` of `run`. The
condition `NoticesKubeletLast` on a step says that this does not happen.
-/

namespace SandboxProvider.Node.Adaptor

open Lib

variable {s s' : Adaptor}

/-- The process of this attempt has been started and has not exited. -/
def alive (s : Adaptor) (k : Nat) : Bool := (s.caa k).phase = .running

theorem alive_iff {k : Nat} : s.alive k = true ↔ (s.caa k).phase = .running := decide_eq_true_iff

/-- No adaptor is alive, but for those that meet `P`. -/
def Only (P : Nat → Prop) (s : Adaptor) : Prop := ∀ k, s.alive k = true → P k

/-- Which adaptors may be alive at each place of `startCAA`. -/
def Alone (s : Adaptor) : CAAState → Prop
  | .attempt | .pause => s.Only fun _ => False
  | .stat k | .poll k _ | .select k | .signal k | .await k | .returned (.ok k) => s.Only (· = k)
  | .returned (.error err) => ∃ k, s.Only fun j => j = k ∧ err.isExitOf s.kubelet.name

structure Inv (s : Adaptor) : Prop where
  named : ∀ k, (s.caa k).name = cloudAPIAdaptor.name
  started : ∀ k < s.attempts, (s.caa k).phase.started = true
  alone : Alone s s.state
  /-- It waits only for an adaptor that it has sent SIGTERM. -/
  awaited : ∀ k, s.state = .await k → k ∈ s.signalled

theorem Only.mono {P Q : Nat → Prop} (h : s.Only P) (hPQ : ∀ k, P k → Q k)
    (halive : ∀ k, s'.alive k = true → s.alive k = true) : s'.Only Q :=
  fun k hk => hPQ k (h k (halive k hk))

theorem Alone.mono {state : CAAState} (h : Alone s state) (hkubelet : s'.kubelet.name = s.kubelet.name)
    (halive : ∀ k, s'.alive k = true → s.alive k = true) : Alone s' state := by
  unfold Alone at h ⊢
  split at h
  all_goals try exact h.mono (fun _ hk => hk) halive
  obtain ⟨k, h⟩ := h
  rw [hkubelet]
  exact ⟨k, h.mono (fun _ hk => hk) halive⟩

/-! ## One step -/

theorem proceed_spec {p p' : Process} {err : Option String} (h : p.proceed err = some p') :
    p'.name = p.name ∧ p'.phase.started = true ∧ p'.phase ≠ .running := by
  unfold Process.proceed at h
  split at h
  · cases h
    exact ⟨rfl, rfl, nofun⟩
  · cases h
    exact ⟨rfl, rfl, nofun⟩
  · cases h

/-- Where a process has exited, its name tells which one it was. -/
theorem Alone.afterExit {k : Nat} {w : Watched} (h : s.Only (· = k))
    (hname : (s.caa k).name = cloudAPIAdaptor.name) (hclosed : (s.watched k w).phase = .closed) :
    Alone s (s.afterWait k (.processExit (s.watched k w).name (s.watched k w).err)) := by
  unfold afterWait
  dsimp only
  split
  · rename_i hkubelet
    exact ⟨k, fun j hj => ⟨h j hj, hkubelet⟩⟩
  · rename_i hkubelet
    split
    · exact h
    · intro j hj
      cases w with
      | kubelet => exact hkubelet rfl
      | caa =>
        obtain rfl := h j hj
        rw [alive_iff] at hj
        rw [show (s.caa j).phase = .closed from hclosed] at hj
        cases hj

/-- An adaptor that goes on is not alive any more, the others are as before. -/
theorem alive_of_update {k : Nat} {p : Process} {err : Option String}
    (h : (s.caa k).proceed err = some p) {j : Nat}
    (hj : alive { s with caa := Function.update s.caa k p } j = true) : s.alive j = true := by
  rw [alive_iff] at hj ⊢
  by_cases hjk : j = k
  · subst hjk
    simp only [Function.update_self] at hj
    exact absurd hj (proceed_spec h).2.2
  · simpa only [Function.update_of_ne hjk] using hj

theorem Inv.move (hinv : Inv s) (h : Move s s') : Inv s' := by
  obtain ⟨hnamed, hstarted, halone, hawaited⟩ := hinv
  cases h with
  | startFailed hs =>
    rw [hs] at halone
    exact ⟨hnamed, hstarted, ⟨0, fun j hj => (halone j hj).elim⟩, nofun⟩
  | started hs =>
    rw [hs] at halone
    refine ⟨fun j => ?_, fun j hj => ?_, fun j hj => ?_, nofun⟩
    · by_cases hj : j = s.attempts
      · subst hj
        simp only [Function.update_self]
        rfl
      · simp only [Function.update_of_ne hj]
        exact hnamed j
    · by_cases hlast : j = s.attempts
      · subst hlast
        simp only [Function.update_self]
        rfl
      · simp only [Function.update_of_ne hlast]
        exact hstarted j ((Nat.lt_succ_iff_lt_or_eq.mp hj).resolve_right hlast)
    · by_contra hne
      refine halone j ?_
      rw [alive_iff] at hj ⊢
      simpa only [Function.update_of_ne hne] using hj
  | ready hs =>
    rw [hs] at halone
    exact ⟨hnamed, hstarted, halone, nofun⟩
  | @within k state hs hstate =>
    have hk : s.Only (· = k) := by
      rcases hs with hs | ⟨rest, hs⟩ | hs <;> rw [hs] at halone <;> exact halone
    rcases hstate with rfl | ⟨rest, rfl⟩ | rfl <;> exact ⟨hnamed, hstarted, hk, nofun⟩
  | @exited k w rest hs hclosed =>
    rw [hs] at halone
    refine ⟨hnamed, hstarted, Alone.afterExit halone (hnamed k) hclosed, fun j hj => ?_⟩
    simp only [afterWait] at hj
    split at hj
    · cases hj
    · split at hj <;> cases hj
  | gaveUp hs =>
    rw [hs] at halone
    exact ⟨hnamed, hstarted, halone, nofun⟩
  | @signal k hs =>
    rw [hs] at halone
    refine ⟨hnamed, hstarted, halone, fun j hj => ?_⟩
    cases hj
    exact List.mem_cons_self
  | @awaited k hs hclosed =>
    rw [hs] at halone
    refine ⟨hnamed, hstarted, fun j hj => ?_, nofun⟩
    obtain rfl := halone j hj
    rw [alive_iff] at hj
    change (s.caa j).phase = .running at hj
    rw [hclosed] at hj
    cases hj
  | abandoned hs =>
    rw [hs] at halone
    exact ⟨hnamed, hstarted, ⟨0, fun j hj => (halone j hj).elim⟩, nofun⟩
  | again hs =>
    rw [hs] at halone
    exact ⟨hnamed, hstarted, halone, nofun⟩

theorem Inv.step (hinv : Inv s) (h : Moves s s') : Inv s' := by
  cases h with
  | @caa k p err hp =>
    obtain ⟨hname, hstarted, -⟩ := proceed_spec hp
    refine ⟨fun j => ?_, fun j hj => ?_, hinv.alone.mono rfl fun _ => alive_of_update hp,
      hinv.awaited⟩
    · by_cases hj : j = k
      · subst hj
        simp only [Function.update_self]
        exact hname.trans (hinv.named j)
      · simp only [Function.update_of_ne hj]
        exact hinv.named j
    · by_cases hjk : j = k
      · subst hjk
        simp only [Function.update_self]
        exact hstarted
      · simp only [Function.update_of_ne hjk]
        exact hinv.started j hj
  | kubelet hp =>
    exact ⟨hinv.named, hinv.started, hinv.alone.mono (proceed_spec hp).1 fun _ hj => hj, hinv.awaited⟩
  | around => exact ⟨hinv.named, hinv.started, hinv.alone.mono rfl fun _ hj => hj, hinv.awaited⟩
  | run hmove => exact hinv.move hmove

/-! ## Whole runs -/

theorem Inv.start (kubelet : Process) (socket : Bool) : Inv (Adaptor.start kubelet socket) :=
  { named := fun _ => rfl
    started := fun k hk => absurd hk (Nat.not_lt_zero k)
    alone := fun _ hk => nomatch alive_iff.mp hk
    awaited := nofun }

theorem Alone.unique {state : CAAState} (h : Alone s state) {i j : Nat} (hi : s.alive i = true)
    (hj : s.alive j = true) : i = j := by
  unfold Alone at h
  split at h
  all_goals first
    | exact (h i hi).elim
    | exact (h i hi).trans (h j hj).symm
    | skip
  obtain ⟨k, h⟩ := h
  exact (h i hi).1.trans (h j hj).1.symm

/-! ## The exit of the kubelet -/

/-- `waitForPath` finds the kubelet gone only where the adaptor of the attempt is not running. -/
def NoticesKubeletLast (s : Adaptor) : AdaptorLabel → Prop
  | .run _ => s.kubelet.phase = .closed → ∀ k ∈ s.state.looksAtKubelet, s.alive k = false
  | _ => True

instance (s : Adaptor) : (l : AdaptorLabel) → Decidable (s.NoticesKubeletLast l)
  | .run _ => inferInstanceAs
      (Decidable (s.kubelet.phase = .closed → ∀ k ∈ s.state.looksAtKubelet, s.alive k = false))
  | .caa .. | .kubelet _ | .socket _ | .cancel | .timeout | .expire => isTrue trivial

/-- No adaptor is left behind with an error. -/
def NoneLeft (s : Adaptor) : Prop := ∀ err, s.state = .returned (.error err) → s.Only fun _ => False

theorem NoneLeft.move {choice : Choice} (hinv : Inv s) (hok : s.NoticesKubeletLast (.run choice))
    (h : Move s s') : NoneLeft s' := by
  have halone := hinv.alone
  cases h with
  | startFailed hs =>
    rw [hs] at halone
    exact fun _ _ => halone
  | within _ hstate =>
    intro err herr
    rcases hstate with rfl | ⟨rest, rfl⟩ | rfl <;> cases herr
  | @exited k w rest hs hclosed =>
    intro _ _ j hj
    rw [hs] at halone
    obtain rfl := halone j hj
    -- the process that was found gone is the adaptor, or the adaptor is not running
    cases w with
    | caa =>
      rw [alive_iff] at hj
      rw [show (s.caa j).phase = .closed from hclosed] at hj
      cases hj
    | kubelet =>
      have hnone := hok hclosed j (by rw [hs]; rfl)
      rw [show s.alive j = true from hj] at hnone
      cases hnone
  | abandoned hs =>
    rw [hs] at halone
    exact fun _ _ => halone
  | _ => exact fun _ herr => nomatch herr

theorem NoneLeft.step {l : AdaptorLabel} (hleft : NoneLeft s) (hinv : Inv s)
    (hok : s.NoticesKubeletLast l) (h : s.step l = some s') : NoneLeft s' := by
  cases l with
  | run choice => exact .move hinv hok (move_of_advance h)
  | caa k err =>
    obtain ⟨p, hp, rfl⟩ := Option.map_eq_some_iff.mp h
    exact fun e he j hj => hleft e he j (alive_of_update hp hj)
  | kubelet err =>
    obtain ⟨p, hp, rfl⟩ := Option.map_eq_some_iff.mp h
    exact hleft
  | _ =>
    cases h
    exact hleft

/-- Where the kubelet is found gone beside a running adaptor, this one is left behind. -/
theorem leaves_adaptor {l : AdaptorLabel} (h : s.step l = some s') (hl : ¬ s.NoticesKubeletLast l) :
    ∃ err k, s'.state = .returned (.error err) ∧ s'.alive k = true := by
  cases l with
  | run choice =>
    simp only [NoticesKubeletLast, not_forall, Bool.not_eq_false] at hl
    obtain ⟨hclosed, k, hk, halive⟩ := hl
    obtain ⟨rest, hs⟩ := CAAState.mem_looksAtKubelet.mp hk
    cases choice with
    | next =>
      have hclosed' : (s.watched k .kubelet).phase = .closed := hclosed
      simp only [Adaptor.step, advance, hs, if_pos hclosed'] at h
      cases h
      exact ⟨_, k, if_pos rfl, halive⟩
    | _ =>
      simp only [Adaptor.step, advance, hs] at h
      cases h
  | _ => exact absurd trivial hl

/-- **No stray adaptor, unless the kubelet exits first.** After any number of attempts and any order of
events, at most one adaptor that `startCAA` has started is alive, and it waits only for one that it
has sent SIGTERM. Where it never finds the kubelet gone beside a running adaptor, an adaptor that is
alive after it has returned is the one that it returned, which the deferred `terminate` of `run` has
in its list; where it does, it returns an error and the adaptor is alive. -/
theorem no_stray_adaptor (kubelet : Process) (socket : Bool) (ls : List AdaptorLabel) (s : Adaptor)
    (h : Run step (fun _ _ => True) (Adaptor.start kubelet socket) ls s) :
    (∀ i j, s.alive i = true → s.alive j = true → i = j) ∧
    (∀ k, s.state = .await k → k ∈ s.signalled) ∧
    (Run step NoticesKubeletLast (Adaptor.start kubelet socket) ls s →
      ∀ result, s.state = .returned result →
      (∀ err, result = .error err → ∀ k < s.attempts, (s.caa k).phase.exited = true) ∧
      ∀ k, s.alive k = true → s.registered = some k) ∧
    ∀ l s', s.step l = some s' → ¬ s.NoticesKubeletLast l →
      ∃ err k, s'.state = .returned (.error err) ∧ s'.alive k = true := by
  have hinv : Inv s :=
    h.invariant Inv (fun _ _ _ hi _ hstep => hi.step (moves hstep)) (.start kubelet socket)
  refine ⟨fun i j => hinv.alone.unique, hinv.awaited, fun hrun result hresult => ?_,
    fun l s' => leaves_adaptor⟩
  cases result with
  | ok k =>
    refine ⟨nofun, fun j hj => ?_⟩
    have halone := hinv.alone
    rw [hresult] at halone
    rw [registered, hresult, halone j hj]
  | error err =>
    have hleft : Inv s ∧ NoneLeft s := hrun.invariant (fun s => Inv s ∧ NoneLeft s)
      (fun _ _ _ ⟨hi, hl⟩ hok hstep => ⟨hi.step (moves hstep), hl.step hi hok hstep⟩)
      ⟨.start kubelet socket, nofun⟩
    have hnone := hleft.2 err hresult
    refine ⟨fun _ _ k hk => ?_, fun k hk => (hnone k hk).elim⟩
    by_contra hexited
    exact hnone k (alive_iff.mpr (Shutdown.running_iff.mp ⟨hinv.started k hk, hexited⟩))

/-- The first attempt times out and its adaptor exits on SIGTERM; during the second one the adaptor and
then the kubelet exit, and the context is cancelled. -/
def cancelledRun : List AdaptorLabel :=
  [.run .next, .run .next, .run .next, .run .next, .run .next, .timeout, .run .deadline, .run .next,
    .caa 0 (some "signal: terminated"), .caa 0 none, .run .next, .run .tick,
    .run .next, .run .next, .caa 1 (some "exit status 1"), .caa 1 none,
    .kubelet (some "exit status 1"), .kubelet none, .run .next, .cancel, .run .done]

theorem cancelled_start_leaves_none :
    ∃ s, Run step NoticesKubeletLast (Adaptor.start kubeletProcess.started false) cancelledRun s ∧
      s.attempts = 2 ∧ ∀ k < 2, (s.caa k).phase.exited = true := by
  obtain ⟨s, hrun, hstate, hattempts⟩ := Run.exists_of_checkRun
    (fun s : Adaptor => s.state = .returned (.error (.other "context canceled")) ∧ s.attempts = 2)
    (show (checkRun step NoticesKubeletLast (Adaptor.start kubeletProcess.started false)
      cancelledRun).any _ = true by decide)
  obtain ⟨-, -, hreturned, -⟩ := no_stray_adaptor _ _ _ s (hrun.mono fun _ _ _ => trivial)
  have hexited := (hreturned hrun _ hstate).1 _ rfl
  rw [hattempts] at hexited
  exact ⟨s, hrun, hattempts, hexited⟩

/-- The kubelet exits while the adaptor has not made its socket yet. -/
def kubeletExitRun : List AdaptorLabel :=
  [.run .next, .run .next, .kubelet (some "exit status 1"), .kubelet none, .run .next, .run .next]

theorem adaptor_survives_kubelet_exit :
    ∃ s, Run step (fun _ _ => True) (Adaptor.start kubeletProcess.started false) kubeletExitRun s ∧
      s.state = .returned (.error (.processExit "kubelet" (some "exit status 1"))) ∧
      s.alive 0 = true ∧ s.signalled = [] ∧ s.registered = none :=
  Run.exists_of_checkRun _ (by decide)

end SandboxProvider.Node.Adaptor
