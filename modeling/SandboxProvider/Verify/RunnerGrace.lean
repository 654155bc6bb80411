import SandboxProvider.Controller.DesiredRunner
import SandboxProvider.Verify.RunnerLifecycle

/-!
# The runner stops in time

The kubelet sends a signal to the containers of a Pod that is deleted and kills what is left of them
after the grace period. `run` asks the hypervisor to shut down and waits ten seconds for its exit; the
request itself is given up after a second. When `run` goes on as soon as it can, it has returned eleven
seconds after a signal at the latest, wherever it was, and that is less than the grace period of the Pod.
-/

namespace SandboxProvider.Runner

open Lib

/-- The timeout of `apiRequest`, in seconds. -/
def requestTimeout : Nat := 1

def VM.hasExited : VM → Bool
  | .exited _ => true
  | _ => false

namespace RunnerProcess

variable {parseIP : String → Bool} {opts : Options} {r r' : RunnerProcess}

/-- `run` waits for somebody else, or has returned. -/
def blocked (r : RunnerProcess) : Bool :=
  match r.state with
  | .wait => !r.signalled && !r.vm.hasExited
  | .await deadline => decide (r.now < deadline) && !r.vm.hasExited
  | .returned _ => true
  | _ => false

/-- Where `run` does not wait, some answer takes it on. -/
theorem exists_advance_of_not_blocked (h : r.blocked = false) :
    ∃ answer, (r.advance parseIP opts answer).isSome = true := by
  unfold blocked at h
  cases hs : r.state with
  | randomMAC =>
    refine ⟨.random [0, 0, 0, 0, 0, 0], ?_⟩
    simp [advance, hs]
  | readUserData =>
    refine ⟨.fail "", ?_⟩
    simp [advance, hs]
  | wait =>
    simp only [hs] at h
    cases hvm : r.vm with
    | exited err =>
      refine ⟨.done, ?_⟩
      simp [advance, hs, hvm]
    | absent | running =>
      refine ⟨.signal, ?_⟩
      simpa [advance, hs, hvm, VM.hasExited] using h
  | await deadline =>
    simp only [hs] at h
    cases hvm : r.vm with
    | exited err =>
      refine ⟨.done, ?_⟩
      simp [advance, hs, hvm]
    | absent | running =>
      refine ⟨.timeout, ?_⟩
      simpa [advance, hs, hvm, VM.hasExited] using h
  | returned => simp [hs] at h
  | configure network rest =>
    refine ⟨.ok, ?_⟩
    cases rest <;> simp [advance, hs, attempt]
  | _ =>
    refine ⟨.ok, ?_⟩
    simp [advance, hs, attempt]

theorem advance_of_blocked (h : r.blocked = true) (answer : Answer) :
    r.advance parseIP opts answer = none := by
  unfold blocked at h
  unfold advance
  cases hs : r.state with
  | wait =>
    simp only [hs, Bool.and_eq_true, Bool.not_eq_true'] at h ⊢
    split
    · rw [h.1]
      rfl
    · rename_i hvm
      rw [hvm] at h
      cases h.2
    · rfl
  | await deadline =>
    simp only [hs, Bool.and_eq_true, decide_eq_true_eq, Bool.not_eq_true'] at h ⊢
    split
    · rename_i hvm
      rw [hvm] at h
      cases h.2
    · exact if_neg (Nat.not_le_of_lt h.1)
    · rfl
  | returned => rfl
  | _ => simp [hs] at h

/-- These operations come before the start of the hypervisor. -/
theorem Passes.preparing {s s' : RunState} (h : Passes opts s s') :
    s.preparing = true ∧ s'.preparing = true := by
  cases h with
  | nameservers =>
    unfold prepareDisks
    split
    · exact ⟨rfl, rfl⟩
    · exact ⟨rfl, rfl⟩
  | mkdirState | mkdirSeed | configured | removeSocket => exact ⟨rfl, rfl⟩

theorem Runs.preparing {s s' : RunState} {args : List String} (h : Runs opts s args s') :
    s.preparing = true ∧ s'.preparing = true := by
  cases h with
  | overlay | seed | configure => exact ⟨rfl, rfl⟩

theorem Writes.preparing {s s' : RunState} {path content : String}
    (h : Writes opts s path content s') : s.preparing = true ∧ s'.preparing = true := by
  cases h with
  | userData | metaData | networkConfig => exact ⟨rfl, rfl⟩

/-- `run` goes on with the first proxy that is to be closed. -/
theorem leave_state_cases (r : RunnerProcess) (err : Option String) :
    (r.leave err).state = .closeHTTPProxy err ∨ (r.leave err).state = .closeAgentProxy err ∨
      (r.leave err).state = .returned err := by
  unfold leave
  dsimp only
  split
  · exact .inl rfl
  · split
    · exact .inr (.inl rfl)
    · exact .inr (.inr rfl)

theorem leave_state_ne_await {err : Option String} {deadline : Nat} :
    (r.leave err).state ≠ .await deadline := by
  obtain h | h | h := leave_state_cases r err
  all_goals
    rw [h]
    exact RunState.noConfusion

theorem Move.now_eq (h : Move opts r r') : r'.now = r.now := by
  cases h with
  | _ => rfl

theorem Moves.now_le {l : RunnerLabel} (h : Moves opts r l r') : r.now ≤ r'.now := by
  cases h with
  | run h => rw [h.now_eq]
  | elapse => exact Nat.le_succ _
  | _ => exact Nat.le_refl _

/-- Signals are noticed once the hypervisor was started, and the deadline is ten seconds away at most. -/
structure ClockInv (r : RunnerProcess) : Prop where
  notified : r.signalled = true → r.vm ≠ .absent
  deadline : ∀ deadline, r.state = .await deadline → deadline ≤ r.now + 10

theorem ClockInv.start (opts : Options) (files : AList fun _ : String => String) :
    ClockInv (RunnerProcess.start opts files) where
  notified h := by cases h
  deadline deadline h := by
    unfold RunnerProcess.start at h
    dsimp only at h
    split at h
    · cases h
    · cases h

/-- A step of `run` that sets no deadline and leaves the signals alone. -/
theorem ClockInv.of_state (hinv : ClockInv r) (hsignalled : r'.signalled = true → r.signalled = true)
    (hvm : r.vm ≠ .absent → r'.vm ≠ .absent) (hstate : ∀ deadline, r'.state ≠ .await deadline) :
    ClockInv r' where
  notified h := hvm (hinv.notified (hsignalled h))
  deadline deadline h := absurd h (hstate deadline)

theorem ClockInv.move (hinv : ClockInv r) (h : Move opts r r') : ClockInv r' := by
  have hpreparing {s : RunState} (hs : s.preparing = true) (deadline : Nat) : s ≠ .await deadline := by
    rintro rfl
    cases hs
  cases h with
  | pass h => exact hinv.of_state id id (hpreparing h.preparing.2)
  | command h => exact hinv.of_state id id (hpreparing h.preparing.2)
  | write h => exact hinv.of_state id id (hpreparing h.preparing.2)
  | started => exact hinv.of_state id (fun _ => VM.noConfusion) (fun _ => RunState.noConfusion)
  | failed | exited | killed => exact hinv.of_state id id (fun _ => leave_state_ne_await)
  | signalled => exact hinv.of_state (fun h => by cases h) id (fun _ => RunState.noConfusion)
  | shutdown =>
    refine ⟨hinv.notified, fun deadline h => ?_⟩
    cases h
    exact Nat.le_refl _
  | _ => exact hinv.of_state id id (fun _ => RunState.noConfusion)

theorem ClockInv.step (hinv : ClockInv r) {l : RunnerLabel} (h : r.step parseIP opts l = some r') :
    ClockInv r' := by
  cases l with
  | run answer => exact hinv.move (move_of_advance h)
  | exit err =>
    obtain ⟨-, rfl⟩ := Option.ite_some_none_eq_some.mp h
    exact ⟨fun _ => VM.noConfusion, hinv.deadline⟩
  | signal =>
    obtain ⟨hnotified, rfl⟩ := Option.ite_some_none_eq_some.mp h
    exact ⟨fun _ => of_decide_eq_true hnotified, hinv.deadline⟩
  | elapse =>
    cases h
    refine ⟨hinv.notified, fun deadline hs => ?_⟩
    have hdeadline := hinv.deadline deadline hs
    dsimp only
    omega
  | update path content =>
    cases h
    exact ⟨hinv.notified, hinv.deadline⟩

end RunnerProcess

/-! ## Time -/

/-- `run` with the time at which it came to the place where it is. -/
structure Clocked where
  process : RunnerProcess
  since : Nat := 0

namespace Clocked

open RunnerProcess

variable {parseIP : String → Bool} {opts : Options} {c c' : Clocked} {l : RunnerLabel}

def start (opts : Options) (files : AList fun _ : String => String) : Clocked where
  process := .start opts files

def step (parseIP : String → Bool) (opts : Options) (c : Clocked) (l : RunnerLabel) : Option Clocked :=
  (c.process.step parseIP opts l).map fun r =>
    ⟨r, if r.state = c.process.state then c.since else r.now⟩

/-- Time passes only while `run` has to wait, or while the shutdown is requested. -/
def Timely (parseIP : String → Bool) (opts : Options) (c : Clocked) : RunnerLabel → Prop
  | .elapse => (∀ answer, c.process.advance parseIP opts answer = none) ∨
      (c.process.state = .shutdown ∧ c.process.now < c.since + requestTimeout)
  | _ => True

theorem process_of_step (h : c.step parseIP opts l = some c') :
    c.process.step parseIP opts l = some c'.process ∧
      c'.since = if c'.process.state = c.process.state then c.since else c'.process.now := by
  obtain ⟨r, hr, rfl⟩ := Option.map_eq_some_iff.mp h
  exact ⟨hr, rfl⟩

theorem timely_elapse_iff : c.Timely parseIP opts .elapse ↔ c.process.blocked = true ∨
    (c.process.state = .shutdown ∧ c.process.now < c.since + requestTimeout) := by
  constructor
  · rintro (hnone | hshutdown)
    · cases hblocked : c.process.blocked with
      | true => exact .inl rfl
      | false =>
        obtain ⟨answer, hsome⟩ : ∃ answer, (c.process.advance parseIP opts answer).isSome = true :=
          exists_advance_of_not_blocked hblocked
        rw [hnone answer] at hsome
        cases hsome
    · exact .inr hshutdown
  · rintro (hblocked | hshutdown)
    · exact .inl (advance_of_blocked hblocked)
    · exact .inr hshutdown

instance (parseIP : String → Bool) (opts : Options) (c : Clocked) :
    (l : RunnerLabel) → Decidable (c.Timely parseIP opts l)
  | .elapse => decidable_of_iff _ timely_elapse_iff.symm
  | .run _ | .exit _ | .signal | .update .. => isTrue trivial

/-- What holds in every run, timely or not. -/
structure Inv (c : Clocked) : Prop where
  stop : StopInv c.process
  clock : ClockInv c.process
  since : c.since ≤ c.process.now

theorem Inv.start (opts : Options) (files : AList fun _ : String => String) :
    Inv (Clocked.start opts files) :=
  ⟨.start opts files, .start opts files, Nat.le_refl _⟩

theorem Inv.step (hinv : Inv c) (h : c.step parseIP opts l = some c') : Inv c' := by
  obtain ⟨hstep, hsince⟩ := process_of_step h
  refine ⟨hinv.stop.step (moves hstep), hinv.clock.step hstep, ?_⟩
  rw [hsince]
  split
  · exact Nat.le_trans hinv.since (moves hstep).now_le
  · exact Nat.le_refl _

/-! ## After a signal -/

/-- How late it may be at each place of `run`, when a signal arrived by the time `t`. -/
def Due (t : Nat) (signalled : Bool) (since now : Nat) : RunState → Prop
  | .wait => signalled = true ∧ now ≤ t
  | .shutdown => since ≤ t ∧ now ≤ t + requestTimeout
  | .await deadline => deadline ≤ t + requestTimeout + 10 ∧ now ≤ t + requestTimeout + 10
  | .kill | .closeHTTPProxy _ | .closeAgentProxy _ => now ≤ t + requestTimeout + 10
  | .returned _ => True
  | _ => False

section Due

variable {t since now : Nat} {signalled : Bool} {s : RunState}

theorem Due.not_preparing (h : Due t signalled since now s) : s.preparing = false := by
  cases s with
  | wait | shutdown | await | kill | closeHTTPProxy | closeAgentProxy | returned => rfl
  | _ => exact h.elim

theorem Due.supervising (h : Due t signalled since now s) (hs : s.supervising = true) :
    now ≤ t + requestTimeout + 10 := by
  cases s with
  | wait => exact Nat.le_trans h.2 (by omega)
  | shutdown => exact Nat.le_trans h.2 (by omega)
  | await => exact h.2
  | kill => exact h
  | _ => cases hs

theorem Due.signal (h : Due t signalled since now s) : Due t true since now s := by
  cases s with
  | wait => exact ⟨rfl, h.2⟩
  | _ => exact h

theorem due_leave {r : RunnerProcess} {err : Option String} (h : r.now ≤ t + requestTimeout + 10) :
    Due t signalled since r.now (r.leave err).state := by
  obtain hs | hs | hs := leave_state_cases r err
  · rw [hs]
    exact h
  · rw [hs]
    exact h
  · rw [hs]
    trivial

end Due

/-- At the signal, wherever `run` is. -/
theorem Inv.due (hinv : Inv c) (hsignalled : c.process.signalled = true) :
    Due c.process.now true c.since c.process.now c.process.state := by
  have hpresent := hinv.clock.notified hsignalled
  have hstanding := hinv.stop.standing
  have hdeadline := hinv.clock.deadline
  generalize c.process.state = s at hstanding hdeadline ⊢
  cases s with
  | wait => exact ⟨rfl, Nat.le_refl _⟩
  | shutdown => exact ⟨hinv.since, Nat.le_add_right _ _⟩
  | await deadline =>
    have hle := hdeadline deadline rfl
    exact ⟨by omega, by omega⟩
  | kill | closeHTTPProxy | closeAgentProxy =>
    exact (Nat.le_add_right _ requestTimeout).trans (Nat.le_add_right _ 10)
  | returned => trivial
  | _ => exact absurd (hstanding.absent rfl) hpresent

/-- A step of `run` takes no time. -/
theorem Due.move {t since since' : Nat} {r r' : RunnerProcess}
    (hdue : Due t r.signalled since r.now r.state) (h : Move opts r r')
    (hsince : r'.state ≠ r.state → since' = r'.now) :
    Due t r'.signalled since' r'.now r'.state := by
  have hpreparing (hs : r.state.preparing = true) : False := by
    rw [hdue.not_preparing] at hs
    cases hs
  have hstate {s : RunState} (hs : r.state = s) : Due t r.signalled since r.now s := hs ▸ hdue
  cases h with
  | pass h => exact (hpreparing h.preparing.1).elim
  | command h => exact (hpreparing h.preparing.1).elim
  | write h => exact (hpreparing h.preparing.1).elim
  | drew h | read h | agentProxy h | httpProxy h | started h => exact (hstate h).elim
  | failed h => exact (hpreparing h).elim
  | signalled h =>
    have hnow : r.now ≤ t := (hstate h).2
    have heq : since' = r.now := hsince (by rw [h]; exact RunState.noConfusion)
    exact ⟨heq ▸ hnow, Nat.le_add_right_of_le hnow⟩
  | shutdown h =>
    have hnow : r.now ≤ t + requestTimeout := (hstate h).2
    exact ⟨Nat.add_le_add_right hnow 10, Nat.le_add_right_of_le hnow⟩
  | exited h =>
    refine due_leave (hdue.supervising ?_)
    obtain h | ⟨deadline, h⟩ := h
    · rw [h]
      rfl
    · rw [h]
      rfl
  | expired h => exact (hstate h).2
  | killed h => exact due_leave (hstate h)
  | httpProxyClosed h => exact (hstate h)
  | agentProxyClosed h => trivial

/-- A second passes: `run` waits for the hypervisor, or for the answer to its request. -/
theorem Due.elapse {t : Nat} (hdue : Due t c.process.signalled c.since c.process.now c.process.state)
    (htimely : c.Timely parseIP opts .elapse) :
    Due t c.process.signalled c.since (c.process.now + 1) c.process.state := by
  obtain hblocked | ⟨hs, hrequest⟩ := timely_elapse_iff.mp htimely
  · unfold blocked at hblocked
    split at hblocked
    · rename_i hs
      rw [hs] at hdue
      rw [hdue.1] at hblocked
      cases hblocked
    · rename_i deadline hs
      rw [hs] at hdue ⊢
      have hlt : c.process.now < deadline := of_decide_eq_true (Bool.and_eq_true_iff.mp hblocked).1
      exact ⟨hdue.1, hlt.trans_le hdue.1⟩
    · rename_i hs
      rw [hs]
      trivial
    · cases hblocked
  · rw [hs] at hdue ⊢
    exact ⟨hdue.1, hrequest.trans_le (Nat.add_le_add_right hdue.1 _)⟩

theorem Due.step {t : Nat} (hdue : Due t c.process.signalled c.since c.process.now c.process.state)
    (htimely : c.Timely parseIP opts l) (h : c.step parseIP opts l = some c') :
    Due t c'.process.signalled c'.since c'.process.now c'.process.state := by
  obtain ⟨r, hstep, rfl⟩ := Option.map_eq_some_iff.mp h
  dsimp only
  cases l with
  | run answer =>
    refine hdue.move (move_of_advance hstep) fun hne => ?_
    exact if_neg hne
  | exit err =>
    obtain ⟨-, rfl⟩ := Option.ite_some_none_eq_some.mp hstep
    rw [if_pos rfl]
    exact hdue
  | signal =>
    obtain ⟨-, rfl⟩ := Option.ite_some_none_eq_some.mp hstep
    rw [if_pos rfl]
    exact hdue.signal
  | elapse =>
    cases hstep
    rw [if_pos rfl]
    exact hdue.elapse htimely
  | update path content =>
    cases hstep
    rw [if_pos rfl]
    exact hdue

/-- Eleven seconds after the signal, `run` has returned. -/
theorem Due.returned {t since now : Nat} {signalled : Bool} {s : RunState}
    (h : Due t signalled since now s) (hlate : t + requestTimeout + 10 < now) :
    ∃ err, s = .returned err := by
  cases s with
  | wait | shutdown | await | kill => exact absurd (h.supervising rfl) (Nat.not_le_of_lt hlate)
  | closeHTTPProxy | closeAgentProxy => exact absurd h (Nat.not_le_of_lt hlate)
  | returned err => exact ⟨err, rfl⟩
  | _ => exact h.elim

end Clocked

open Controller

/-- **The runner stops within the grace period.** In every run, wherever `run` is when a signal arrives
that `signal.Notify` has asked for: if from then on it goes on as soon as it can, it has returned by the
end of the grace period of its Pod, with both proxies closed and the hypervisor gone, or still running
although `run` has tried to kill it. -/
theorem run_stops_in_grace_period (parseIP : String → Bool) (opts : Options)
    (files : AList fun _ : String => String) (sandbox : PodSandbox) (sandboxClass : PodSandboxClass)
    (grace : Int)
    (hgrace : (desiredRunner sandbox sandboxClass).spec.terminationGracePeriodSeconds = some grace)
    {before after : List RunnerLabel} {c c' : Clocked}
    (hbefore : Run (Clocked.step parseIP opts) (fun _ _ => True) (.start opts files) before c)
    (hsignal : c.process.signalled = true)
    (hafter : Run (Clocked.step parseIP opts) (Clocked.Timely parseIP opts) c after c')
    (htime : c.process.now + grace ≤ c'.process.now) :
    (∃ err, c'.process.state = .returned err) ∧
      c'.process.agentProxy = false ∧ c'.process.httpProxy = false ∧
      (c'.process.vm = .running → ∃ time err, .killed time err ∈ c'.process.history) := by
  have hinv : Clocked.Inv c := hbefore.invariant _ (fun _ _ _ hinv _ h => hinv.step h)
    (.start opts files)
  have hinv' : Clocked.Inv c' := hafter.invariant _ (fun _ _ _ hinv _ h => hinv.step h) hinv
  have hdue := hafter.invariant
    (fun d => Clocked.Due c.process.now d.process.signalled d.since d.process.now d.process.state)
    (fun _ _ _ hdue hok h => hdue.step hok h) (hsignal.symm ▸ hinv.due hsignal)
  cases hgrace
  obtain ⟨err, hs⟩ := hdue.returned (by unfold requestTimeout; omega)
  have hstanding := hinv'.stop.standing
  rw [hs] at hstanding
  exact ⟨⟨err, hs⟩, hstanding⟩

namespace Sample

/-- A signal arrives while `run` waits. -/
def untilSignalled : List RunnerLabel := untilStarted options ++ [.signal]

/-- The hypervisor does not exit; the shutdown takes a second. -/
def gracePeriod : List RunnerLabel :=
  [.run .signal, .elapse, .run .ok] ++ List.replicate 10 .elapse ++
    [.run .timeout, .run .ok, .run .ok, .run .ok] ++ List.replicate 19 .elapse

end Sample

theorem sample_run_stops_in_grace_period :
    ∃ c c', Run (Clocked.step (fun _ => true) Sample.options) (fun _ _ => True)
        (.start Sample.options Sample.files) Sample.untilSignalled c ∧
      Run (Clocked.step (fun _ => true) Sample.options) (Clocked.Timely (fun _ => true) Sample.options)
        c Sample.gracePeriod c' ∧
      (∃ err, c'.process.state = .returned err) ∧ c'.process.vm = .running ∧
      ∃ time err, .killed time err ∈ c'.process.history := by
  have hcheck : (checkRun (Clocked.step (fun _ => true) Sample.options) (fun _ _ => True)
      (.start Sample.options Sample.files) Sample.untilSignalled).any (fun c =>
        c.process.signalled = true ∧
        (checkRun (Clocked.step (fun _ => true) Sample.options)
          (Clocked.Timely (fun _ => true) Sample.options) c Sample.gracePeriod).any (fun c' =>
            c.process.now + 30 = c'.process.now ∧ c'.process.vm = .running) = true) = true := by
    decide +kernel
  obtain ⟨c, hbefore, hsignal, hcheck⟩ := Run.exists_of_checkRun _ hcheck
  obtain ⟨c', hafter, htime, hvm⟩ := Run.exists_of_checkRun _ hcheck
  obtain ⟨hreturned, -, -, hkilled⟩ := run_stops_in_grace_period _ _ _ { metadata := {}, spec := {} }
    { metadata := {}, spec := {} } 30 rfl hbefore hsignal hafter (by omega)
  exact ⟨c, c', hbefore, hafter, hreturned, hvm, hkilled hvm⟩

end SandboxProvider.Runner
