import Mathlib.Logic.Function.Basic
import SandboxProvider.Node.Terminate

/-!
# Starting the adaptor

`startCAA` and `waitForPath` of `cmd/peer-pod-node/main.go`. Each attempt starts a process and waits
for its socket; an attempt that fails is given up and followed by another one, until the context is
done, two minutes have passed or the kubelet has exited. Processes exit, the socket comes and goes,
timers fire and the context is cancelled between any two steps.
-/

namespace SandboxProvider.Node

/-- A `process` as `startCAA` sees it, with what `cmd.Wait` returned. -/
structure Process where
  name : String
  phase : Phase := .created
  err : Option String := none

namespace Process

/-- `cmd.Start` succeeded. -/
def started (p : Process) : Process := { p with phase := .running }

/-- The goroutine of `start` proceeds; `err` is what `cmd.Wait` returns. -/
def proceed (p : Process) (err : Option String) : Option Process :=
  match p.phase with
  | .running => some { p with phase := .reaped, err := err }
  | .reaped => some { p with phase := .closed }
  | _ => none

end Process

/-- The errors of `startCAA`: a `*processExitError`, or another one with its text. -/
inductive NodeError
  | processExit (name : String) (err : Option String)
  | other (message : String)
  deriving DecidableEq

/-- `Error()`. -/
def NodeError.error : NodeError → String
  | .processExit name err => name ++ " exited: " ++ err.getD "<nil>"
  | .other message => message

/-- The error is the exit of the process with this name. -/
def NodeError.isExitOf (name : String) : NodeError → Prop
  | .processExit name' _ => name' = name
  | .other _ => False

def hypervisorSock : String := "/run/peerpod/hypervisor.sock"

/-- `command("cloud-api-adaptor", …)`. -/
def cloudAPIAdaptor : Process := { name := "cloud-api-adaptor" }

/-- `command("kubelet", …)`. -/
def kubeletProcess : Process := { name := "kubelet" }

/-- The processes that `waitForPath` watches. -/
inductive Watched
  | caa | kubelet
  deriving DecidableEq

/-- The places of `startCAA` between two observable actions. Those of an attempt have its number. -/
inductive CAAState
  | attempt
  /-- `waitForPath`: before `os.Stat`. -/
  | stat (k : Nat)
  /-- `waitForPath`: the processes whose `done` is still to be looked at. -/
  | poll (k : Nat) (rest : List Watched)
  /-- `waitForPath`: its last `select`. -/
  | select (k : Nat)
  /-- Before SIGTERM is sent. -/
  | signal (k : Nat)
  /-- `<-caa.done`. -/
  | await (k : Nat)
  /-- The `select` at the end of the loop. -/
  | pause
  | returned (result : Except NodeError Nat)
  deriving DecidableEq

/-- The attempt in which `waitForPath` looks at the kubelet next. -/
def CAAState.looksAtKubelet : CAAState → Option Nat
  | .poll k (.kubelet :: _) => some k
  | _ => none

theorem CAAState.mem_looksAtKubelet {state : CAAState} {k : Nat} :
    k ∈ state.looksAtKubelet ↔ ∃ rest, state = .poll k (.kubelet :: rest) := by
  constructor
  · intro h
    unfold looksAtKubelet at h
    split at h
    · cases h
      exact ⟨_, rfl⟩
    · cases h
  · rintro ⟨rest, rfl⟩
    rfl

/-- `startCAA` and what is around it. The processes that it has started are those of the attempts
below `attempts`. -/
structure Adaptor where
  kubelet : Process
  caa : Nat → Process := fun _ => cloudAPIAdaptor
  attempts : Nat := 0
  signalled : List Nat := []
  socket : Bool := false
  cancelled : Bool := false
  /-- The 15 seconds of this attempt are over. -/
  timedOut : Bool := false
  /-- The two minutes are over. -/
  expired : Bool := false
  state : CAAState := .attempt

/-- How a step goes on where it has a choice: `cmd.Start` fails, or which branch a `select` takes. -/
inductive Choice
  | next
  | fail (message : String)
  | done
  | deadline
  | tick

inductive AdaptorLabel
  | caa (k : Nat) (err : Option String)
  | kubelet (err : Option String)
  | socket (present : Bool)
  | cancel
  | timeout
  | expire
  | run (choice : Choice)

namespace Adaptor

def start (kubelet : Process) (socket : Bool) : Adaptor := { kubelet := kubelet, socket := socket }

def watched (s : Adaptor) (k : Nat) : Watched → Process
  | .caa => s.caa k
  | .kubelet => s.kubelet

/-- What `startCAA` does with an error of `waitForPath`. -/
def afterWait (s : Adaptor) (k : Nat) (err : NodeError) : CAAState :=
  match err with
  | .processExit name _ =>
    if name = s.kubelet.name then .returned (.error err)
    else if name ≠ (s.caa k).name then .signal k
    else .pause
  | .other _ => .signal k

/-- The next step of `startCAA`. -/
def advance (s : Adaptor) (choice : Choice) : Option Adaptor :=
  match s.state, choice with
  | .attempt, .fail message =>
    some { s with state := .returned (.error (.other s!"start cloud-api-adaptor: {message}")) }
  | .attempt, .next =>
    some { s with
      caa := Function.update s.caa s.attempts cloudAPIAdaptor.started
      attempts := s.attempts + 1
      timedOut := false
      state := .stat s.attempts }
  | .stat k, .next =>
    if s.socket then some { s with state := .returned (.ok k) }
    else some { s with state := .poll k [.caa, .kubelet] }
  | .poll k [], .next => some { s with state := .select k }
  | .poll k (w :: rest), .next =>
    let p := s.watched k w
    if p.phase = .closed then
      some { s with state := s.afterWait k (.processExit p.name p.err) }
    else some { s with state := .poll k rest }
  | .select k, .done =>
    if s.cancelled then some { s with state := s.afterWait k (.other "context canceled") } else none
  | .select k, .deadline =>
    if s.timedOut then
      some { s with state := s.afterWait k (.other s!"timed out waiting for {hypervisorSock}") }
    else none
  | .select k, .tick => some { s with state := .stat k }
  | .signal k, .next => some { s with signalled := k :: s.signalled, state := .await k }
  | .await k, .next => if (s.caa k).phase = .closed then some { s with state := .pause } else none
  | .pause, .done =>
    if s.cancelled then some { s with state := .returned (.error (.other "context canceled")) }
    else none
  | .pause, .deadline =>
    if s.expired then
      some { s with state := .returned (.error
        (.other "timed out starting cloud-api-adaptor after PeerPodNode registration")) }
    else none
  | .pause, .tick => some { s with state := .attempt }
  | _, _ => none

def step (s : Adaptor) : AdaptorLabel → Option Adaptor
  | .caa k err => ((s.caa k).proceed err).map fun p => { s with caa := Function.update s.caa k p }
  | .kubelet err => (s.kubelet.proceed err).map fun p => { s with kubelet := p }
  | .socket present => some { s with socket := present }
  | .cancel => some { s with cancelled := true }
  | .timeout => some { s with timedOut := true }
  | .expire => some { s with expired := true }
  | .run choice => s.advance choice

/-- The process that `run` adds to its list for the deferred `terminate`. -/
def registered (s : Adaptor) : Option Nat :=
  match s.state with
  | .returned (.ok k) => some k
  | _ => none

/-! ## What a step can do -/

/-- The steps of `startCAA`. -/
inductive Move (s : Adaptor) : Adaptor → Prop
  | startFailed {message} (hs : s.state = .attempt) :
      Move s { s with state := .returned (.error (.other message)) }
  | started (hs : s.state = .attempt) :
      Move s { s with
        caa := Function.update s.caa s.attempts cloudAPIAdaptor.started
        attempts := s.attempts + 1
        timedOut := false
        state := .stat s.attempts }
  | ready {k} (hs : s.state = .stat k) : Move s { s with state := .returned (.ok k) }
  | within {k state} (hs : s.state = .stat k ∨ (∃ rest, s.state = .poll k rest) ∨ s.state = .select k)
      (hstate : state = .stat k ∨ (∃ rest, state = .poll k rest) ∨ state = .select k) :
      Move s { s with state := state }
  | exited {k w rest} (hs : s.state = .poll k (w :: rest)) (hclosed : (s.watched k w).phase = .closed) :
      Move s { s with
        state := s.afterWait k (.processExit (s.watched k w).name (s.watched k w).err) }
  | gaveUp {k} (hs : s.state = .select k) : Move s { s with state := .signal k }
  | signal {k} (hs : s.state = .signal k) :
      Move s { s with signalled := k :: s.signalled, state := .await k }
  | awaited {k} (hs : s.state = .await k) (hclosed : (s.caa k).phase = .closed) :
      Move s { s with state := .pause }
  | abandoned {message} (hs : s.state = .pause) :
      Move s { s with state := .returned (.error (.other message)) }
  | again (hs : s.state = .pause) : Move s { s with state := .attempt }

/-- The steps of `startCAA` and of what is around it. -/
inductive Moves (s : Adaptor) : Adaptor → Prop
  | caa {k p err} (h : (s.caa k).proceed err = some p) :
      Moves s { s with caa := Function.update s.caa k p }
  | kubelet {p err} (h : s.kubelet.proceed err = some p) : Moves s { s with kubelet := p }
  | around {socket cancelled timedOut expired} :
      Moves s { s with
        socket := socket, cancelled := cancelled, timedOut := timedOut, expired := expired }
  | run {s'} (h : Move s s') : Moves s s'

theorem move_of_advance {s s' : Adaptor} {choice : Choice} (h : s.advance choice = some s') :
    Move s s' := by
  unfold advance at h
  split at h
  · rename_i hs
    cases h
    exact .startFailed hs
  · rename_i hs
    cases h
    exact .started hs
  · rename_i k hs
    split at h
    · cases h
      exact .ready hs
    · cases h
      exact .within (.inl hs) (.inr (.inl ⟨_, rfl⟩))
  · rename_i k hs
    cases h
    exact .within (.inr (.inl ⟨_, hs⟩)) (.inr (.inr rfl))
  · rename_i k w rest hs
    dsimp only at h
    split at h
    · rename_i hclosed
      cases h
      exact .exited hs hclosed
    · cases h
      exact .within (.inr (.inl ⟨_, hs⟩)) (.inr (.inl ⟨_, rfl⟩))
  · rename_i k hs
    split at h
    · cases h
      exact .gaveUp hs
    · cases h
  · rename_i k hs
    split at h
    · cases h
      exact .gaveUp hs
    · cases h
  · rename_i k hs
    cases h
    exact .within (.inr (.inr hs)) (.inl rfl)
  · rename_i k hs
    cases h
    exact .signal hs
  · rename_i k hs
    split at h
    · rename_i hclosed
      cases h
      exact .awaited hs hclosed
    · cases h
  · rename_i hs
    split at h
    · cases h
      exact .abandoned hs
    · cases h
  · rename_i hs
    split at h
    · cases h
      exact .abandoned hs
    · cases h
  · rename_i hs
    cases h
    exact .again hs
  · cases h

theorem moves {s s' : Adaptor} {l : AdaptorLabel} (h : s.step l = some s') : Moves s s' := by
  cases l with
  | caa k err =>
    obtain ⟨p, hp, rfl⟩ := Option.map_eq_some_iff.mp h
    exact .caa hp
  | kubelet err =>
    obtain ⟨p, hp, rfl⟩ := Option.map_eq_some_iff.mp h
    exact .kubelet hp
  | socket present =>
    cases h
    exact .around
  | cancel =>
    cases h
    exact .around
  | timeout =>
    cases h
    exact .around
  | expire =>
    cases h
    exact .around
  | run choice => exact .run (move_of_advance h)

end Adaptor

end SandboxProvider.Node
