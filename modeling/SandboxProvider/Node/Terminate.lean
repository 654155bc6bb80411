import Mathlib.Data.List.FinRange
import SandboxProvider.Lib.Transition

/-!
# The processes of a node

`cmd/peer-pod-node/main.go`: a managed process as `os/exec` and its `done` channel show it, and
`terminate`, which signals the processes in the reverse of their order, waits for them under one timer
and kills what is left when the timer fires. The processes exit, their `Wait` returns and the timer
fires between any two steps of `terminate`.
-/

namespace SandboxProvider.Node

/-- Where a process is: not started (`cmd.Process` and `done` are nil), started, reaped by `cmd.Wait`
(which has set `cmd.ProcessState`), or reaped with `done` closed. -/
inductive Phase
  | created | running | reaped | closed
  deriving DecidableEq, Repr

/-- `cmd.Process` and `done` are set. -/
def Phase.started : Phase → Bool
  | .created => false
  | _ => true

/-- `cmd.ProcessState` is set. -/
def Phase.exited : Phase → Bool
  | .reaped | .closed => true
  | _ => false

/-- The goroutine of `start`: `Wait` returns, then `done` is closed. -/
def Phase.next : Phase → Option Phase
  | .running => some .reaped
  | .reaped => some .closed
  | _ => none

inductive Signal
  | sigterm | sigkill
  deriving DecidableEq, Repr

/-- The places of `terminate` between two observable actions, with the processes that its loop has
still to visit. In `kill` the check of `ProcessState` has found the process alive. -/
inductive TerminateState (n : Nat)
  | signalling (rest : List (Fin n))
  | waiting (rest : List (Fin n))
  | killing (rest : List (Fin n))
  | kill (i : Fin n) (rest : List (Fin n))
  | returned
  deriving DecidableEq

/-- A signal was sent (with the phase of the process at that time), or the timer fired. -/
inductive ShutdownEvent (n : Nat)
  | signalled (i : Fin n) (signal : Signal) (phase : Phase)
  | expired
  deriving DecidableEq

/-- `terminate` on a list of `n` processes. The history has the latest event first. -/
structure Shutdown (n : Nat) where
  phase : Fin n → Phase
  state : TerminateState n
  expired : Bool := false
  history : List (ShutdownEvent n) := []

inductive ShutdownLabel (n : Nat)
  /-- `Wait` of a process returns, or its `done` channel is closed. -/
  | proceed (i : Fin n)
  /-- The timer fires. -/
  | expire
  /-- `terminate` takes a step; where its `select` has a choice, `deadline` says which branch. -/
  | run (deadline : Bool)

namespace Shutdown

variable {n : Nat}

/-- `slices.Backward`. -/
def backward (n : Nat) : List (Fin n) := (List.finRange n).reverse

/-- `terminate` is called. -/
def start (phase : Fin n → Phase) : Shutdown n where
  phase := phase
  state := .signalling (backward n)

/-- The timer exists from the second loop on. -/
def timed (s : Shutdown n) : Bool :=
  match s.state with
  | .signalling _ => false
  | _ => true

def send (s : Shutdown n) (i : Fin n) (signal : Signal) (state : TerminateState n) : Shutdown n :=
  { s with state := state, history := .signalled i signal (s.phase i) :: s.history }

/-- The next step of `terminate`. -/
def advance (s : Shutdown n) (deadline : Bool) : Option (Shutdown n) :=
  match s.state with
  | .signalling [] => some { s with state := .waiting (backward n) }
  | .signalling (i :: rest) =>
    if (s.phase i).started then some (s.send i .sigterm (.signalling rest))
    else some { s with state := .signalling rest }
  | .waiting [] => some { s with state := .returned }
  | .waiting (i :: rest) =>
    if !(s.phase i).started then some { s with state := .waiting rest }
    else if deadline then
      if s.expired then some { s with state := .killing (List.finRange n) } else none
    else if s.phase i = .closed then some { s with state := .waiting rest }
    else none
  | .killing [] => some { s with state := .returned }
  | .killing (i :: rest) =>
    if (s.phase i).started ∧ ¬ (s.phase i).exited then some { s with state := .kill i rest }
    else some { s with state := .killing rest }
  | .kill i rest => some (s.send i .sigkill (.killing rest))
  | .returned => none

def step (s : Shutdown n) : ShutdownLabel n → Option (Shutdown n)
  | .proceed i => (s.phase i).next.map fun p => { s with phase := Function.update s.phase i p }
  | .expire =>
    if s.timed ∧ ¬ s.expired then
      some { s with expired := true, history := .expired :: s.history }
    else none
  | .run deadline => s.advance deadline

/-! ## What a step can do -/

/-- The steps of `terminate`. -/
inductive Move (s : Shutdown n) : Shutdown n → Prop
  | signal {i rest} (hs : s.state = .signalling (i :: rest)) (hi : (s.phase i).started = true) :
      Move s (s.send i .sigterm (.signalling rest))
  | skipSignal {i rest} (hs : s.state = .signalling (i :: rest)) (hi : s.phase i = .created) :
      Move s { s with state := .signalling rest }
  | signalled (hs : s.state = .signalling []) : Move s { s with state := .waiting (backward n) }
  | skipWait {i rest} (hs : s.state = .waiting (i :: rest)) (hi : s.phase i = .created) :
      Move s { s with state := .waiting rest }
  | waited {i rest} (hs : s.state = .waiting (i :: rest)) (hi : s.phase i = .closed) :
      Move s { s with state := .waiting rest }
  | deadline {i rest} (hs : s.state = .waiting (i :: rest)) (hexpired : s.expired = true) :
      Move s { s with state := .killing (List.finRange n) }
  | allWaited (hs : s.state = .waiting []) : Move s { s with state := .returned }
  | alive {i rest} (hs : s.state = .killing (i :: rest)) (hi : s.phase i = .running) :
      Move s { s with state := .kill i rest }
  | skipKill {i rest} (hs : s.state = .killing (i :: rest)) (hi : s.phase i ≠ .running) :
      Move s { s with state := .killing rest }
  | kill {i rest} (hs : s.state = .kill i rest) : Move s (s.send i .sigkill (.killing rest))
  | allKilled (hs : s.state = .killing []) : Move s { s with state := .returned }

/-- The steps of `terminate` and of what is around it. -/
inductive Moves (s : Shutdown n) : Shutdown n → Prop
  | proceed {i p} (h : (s.phase i).next = some p) :
      Moves s { s with phase := Function.update s.phase i p }
  | expire (htimed : s.timed = true) (hnew : s.expired = false) :
      Moves s { s with expired := true, history := .expired :: s.history }
  | run {s'} (h : Move s s') : Moves s s'

theorem eq_created_of_not_started {p : Phase} (h : ¬ p.started = true) : p = .created := by
  cases p <;> first | rfl | exact absurd rfl h

theorem running_iff {p : Phase} : (p.started = true ∧ ¬ p.exited = true) ↔ p = .running := by
  cases p <;> decide

theorem move_of_advance {s s' : Shutdown n} {deadline : Bool}
    (h : s.advance deadline = some s') : Move s s' := by
  unfold advance at h
  split at h
  · rename_i hs
    cases h
    exact .signalled hs
  · rename_i i rest hs
    split at h
    · rename_i hi
      cases h
      exact .signal hs hi
    · rename_i hi
      cases h
      exact .skipSignal hs (eq_created_of_not_started hi)
  · rename_i hs
    cases h
    exact .allWaited hs
  · rename_i i rest hs
    split at h
    · rename_i hi
      cases h
      exact .skipWait hs (eq_created_of_not_started (by simpa using hi))
    · split at h
      · split at h
        · rename_i hexpired
          cases h
          exact .deadline hs hexpired
        · cases h
      · split at h
        · rename_i hclosed
          cases h
          exact .waited hs hclosed
        · cases h
  · rename_i hs
    cases h
    exact .allKilled hs
  · rename_i i rest hs
    split at h
    · rename_i hi
      cases h
      exact .alive hs (running_iff.mp hi)
    · rename_i hi
      cases h
      exact .skipKill hs fun hrunning => hi (running_iff.mpr hrunning)
  · rename_i i rest hs
    cases h
    exact .kill hs
  · cases h

theorem moves {s s' : Shutdown n} {l : ShutdownLabel n} (h : s.step l = some s') : Moves s s' := by
  cases l with
  | proceed i =>
    obtain ⟨p, hp, rfl⟩ := Option.map_eq_some_iff.mp h
    exact .proceed hp
  | expire =>
    simp only [step] at h
    split at h
    · rename_i hready
      cases h
      exact .expire hready.1 (by simpa using hready.2)
    · cases h
  | run deadline => exact .run (move_of_advance h)

end Shutdown

end SandboxProvider.Node
