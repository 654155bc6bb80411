import Mathlib.Data.List.AList
import SandboxProvider.Lib.Transition
import SandboxProvider.Runner.Disks

/-!
# Running a PodVM

`cmd/runner/main.go`: `run`. It prepares the disks and the network, starts two proxies and then the
hypervisor, and waits until that exits or a signal arrives. A label is one atomic step: an operation of
`run` with the answer of the system, the exit of the hypervisor, a signal, a second that passes, or a
write to some file by somebody else.
-/

namespace SandboxProvider.Runner

open Lib FilePath

/-- The places of `run` before its operations, with the variables that are still used. -/
inductive RunState
  /-- `os.MkdirAll(opts.stateDir)`. -/
  | mkdirState
  | randomMAC
  | nameservers (guestMAC : String)
  /-- `prepareDisks`. -/
  | createOverlay (network : NetworkState)
  | mkdirSeed (network : NetworkState)
  | readUserData (network : NetworkState)
  | writeUserData (network : NetworkState) (userData : String)
  | writeMetaData (network : NetworkState)
  | writeNetworkConfig (network : NetworkState)
  | createSeed (network : NetworkState)
  /-- `prepareNetwork`, with the commands that are left. -/
  | configure (network : NetworkState) (rest : List (List String))
  | startAgentProxy (network : NetworkState)
  | startHTTPProxy (network : NetworkState)
  | removeSocket (network : NetworkState)
  | startVM (network : NetworkState)
  /-- The first `select`. -/
  | wait
  | shutdown
  /-- The second `select`, whose timer fires at `deadline`. -/
  | await (deadline : Nat)
  | kill
  /-- The deferred calls. -/
  | closeHTTPProxy (err : Option String)
  | closeAgentProxy (err : Option String)
  | returned (err : Option String)
  deriving DecidableEq

/-- The places before the hypervisor is started, where an error ends `run`. -/
def RunState.preparing : RunState → Bool
  | .wait | .shutdown | .await _ | .kill | .closeHTTPProxy _ | .closeAgentProxy _ | .returned _ => false
  | _ => true

/-- The places between the start of the hypervisor and the return. -/
def RunState.supervising : RunState → Bool
  | .wait | .shutdown | .await _ | .kill => true
  | _ => false

/-- The process of the hypervisor. -/
inductive VM
  | absent | running
  | exited (err : Option String)
  deriving DecidableEq

/-- What happened: a file was read, a command was run (with the files at that time), a proxy was started,
the hypervisor was started, a signal was received, the shutdown was requested, or the hypervisor was to
be killed. -/
inductive RunEvent
  | drew (bytes : List UInt8)
  | read (path content : String)
  | ran (args : List String) (files : AList fun _ : String => String)
  | agentProxy
  | httpProxy
  | started (args : List String)
  | signalled
  | shutdown (time : Nat)
  | killed (time : Nat) (err : Option String)

/-- `run` and what is around it. The history has the latest event first; no program reads it. -/
structure RunnerProcess where
  state : RunState
  files : AList fun _ : String => String
  agentProxy : Bool := false
  httpProxy : Bool := false
  vm : VM := .absent
  signalled : Bool := false
  now : Nat := 0
  history : List RunEvent := []

/-- The answer to an operation, or the branch that a `select` takes. -/
inductive Answer
  | ok
  | fail (err : String)
  | random (bytes : List UInt8)
  | signal
  | done
  | timeout

inductive RunnerLabel
  | run (answer : Answer)
  /-- The hypervisor exits; `err` is what `cmd.Wait` returns. -/
  | exit (err : Option String)
  | signal
  /-- A second passes. -/
  | elapse
  /-- Somebody else writes a file. -/
  | update (path content : String)

namespace RunnerProcess

/-- `run` returns; the proxies that were started are closed first. -/
def leave (r : RunnerProcess) (err : Option String) : RunnerProcess :=
  { r with state :=
      if r.httpProxy then .closeHTTPProxy err
      else if r.agentProxy then .closeAgentProxy err
      else .returned err }

/-- An operation succeeds, or its error is returned. -/
def attempt (r : RunnerProcess) (answer : Answer) (context : String) (next : RunnerProcess) :
    Option RunnerProcess :=
  match answer with
  | .ok => some next
  | .fail err => some (r.leave (some (context ++ err)))
  | _ => none

/-- `command` succeeded. -/
def ran (r : RunnerProcess) (args : List String) (state : RunState) : RunnerProcess :=
  { r with state := state, history := .ran args r.files :: r.history }

def write (r : RunnerProcess) (path content : String) (state : RunState) : RunnerProcess :=
  { r with state := state, files := r.files.insert path content }

/-- The state after `nameservers`. -/
def prepareDisks (opts : Options) (network : NetworkState) : RunState :=
  if opts.kernelPath = "" then .createOverlay network else .mkdirSeed network

/-- `run` takes a step. -/
def advance (parseIP : String → Bool) (opts : Options) (r : RunnerProcess) (answer : Answer) :
    Option RunnerProcess :=
  match r.state with
  | .mkdirState => r.attempt answer "" { r with state := .randomMAC }
  | .randomMAC =>
    match answer with
    | .random bytes =>
      if bytes.length = 6 then
        some { r with
          state := .nameservers (Runner.randomMAC bytes)
          history := .drew bytes :: r.history }
      else none
    | .fail err => some (r.leave (some err))
    | _ => none
  | .nameservers guestMAC =>
    -- an error of `os.ReadFile` leaves no servers
    match answer with
    | .ok =>
      let dns := ((r.files.lookup resolvConf).map (nameserversOf parseIP)).getD []
      some { r with state := prepareDisks opts ⟨guestAddress, gateway, dns, guestMAC⟩ }
    | .fail _ => some { r with state := prepareDisks opts ⟨guestAddress, gateway, [], guestMAC⟩ }
    | _ => none
  | .createOverlay network =>
    r.attempt answer "create root overlay: " (r.ran opts.overlayCommand (.mkdirSeed network))
  | .mkdirSeed network => r.attempt answer "" { r with state := .readUserData network }
  | .readUserData network =>
    match answer, r.files.lookup opts.userDataPath with
    | .ok, some userData => some { r with
        state := .writeUserData network userData
        history := .read opts.userDataPath userData :: r.history }
    | .fail err, _ => some (r.leave (some err))
    | _, _ => none
  | .writeUserData network userData =>
    r.attempt answer "" (r.write (opts.seedFile "user-data") userData (.writeMetaData network))
  | .writeMetaData network =>
    r.attempt answer ""
      (r.write (opts.seedFile "meta-data") (metaData network.mac) (.writeNetworkConfig network))
  | .writeNetworkConfig network =>
    r.attempt answer "" (r.write (opts.seedFile "network-config")
      (renderNetworkConfig network opts.networkMTU) (.createSeed network))
  | .createSeed network =>
    r.attempt answer opts.seedCommand.2 (r.ran opts.seedCommand.1
      (.configure network (networkCommands primaryLink bridgeName tapName opts.networkMTU)))
  | .configure network [] => some { r with state := .startAgentProxy network }
  | .configure network (args :: rest) =>
    r.attempt answer ("configure PodVM network (" ++ String.intercalate " " args ++ "): ")
      (r.ran args (.configure network rest))
  | .startAgentProxy network =>
    r.attempt answer "listen for agent proxy: " { r with
      state := .startHTTPProxy network
      agentProxy := true
      history := .agentProxy :: r.history }
  | .startHTTPProxy network =>
    r.attempt answer "listen for HTTP proxy: " { r with
      state := .removeSocket network
      httpProxy := true
      history := .httpProxy :: r.history }
  | .removeSocket network => some { r with state := .startVM network }
  | .startVM network =>
    r.attempt answer "" { r with
      state := .wait
      vm := .running
      history := .started (opts.hypervisor network.mac) :: r.history }
  | .wait =>
    match answer, r.vm with
    | .signal, _ =>
      if r.signalled then
        some { r with state := .shutdown, signalled := false, history := .signalled :: r.history }
      else none
    | .done, .exited err => some (r.leave err)
    | _, _ => none
  | .shutdown =>
    -- the result of `shutdown` is not looked at
    some { r with state := .await (r.now + 10), history := .shutdown r.now :: r.history }
  | .await deadline =>
    match answer, r.vm with
    | .done, .exited err => some (r.leave err)
    | .timeout, _ => if deadline ≤ r.now then some { r with state := .kill } else none
    | _, _ => none
  | .kill =>
    match answer with
    | .ok => some ({ r with history := .killed r.now none :: r.history }.leave none)
    | .fail err => some ({ r with history := .killed r.now (some err) :: r.history }.leave (some err))
    | _ => none
  | .closeHTTPProxy err => some { r with state := .closeAgentProxy err, httpProxy := false }
  | .closeAgentProxy err => some { r with state := .returned err, agentProxy := false }
  | .returned _ => none

/-- Whether `signal.Notify` was called. -/
def notified (r : RunnerProcess) : Bool := r.vm ≠ .absent

def step (parseIP : String → Bool) (opts : Options) (r : RunnerProcess) :
    RunnerLabel → Option RunnerProcess
  | .run answer => r.advance parseIP opts answer
  | .exit err => if r.vm = .running then some { r with vm := .exited err } else none
  | .signal => if r.notified then some { r with signalled := true } else none
  | .elapse => some { r with now := r.now + 1 }
  | .update path content => some { r with files := r.files.insert path content }

/-- `run` is called. -/
def start (opts : Options) (files : AList fun _ : String => String) : RunnerProcess where
  files := files
  state :=
    match checkOptions opts with
    | .error err => .returned (some err)
    | .ok () => .mkdirState

/-! ## What a step can do -/

/-- The operations that change nothing but the place. -/
inductive Passes (opts : Options) : RunState → RunState → Prop
  | mkdirState : Passes opts .mkdirState .randomMAC
  | nameservers {guestMAC dns} : Passes opts (.nameservers guestMAC)
      (prepareDisks opts ⟨guestAddress, gateway, dns, guestMAC⟩)
  | mkdirSeed {network} : Passes opts (.mkdirSeed network) (.readUserData network)
  | configured {network} : Passes opts (.configure network []) (.startAgentProxy network)
  | removeSocket {network} : Passes opts (.removeSocket network) (.startVM network)

/-- The commands. -/
inductive Runs (opts : Options) : RunState → List String → RunState → Prop
  | overlay {network} : Runs opts (.createOverlay network) opts.overlayCommand (.mkdirSeed network)
  | seed {network} : Runs opts (.createSeed network) opts.seedCommand.1
      (.configure network (networkCommands primaryLink bridgeName tapName opts.networkMTU))
  | configure {network args rest} :
      Runs opts (.configure network (args :: rest)) args (.configure network rest)

/-- The files that are written. -/
inductive Writes (opts : Options) : RunState → String → String → RunState → Prop
  | userData {network userData} : Writes opts (.writeUserData network userData)
      (opts.seedFile "user-data") userData (.writeMetaData network)
  | metaData {network} : Writes opts (.writeMetaData network) (opts.seedFile "meta-data")
      (Runner.metaData network.mac) (.writeNetworkConfig network)
  | networkConfig {network} : Writes opts (.writeNetworkConfig network)
      (opts.seedFile "network-config") (renderNetworkConfig network opts.networkMTU)
      (.createSeed network)

/-- The steps of `run`. -/
inductive Move (opts : Options) (r : RunnerProcess) : RunnerProcess → Prop
  | pass {s} (h : Passes opts r.state s) : Move opts r { r with state := s }
  | command {args s} (h : Runs opts r.state args s) : Move opts r (r.ran args s)
  | write {path content s} (h : Writes opts r.state path content s) :
      Move opts r (r.write path content s)
  | drew {bytes} (h : r.state = .randomMAC) (hbytes : bytes.length = 6) :
      Move opts r { r with
        state := .nameservers (Runner.randomMAC bytes)
        history := .drew bytes :: r.history }
  | read {network userData} (h : r.state = .readUserData network)
      (hread : r.files.lookup opts.userDataPath = some userData) :
      Move opts r { r with
        state := .writeUserData network userData
        history := .read opts.userDataPath userData :: r.history }
  | agentProxy {network} (h : r.state = .startAgentProxy network) :
      Move opts r { r with
        state := .startHTTPProxy network
        agentProxy := true
        history := .agentProxy :: r.history }
  | httpProxy {network} (h : r.state = .startHTTPProxy network) :
      Move opts r { r with
        state := .removeSocket network
        httpProxy := true
        history := .httpProxy :: r.history }
  | started {network} (h : r.state = .startVM network) :
      Move opts r { r with
        state := .wait
        vm := .running
        history := .started (opts.hypervisor network.mac) :: r.history }
  | failed {err} (h : r.state.preparing = true) : Move opts r (r.leave (some err))
  | signalled (h : r.state = .wait) :
      Move opts r { r with
        state := .shutdown
        signalled := false
        history := .signalled :: r.history }
  | shutdown (h : r.state = .shutdown) :
      Move opts r { r with
        state := .await (r.now + 10)
        history := .shutdown r.now :: r.history }
  | exited {err} (h : r.state = .wait ∨ ∃ deadline, r.state = .await deadline)
      (hvm : r.vm = .exited err) : Move opts r (r.leave err)
  | expired {deadline} (h : r.state = .await deadline) (htime : deadline ≤ r.now) :
      Move opts r { r with state := .kill }
  | killed {err} (h : r.state = .kill) :
      Move opts r ({ r with history := .killed r.now err :: r.history }.leave err)
  | httpProxyClosed {err} (h : r.state = .closeHTTPProxy err) :
      Move opts r { r with state := .closeAgentProxy err, httpProxy := false }
  | agentProxyClosed {err} (h : r.state = .closeAgentProxy err) :
      Move opts r { r with state := .returned err, agentProxy := false }

/-- The steps of `run` and of what is around it. -/
inductive Moves (opts : Options) (r : RunnerProcess) : RunnerLabel → RunnerProcess → Prop
  | run {answer r'} (h : Move opts r r') : Moves opts r (.run answer) r'
  | exit {err} (h : r.vm = .running) : Moves opts r (.exit err) { r with vm := .exited err }
  | signal : Moves opts r .signal { r with signalled := true }
  | elapse : Moves opts r .elapse { r with now := r.now + 1 }
  | update {path content} :
      Moves opts r (.update path content) { r with files := r.files.insert path content }

variable {parseIP : String → Bool} {opts : Options} {r r' : RunnerProcess} {answer : Answer}

theorem attempt_eq_some {context : String} {next : RunnerProcess}
    (h : r.attempt answer context next = some r') : r' = next ∨ ∃ err, r' = r.leave (some err) := by
  unfold attempt at h
  split at h
  · cases h
    exact .inl rfl
  · cases h
    exact .inr ⟨_, rfl⟩
  · cases h

/-- An operation whose error ends `run`. -/
theorem move_of_attempt {context : String} {next : RunnerProcess}
    (h : r.attempt answer context next = some r') (hstate : r.state.preparing = true)
    (hnext : Move opts r next) : Move opts r r' := by
  obtain rfl | ⟨err, rfl⟩ := attempt_eq_some h
  · exact hnext
  · exact .failed hstate

theorem move_of_advance (h : r.advance parseIP opts answer = some r') : Move opts r r' := by
  unfold advance at h
  split at h
  case h_1 hs => exact move_of_attempt h (by rw [hs]; rfl) (.pass (by rw [hs]; exact .mkdirState))
  case h_2 hs =>
    split at h
    · split at h
      · cases h
        exact .drew hs ‹_›
      · cases h
    · cases h
      exact .failed (by rw [hs]; rfl)
    · cases h
  case h_3 guestMAC hs =>
    split at h
    · cases h
      exact .pass (by rw [hs]; exact .nameservers)
    · cases h
      exact .pass (by rw [hs]; exact .nameservers)
    · cases h
  case h_4 network hs =>
    exact move_of_attempt h (by rw [hs]; rfl) (.command (by rw [hs]; exact .overlay))
  case h_5 network hs =>
    exact move_of_attempt h (by rw [hs]; rfl) (.pass (by rw [hs]; exact .mkdirSeed))
  case h_6 network hs =>
    split at h
    · cases h
      exact .read hs ‹_›
    · cases h
      exact .failed (by rw [hs]; rfl)
    · cases h
  case h_7 network userData hs =>
    exact move_of_attempt h (by rw [hs]; rfl) (.write (by rw [hs]; exact .userData))
  case h_8 network hs =>
    exact move_of_attempt h (by rw [hs]; rfl) (.write (by rw [hs]; exact .metaData))
  case h_9 network hs =>
    exact move_of_attempt h (by rw [hs]; rfl) (.write (by rw [hs]; exact .networkConfig))
  case h_10 network hs =>
    exact move_of_attempt h (by rw [hs]; rfl) (.command (by rw [hs]; exact .seed))
  case h_11 network hs =>
    cases h
    exact .pass (by rw [hs]; exact .configured)
  case h_12 network args rest hs =>
    exact move_of_attempt h (by rw [hs]; rfl) (.command (by rw [hs]; exact .configure))
  case h_13 network hs => exact move_of_attempt h (by rw [hs]; rfl) (.agentProxy hs)
  case h_14 network hs => exact move_of_attempt h (by rw [hs]; rfl) (.httpProxy hs)
  case h_15 network hs =>
    cases h
    exact .pass (by rw [hs]; exact .removeSocket)
  case h_16 network hs => exact move_of_attempt h (by rw [hs]; rfl) (.started hs)
  case h_17 hs =>
    split at h
    · split at h
      · cases h
        exact .signalled hs
      · cases h
    · cases h
      exact .exited (.inl hs) ‹_›
    · cases h
  case h_18 hs =>
    cases h
    exact .shutdown hs
  case h_19 deadline hs =>
    split at h
    · cases h
      exact .exited (.inr ⟨deadline, hs⟩) ‹_›
    · split at h
      · cases h
        exact .expired hs ‹_›
      · cases h
    · cases h
  case h_20 hs =>
    split at h
    · cases h
      exact .killed hs
    · cases h
      exact .killed hs
    · cases h
  case h_21 err hs =>
    cases h
    exact .httpProxyClosed hs
  case h_22 err hs =>
    cases h
    exact .agentProxyClosed hs
  case h_23 => cases h

theorem moves {l : RunnerLabel} (h : r.step parseIP opts l = some r') : Moves opts r l r' := by
  cases l with
  | run answer => exact .run (move_of_advance h)
  | exit err =>
    obtain ⟨hvm, rfl⟩ := Option.ite_some_none_eq_some.mp h
    exact .exit hvm
  | signal =>
    obtain ⟨-, rfl⟩ := Option.ite_some_none_eq_some.mp h
    exact .signal
  | elapse =>
    cases h
    exact .elapse
  | update path content =>
    cases h
    exact .update

end RunnerProcess

/-! ## The readiness check -/

/-- `vmInfo`, by the answer of the API socket: an error, or a status code and its text. -/
def vmInfo : Except String (Nat × String) → Except String Unit
  | .error err => .error err
  | .ok (code, status) =>
    if code ≠ 200 then .error ("cloud-hypervisor returned " ++ status) else .ok ()

/-- `agentReady`, by the result of the dial and then of closing the connection. -/
def agentReady : Except String (Option String) → Except String Unit
  | .error err => .error err
  | .ok (some err) => .error err
  | .ok none => .ok ()

/-- `readyCheck`: the guest is dialled only when the hypervisor has answered. -/
def readyCheck (info : Except String (Nat × String)) (dial : Except String (Option String)) :
    Except String Unit :=
  match vmInfo info with
  | .error err => .error err
  | .ok () => agentReady dial

/-- The socket that `runner ready` asks. -/
def ReadyOptions.socket (opts : ReadyOptions) : String := join opts.stateDir "cloud-hypervisor.sock"

/-- The check succeeds only if the hypervisor answered 200 and the guest accepted a connection. -/
theorem readyCheck_eq_ok {info : Except String (Nat × String)} {dial : Except String (Option String)} :
    readyCheck info dial = .ok () ↔ (∃ status, info = .ok (200, status)) ∧ dial = .ok none := by
  constructor
  · intro h
    unfold readyCheck vmInfo at h
    split at h
    · cases h
    · rename_i hinfo
      split at hinfo
      · cases hinfo
      · rename_i code status
        split at hinfo
        · cases hinfo
        · rename_i hcode
          unfold agentReady at h
          split at h
          · cases h
          · cases h
          · exact ⟨⟨status, by rw [not_not.mp hcode]⟩, rfl⟩
  · rintro ⟨⟨status, rfl⟩, rfl⟩
    rfl

end SandboxProvider.Runner
