import SandboxProvider.Node.Launch
import SandboxProvider.Node.Namespaces

/-!
# Running a node

`run` of `cmd/peer-pod-node/main.go` with `ensureUnixSyslogSocket`, `prepareKubeletConfig` and the
`waitForPath` of containerd; `startCAA`, `terminate` and `cleanupNetworkNamespaces` are the ones of their
own modules. Processes exit, sockets come and go, timers fire and signals arrive between any two steps.
-/

namespace SandboxProvider.Node

/-- The processes of a node; an attempt of `startCAA` has its number. -/
inductive Managed
  | containerd | kubelet
  | caa (k : Nat)
  deriving DecidableEq, Repr

/-- The places of `run` before its operations. -/
inductive NodeState
  | statBootstrap
  | mkdir (rest : List String)
  /-- `ensureUnixSyslogSocket`. -/
  | statSyslog
  | removeSyslog
  | linkSyslog
  /-- `prepareKubeletConfig`. -/
  | statConfigured
  | statClientCA
  | writeConfig
  | startContainerd (kubeletConfig : String)
  /-- `waitForPath` for the socket of containerd: before `os.Stat`, the look at `done`, and the `select`. -/
  | stat (kubeletConfig : String)
  | poll (kubeletConfig : String)
  | select (kubeletConfig : String)
  | startKubelet (kubeletConfig : String)
  | hashPlugin
  | startCAA (pluginHash : String)
  /-- The `select` at the end of `run`. -/
  | watch
  /-- The deferred calls. -/
  | shutdownHealth (result : Option NodeError)
  | terminate (result : Option NodeError)
  | cleanup (result : Option NodeError)
  | returned (result : Option NodeError)
  deriving DecidableEq

/-- The places before anything is started. -/
def NodeState.early : NodeState → Bool
  | .statBootstrap | .mkdir _ | .statSyslog | .removeSyslog | .linkSyslog | .statConfigured
  | .statClientCA | .writeConfig | .startContainerd _ => true
  | _ => false

/-- `signal.NotifyContext` was called. -/
def NodeState.notified : NodeState → Bool
  | .statBootstrap | .mkdir _ | .statSyslog | .removeSyslog | .linkSyslog | .statConfigured
  | .statClientCA | .writeConfig => false
  | _ => true

/-- A call of `terminate`; the phases of its processes are those of the node. -/
structure Termination where
  processes : List Managed
  state : TerminateState processes.length
  expired : Bool := false
  history : List (ShutdownEvent processes.length) := []

/-- `terminate` is called. -/
def Termination.start (processes : List Managed) : Termination where
  processes := processes
  state := .signalling (Shutdown.backward processes.length)

/-- The call with the phases of its processes. -/
def Termination.view (t : Termination) (phase : Managed → Phase) : Shutdown t.processes.length where
  phase i := phase (t.processes.get i)
  state := t.state
  expired := t.expired
  history := t.history

/-- The call after a step. -/
def Termination.next (t : Termination) (s : Shutdown t.processes.length) : Termination :=
  { t with state := s.state, expired := s.expired, history := s.history }

/-- The timer of the call fires. -/
def Termination.expire (t : Termination) : Termination :=
  { t with expired := true, history := .expired :: t.history }

/-- What happened: the kubelet configuration was found or written, a path was seen, a process was
started with its command line and what was added to its environment, the plugin was read, the context was
cancelled, the deferred calls began and `terminate` returned, or the namespaces were cleaned up. -/
inductive NodeEvent
  | configured (path : String)
  | wrote (path content : String)
  | saw (path : String)
  | started (p : Managed) (command env : List String)
  | read (path : String) (content : List UInt8)
  | cancelled
  | leaving
  | terminated
  | cleaned (failure : Option CleanupFailure)

/-- `run` and what is around it. The field of the adaptor has the kubelet, the adaptors, their socket,
the context and the timers of `startCAA`. The history has the latest event first; no program reads it. -/
structure Supervisor where
  adaptor : Adaptor
  state : NodeState := .statBootstrap
  containerd : Process := containerdProcess
  /-- The variable `processes`. -/
  processes : List Managed := []
  containerdSocket : Bool := false
  /-- The 30 seconds of the socket of containerd are over. -/
  timedOut : Bool := false
  /-- The health server listens. -/
  serving : Bool := false
  termination : Option Termination := none
  history : List NodeEvent := []

/-- The answer to an operation, or the branch that a `select` takes. -/
inductive NodeAnswer
  | ok
  | fail (err : String)
  /-- `os.Stat` found something that is no socket. -/
  | notSocket
  /-- `os.Remove` failed with `os.ErrNotExist`. -/
  | notExist
  | content (bytes : List UInt8)
  | choose (choice : Choice)
  | exited (p : Managed)
  | netns (os : Syscalls) (host : Host)

inductive NodeLabel
  | run (answer : NodeAnswer)
  /-- The goroutine of `start` proceeds; `err` is what `cmd.Wait` returns. -/
  | proceed (p : Managed) (err : Option String)
  | containerdSocket (present : Bool)
  | hypervisorSocket (present : Bool)
  | signal
  /-- `ListenAndServe` returns an error. -/
  | healthFails
  /-- The timer of a `waitForPath` fires. -/
  | timeout
  /-- The timer of `startCAA` or of `terminate` fires. -/
  | expire

namespace Supervisor

def process (s : Supervisor) : Managed → Process
  | .containerd => s.containerd
  | .kubelet => s.adaptor.kubelet
  | .caa k => s.adaptor.caa k

def phase (s : Supervisor) (p : Managed) : Phase := (s.process p).phase

/-- `run` returns before anything is deferred but `stop`. -/
def give (s : Supervisor) (err : String) : Supervisor :=
  { s with state := .returned (some (.other err)) }

/-- `run` returns: `terminate` is called. -/
def leave (s : Supervisor) (result : Option NodeError) : Supervisor :=
  { s with
    state := .terminate result
    termination := some (.start s.processes)
    history := .leaving :: s.history }

/-- The first operation of `prepareKubeletConfig`. -/
def prepareKubeletConfig (e : Environment) (s : Supervisor) : Supervisor :=
  if e.configured ≠ "" then { s with state := .statConfigured }
  else if e.parseIP e.clusterDNS then { s with state := .statClientCA }
  else s.give "PEER_POD_NODE_CLUSTER_DNS must contain a valid cluster DNS IP address"

/-- The error that the last `select` receives for a process. -/
def exitError (s : Supervisor) (p : Managed) : NodeError :=
  .processExit (s.process p).name
    (some ((s.process p).err.getD "process exited without an error"))

/-- An operation before anything is started succeeds, or its error is returned. -/
def attempt (s : Supervisor) (answer : NodeAnswer) (context : String) (next : Supervisor) :
    Option Supervisor :=
  match answer with
  | .ok => some next
  | .fail err => some (s.give (context ++ err))
  | _ => none

/-- `startCAA` takes a step, or has returned. -/
def advanceCAA (e : Environment) (s : Supervisor) (pluginHash : String) (choice : Choice) :
    Option Supervisor :=
  match s.adaptor.state with
  | .returned (.ok k) =>
    some { s with
      state := .watch
      processes := s.processes ++ [.caa k]
      serving := true
      history := .saw hypervisorSock :: s.history }
  | .returned (.error err) => some (s.leave (some err))
  | _ =>
    (s.adaptor.advance choice).map fun a => { s with
      adaptor := a
      history :=
        if a.attempts = s.adaptor.attempts then s.history
        else .started (.caa s.adaptor.attempts) adaptorCommand (e.adaptorEnv pluginHash) :: s.history }

/-- The thirty seconds that `run` gives `terminate` are over. -/
def overdue : Choice → Bool
  | .deadline => true
  | _ => false

/-- `terminate` takes a step, or has returned. -/
def advanceTermination (s : Supervisor) (result : Option NodeError) (choice : Choice) :
    Option Supervisor :=
  s.termination.bind fun t =>
    if t.state = .returned then
      some { s with state := .cleanup result, history := .terminated :: s.history }
    else
      ((t.view s.phase).advance (overdue choice)).map fun next =>
        { s with termination := some (t.next next) }

/-- `run` takes a step. -/
def advance (e : Environment) (s : Supervisor) (answer : NodeAnswer) : Option Supervisor :=
  match s.state with
  | .statBootstrap => s.attempt answer "bootstrap kubeconfig: " { s with state := .mkdir e.directories }
  | .mkdir [] => some { s with state := .statSyslog }
  | .mkdir (_ :: rest) => s.attempt answer "" { s with state := .mkdir rest }
  | .statSyslog =>
    match answer with
    | .notSocket => some (s.give ("syslog socket: " ++ journalSocket ++ " is not a Unix socket"))
    | _ => s.attempt answer "syslog socket: " { s with state := .removeSyslog }
  | .removeSyslog =>
    match answer with
    | .notExist => some { s with state := .linkSyslog }
    | _ => s.attempt answer "remove stale syslog socket: " { s with state := .linkSyslog }
  | .linkSyslog => s.attempt answer "create syslog socket link: " (s.prepareKubeletConfig e)
  | .statConfigured =>
    s.attempt answer "kubelet config: " { s with
      state := .startContainerd e.configured
      history := .configured e.configured :: s.history }
  | .statClientCA => s.attempt answer "kubelet client CA: " { s with state := .writeConfig }
  | .writeConfig =>
    s.attempt answer "" { s with
      state := .startContainerd e.kubeletYAML
      history := .wrote e.kubeletYAML e.kubeletContents :: s.history }
  | .startContainerd kubeletConfig =>
    s.attempt answer "start containerd: " { s with
      state := .stat kubeletConfig
      processes := [.containerd]
      containerd := s.containerd.started
      timedOut := false
      history := .started .containerd containerdCommand [] :: s.history }
  | .stat kubeletConfig =>
    if s.containerdSocket then
      some { s with
        state := .startKubelet kubeletConfig
        history := .saw defaultContainerdSock :: s.history }
    else some { s with state := .poll kubeletConfig }
  | .poll kubeletConfig =>
    if s.containerd.phase = .closed then
      some (s.leave (some (.processExit s.containerd.name s.containerd.err)))
    else some { s with state := .select kubeletConfig }
  | .select kubeletConfig =>
    match answer with
    | .choose .done =>
      if s.adaptor.cancelled then some (s.leave (some (.other "context canceled"))) else none
    | .choose .deadline =>
      if s.timedOut then
        some (s.leave (some (.other ("timed out waiting for " ++ defaultContainerdSock))))
      else none
    | .choose .tick => some { s with state := .stat kubeletConfig }
    | _ => none
  | .startKubelet kubeletConfig =>
    match answer with
    | .ok =>
      some { s with
        state := .hashPlugin
        processes := s.processes ++ [.kubelet]
        adaptor := { s.adaptor with kubelet := s.adaptor.kubelet.started }
        history := .started .kubelet (e.kubeletCommand kubeletConfig) [] :: s.history }
    | .fail err =>
      some ({ s with processes := s.processes ++ [Managed.kubelet] }.leave
        (some (.other ("start kubelet: " ++ err))))
    | _ => none
  | .hashPlugin =>
    match answer with
    | .content bytes =>
      some { s with
        state := .startCAA (fileSHA256 bytes)
        history := .read pluginPath bytes :: s.history }
    | .fail err => some (s.leave (some (.other ("hash CAA provider plugin: " ++ err))))
    | _ => none
  | .startCAA pluginHash =>
    match answer with
    | .choose choice => s.advanceCAA e pluginHash choice
    | _ => none
  | .watch =>
    match answer with
    | .choose .done =>
      if s.adaptor.cancelled then some { s with state := .shutdownHealth none } else none
    | .exited p =>
      if p ∈ s.processes ∧ s.phase p = .closed then
        some { s with state := .shutdownHealth (some (s.exitError p)) }
      else none
    | _ => none
  | .shutdownHealth result => some ({ s with serving := false }.leave result)
  | .terminate result =>
    match answer with
    | .choose choice => s.advanceTermination result choice
    | _ => none
  | .cleanup result =>
    match answer with
    | .netns os host =>
      some { s with
        state := .returned result
        history := .cleaned (cleanupNetworkNamespaces os netnsDir host).1 :: s.history }
    | _ => none
  | .returned _ => none

def cancel (s : Supervisor) : Supervisor :=
  { s with adaptor := { s.adaptor with cancelled := true }, history := .cancelled :: s.history }

/-- A process proceeds. -/
def proceed (s : Supervisor) (p : Managed) (err : Option String) : Option Supervisor :=
  match p with
  | .containerd => (s.containerd.proceed err).map fun p => { s with containerd := p }
  | .kubelet => (s.adaptor.step (.kubelet err)).map fun a => { s with adaptor := a }
  | .caa k => (s.adaptor.step (.caa k err)).map fun a => { s with adaptor := a }

/-- The timer of `startCAA`, or that of `terminate`, fires. -/
def expire (s : Supervisor) : Option Supervisor :=
  match s.termination, s.state with
  | none, .startCAA _ => some { s with adaptor := { s.adaptor with expired := true } }
  | none, _ => none
  | some t, _ => ((t.view s.phase).step .expire).map fun next =>
      { s with termination := some (t.next next) }

def step (e : Environment) (s : Supervisor) : NodeLabel → Option Supervisor
  | .run answer => s.advance e answer
  | .proceed p err => s.proceed p err
  | .containerdSocket present => some { s with containerdSocket := present }
  | .hypervisorSocket present => some { s with adaptor := { s.adaptor with socket := present } }
  | .signal => if s.state.notified then some s.cancel else none
  | .healthFails => if s.serving then some s.cancel else none
  | .timeout => some { s with timedOut := true, adaptor := { s.adaptor with timedOut := true } }
  | .expire => s.expire

/-- `run` is called. -/
def start (containerdSocket hypervisorSocket : Bool) : Supervisor where
  adaptor := Adaptor.start kubeletProcess hypervisorSocket
  containerdSocket := containerdSocket

/-! ## What a step can do -/

/-- The operations that change nothing but the place. -/
inductive Passes : NodeState → NodeState → Prop
  | mkdir {rest} : Passes .statBootstrap (.mkdir rest)
  | made {d rest} : Passes (.mkdir (d :: rest)) (.mkdir rest)
  | statSyslog : Passes (.mkdir []) .statSyslog
  | removeSyslog : Passes .statSyslog .removeSyslog
  | linkSyslog : Passes .removeSyslog .linkSyslog
  | statConfigured : Passes .linkSyslog .statConfigured
  | statClientCA : Passes .linkSyslog .statClientCA
  | writeConfig : Passes .statClientCA .writeConfig
  | poll {c} : Passes (.stat c) (.poll c)
  | select {c} : Passes (.poll c) (.select c)
  | again {c} : Passes (.select c) (.stat c)

/-- The steps of `run`. -/
inductive Move (e : Environment) (s : Supervisor) : Supervisor → Prop
  | pass {state} (h : Passes s.state state) : Move e s { s with state := state }
  | gave {err} (h : s.state.early = true) : Move e s (s.give err)
  | configured (h : s.state = .statConfigured) :
      Move e s { s with
        state := .startContainerd e.configured
        history := .configured e.configured :: s.history }
  | wrote (h : s.state = .writeConfig) :
      Move e s { s with
        state := .startContainerd e.kubeletYAML
        history := .wrote e.kubeletYAML e.kubeletContents :: s.history }
  | startedContainerd {c} (h : s.state = .startContainerd c) :
      Move e s { s with
        state := .stat c
        processes := [.containerd]
        containerd := s.containerd.started
        timedOut := false
        history := .started .containerd containerdCommand [] :: s.history }
  | sawContainerd {c} (h : s.state = .stat c) :
      Move e s { s with
        state := .startKubelet c
        history := .saw defaultContainerdSock :: s.history }
  | containerdExited {c} (h : s.state = .poll c) (hclosed : s.containerd.phase = .closed) :
      Move e s (s.leave (some (.processExit s.containerd.name s.containerd.err)))
  | gaveUp {c err} (h : s.state = .select c) : Move e s (s.leave (some (.other err)))
  | startedKubelet {c} (h : s.state = .startKubelet c) :
      Move e s { s with
        state := .hashPlugin
        processes := s.processes ++ [.kubelet]
        adaptor := { s.adaptor with kubelet := s.adaptor.kubelet.started }
        history := .started .kubelet (e.kubeletCommand c) [] :: s.history }
  | kubeletFailed {c err} (h : s.state = .startKubelet c) :
      Move e s ({ s with processes := s.processes ++ [Managed.kubelet] }.leave (some (.other err)))
  | hashed {bytes} (h : s.state = .hashPlugin) :
      Move e s { s with
        state := .startCAA (fileSHA256 bytes)
        history := .read pluginPath bytes :: s.history }
  | hashFailed {err} (h : s.state = .hashPlugin) : Move e s (s.leave (some (.other err)))
  | adaptorStarted {hash a} (h : s.state = .startCAA hash) (hmove : Adaptor.Move s.adaptor a)
      (hnew : a.attempts ≠ s.adaptor.attempts) :
      Move e s { s with
        adaptor := a
        history :=
          .started (.caa s.adaptor.attempts) adaptorCommand (e.adaptorEnv hash) :: s.history }
  | adaptor {hash a} (h : s.state = .startCAA hash) (hmove : Adaptor.Move s.adaptor a)
      (hsame : a.attempts = s.adaptor.attempts) :
      Move e s { s with adaptor := a }
  | adaptorReady {hash k} (h : s.state = .startCAA hash) (ha : s.adaptor.state = .returned (.ok k)) :
      Move e s { s with
        state := .watch
        processes := s.processes ++ [.caa k]
        serving := true
        history := .saw hypervisorSock :: s.history }
  | adaptorFailed {hash err} (h : s.state = .startCAA hash)
      (ha : s.adaptor.state = .returned (.error err)) : Move e s (s.leave (some err))
  | stopped (h : s.state = .watch) (hcancelled : s.adaptor.cancelled = true) :
      Move e s { s with state := .shutdownHealth none }
  | exited {p} (h : s.state = .watch) (hp : p ∈ s.processes) (hclosed : s.phase p = .closed) :
      Move e s { s with state := .shutdownHealth (some (s.exitError p)) }
  | healthDown {result} (h : s.state = .shutdownHealth result) :
      Move e s ({ s with serving := false }.leave result)
  | terminating {result t next} (h : s.state = .terminate result) (ht : s.termination = some t)
      (hmove : Shutdown.Move (t.view s.phase) next) :
      Move e s { s with termination := some (t.next next) }
  | terminated {result t} (h : s.state = .terminate result) (ht : s.termination = some t)
      (hreturned : t.state = .returned) :
      Move e s { s with state := .cleanup result, history := .terminated :: s.history }
  | cleaned {result failure} (h : s.state = .cleanup result) :
      Move e s { s with state := .returned result, history := .cleaned failure :: s.history }

/-- The steps of `run` and of what is around it. -/
inductive Moves (e : Environment) (s : Supervisor) : Supervisor → Prop
  | run {s'} (h : Move e s s') : Moves e s s'
  | containerd {p err} (h : s.containerd.proceed err = some p) : Moves e s { s with containerd := p }
  | adaptor {l err a} (hl : l = .kubelet err ∨ ∃ k, l = .caa k err) (h : s.adaptor.step l = some a) :
      Moves e s { s with adaptor := a }
  | around {containerdSocket timedOut socket timedOut' expired} :
      Moves e s { s with
        containerdSocket := containerdSocket
        timedOut := timedOut
        adaptor := { s.adaptor with socket := socket, timedOut := timedOut', expired := expired } }
  | cancel (h : s.state.notified = true ∨ s.serving = true) : Moves e s s.cancel
  | expired {t} (ht : s.termination = some t) (htimed : (t.view s.phase).timed = true)
      (hnew : t.expired = false) :
      Moves e s { s with termination := some t.expire }

variable {e : Environment} {s s' : Supervisor} {answer : NodeAnswer}

theorem move_of_prepareKubeletConfig (h : s.state = .linkSyslog) :
    Move e s (s.prepareKubeletConfig e) := by
  unfold prepareKubeletConfig
  split
  · exact .pass (by rw [h]; exact .statConfigured)
  · split
    · exact .pass (by rw [h]; exact .statClientCA)
    · exact .gave (by rw [h]; rfl)

theorem move_of_attempt {context : String} {next : Supervisor}
    (h : s.attempt answer context next = some s') (hs : s.state.early = true)
    (hnext : Move e s next) : Move e s s' := by
  unfold attempt at h
  split at h
  · cases h
    exact hnext
  · cases h
    exact .gave hs
  · cases h

theorem move_of_advanceCAA {hash : String} {choice : Choice} (hs : s.state = .startCAA hash)
    (h : s.advanceCAA e hash choice = some s') : Move e s s' := by
  unfold advanceCAA at h
  split at h
  · rename_i k ha
    cases h
    exact .adaptorReady hs ha
  · rename_i err ha
    cases h
    exact .adaptorFailed hs ha
  · obtain ⟨a, hmove, rfl⟩ := Option.map_eq_some_iff.mp h
    by_cases hnew : a.attempts = s.adaptor.attempts
    · rw [if_pos hnew]
      exact .adaptor hs (Adaptor.move_of_advance hmove) hnew
    · rw [if_neg hnew]
      exact .adaptorStarted hs (Adaptor.move_of_advance hmove) hnew

theorem move_of_advanceTermination {result : Option NodeError} {choice : Choice}
    (hs : s.state = .terminate result) (h : s.advanceTermination result choice = some s') :
    Move e s s' := by
  unfold advanceTermination at h
  obtain ⟨t, ht, h⟩ := Option.bind_eq_some_iff.mp h
  split at h
  · rename_i hreturned
    cases h
    exact .terminated hs ht hreturned
  · obtain ⟨next, hmove, rfl⟩ := Option.map_eq_some_iff.mp h
    exact .terminating hs ht (Shutdown.move_of_advance hmove)

theorem move_of_advance (h : s.advance e answer = some s') : Move e s s' := by
  unfold advance at h
  split at h
  case h_1 hs => exact move_of_attempt h (by rw [hs]; rfl) (.pass (by rw [hs]; exact .mkdir))
  case h_2 hs =>
    cases h
    exact .pass (by rw [hs]; exact .statSyslog)
  case h_3 hs => exact move_of_attempt h (by rw [hs]; rfl) (.pass (by rw [hs]; exact .made))
  case h_4 hs =>
    split at h
    · cases h
      exact .gave (by rw [hs]; rfl)
    · exact move_of_attempt h (by rw [hs]; rfl) (.pass (by rw [hs]; exact .removeSyslog))
  case h_5 hs =>
    have hnext : Move e s { s with state := .linkSyslog } := .pass (by rw [hs]; exact .linkSyslog)
    split at h
    · cases h
      exact hnext
    · exact move_of_attempt h (by rw [hs]; rfl) hnext
  case h_6 hs => exact move_of_attempt h (by rw [hs]; rfl) (move_of_prepareKubeletConfig hs)
  case h_7 hs => exact move_of_attempt h (by rw [hs]; rfl) (.configured hs)
  case h_8 hs => exact move_of_attempt h (by rw [hs]; rfl) (.pass (by rw [hs]; exact .writeConfig))
  case h_9 hs => exact move_of_attempt h (by rw [hs]; rfl) (.wrote hs)
  case h_10 c hs => exact move_of_attempt h (by rw [hs]; rfl) (.startedContainerd hs)
  case h_11 c hs =>
    split at h
    · cases h
      exact .sawContainerd hs
    · cases h
      exact .pass (by rw [hs]; exact .poll)
  case h_12 c hs =>
    split at h
    · rename_i hclosed
      cases h
      exact .containerdExited hs hclosed
    · cases h
      exact .pass (by rw [hs]; exact .select)
  case h_13 c hs =>
    split at h
    · split at h
      · cases h
        exact .gaveUp hs
      · cases h
    · split at h
      · cases h
        exact .gaveUp hs
      · cases h
    · cases h
      exact .pass (by rw [hs]; exact .again)
    · cases h
  case h_14 c hs =>
    split at h
    · cases h
      exact .startedKubelet hs
    · cases h
      exact .kubeletFailed hs
    · cases h
  case h_15 hs =>
    split at h
    · cases h
      exact .hashed hs
    · cases h
      exact .hashFailed hs
    · cases h
  case h_16 hash hs =>
    split at h
    · exact move_of_advanceCAA hs h
    · cases h
  case h_17 hs =>
    split at h
    · split at h
      · rename_i hcancelled
        cases h
        exact .stopped hs hcancelled
      · cases h
    · split at h
      · rename_i hp
        cases h
        exact .exited hs hp.1 hp.2
      · cases h
    · cases h
  case h_18 result hs =>
    cases h
    exact .healthDown hs
  case h_19 result hs =>
    split at h
    · exact move_of_advanceTermination hs h
    · cases h
  case h_20 result hs =>
    split at h
    · cases h
      exact .cleaned hs
    · cases h
  case h_21 => cases h

theorem moves_of_proceed {p : Managed} {err : Option String} (h : s.proceed p err = some s') :
    Moves e s s' := by
  cases p with
  | containerd =>
    obtain ⟨p, hp, rfl⟩ := Option.map_eq_some_iff.mp h
    exact .containerd hp
  | kubelet =>
    obtain ⟨a, ha, rfl⟩ := Option.map_eq_some_iff.mp h
    exact .adaptor (.inl rfl) ha
  | caa k =>
    obtain ⟨a, ha, rfl⟩ := Option.map_eq_some_iff.mp h
    exact .adaptor (.inr ⟨k, rfl⟩) ha

theorem moves_of_expire (h : s.expire = some s') : Moves e s s' := by
  unfold expire at h
  split at h
  · cases h
    exact .around
  · cases h
  · rename_i t _ ht
    obtain ⟨next, hnext, rfl⟩ := Option.map_eq_some_iff.mp h
    simp only [Shutdown.step] at hnext
    split at hnext
    · rename_i hready
      cases hnext
      exact .expired ht hready.1 (Bool.eq_false_of_not_eq_true hready.2)
    · cases hnext

theorem moves {l : NodeLabel} (h : s.step e l = some s') : Moves e s s' := by
  cases l with
  | run answer => exact .run (move_of_advance h)
  | proceed p err => exact moves_of_proceed h
  | containerdSocket present =>
    cases h
    exact .around
  | hypervisorSocket present =>
    cases h
    exact .around
  | signal =>
    simp only [step] at h
    split at h
    · rename_i hnotified
      cases h
      exact .cancel (.inl hnotified)
    · cases h
  | healthFails =>
    simp only [step] at h
    split at h
    · rename_i hserving
      cases h
      exact .cancel (.inr hserving)
    · cases h
  | timeout =>
    cases h
    exact .around
  | expire => exact moves_of_expire h

end Supervisor

end SandboxProvider.Node
