import SandboxProvider.Lib.Flag

/-!
# The command line of the runner

`cmd/runner/main.go`: `main`'s choice of the command, `parseRunOptions`, `parseStateDir`,
`parseReadyOptions`, and the checks at the beginning of `run`. With `flag.ExitOnError` a refused
command line ends the process, so an error here means that nothing runs.
-/

namespace SandboxProvider.Runner

open Lib

def defaultStateDir : String := "/run/pod-sandbox"

structure Options where
  cpus : Int := 1
  memoryMiB : Int := 512
  networkMTU : Int := 1400
  imageDir : String := ""
  configDir : String := ""
  stateDir : String := defaultStateDir
  runtimeAssetsDir : String := "/opt/podvm-runtime"
  firmware : String := "/usr/share/cloud-hypervisor/CLOUDHV.fd"
  kernelPath : String := ""
  initramfsPath : String := ""
  rootfsPath : String := ""
  kernelParams : String := ""
  deriving DecidableEq, Repr

structure ReadyOptions where
  stateDir : String := defaultStateDir
  deriving DecidableEq, Repr

def cpusFlag : Flag Options := intVar "cpus" fun v opts => { opts with cpus := v }
def memoryFlag : Flag Options := intVar "memory-mib" fun v opts => { opts with memoryMiB := v }
def networkMTUFlag : Flag Options := intVar "network-mtu" fun v opts => { opts with networkMTU := v }

def runFlags : List (Flag Options) := [
  cpusFlag,
  memoryFlag,
  networkMTUFlag,
  stringVar "image-dir" fun v opts => { opts with imageDir := v },
  stringVar "config-dir" fun v opts => { opts with configDir := v },
  stringVar "state-dir" fun v opts => { opts with stateDir := v },
  stringVar "runtime-assets-dir" fun v opts => { opts with runtimeAssetsDir := v },
  stringVar "firmware" fun v opts => { opts with firmware := v },
  stringVar "kernel" fun v opts => { opts with kernelPath := v },
  stringVar "initramfs" fun v opts => { opts with initramfsPath := v },
  stringVar "rootfs" fun v opts => { opts with rootfsPath := v },
  stringVar "kernel-params" fun v opts => { opts with kernelParams := v }]

def parseRunOptions (args : List String) : Except FlagError Options :=
  parseFlags runFlags args {}

/-- `parseStateDir`; the name of the flag set only shows in messages. -/
def parseStateDir (args : List String) : Except FlagError String :=
  parseFlags [stringVar "state-dir" fun v _ => v] args defaultStateDir

def parseReadyOptions (args : List String) : Except FlagError ReadyOptions :=
  parseFlags [stringVar "state-dir" fun v opts => { opts with stateDir := v }] args {}

inductive Command
  | run (opts : Options)
  | ready (opts : ReadyOptions)
  | stop (stateDir : String)
  deriving DecidableEq, Repr

/-- Why the process ends before it does anything. -/
inductive UsageError
  | usage
  | unknownCommand (name : String)
  | badFlags (err : FlagError)
  deriving DecidableEq, Repr

/-- The switch of `main` over `os.Args`. -/
def command : List String → Except UsageError Command
  | _ :: name :: args =>
    if name = "run" then (parseRunOptions args).mapError .badFlags |>.map .run
    else if name = "ready" then (parseReadyOptions args).mapError .badFlags |>.map .ready
    else if name = "stop" then (parseStateDir args).mapError .badFlags |>.map .stop
    else .error (.unknownCommand name)
  | _ => .error .usage

/-- The checks with which `run` begins. -/
def checkOptions (opts : Options) : Except String Unit :=
  if opts.cpus < 1 ∨ opts.memoryMiB < 128 then
    .error ("invalid capacity: cpus=" ++ toString opts.cpus ++ " memoryMiB=" ++
      toString opts.memoryMiB)
  else if opts.imageDir = "" ∨ opts.configDir = "" then
    .error "--image-dir and --config-dir are required"
  else .ok ()

end SandboxProvider.Runner
