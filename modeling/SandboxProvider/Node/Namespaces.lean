import Mathlib.Data.List.Basic
import Mathlib.Data.String.Basic

/-!
# Network namespaces of a node

`cmd/peer-pod-node/main.go`: `cleanupNetworkNamespaces` unmounts and removes what is left in the
directory of the network namespaces when the node ends. The outcomes of the system calls are the
environment's; a `Host` is the directory and, as ghost state, the calls that were made on it.
-/

namespace SandboxProvider.Node

/-- What the code tells apart: `EINVAL`, `ENOENT` (which is also what `os.ErrNotExist` matches) and
every other error. -/
inductive Errno
  | einval | enoent | other
  deriving DecidableEq, Repr

structure SysError where
  errno : Errno
  message : String
  deriving DecidableEq, Repr

structure DirEntry where
  name : String
  isDir : Bool
  deriving DecidableEq, Repr

/-- The outcomes of the system calls; `none` is success. -/
structure Syscalls where
  readDir : Except SysError (List DirEntry)
  unmount : String → Option SysError
  remove : String → Option SysError

inductive Attempt
  | unmount (path : String)
  | remove (path : String)
  deriving DecidableEq, Repr

/-- The entries of the directory, and the calls on them, the latest first. -/
structure Host where
  present : List DirEntry
  attempts : List Attempt := []
  deriving DecidableEq, Repr

inductive Operation
  | unmount | remove
  deriving DecidableEq, Repr

def Operation.text : Operation → String
  | .unmount => "unmount"
  | .remove => "remove"

/-- An error of the loop: `fmt.Errorf("unmount %s: %w", path, err)`, or with `remove`. -/
structure CleanupError where
  operation : Operation
  path : String
  err : SysError
  deriving DecidableEq, Repr

def CleanupError.message (e : CleanupError) : String :=
  e.operation.text ++ " " ++ e.path ++ ": " ++ e.err.message

inductive CleanupFailure
  | readDir (err : SysError)
  | joined (errors : List CleanupError)
  deriving DecidableEq, Repr

/-- `errors.Join`, which is nil for no errors. -/
def joinErrors : List CleanupError → Option CleanupFailure
  | [] => none
  | errors => some (.joined errors)

/-- `filepath.Join` of a clean directory and the name of an entry. -/
def filepathJoin (directory name : String) : String := directory ++ "/" ++ name

namespace Syscalls

variable (os : Syscalls)

/-- The error of `unmount`, unless it says that nothing is mounted there. -/
def unmountError (path : String) : Option SysError :=
  (os.unmount path).filter fun err => err.errno ≠ .einval ∧ err.errno ≠ .enoent

/-- The error of `os.Remove`, unless the entry is gone already. -/
def removeError (path : String) : Option SysError :=
  (os.remove path).filter fun err => err.errno ≠ .enoent

end Syscalls

/-- The body of the loop, with the errors so far. -/
def cleanupEntry (os : Syscalls) (directory : String) (acc : List CleanupError × Host)
    (entry : DirEntry) : List CleanupError × Host :=
  let (cleanupErrors, host) := acc
  if entry.isDir then (cleanupErrors, host)
  else
    let path := filepathJoin directory entry.name
    let host := { host with attempts := .unmount path :: host.attempts }
    match os.unmountError path with
    | some err => (cleanupErrors ++ [⟨.unmount, path, err⟩], host)
    | none =>
      let host := { host with attempts := .remove path :: host.attempts }
      match os.removeError path with
      | some err => (cleanupErrors ++ [⟨.remove, path, err⟩], host)
      | none =>
        (cleanupErrors,
          { host with present := host.present.filter (filepathJoin directory ·.name ≠ path) })

def cleanupNetworkNamespaces (os : Syscalls) (directory : String) (host : Host) :
    Option CleanupFailure × Host :=
  match os.readDir with
  | .error err => (if err.errno = .enoent then none else some (.readDir err), host)
  | .ok entries =>
    let (cleanupErrors, host) := entries.foldl (cleanupEntry os directory) ([], host)
    (joinErrors cleanupErrors, host)

/-! ## What the loop does -/

section Loop

variable (os : Syscalls) (directory : String)

variable {os directory}

end Loop

end SandboxProvider.Node
