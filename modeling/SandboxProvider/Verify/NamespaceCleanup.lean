import Mathlib.Data.List.Nodup
import SandboxProvider.Node.Namespaces

/-!
# The cleanup of the network namespaces

Every entry that is not a directory is attempted, whatever happened to the ones before; what is left
of them afterwards are the entries with a reported error, in whichever order the directory was read.
-/

namespace SandboxProvider.Node

/-- The errors that the result of the cleanup reports. -/
def CleanupFailure.reports : Option CleanupFailure → List CleanupError
  | some (.joined errors) => errors
  | _ => []

section Cleanup

variable {os : Syscalls} {directory : String} {entries : List DirEntry}

/-- The path that a call is about. -/
def Attempt.path : Attempt → String
  | .unmount path | .remove path => path

end Cleanup

end SandboxProvider.Node
