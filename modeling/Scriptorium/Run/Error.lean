import Scriptorium.FileSystem.Path
import Scriptorium.OsError
import Scriptorium.Run.Outcome

/-!
# Why a run did not start or has no outcome

Each failure has a code for programs and a message for people.
-/
namespace Scriptorium.Run

/-- Why a run did not start or has no outcome. -/
inductive Error where
  /-- There is no regular file at the path. -/
  | scriptNotFound (path : Path)
  /-- The interpreter could not be started. -/
  | spawn (interpreter : String) (cause : OsError)
  /-- The session has a run already. -/
  | alreadyRunning (session : SessionId)
  /-- The script wrote more than it may. -/
  | outputLimit (stream : Stream) (limit : Nat)
  /-- The run was not looked after to its end. -/
  | execution (message : String)
  /-- A stream could not be read, or the process not waited for. -/
  | io (cause : OsError)
  deriving DecidableEq, Repr

namespace Error

/-- The code that a program tells failures apart by. -/
def code : Error → String
  | .scriptNotFound _ => "SCRIPT_NOT_FOUND"
  | .spawn _ _ => "SPAWN_FAILED"
  | .alreadyRunning _ => "ALREADY_RUNNING"
  | .outputLimit _ _ => "OUTPUT_LIMIT"
  | .execution _ => "EXECUTION_FAILED"
  | .io _ => "IO_ERROR"

/-- The text shown to the user. -/
def message : Error → String
  | .scriptNotFound path => s!"script not found: {path.display}"
  | .spawn interpreter cause => s!"failed to spawn '{interpreter}': {cause.message}"
  | .alreadyRunning session => s!"session {session} already has a running script"
  | .outputLimit stream limit => s!"{stream.word} exceeded the {limit} byte output limit"
  | .execution message => s!"execution failed: {message}"
  | .io cause => s!"io error: {cause.message}"

end Error
end Scriptorium.Run
