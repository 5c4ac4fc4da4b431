import Scriptorium.FileSystem.Path
import Scriptorium.OsError

/-!
# Failures of file operations

A request about a file fails because the system refuses it, or because its path leaves the
workspace.  Each failure has a code for programs and a message for people.
-/
namespace Scriptorium.Workspace

/-- What was being done to a file. -/
inductive Action where
  | readDirectory
  | readFile
  | writeFile
  | createFile
  | delete
  | rename
  deriving DecidableEq, Repr

/-- The words for an action. -/
def Action.phrase : Action → String
  | .readDirectory => "read directory"
  | .readFile => "read file"
  | .writeFile => "write file"
  | .createFile => "create file"
  | .delete => "delete"
  | .rename => "rename"

/-- All actions. -/
def Action.all : List Action :=
  [.readDirectory, .readFile, .writeFile, .createFile, .delete, .rename]

/-- Why a request about a file failed. -/
inductive Error where
  | refused (action : Action) (path : Path) (cause : OsError)
  | outside (path : Path)
  deriving DecidableEq, Repr

/-- The code that a program tells failures apart by. -/
def Error.code : Error → String
  | .refused _ _ .noEntry => "NOT_FOUND"
  | .refused _ _ .alreadyExists => "ALREADY_EXISTS"
  | .refused _ _ _ => "FILE_ERROR"
  | .outside _ => "OUTSIDE_WORKSPACE"

/-- The text shown to the user. -/
def Error.message : Error → String
  | .refused action path cause => s!"failed to {action.phrase} '{path.display}': {cause.message}"
  | .outside path => s!"path '{path.display}' is outside the workspace"

end Scriptorium.Workspace
