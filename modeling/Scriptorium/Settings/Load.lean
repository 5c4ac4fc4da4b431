import Scriptorium.Settings.Conversion
import Scriptorium.Settings.Environment
import Scriptorium.Settings.File

/-!
# Loading settings

The layers of settings, from the lowest to the highest: the built-in ones, the files
`config/default`, `config/` with the name of the surroundings, and `config/local`, and last the
environment.  The surroundings are named by the variable `DAAD_ENV`; without it they are
`development`.
-/
namespace Scriptorium.Settings

/-- Why settings cannot be loaded. -/
inductive LoadError where
  /-- A file is not well formed. -/
  | file (f : FileFault)
  /-- Something given cannot be read as settings. -/
  | unsuitable (u : Unsuitable)
  deriving DecidableEq, Repr

namespace LoadError

/-- What failed. -/
def message : LoadError → String
  | file _ => "Failed to build configuration"
  | unsuitable _ => "Failed to deserialize configuration"

/-- Why it failed. -/
def cause : LoadError → String
  | file f => s!"{f.message} in {f.file}"
  | unsuitable u => u.message

end LoadError

/-! ## 1. Layers -/

/-- The value of a variable. -/
def valueOf? (name : String) (env : List (String × String)) : Option String :=
  (env.find? fun v => v.1 = name).map (·.2)

/-- The names of the files, from the lowest layer to the highest. -/
def fileNames (env : List (String × String)) : List String :=
  ["config/default",
    "config/" ++ (valueOf? "DAAD_ENV" env).getD "development",
    "config/local"]

/-- The built-in layer. -/
def builtIn : Layer :=
  let text (s : String) : Given := .scalar .unstated (.text s)
  let whole (n : Int) : Given := .scalar .unstated (.whole n)
  [([.name "server"], .table .unstated [
      ("host", text "127.0.0.1"), ("port", whole 8790), ("allowed_origins", .list .unstated [])]),
    ([.name "bridge"], .table .unstated [
      ("interpreter", text "daad"), ("max_buffer_bytes", whole 10485760),
      ("run_timeout_secs", whole 0), ("concurrent_runs", text "reject"),
      ("read_chunk_bytes", whole 8192)]),
    ([.name "workspace"], .table .unstated []),
    ([.name "logging"], .table .unstated [])]

/-- All layers, the lowest first. -/
def layers (env : List (String × String)) (fs : FileSystem) (cwd : Location) :
    Except FileFault (List Layer) := do
  return builtIn :: (← (fileNames env).mapM (ofFile fs cwd)) ++ [ofEnvironment env]

/-- What all layers give together. -/
def combined (layers : List Layer) : Given := layers.foldl (fun g l => l.onto g) .empty

/-! ## 2. Loading -/

/-- Loads the settings for the directory `cwd`. -/
def load (env : List (String × String)) (fs : FileSystem) (cwd : Location) :
    Except LoadError Settings :=
  match layers env fs cwd with
  | .error f => .error (.file f)
  | .ok ls => (ofGiven (combined ls)).mapError .unsuitable

end Scriptorium.Settings
