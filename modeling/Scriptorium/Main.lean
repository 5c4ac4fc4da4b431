import Scriptorium.Program

/-!
# The command line

The outermost layer: it hands the words, the variables and the local input to a `Call` and prints
what comes of it.  The machine of the call has its own files, which are those of
`Machine.bareFiles`, and no network.
-/
namespace Scriptorium.CommandLine

def variablesOf {σ : Type} (title : String) (slots : List (Settings.Slot σ)) : List String :=
  slots.map fun s => s!"DAAD_{title}__{s.name.toUpper}"

def variableNames : List String :=
  "DAAD_ENV" :: variablesOf "SERVER" Settings.serverSlots
    ++ variablesOf "BRIDGE" Settings.runSlots
    ++ variablesOf "WORKSPACE" Settings.workspaceSlots
    ++ variablesOf "LOGGING" Settings.loggingSlots

def readEnvironment : IO (List (String × String)) :=
  variableNames.filterMapM fun name => do return (← IO.getEnv name).map (name, ·)

def readInput : IO Bytes := do
  let input ← IO.getStdin
  let mut bytes := ByteArray.empty
  repeat
    let chunk ← input.read 65536
    if chunk.isEmpty then break
    bytes := bytes ++ chunk
  return bytes.toList

/-- The end of a call that would go on serving. -/
def withoutNetwork : Ending := .ofReport ⟨"Failed to bind to address", ["there is no network"]⟩

/-- The end of a call whose script waits for what never comes. -/
def stuck : Ending := .ofReport ⟨"Script run failed", ["the script never ends"]⟩

/-- Goes through a call.  The local input is read only for a script. -/
def endingOf (words : List String) : IO Ending := do
  let call : Call := {
    words, environment := (← readEnvironment), machine := { files := Machine.bareFiles }
    cwd := [], input := [] }
  match call.begin .nil with
  | .ended e => return e
  | .serving _ _ => return withoutNetwork
  | .running _ _ =>
    let call := { call with input := (← readInput) }
    return (call.begin .nil).finish.getD stuck

end Scriptorium.CommandLine

open Scriptorium CommandLine in
/-- Runs the program. -/
def main (words : List String) : IO UInt32 := do
  let e ← endingOf words
  let output ← IO.getStdout
  let errors ← IO.getStderr
  output.putStr e.output
  output.flush
  errors.putStr e.errors
  return UInt32.ofNat (e.status % 256).toNat
