import Scriptorium.Bridge.Operations

/-!
# Starting a run on a system

`start` says what a start comes to.  `launch` brings it about on a system that has files and
processes (`Host`), one thing after the other: it looks for the script, makes sure that the session
may start a run, starts the interpreter, sees to it that its output can be read, and registers the
run, in place of the one that the session has.

Each of these steps finds the bridge and the system as the steps before it have left them, and if
it fails, that is how they stay.
-/
namespace Scriptorium.Bridge

open Run

/-- A system that scripts are run on, with states `σ` and processes `α`. -/
structure Host (σ α : Type) where
  /-- The path without links of what is at a path. -/
  canonicalize : σ → Path → Except OsError Path
  /-- Whether what is at a path is a regular file. -/
  isFile : σ → Path → Except OsError Bool
  /-- Starts the interpreter on a script, in a directory. -/
  spawn : σ → Path → Path → Except OsError (σ × α)
  /-- Whether both outputs of a process can be read. -/
  isPiped : α → Bool
  kill : σ → α → σ

/-- A start under way: it changes the bridge and the system, and may fail in between. -/
abbrev Launch (σ : Type) := EStateM Run.Error (Bridge × σ)

variable {σ α : Type}

/-- Looks for the regular file that a path leads to. -/
def resolveScript (host : Host σ α) (requested : Path) : Launch σ Path := do
  let (_, system) ← get
  match host.canonicalize system requested with
  | .error _ => throw (.scriptNotFound requested)
  | .ok script =>
    match host.isFile system script with
    | .ok true => return script
    | _ => throw (.scriptNotFound requested)

/-- Makes sure that a session may start a run. -/
def grant (session : SessionId) : Launch σ Unit := do
  let (b, _) ← get
  match b.permit session with
  | .ok () => return ()
  | .error e => throw e

/-- Starts the interpreter.  A process whose output cannot be read is killed at once. -/
def spawnPiped (host : Host σ α) (script workingDir : Path) : Launch σ α := do
  let (b, system) ← get
  match host.spawn system script workingDir with
  | .error cause => throw (.spawn b.settings.interpreter cause)
  | .ok (system, child) =>
    if host.isPiped child then
      set (b, system)
      return child
    else
      set (b, host.kill system child)
      throw (.execution "interpreter pipes unavailable")

/-- Starts a run. -/
def launch (host : Host σ α) (id : Id) (now : Nat) (session : SessionId) (requested : Path) :
    Launch σ (RunInfo × α) := do
  let script ← resolveScript host requested
  let workingDir := directoryOf script
  grant session
  let child ← spawnPiped host script workingDir
  let info : RunInfo := ⟨id, session, script, workingDir, now⟩
  modify fun (b, system) => (b.register info, system)
  return (info, child)

end Scriptorium.Bridge
