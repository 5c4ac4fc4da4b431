import Scriptorium.Output.Router
import Scriptorium.Run.Supervision
import Scriptorium.Run.Writer

/-!
# The runs of all sessions

A bridge holds the live run of each session, the runs that were ever started, and the router that
their output goes through.

A run goes through the phases of `Phase` in their order.  It is first supervised; when that is
over, its entry is removed from the registry, then its state shows that it has ended, and last its
result is delivered.  So whoever has the result finds the session idle, and whoever sees that the
run has ended finds it no longer registered.  A run whose supervisor cannot be started at all is
`lost`: it stays registered, and all that can be had as its result is that nothing was reported.
-/
namespace Scriptorium

open Run

/-- What a run has come to. -/
abbrev RunResult := Except Run.Error Outcome

/-- What is known of a run when it starts. -/
structure RunInfo where
  id : Id
  session : SessionId
  script : Path
  workingDir : Path
  /-- When it was started, in milliseconds. -/
  started : Nat
  deriving DecidableEq, Repr

/-- How far a run has come. -/
inductive Phase where
  | supervised (s : Supervision)
  /-- Supervision is over. -/
  | ended (r : RunResult)
  /-- The run is no longer registered. -/
  | removed (r : RunResult)
  /-- The state shows that the run has ended. -/
  | settled (r : RunResult)
  /-- The result has been delivered. -/
  | reported (r : RunResult)
  /-- The supervisor stopped before it could report anything. -/
  | lost

/-- What can be seen of a run while it goes on and after. -/
inductive RunState where
  | running
  | completed
  | failed
  deriving DecidableEq, Repr

/-- The word for a state. -/
def RunState.word : RunState → String
  | .running => "running"
  | .completed => "completed"
  | .failed => "failed"

/-- The state that shows a result. -/
def RunState.ofResult : RunResult → RunState
  | .ok _ => .completed
  | .error _ => .failed

namespace Phase

/-- The state that a phase shows. -/
def state : Phase → RunState
  | .settled r | .reported r => .ofResult r
  | _ => .running

/-- The result, once it is there to be had. -/
def result? : Phase → Option RunResult
  | .reported r => some r
  | .lost => some (.error (.execution "run supervisor stopped before reporting"))
  | _ => none

/-- Whether supervision is over. -/
def isOver : Phase → Bool
  | .supervised _ | .lost => false
  | _ => true

end Phase

/-- A run that was started. -/
structure Task where
  info : RunInfo
  /-- Whether the run is to be stopped. -/
  cancelled : Bool
  writer : Writer
  phase : Phase

/-- The live run of a session. -/
structure Registration where
  session : SessionId
  run : Id
  /-- Whether the input of the run can be written to. -/
  attached : Bool
  deriving DecidableEq, Repr

/-- The runs of all sessions. -/
structure Bridge where
  settings : RunSettings
  router : Output.Router := .empty
  registry : List Registration := []
  /-- The runs, oldest first. -/
  tasks : List Task := []

namespace Bridge

instance : Inhabited Bridge := ⟨{ settings := {} }⟩

/-- The live run of a session. -/
def liveRun? (b : Bridge) (session : SessionId) : Option Registration :=
  b.registry.find? (·.session == session)

/-- The run with an identifier. -/
def task? (b : Bridge) (id : Id) : Option Task := b.tasks.find? (·.info.id == id)

/-- Changes the run with an identifier. -/
def updateTask (b : Bridge) (id : Id) (f : Task → Task) : Bridge :=
  { b with tasks := b.tasks.map fun t => if t.info.id = id then f t else t }

/-- The registrations of sessions other than one. -/
def otherRuns (b : Bridge) (session : SessionId) : List Registration :=
  b.registry.filter (·.session != session)

/-- The writer of a run can no longer be reached through the registry. -/
def detach (b : Bridge) (id : Id) : Bridge :=
  b.updateTask id fun t => { t with writer := { t.writer with attached := false } }

/-- The run is to be stopped. -/
def fireCancel (b : Bridge) (id : Id) : Bridge := b.updateTask id fun t => { t with cancelled := true }

end Bridge
end Scriptorium
