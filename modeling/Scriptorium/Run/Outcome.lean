import Scriptorium.Json.Printer
import Scriptorium.Run.Id

/-!
# Runs and how they end

A run is one execution of a script, begun for a session.  It writes to two streams, and ends with
an `Outcome`: how it ended, its exit code if it has one, and all that it wrote.
-/
namespace Scriptorium

/-- Who a run belongs to: one window of the user interface. -/
abbrev SessionId := String

namespace Run

/-- The streams that a script writes to. -/
inductive Stream where
  | stdout
  | stderr
  deriving DecidableEq, Repr

/-- The word for a stream. -/
def Stream.word : Stream → String
  | .stdout => "stdout"
  | .stderr => "stderr"

/-- How a run ended. -/
inductive Termination where
  /-- The process ended by itself. -/
  | exited
  /-- It was stopped on request. -/
  | cancelled
  /-- It was stopped because it took too long. -/
  | timedOut
  deriving DecidableEq, Repr

/-- The word for a way to end. -/
def Termination.word : Termination → String
  | .exited => "exited"
  | .cancelled => "cancelled"
  | .timedOut => "timed_out"

/-- What is known of a run that has ended. -/
structure Outcome where
  runId : Id
  /-- Missing if the process was killed by a signal. -/
  exitCode : Option Int
  stdout : String
  stderr : String
  termination : Termination
  durationMs : Nat
  deriving DecidableEq, Repr

namespace Outcome

/-- Whether the script ended by itself and reported no failure. -/
def success (o : Outcome) : Bool := o.termination = .exited && o.exitCode = some 0

/-- A number that may be missing, as a value. -/
def optionalWhole : Option Int → Json.Value
  | some n => .whole n
  | none => .null

/-- The members that an outcome is written as. -/
def members (o : Outcome) : List (String × Json.Value) := [
  ("run_id", .string o.runId.text), ("exit_code", optionalWhole o.exitCode),
  ("stdout", .string o.stdout), ("stderr", .string o.stderr),
  ("termination", .string o.termination.word), ("duration_ms", .whole o.durationMs)]

/-- An outcome as a JSON object. -/
def toJson (o : Outcome) : Json.Value := .object o.members

end Outcome
end Run
end Scriptorium
