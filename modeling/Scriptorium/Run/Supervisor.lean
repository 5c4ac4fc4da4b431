import Scriptorium.Run.Error
import Scriptorium.Run.Pump

/-!
# Looking after a run

A supervisor looks after one run until its process has ended and both its streams have, and keeps
what the streams carried.  It learns what happens one `Event` at a time, in any order in which the
guards (`allows`) let the events through.

The first of a cancellation, a time limit, a stream that carries too much and a stream that cannot
be read stops the run: the process is killed if it has not ended yet, and the streams have half a
second to end.  Later reasons to stop change nothing.  Text is kept and delivered as long as its
stream has not carried more bytes than the ceiling.
-/
namespace Scriptorium.Run

/-- Why a run was stopped. -/
inductive Stop where
  | cancelled
  | timedOut
  /-- A stream carried more than it may. -/
  | overflow (stream : Stream)
  /-- A stream could not be read, or the process not waited for. -/
  | failed (cause : OsError)
  deriving DecidableEq, Repr

/-- What a stream has carried. -/
structure Transcript where
  text : String := ""
  bytes : Nat := 0
  deriving DecidableEq, Repr, Inhabited

/-- The state of looking after a run.  Times are in milliseconds. -/
structure Supervisor where
  stdout : Transcript := {}
  stderr : Transcript := {}
  /-- How the process ended, once it is known: with an exit code, or without one by a signal. -/
  exit : Option (Option Int) := none
  streamsOpen : Bool := true
  stop : Option Stop := none
  /-- When the streams are given up. -/
  drainUntil : Option Nat := none
  /-- Whether the streams or the process were given up. -/
  abandoned : Bool := false
  deriving DecidableEq, Repr, Inhabited

/-- What can happen to a run. -/
inductive Event where
  | chunk (c : Chunk)
  /-- Both streams have ended, and all they carried has come. -/
  | closed
  | exited (code : Option Int)
  | waitFailed (cause : OsError)
  | cancelled
  | timedOut
  /-- The streams have had their time to end. -/
  | drained
  deriving DecidableEq, Repr

/-- What a supervisor does about an event. -/
structure Reaction where
  /-- The process is killed. -/
  kill : Bool := false
  /-- Text is delivered. -/
  emitted : Option (Stream × String) := none
  deriving DecidableEq, Repr

/-- How long streams may go on after a run was stopped, in milliseconds. -/
def drainGrace : Nat := 500

namespace Supervisor

/-- The transcript of a stream. -/
def transcript (s : Supervisor) : Stream → Transcript
  | .stdout => s.stdout
  | .stderr => s.stderr

/-- Another transcript for a stream. -/
def setTranscript (s : Supervisor) (stream : Stream) (t : Transcript) : Supervisor :=
  match stream with
  | .stdout => { s with stdout := t }
  | .stderr => { s with stderr := t }

/-- Whether the run still has to be looked after. -/
def isActive (s : Supervisor) : Bool := !s.abandoned && (s.exit.isNone || s.streamsOpen)

/-- Whether an event is looked for. -/
def allows (s : Supervisor) : Event → Bool
  | .chunk _ | .closed => s.streamsOpen
  | .exited _ | .waitFailed _ => s.exit.isNone
  | .cancelled | .timedOut => s.stop.isNone
  | .drained => s.drainUntil.isSome

/-- Stops the run, unless it was stopped before. -/
def halt (now : Nat) (why : Stop) (s : Supervisor) : Supervisor × Reaction :=
  if s.stop.isSome then (s, {})
  else ({ s with stop := some why, drainUntil := some (now + drainGrace) }, { kill := s.exit.isNone })

/-- The state after an event, and what is done about it. -/
def step (ceiling now : Nat) (s : Supervisor) : Event → Supervisor × Reaction
  | .chunk (.data stream text bytes) =>
    let t := s.transcript stream
    let total := t.bytes + bytes
    if ceiling < total then
      (s.setTranscript stream ⟨t.text, total⟩).halt now (.overflow stream)
    else if text = "" then (s.setTranscript stream ⟨t.text, total⟩, {})
    else (s.setTranscript stream ⟨t.text ++ text, total⟩, { emitted := some (stream, text) })
  | .chunk (.failed _ cause) => s.halt now (.failed cause)
  | .closed => ({ s with streamsOpen := false }, {})
  | .exited code => ({ s with exit := some code }, {})
  | .waitFailed cause =>
    ({ s with stop := some (s.stop.getD (.failed cause)), abandoned := true }, {})
  | .cancelled => s.halt now .cancelled
  | .timedOut => s.halt now .timedOut
  | .drained => ({ s with abandoned := true }, {})

/-- How the run ended, or why it has no outcome. -/
def termination (ceiling : Nat) (s : Supervisor) : Except Error Termination :=
  match s.stop with
  | none => .ok .exited
  | some .cancelled => .ok .cancelled
  | some .timedOut => .ok .timedOut
  | some (.overflow stream) => .error (.outputLimit stream ceiling)
  | some (.failed cause) => .error (.io cause)

/-- The outcome of the run, or why it has none. -/
def outcome (ceiling : Nat) (runId : Id) (durationMs : Nat) (s : Supervisor) :
    Except Error Outcome :=
  (s.termination ceiling).map fun termination =>
    { runId, exitCode := s.exit.join, stdout := s.stdout.text, stderr := s.stderr.text,
      termination, durationMs }

end Supervisor
end Scriptorium.Run
