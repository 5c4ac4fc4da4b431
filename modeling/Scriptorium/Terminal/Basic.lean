import Scriptorium.Studio.Basic
import Scriptorium.Terminal.Line

/-!
# A run in a terminal

A terminal runs one script for the user in front of it.  Three things go on side by side.  The
output of the run is printed, piece by piece, to the local stream of its kind.  The lines of the
local input are typed to the script one after the other, each once the one before it has been
taken, and the script's input ends when there are none left.  And an interrupt cancels the run.

When the result of the run is there, typing stops and no more output can come.  What has come is
still printed; only then is the terminal done.
-/
namespace Scriptorium

/-- How far the lines of the local input have been typed. -/
inductive Typing where
  /-- The next line can be read. -/
  | ready
  /-- A line has been handed to the script. -/
  | handed (p : PendingWrite)
  /-- No line will be read any more. -/
  | over
  deriving DecidableEq, Repr

/-- A run in a terminal. -/
structure Terminal where
  run : Id
  /-- The channel that the output comes through. -/
  channel : Nat
  /-- The local input that has not been read yet. -/
  input : Bytes
  typing : Typing := .ready
  /-- Whether an interrupt still cancels the run. -/
  interruptible : Bool := true
  /-- Whether output is still printed. -/
  printing : Bool := true
  /-- What has been printed, oldest first. -/
  printed : List Output.Event := []
  result : Option RunResult := none

namespace Terminal

/-- The session that the run of a terminal belongs to. -/
def session : SessionId := "terminal"

/-- What has been printed to a local stream. -/
def text (t : Terminal) (stream : Run.Stream) : String :=
  String.join ((t.printed.filter (·.stream == stream)).map (·.payload))

/-- Starts a script in a terminal with this local input. -/
def start (id : Id) (script : Path) (input : Bytes) (w : Studio) :
    Except Run.Error (Terminal × Studio) := do
  let (bridge, channel) := w.bridge.subscribe session
  let (w, _) ← Studio.start { w with bridge } id session script
  return ({ run := id, channel, input }, w)

/-! ## 1. Steps -/

/-- One step of a terminal. -/
inductive Move where
  /-- The next piece of output is printed, unless that fails; after the last piece printing
  ends. -/
  | print (works : Bool)
  /-- A line is read and handed to the script, or it is found out what came of that. -/
  | type
  /-- The user interrupts. -/
  | interrupt
  /-- The result of the run arrives. -/
  | conclude
  deriving DecidableEq, Repr

/-- Prints the next piece of output.  A terminal that cannot print stops listening. -/
def print? (t : Terminal) (w : Studio) (works : Bool) : Option (Terminal × Studio) :=
  let withRouter (router : Output.Router) : Studio := { w with bridge := { w.bridge with router } }
  match w.bridge.router.next? t.channel with
  | some (e, router) =>
    if works then some ({ t with printed := t.printed ++ [e] }, withRouter router)
    else some ({ t with printing := false }, withRouter (router.hangUp t.channel))
  | none =>
    if w.bridge.router.isClosed t.channel then some ({ t with printing := false }, w) else none

/-- Ends the input of the script. -/
def endTyping (t : Terminal) (w : Studio) : Terminal × Studio :=
  ({ t with typing := .over }, { w with bridge := (w.bridge.endInput session).1 })

/-- Types on: hands the next line to the script, or finds out what came of the last one.  A script
that does not take a line gets no more of them. -/
def type? (t : Terminal) (w : Studio) : Option (Terminal × Studio) :=
  match t.typing with
  | .ready =>
    match nextLine t.input with
    | .line line rest =>
      match w.offerInput session (line ++ [newline]) with
      | (w, some p) => some ({ t with input := rest, typing := .handed p }, w)
      | (w, none) => some ({ t with input := rest, typing := .over }, w)
    | .unreadable | .atEnd => some (t.endTyping w)
  | .handed p => do
    let taken ← w.verdict? p
    return ({ t with typing := if taken then .ready else .over }, w.giveUp p)
  | .over => none

/-- Cancels the run. -/
def interrupt (t : Terminal) (w : Studio) : Terminal × Studio :=
  ({ t with interruptible := false }, { w with bridge := (w.bridge.cancel session).1 })

/-- Takes the result of the run, once it is there.  Typing stops, and the channel is given up. -/
def conclude? (t : Terminal) (w : Studio) : Option (Terminal × Studio) := do
  let r ← w.bridge.result? t.run
  let w := match t.typing with
    | .handed p => w.giveUp p
    | _ => w
  return ({ t with result := some r, typing := .over, interruptible := false },
    { w with bridge := (w.bridge.unsubscribe session).1 })

/-- One step, if it is possible. -/
def move? (t : Terminal) (w : Studio) : Move → Option (Terminal × Studio)
  | .print works => if t.printing then t.print? w works else none
  | .type => t.type? w
  | .interrupt => if t.interruptible then some (t.interrupt w) else none
  | .conclude => if t.result.isNone then t.conclude? w else none

/-! ## 2. Waiting -/

/-- The signal of an interrupt. -/
def interruptSignal : Nat := 2

/-- A step that is possible by itself. -/
def step? (t : Terminal) (w : Studio) : Option (Terminal × Studio) :=
  (if w.machine.signals.contains interruptSignal then t.move? w .interrupt else none)
    <|> t.move? w (.print true)
    <|> t.move? w .conclude
    <|> t.move? w .type

/-- When the wait for the line that was handed to the script is given up. -/
def deadline? (t : Terminal) : Option Nat :=
  match t.typing with
  | .handed p => some p.deadline
  | _ => none

/-- The result, once everything has been printed. -/
def done? (t : Terminal) : Option RunResult := if t.printing then none else t.result

/-- Goes on until the terminal is done or nothing can happen any more. -/
def waitUpTo : Nat → Terminal → Studio → Terminal × Studio
  | 0, t, w => (t, w)
  | fuel + 1, t, w =>
    if t.done?.isSome then (t, w)
    else match t.step? w with
      | some (t, w) => waitUpTo fuel t w
      | none =>
        match w.step? t.deadline? with
        | some w => waitUpTo fuel t w
        | none => (t, w)

/-- Goes on until the terminal is done. -/
def finish (t : Terminal) (w : Studio) : Terminal × Studio := waitUpTo Studio.patience t w

end Terminal
end Scriptorium
