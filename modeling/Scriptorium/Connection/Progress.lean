import Scriptorium.Connection.Requests

/-!
# How a connection goes on

A connection does one thing at a time (`Connection.move?`).  It looks for output, then for answers,
then for a frame, and whenever it has found something it starts again.  So an answer never overtakes
the output that was there when the connection last looked for some, nor an answer to an earlier
frame.  The looks are taken one after the other, though: what comes while the connection goes from
one to the next is only found in the next round.

While a client waits for a write, its connection does nothing else; only the ends of its runs still
come in.
-/
namespace Scriptorium

/-- One step of a connection. -/
inductive Move where
  /-- What is found is sent, unless that fails. -/
  | forward (works : Bool)
  /-- Nothing is found, and the next look is taken. -/
  | pass
  /-- A frame comes in.  A run that it starts gets the identifier `fresh`; what is sent at once
  is sent, unless that fails. -/
  | receive (frame : Frame) (fresh : Id) (works : Bool)
  /-- A write is answered. -/
  | acknowledge
  /-- The end of a run is ready to be sent. -/
  | report (run : Id)
  deriving DecidableEq, Repr

namespace ServerMessage

/-- An event of the output as a message. -/
def ofEvent (e : Output.Event) : ServerMessage := .output e.run e.stream e.payload

/-- The end of a run as a message. -/
def ofResult (run : Id) : RunResult → ServerMessage
  | .ok outcome => .runFinished outcome
  | .error e => .ofRunError (some run) e

end ServerMessage

namespace Connection

/-! ## 1. Steps -/

/-- Sends what is found where the connection looks. -/
def forward? (c : Connection) (w : Studio) (works : Bool) : Option (Connection × Studio) :=
  match c.look with
  | .output =>
    match w.bridge.router.next? c.channel with
    | some (e, router) =>
      some (c.send { w with bridge := { w.bridge with router } } works (.message (.ofEvent e)))
    | none => none
  | .replies =>
    match c.replies with
    | m :: rest => some (send { c.anew with replies := rest } w works (.message m))
    | [] => none
  | .frames => none

/-- Takes the next look if nothing is found.  When it has looked for a frame, the connection may
start again at any time, as it does when it is woken. -/
def pass? (c : Connection) (w : Studio) : Option Connection :=
  match c.look with
  | .output =>
    if (w.bridge.router.next? c.channel).isNone then some { c with look := .replies } else none
  | .replies => if c.replies.isEmpty then some { c with look := .frames } else none
  | .frames => some c.anew

/-- Whether the connection looks for a frame. -/
def isListening (c : Connection) : Bool := c.isOpen && c.write.isNone && c.look == .frames

/-- Whether there is nothing to do until a frame comes in. -/
def isIdle (c : Connection) (w : Studio) : Bool :=
  c.isListening && c.replies.isEmpty && (w.bridge.router.next? c.channel).isNone

/-- Takes note of what came of a message. -/
def note (c : Connection) : Handling → Connection
  | .answered m => c.reply m
  | .started info =>
    reply { c with watched := c.watched ++ [info.id] } (.runStarted info.id info.script.display)
  | .writing p => { c with write := some p }

/-- Takes a frame in. -/
def receive (c : Connection) (w : Studio) (ws : Workspace) (fresh : Id) (works : Bool) :
    Frame → Connection × Studio
  | .text s =>
    match ClientMessage.ofText s with
    | .ok m =>
      let (w, handling) := w.handle ws fresh c.session m
      (c.note handling, w)
    | .error fault => c.send w works (.message (.unreadable fault))
  | .ping data => (if works then { c with sent := c.sent ++ [.pong data] } else c, w)
  | .binary _ => (c, w)
  | .close => c.hangUp w

/-- Answers the write that the client waits for, if its fate is known or the time is up. -/
def acknowledge? (c : Connection) (w : Studio) : Option (Connection × Studio) := do
  let p ← c.write
  let accepted ← w.verdict? p
  return (reply { c with write := none } (.stdinResult accepted), w.giveUp p)

/-- Gets the end of a run ready to be sent, once it can be had. -/
def report? (c : Connection) (w : Studio) (run : Id) : Option (Connection × Studio) :=
  if c.watched.contains run then
    (w.bridge.result? run).map fun r =>
      (reply { c with watched := c.watched.erase run } (.ofResult run r), w)
  else none

/-- One step, if it is possible. -/
def move? (ws : Workspace) (c : Connection) (w : Studio) : Move → Option (Connection × Studio)
  | .forward works => if c.isOpen && c.write.isNone then c.forward? w works else none
  | .pass => if c.isOpen && c.write.isNone then (c.pass? w).map (·, w) else none
  | .receive frame fresh works =>
    if c.isListening then some (c.anew.receive w ws fresh works frame) else none
  | .acknowledge => if c.isOpen then c.acknowledge? w else none
  | .report run => if c.isOpen then c.report? w run else none

/-! ## 2. Waiting -/

/-- A step that is possible without a frame.  A connection that has nothing to do does not look
around. -/
def step? (ws : Workspace) (c : Connection) (w : Studio) : Option (Connection × Studio) :=
  c.move? ws w .acknowledge
    <|> c.move? ws w (.forward true)
    <|> (if c.isIdle w then none else c.move? ws w .pass)
    <|> c.watched.findSome? fun run => c.move? ws w (.report run)

/-- Goes on until something holds or nothing can happen any more. -/
def waitUpTo {α : Type} (ws : Workspace) (done? : Connection → Studio → Option α) :
    Nat → Connection → Studio → Connection × Studio × Option α
  | 0, c, w => (c, w, none)
  | fuel + 1, c, w =>
    match done? c w with
    | some a => (c, w, some a)
    | none =>
      match c.step? ws w with
      | some (c, w) => waitUpTo ws done? fuel c w
      | none =>
        match w.step? (c.write.map (·.deadline)) with
        | some w => waitUpTo ws done? fuel c w
        | none => (c, w, none)

/-- Waits until something holds. -/
def waitFor {α : Type} (ws : Workspace) (c : Connection) (w : Studio)
    (done? : Connection → Studio → Option α) : Connection × Studio × Option α :=
  waitUpTo ws done? Studio.patience c w

end Connection
end Scriptorium
