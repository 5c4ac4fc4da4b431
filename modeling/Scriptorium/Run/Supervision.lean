import Scriptorium.Run.Supervisor
import Scriptorium.Settings.Basic

/-!
# A run with its pumps

The two pumps of a run hand their chunks to the supervisor through one queue, in which the chunks
of each stream stay in order.  The supervisor takes them one by one, and learns that the streams
are closed when both pumps have ended and the queue is empty.

Each step here is one of a pump or of the supervisor; they may come in any order.
-/
namespace Scriptorium.Run

/-- The terms of a run. -/
structure Terms where
  /-- The most bytes of one stream. -/
  ceiling : Nat
  chunkSize : Nat
  /-- When the run has taken too long, in milliseconds. -/
  deadline : Option Nat
  deriving DecidableEq, Repr

/-- The number of chunks that can wait. -/
def queueCapacity : Nat := 64

/-- The seconds from which on a point in time cannot be told. -/
def clockRange : Nat := 0x8000000000000000

/-- The terms of a run that is started now, if its time limit can be told. -/
def Terms.ofSettings? (settings : RunSettings) (now : Nat) : Option Terms :=
  match settings.runTimeout with
  | none => some ⟨settings.ceiling, settings.chunkSize, none⟩
  | some secs =>
    if now / 1000 + secs < clockRange then
      some ⟨settings.ceiling, settings.chunkSize, some (now + secs * 1000)⟩
    else none

/-- A run with its pumps. -/
structure Supervision where
  terms : Terms
  supervisor : Supervisor
  stdout : Pump
  stderr : Pump
  queue : List Chunk
  deriving DecidableEq, Repr

namespace Supervision

/-- The beginning of a run. -/
def start (terms : Terms) : Supervision :=
  ⟨terms, {}, .start terms.chunkSize, .start terms.chunkSize, []⟩

/-- The pump of a stream. -/
def pump (s : Supervision) : Stream → Pump
  | .stdout => s.stdout
  | .stderr => s.stderr

/-- Another pump for a stream. -/
def setPump (s : Supervision) (stream : Stream) (p : Pump) : Supervision :=
  match stream with
  | .stdout => { s with stdout := p }
  | .stderr => { s with stderr := p }

/-- Whether the pump of a stream can go on. -/
def canRead (s : Supervision) (stream : Stream) : Bool :=
  (s.pump stream).isOpen && decide (s.queue.length < queueCapacity)

/-- A pump has read a piece. -/
def read (s : Supervision) (stream : Stream) (piece : Bytes) : Supervision :=
  let (chunk, p) := (s.pump stream).push stream piece
  { s.setPump stream p with queue := s.queue ++ [chunk] }

/-- A pump has come to the end of its stream. -/
def readEnd (s : Supervision) (stream : Stream) : Supervision :=
  let (chunks, p) := (s.pump stream).finish stream
  { s.setPump stream p with queue := s.queue ++ chunks }

/-- A pump could not read its stream. -/
def readFailed (s : Supervision) (stream : Stream) (cause : OsError) : Supervision :=
  let (chunk, p) := (s.pump stream).fail stream cause
  { s.setPump stream p with queue := s.queue ++ [chunk] }

/-- What the supervisor would take from the queue. -/
def next? (s : Supervision) : Option (Event × List Chunk) :=
  match s.queue with
  | c :: rest => some (.chunk c, rest)
  | [] => if s.stdout.isOpen || s.stderr.isOpen then none else some (.closed, [])

/-- The supervisor learns of an event. -/
def learn (s : Supervision) (now : Nat) (e : Event) : Supervision × Reaction :=
  let (supervisor, reaction) := s.supervisor.step s.terms.ceiling now e
  ({ s with supervisor }, reaction)

/-- The supervisor takes what is next from the queue. -/
def take? (s : Supervision) (now : Nat) : Option (Supervision × Reaction) :=
  if s.supervisor.streamsOpen then
    s.next?.map fun (e, rest) => ({ s with queue := rest }).learn now e
  else none

/-- The event that the time brings, if any. -/
def due? (s : Supervision) (now : Nat) : Option Event :=
  if s.supervisor.stop.isNone && s.terms.deadline.any (decide <| · ≤ now) then some .timedOut
  else if s.supervisor.drainUntil.any (decide <| · ≤ now) then some .drained
  else none

/-- When the time will bring an event, if nothing else happens. -/
def nextTime? (s : Supervision) : Option Nat :=
  match s.supervisor.stop, s.supervisor.drainUntil with
  | none, _ => s.terms.deadline
  | some _, until_ => until_

end Supervision
end Scriptorium.Run
