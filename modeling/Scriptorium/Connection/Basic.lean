import Scriptorium.Message.Client
import Scriptorium.Message.Server
import Scriptorium.Studio.Basic

/-!
# Connections

A connection joins one client to the studio, as a session of its own.  The client sends frames;
what the server sends is kept in `Connection.sent`, oldest first.

Three things come to be sent: the output of the session's runs, which waits in the session's
channel, the answers to the client's messages, and the ends of its runs, which wait together in
`Connection.replies`.
-/
namespace Scriptorium

/-- What a client sends. -/
inductive Frame where
  | text (s : String)
  | binary (data : Bytes)
  /-- Asks whether the connection works. -/
  | ping (data : Bytes)
  | close
  deriving DecidableEq, Repr

/-- What the server sends. -/
inductive Sent where
  | message (m : ServerMessage)
  /-- The answer to a ping. -/
  | pong (data : Bytes)
  deriving Repr

/-- Where a connection looks for something to do. -/
inductive Look where
  | output
  | replies
  | frames
  deriving DecidableEq, Repr

/-- A client and what is under way for it. -/
structure Connection where
  id : Id
  /-- The channel that the output of the session comes through. -/
  channel : Nat
  /-- The answers that wait to be sent. -/
  replies : List ServerMessage := []
  /-- The runs whose ends have not been reported yet. -/
  watched : List Id := []
  write : Option PendingWrite := none
  /-- The looks are taken one after the other, and things may come in between. -/
  look : Look := .output
  isOpen : Bool := true
  sent : List Sent := []
  deriving Repr

namespace Connection

/-- The session of a connection. -/
def session (c : Connection) : SessionId := c.id.text

/-- Lets a message wait to be sent. -/
def reply (c : Connection) (m : ServerMessage) : Connection := { c with replies := c.replies ++ [m] }

/-- The connection starts with its looks again. -/
def anew (c : Connection) : Connection := { c with look := .output }

/-- The connection ends, and its session with it. -/
def hangUp (c : Connection) (w : Studio) : Connection × Studio :=
  ({ c with isOpen := false }, { w with bridge := w.bridge.closeSession c.session })

/-- Sends something.  A connection that cannot send ends. -/
def send (c : Connection) (w : Studio) (works : Bool) (s : Sent) : Connection × Studio :=
  if works then ({ c with sent := c.sent ++ [s] }, w) else c.hangUp w

/-- A new connection, which starts by telling the client its session.  If that fails, there is
nothing to let go of yet. -/
def accept (id : Id) (w : Studio) (works : Bool) : Connection × Studio :=
  if works then
    let (bridge, channel) := w.bridge.subscribe id.text
    ({ id, channel, sent := [.message (.connected id)] }, { w with bridge })
  else ({ id, channel := 0, isOpen := false }, w)

end Connection
end Scriptorium
