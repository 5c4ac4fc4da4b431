import Scriptorium.Run.Outcome

/-!
# Routing output to sessions

What scripts write is delivered to the sessions they belong to.  A session listens on at most one
channel: listening again replaces the channel, and a channel that was replaced or given up still
holds what was delivered to it before.

Channels are numbered in the order in which they were opened.
-/
namespace Scriptorium.Output

/-- A piece of what a run wrote to a stream. -/
structure Event where
  run : Id
  stream : Run.Stream
  payload : String
  deriving DecidableEq, Repr

/-- What has been delivered and not been taken yet. -/
structure Channel where
  queue : List Event
  /-- Whether somebody is there to take it. -/
  listening : Bool
  deriving DecidableEq, Repr

/-- The channels, and which of them each session listens on. -/
structure Router where
  channels : List Channel
  current : List (SessionId × Nat)
  deriving DecidableEq, Repr

namespace Router

/-- A router without channels. -/
def empty : Router := ⟨[], []⟩

instance : Inhabited Router := ⟨empty⟩

/-- The channel that a session listens on. -/
def channelOf? (r : Router) (session : SessionId) : Option Nat := r.current.lookup session

/-- The sessions other than one, with their channels. -/
def others (r : Router) (session : SessionId) : List (SessionId × Nat) :=
  r.current.filter fun e => e.1 != session

/-- Opens a channel for a session in place of the one it has; the number is that of the channel. -/
def subscribe (r : Router) (session : SessionId) : Router × Nat :=
  (⟨r.channels ++ [⟨[], true⟩], (session, r.channels.length) :: r.others session⟩,
    r.channels.length)

/-- Gives up the channel of a session; the answer is whether it had one. -/
def unsubscribe (r : Router) (session : SessionId) : Router × Bool :=
  (⟨r.channels, r.others session⟩, (r.channelOf? session).isSome)

/-- Delivers an event to the channel of a session; the answer is whether somebody is there. -/
def emit (r : Router) (session : SessionId) (e : Event) : Router × Bool :=
  match r.channelOf? session with
  | none => (r, false)
  | some i =>
    match r.channels[i]? with
    | some ⟨queue, true⟩ => (⟨r.channels.set i ⟨queue ++ [e], true⟩, r.current⟩, true)
    | _ => (r, false)

/-- Takes everything out of a channel; nothing if nobody listens on it any more. -/
def take? (r : Router) (i : Nat) : Option (List Event × Router) :=
  match r.channels[i]? with
  | some ⟨queue, true⟩ => some (queue, ⟨r.channels.set i ⟨[], true⟩, r.current⟩)
  | _ => none

/-- Takes the oldest event out of a channel, if there is one and somebody listens. -/
def next? (r : Router) (i : Nat) : Option (Event × Router) :=
  match r.channels[i]? with
  | some ⟨e :: queue, true⟩ => some (e, ⟨r.channels.set i ⟨queue, true⟩, r.current⟩)
  | _ => none

/-- The listener of a channel goes away. -/
def hangUp (r : Router) (i : Nat) : Router := ⟨r.channels.set i ⟨[], false⟩, r.current⟩

/-- Whether nothing more can be delivered to a channel. -/
def isClosed (r : Router) (i : Nat) : Bool := !r.current.any fun e => e.2 == i

/-- The number of sessions that have a channel. -/
def subscriberCount (r : Router) : Nat := r.current.length

end Router
end Scriptorium.Output
