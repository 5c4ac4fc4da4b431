import Scriptorium.Text.Utf8

/-!
# Writing to the input of a script

What is to be written to a script's input waits in a queue, and one writer takes it from there
write by write, so that writes are never mixed.  A write can be taken by the pipe in parts.  It is
acknowledged when all of it has been taken, or refused when the pipe does not take it.

The writer stops when the pipe refuses a write, when the run is over, or when the queue is empty
and nobody can add to it any more; only in this last case is the end of the input sent on purpose.
Writes that a stopped writer leaves behind count as refused.
-/
namespace Scriptorium.Run

/-- A write, by the number it was given when it was added. -/
structure Write where
  number : Nat
  data : Bytes
  deriving DecidableEq, Repr

/-- The writer of a run. -/
structure Writer where
  /-- The writes that wait, oldest first. -/
  waiting : List Write := []
  /-- The write that is under way, with what is left of it. -/
  current : Option Write := none
  /-- How many writes were added. -/
  added : Nat := 0
  /-- The writes whose fate is known. -/
  acknowledged : List (Nat × Bool) := []
  /-- Whether the session can add writes. -/
  attached : Bool := true
  /-- How many callers are about to add a write. -/
  callers : Nat := 0
  /-- Whether the writer is at work. -/
  isOpen : Bool := true
  deriving DecidableEq, Repr, Inhabited

/-- How long a caller waits for the fate of a write, in milliseconds. -/
def acknowledgeWait : Nat := 100

namespace Writer

/-- Adds a write, and gives it a number; a stopped writer takes none. -/
def add (w : Writer) (data : Bytes) : Writer × Option Nat :=
  if w.isOpen then
    ({ w with waiting := w.waiting ++ [⟨w.added, data⟩], added := w.added + 1 }, some w.added)
  else (w, none)

/-- The fate of a write, if it is known. -/
def fate? (w : Writer) (number : Nat) : Option Bool :=
  match w.acknowledged.lookup number with
  | some accepted => some accepted
  | none => if w.isOpen then none else some false

/-- Turns to the next write. -/
def begin? (w : Writer) : Option Writer :=
  match w.isOpen, w.current, w.waiting with
  | true, none, next :: rest => some { w with current := some next, waiting := rest }
  | _, _, _ => none

/-- The pipe has taken the first `n` bytes of what is left of a write. -/
def advance (w : Writer) (n : Nat) : Writer :=
  { w with current := w.current.map fun c => ⟨c.number, c.data.drop n⟩ }

/-- Acknowledges the write under way if nothing is left of it. -/
def complete? (w : Writer) : Option Writer :=
  match w.isOpen, w.current with
  | true, some ⟨number, []⟩ =>
    some { w with current := none, acknowledged := (number, true) :: w.acknowledged }
  | _, _ => none

/-- The pipe has refused the write under way. -/
def refuse (w : Writer) : Writer :=
  match w.current with
  | some c =>
    { w with current := none, acknowledged := (c.number, false) :: w.acknowledged, isOpen := false }
  | none => { w with isOpen := false }

/-- Whether the end of the input is to be sent. -/
def atEnd (w : Writer) : Bool :=
  w.isOpen && w.current.isNone && w.waiting.isEmpty && !w.attached && w.callers == 0

/-- The writer stops. -/
def stop (w : Writer) : Writer := { w with isOpen := false }

end Writer
end Scriptorium.Run
