import Scriptorium.Text.Cut

/-!
# Stretches of a file

A request may ask for stretches of a file by the places of their bytes.  A stretch has a first and
a last place, or only a first one, or it is so many bytes at the end.

`Extent.ofText` decides what of a file of some size is shown: one stretch that begins in it.  A
text that cannot be read, a stretch that begins behind the end or ends before its beginning, and
stretches that overlap are all refused in the same way.
-/
namespace Scriptorium.Web

/-- A stretch of a file. -/
inductive Stretch where
  | between (first last : Nat)
  | onward (first : Nat)
  | atEnd (length : Nat)
  deriving DecidableEq, Repr

/-- A character between words. -/
def isGap (c : Char) : Bool := c = ' ' || c = '\t'

namespace Stretch

/-! ## 1. From texts -/

/-- The place that a text writes: a number below `2^64` without zeros in front. -/
def placeOf? (cs : List Char) : Option Nat :=
  let n := cs.foldl (fun n c => n * 10 + (c.toNat - 48)) 0
  if cs ≠ [] ∧ cs.all Char.isDigit ∧ (cs.length = 1 ∨ cs.head? ≠ some '0') ∧
      n ≤ 0xFFFFFFFFFFFFFFFF then some n
  else none

/-- The stretch that a text writes.  One blank may stand before it. -/
def ofText? (cs : List Char) : Option Stretch := do
  if cs.getLast?.any isGap ∨ 1 < cs.countP isGap then none
  else match Text.pieces '-' (Text.trim isGap cs) with
    | [first, last] =>
      if first = [] then do
        let n ← placeOf? last
        if n = 0 then none else some (.atEnd n)
      else if last = [] then (placeOf? first).map .onward
      else some (.between (← placeOf? first) (← placeOf? last))
    | _ => none

def listOfText? (cs : List Char) : Option (List Stretch) := do
  let asked ← Text.dropStart? "bytes=".toList cs
  if asked.head?.any isGap then none else (Text.pieces ',' asked).mapM ofText?

/-! ## 2. In a file -/

/-- The first and the last place of a stretch in a file of some size, if it is not empty. -/
def within? (size : Nat) : Stretch → Option (Nat × Nat)
  | between first last => proper first (min last (size - 1))
  | onward first => proper first (size - 1)
  | atEnd length => if length ≤ size then proper (size - length) (size - 1) else none
where
  /-- Both places, if there is something from the first to the last. -/
  proper (first last : Nat) : Option (Nat × Nat) :=
    if first ≤ last ∧ last < size then some (first, last) else none

theorem lt_of_within? {size first last : Nat} {s : Stretch}
    (h : s.within? size = some (first, last)) : first ≤ last ∧ last < size := by
  unfold within? within?.proper at h
  grind

def overlap (a b : Nat × Nat) : Bool := a.1 ≤ b.2 && b.1 ≤ a.2

def apart : List (Nat × Nat) → Bool
  | [] => true
  | a :: rest => !rest.any (overlap a) && apart rest

end Stretch

/-- What is shown of a file. -/
inductive Extent where
  | whole
  | part (first last : Nat)
  /-- Several stretches, which are not shown. -/
  | scattered
  | unsatisfiable
  deriving DecidableEq, Repr

/-- What is shown of a file of some size when the value of a header field asks for stretches. -/
def Extent.ofText (size : Nat) (asked : List Char) : Extent :=
  match Stretch.listOfText? asked >>= fun ss => ss.mapM (Stretch.within? size) with
  | some [(first, last)] => .part first last
  | some parts => if Stretch.apart parts then .scattered else .unsatisfiable
  | none => .unsatisfiable

end Scriptorium.Web
