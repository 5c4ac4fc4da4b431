import Scriptorium.Web.Stretch

/-!
# Dates in header fields

A date is written in one of three ways, always in universal time:

* `Sun, 06 Nov 1994 08:49:37 GMT`;
* `Sunday, 06-Nov-94 08:49:37 GMT`, the year being from 1970 to 2069;
* `Sun Nov  6 08:49:37 1994`.

It is counted in seconds from the beginning of 1970.  The day of the week has to be one, but not
the right one, and a day behind the end of its month is one of the next month.
-/
namespace Scriptorium.Web

/-- A date. -/
structure Date where
  year : Nat
  month : Nat
  day : Nat
  hour : Nat
  minute : Nat
  second : Nat
  deriving DecidableEq, Repr

namespace Date

/-! ## 1. Counting -/

def isLeap (year : Nat) : Bool := year % 4 = 0 && (year % 100 ≠ 0 || year % 400 = 0)

def daysBefore (month : Nat) : Nat :=
  ([31, 28, 31, 30, 31, 30, 31, 31, 30, 31, 30].take (month - 1)).foldl (· + ·) 0

def daysTo (year : Nat) : Nat :=
  (year - 1970) * 365 + (year - 1969) / 4 - (year - 1901) / 100 + (year - 1601) / 400

def isProper (d : Date) : Bool :=
  d.second < 60 && d.minute < 60 && d.hour < 24 && 0 < d.day && d.day < 32 && 1970 ≤ d.year

/-- The seconds from the beginning of 1970. -/
def seconds (d : Date) : Nat :=
  let days := daysTo d.year + daysBefore d.month + (d.day - 1)
    + if isLeap d.year ∧ 2 < d.month then 1 else 0
  ((days * 24 + d.hour) * 60 + d.minute) * 60 + d.second

/-! ## 2. From texts -/

abbrev Reader := StateT (List Char) Option

def exactly (text : String) : Reader Unit := fun cs => (Text.dropStart? text.toList cs).map ((), ·)

def number (digits : Nat) : Reader Nat := fun cs =>
  let ds := cs.take digits
  if ds.length = digits ∧ ds.all Char.isDigit then
    some (ds.foldl (fun n c => n * 10 + (c.toNat - 48)) 0, cs.drop digits)
  else none

def nameOf (names : List String) : Reader Nat := fun cs =>
  (names.zipIdx 1).findSome? fun (name, i) => (Text.dropStart? name.toList cs).map (i, ·)

def weekDays : List String :=
  ["Monday", "Tuesday", "Wednesday", "Thursday", "Friday", "Saturday", "Sunday"]

def shortWeekDays : List String := weekDays.map fun d => String.ofList (d.toList.take 3)

def months : List String :=
  ["Jan", "Feb", "Mar", "Apr", "May", "Jun", "Jul", "Aug", "Sep", "Oct", "Nov", "Dec"]

def timeOfDay : Reader (Nat × Nat × Nat) := do
  let hour ← number 2
  exactly ":"
  let minute ← number 2
  exactly ":"
  return (hour, minute, ← number 2)

/-- The first way to write a date. -/
def full : Reader Date := do
  let _ ← nameOf shortWeekDays
  exactly ", "
  let day ← number 2
  exactly " "
  let month ← nameOf months
  exactly " "
  let year ← number 4
  exactly " "
  let (hour, minute, second) ← timeOfDay
  exactly " GMT"
  return { year, month, day, hour, minute, second }

def dashed : Reader Date := do
  let _ ← nameOf weekDays
  exactly ", "
  let day ← number 2
  exactly "-"
  let month ← nameOf months
  exactly "-"
  let year ← number 2
  exactly " "
  let (hour, minute, second) ← timeOfDay
  exactly " GMT"
  return { year := year + if year < 70 then 2000 else 1900, month, day, hour, minute, second }

def yearLast : Reader Date := do
  let _ ← nameOf shortWeekDays
  exactly " "
  let month ← nameOf months
  exactly " "
  let day ← (do exactly " "; number 1) <|> number 2
  exactly " "
  let (hour, minute, second) ← timeOfDay
  exactly " "
  return { year := ← number 4, month, day, hour, minute, second }

/-- The date that all of a text writes. -/
def ofText? (cs : List Char) : Option Date := do
  let (d, []) ← (full <|> dashed <|> yearLast).run (Text.trim isGap cs) | none
  if d.isProper then some d else none

end Date
end Scriptorium.Web
