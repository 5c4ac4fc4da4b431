import Scriptorium.Decimal.Nearest
import Scriptorium.Toml.Quoted

/-!
# Numbers and moments in TOML

A number, a moment and the words `true` and `false` are written without quotes.  What begins with
a digit or a sign is tried as a moment, as a floating point number and as a whole number, in this
order.

Digits may be grouped by underscores, each between two digits.  A whole number has no needless
zero in front and at most 63 binary digits; a moment names a day that exists.
-/
namespace Scriptorium.Toml.Reader

/-! ## 1. Numbers -/

/-- The rest of some digits in groups, behind those in `done`, which stand in reverse. -/
def groupedFrom (isDigit : Char → Bool) (done : List Char) :
    List Char → Except Fault (List Char × List Char)
  | '_' :: c :: rest =>
    if isDigit c then groupedFrom isDigit (c :: done) rest
    else .error { left := rest.length + 1, final := true, choices := ["digit"] }
  | ['_'] => .error { left := 0, final := true, choices := ["digit"] }
  | c :: rest =>
    if isDigit c then groupedFrom isDigit (c :: done) rest else .ok (done.reverse, c :: rest)
  | [] => .ok (done.reverse, [])

def grouped (isFirst isDigit : Char → Bool) : Reader (List Char) := do
  let c ← one isFirst
  groupedFrom isDigit [c]

/-- Takes a sign, if there is one. -/
def sign : Reader (List Char) := do return (← optional (one fun c => c = '+' || c = '-')).toList

/-- Takes the digits of a whole number without a needless zero in front, with their sign. -/
def plain : Reader (List Char) :=
  reading .integer do
    let s ← sign
    return s ++ (← orElse (grouped (fun c => c.isDigit && c ≠ '0') Char.isDigit)
      (do return [← one Char.isDigit]))

def fitting (n : Int) : Except Cause Value :=
  if Decimal.fitsWord n then .ok (.whole n) else .error (if n < 0 then .tooSmall else .tooLarge)

def based (p : Part) (base : Nat) (isDigit : Char → Bool) : Reader Value :=
  final <| checked
    (reading p do
      let _ ← one fun _ => true
      let _ ← one fun _ => true
      final (grouped isDigit isDigit))
    fun ds => fitting (valueIn base ds : Nat)

/-- Reads a whole number. -/
def whole : Reader Value := do
  match (← get).take 2 with
  | ['0', 'x'] => based .hexadecimal 16 isHex
  | ['0', 'o'] => based .octal 8 fun c => '0' ≤ c && c ≤ '7'
  | ['0', 'b'] => based .binary 2 fun c => c = '0' || c = '1'
  | _ => checked plain fun ds => fitting ((Decimal.whole? ds).getD 0)

def exponent : Reader (List Char) := do
  let e ← one fun c => c = 'e' || c = 'E'
  let s ← sign
  return e :: s ++ (← final (grouped Char.isDigit Char.isDigit))

def fraction : Reader (List Char) := do
  let _ ← one (· = '.')
  return '.' :: (← instead ["digit"] (final (grouped Char.isDigit Char.isDigit)))

/-- A floating point number that digits write.  A positive one may not be too large. -/
def floatOf (ds : List Char) : Option UInt64 :=
  ((Decimal.Literal.read? ds).map (·.bits)).filter fun bits => bits.toNat ≠ Decimal.infinity

def digitFloat : Reader Value := do
  let left := (← get).length
  let front ← plain
  let behind ← orElse exponent do
    let digits ← fraction
    return digits ++ (← optional exponent).getD []
  match floatOf (front ++ behind) with
  | some bits => return .float bits
  | none => throw { left, final := true }

def floatWord : Reader (List Char) :=
  orElse (do exactly "inf".toList; return "inf".toList) (do exactly "nan".toList; return "nan".toList)

def ofFloatWord (ds : List Char) : Value :=
  .float (((Decimal.Literal.read? ds).map (·.bits)).getD 0)

/-- Reads a floating point number. -/
def float : Reader Value :=
  reading .float <| orElse digitFloat do
    let s ← sign
    return ofFloatWord (s ++ (← floatWord))

/-! ## 2. Moments -/

/-- Takes so many digits. -/
def digits (n : Nat) : Reader (List Char) := fun cs =>
  let ds := (cs.take n).takeWhile Char.isDigit
  if ds.length = n then .ok (ds, cs.drop n) else .error { left := cs.length }

def twoDigits (low high : Nat) : Reader (List Char) :=
  checked (digits 2) fun ds =>
    if low ≤ Decimal.Literal.valueOf ds ∧ Decimal.Literal.valueOf ds ≤ high then .ok ds
    else .error .outOfRange

def daysIn (year month : Nat) : Nat :=
  if month = 2 then
    if year % 4 = 0 ∧ (year % 100 ≠ 0 ∨ year % 400 = 0) then 29 else 28
  else if month ∈ [4, 6, 9, 11] then 30
  else 31

/-- Takes a date. -/
def date : Reader (List Char) := do
  let year ← digits 4
  let _ ← one (· = '-')
  final do
    let month ← twoDigits 1 12
    let _ ← one (· = '-')
    let last := daysIn (Decimal.Literal.valueOf year) (Decimal.Literal.valueOf month)
    let day ← checked (twoDigits 1 31) fun ds =>
      if Decimal.Literal.valueOf ds ≤ last then .ok ds else .error .outOfRange
    return year ++ '-' :: month ++ '-' :: day

def shownFraction (ds : List Char) : List Char :=
  match Text.dropEnd (· = '0') (ds.take 9) with
  | [] => []
  | shown => '.' :: shown

def timeOfDay : Reader (List Char) := do
  let hour ← twoDigits 0 23
  let _ ← one (· = ':')
  final do
    let minute ← twoDigits 0 59
    let _ ← one (· = ':')
    let second ← twoDigits 0 60
    let more ← optional do
      let _ ← one (· = '.')
      let c ← one Char.isDigit
      return c :: (← many Char.isDigit)
    return hour ++ ':' :: minute ++ ':' :: second ++ shownFraction (more.getD [])

def offset : Reader (List Char) :=
  reading .offset <| orElse (do let _ ← one fun c => c = 'Z' || c = 'z'; return ['Z']) do
    let s ← one fun c => c = '+' || c = '-'
    final do
      let hour ← twoDigits 0 23
      let _ ← one (· = ':')
      let minute ← twoDigits 0 59
      let isZero := Decimal.Literal.valueOf (hour ++ minute) = 0
      return (if isZero then '+' else s) :: hour ++ ':' :: minute

/-- Reads a moment. -/
def moment : Reader Value := do
  let text ← orElse
    (reading .dateTime do
      let day ← date
      let time ← optional do
        let _ ← one fun c => c = 'T' || c = 't' || c = ' '
        let time ← timeOfDay
        return 'T' :: time ++ (← optional offset).getD []
      return day ++ time.getD [])
    (reading .time timeOfDay)
  return .moment (String.ofList text)

/-! ## 3. Single values -/

/-- Says that a string could have come. -/
def notString {α : Type} (r : Reader α) : Reader α :=
  instead ["\x60\"\x60", "\x60'\x60"] (reading .string r)

/-- Reads a value that is written without quotes and brackets. -/
def single : Reader Value := do
  match ← peek with
  | none => failHere
  | some '_' => instead ["leading digit"] whole
  | some '.' => instead ["leading digit"] float
  | some 't' => notString (final do exactly "true".toList; return .bool true)
  | some 'f' => notString (final do exactly "false".toList; return .bool false)
  | some c =>
    if c.isDigit || c = '+' || c = '-' then orElse moment (orElse float whole)
    else notString (ofFloatWord <$> floatWord)

end Scriptorium.Toml.Reader
