import Scriptorium.Decimal.Nearest
import Scriptorium.Json.Value
import Scriptorium.Ron.Reader

/-!
# Texts and numbers in RON

Texts stand in double quotes with escapes, or are taken as they are between as many number signs on
either side; a single character stands in single quotes.  Whole numbers may be written in several
bases and with underscores between their digits; those that fit no word of 64 bits count as floating
point numbers.
-/
namespace Scriptorium.Ron.Reader

/-! ## 1. Texts -/

def hexValue? (c : Char) : Option Nat :=
  if c.isDigit then some (c.toNat - '0'.toNat)
  else if 'a' ≤ c && c ≤ 'f' then some (c.toNat - 'a'.toNat + 10)
  else if 'A' ≤ c && c ≤ 'F' then some (c.toNat - 'A'.toNat + 10)
  else none

def hexDigit : Reader Nat := do
  match hexValue? (← takeChar) with
  | some n => return n
  | none => fail .hexEscape

def codeDigits (done : List Nat) : Nat → Reader (List Nat)
  | 0 => return done.reverse
  | n + 1 => do
    if (← demand) = '}' then return done.reverse
    codeDigits ((← hexDigit) :: done) n

/-- Takes what stands behind a backslash. -/
def escape : Reader Char := do
  match ← takeChar with
  | '\'' => return '\''
  | '"' => return '"'
  | '\\' => return '\\'
  | 'n' => return '\n'
  | 'r' => return '\r'
  | 't' => return '\t'
  | '0' => return '\x00'
  | 'x' =>
    let high ← hexDigit
    return Char.ofNat (16 * high + (← hexDigit))
  | 'u' =>
    exactly "\x7b" .codeStart
    let digits ← codeDigits [] 6
    if digits = [] then fail .codeDigits
    exactly "\x7d" .codeEnd
    let code := digits.foldl (fun n d => 16 * n + d) 0
    if code.isValidChar then return Char.ofNat code else fail .codeValue
  | _ => fail .unknownEscape

/-- Takes the rest of a text in quotes.  If it has no end, that is told from the last escape on. -/
def quotedFor (done : List Char) (t : Trouble) : Nat → Reader (List Char)
  | 0 => fail t
  | fuel + 1 => do
    let isPlain (c : Char) : Bool := c ≠ '"' && c ≠ '\\'
    let cs ← get
    let done := done ++ cs.takeWhile isPlain
    match cs.dropWhile isPlain with
    | '"' :: rest => do
      set rest
      return done
    | _ :: rest => do
      set rest
      quotedFor (done ++ [← escape]) .ended fuel
    | [] => fail t

def upToText? (closing : List Char) : List Char → Option (List Char × List Char)
  | [] => none
  | c :: rest =>
    if closing.isPrefixOf (c :: rest) then some ([], (c :: rest).drop closing.length)
    else (upToText? closing rest).map fun (front, behind) => (c :: front, behind)

/-- Takes a text that is taken as it is, between quotes and as many number signs on either side. -/
def rawText : Reader String := do
  let signs ← many (· = '#')
  exactly "\"" .string
  match upToText? ('"' :: signs) (← get) with
  | some (front, behind) => do
    set behind
    return String.ofList front
  | none => fail .stringEnd

/-- Takes a single character in quotes. -/
def quotedChar : Reader String := do
  pass 1
  match ← get with
  | [] => fail .ended
  | '\\' :: rest => do
    set rest
    let c ← escape
    exactly "'" .char
    return c.toString
  | c :: '\'' :: rest =>
    if c = '\'' then fail .char
    set rest
    return c.toString
  | _ => fail .char

/-! ## 2. Numbers -/

def isWholeChar (c : Char) : Bool := (hexValue? c).isSome || c = '_'

def isFloatChar (c : Char) : Bool :=
  c.isDigit || c = 'e' || c = 'E' || c = '.' || c = '+' || c = '-' || c = '_'

/-- Takes a floating point number. -/
def float : Reader Json.Value := do
  let cs := (← get).takeWhile isFloatChar
  if cs.contains '_' then
    pass (cs.takeWhile (· ≠ '_')).length
    fail .floatUnderscore
  pass cs.length
  match Decimal.Literal.read? cs with
  | some l => return .number (.float l.bits)
  | none => fail .float

/-- The number that the digits of a base write; underscores do not count. -/
def wholeIn (base : Nat) : Nat → List Char → Reader Nat
  | n, [] => return n
  | n, '_' :: rest => wholeIn base n rest
  | n, c :: rest => do
    match (hexValue? c).filter (· < base) with
    | some d => wholeIn base (base * n + d) rest
    | none => fail .integer

/-- Takes a number.  One that fits no word of 64 bits counts as a floating point number. -/
def number : Reader Json.Value := do
  let start ← get
  let sign := (start.head?.filter fun c => c = '+' || c = '-').toList
  let cs := start.drop sign.length
  if (cs.takeWhile isWholeChar).length < (cs.takeWhile isFloatChar).length then float
  else
    pass sign.length
    let base ← match cs with
      | '0' :: 'x' :: _ => pure 16
      | '0' :: 'b' :: _ => pure 2
      | '0' :: 'o' :: _ => pure 8
      | _ => pure 10
    unless base = 10 do pass 2
    let ds := (← get).takeWhile isWholeChar
    if ds = [] then fail .integer
    if ds.head? = some '_' then fail .leadingUnderscore
    let n ← wholeIn base 0 ds
    let signed : Int := if sign = ['-'] then -(n : Int) else n
    if Decimal.fitsWord signed || (sign = [] && n ≤ Decimal.maxWord) then
      pass ds.length
      return .number (.whole signed)
    else
      set start
      float

end Scriptorium.Ron.Reader
