import Scriptorium.Text.Cut
import Scriptorium.Toml.Value

/-!
# Steps of reading a TOML text

A `Reader` works on the characters that are left of a text and fails with a `Fault`.  Where a text
may go on in several ways they are tried one after the other, so a fault is either final, and the
whole text is refused, or it only ends one way of reading.  What is said of a fault is collected on
its way out: the innermost part that was being read, and all that could have come instead.

The second section holds the blanks, comments and ends of lines between all other things.
-/
namespace Scriptorium.Toml

/-! ## 1. Faults -/

/-- What was being read. -/
inductive Part where
  | key
  | header
  | array
  | inlineTable
  | string
  | basicString
  | longString
  | literalString
  | longLiteral
  | escape
  | shortCode
  | longCode
  | integer
  | hexadecimal
  | octal
  | binary
  | float
  | dateTime
  | time
  | offset
  deriving DecidableEq, Repr

/-- The words for a part. -/
def Part.words : Part → String
  | .key => "key"
  | .header => "table header"
  | .array => "array"
  | .inlineTable => "inline table"
  | .string => "string"
  | .basicString => "basic string"
  | .longString => "multiline basic string"
  | .literalString => "literal string"
  | .longLiteral => "multiline literal string"
  | .escape => "escape sequence"
  | .shortCode => "unicode 4-digit hex code"
  | .longCode => "unicode 8-digit hex code"
  | .integer => "integer"
  | .hexadecimal => "hexadecimal integer"
  | .octal => "octal integer"
  | .binary => "binary integer"
  | .float => "floating-point number"
  | .dateTime => "date-time"
  | .time => "time"
  | .offset => "time offset"

/-- What is wrong with something that is written as it should be. -/
inductive Cause where
  | clash (c : Members.Clash)
  | outOfRange
  | tooLarge
  | tooSmall
  | tooDeep
  deriving DecidableEq, Repr

/-- The words for a cause. -/
def Cause.message : Cause → String
  | .clash c => c.message
  | .outOfRange => "value is out of range"
  | .tooLarge => "number too large to fit in target type"
  | .tooSmall => "number too small to fit in target type"
  | .tooDeep => "recursion limit exceeded"

/-- Why reading failed. -/
structure Fault where
  /-- How many characters were left. -/
  left : Nat
  /-- Whether no other way of reading is to be tried. -/
  final : Bool := false
  part : Option Part := none
  /-- What could have come instead. -/
  choices : List String := []
  cause : Option Cause := none
  deriving DecidableEq, Repr

/-- The text of a fault, line by line; it may be empty. -/
def Fault.message (f : Fault) : String :=
  "\n".intercalate <|
    (f.part.map fun p => s!"invalid {p.words}").toList
      ++ (if f.choices = [] then [] else ["expected " ++ ", ".intercalate f.choices])
      ++ (f.cause.map Cause.message).toList

/-- A step of reading. -/
abbrev Reader (α : Type) := StateT (List Char) (Except Fault) α

namespace Reader

/-- Fails where it stands. -/
def failHere {α : Type} : Reader α := do throw { left := (← get).length }

def describing {α : Type} (change : Fault → Fault) (r : Reader α) : Reader α :=
  fun cs => (r cs).mapError change

/-- A step that has to succeed. -/
def final {α : Type} (r : Reader α) : Reader α := describing ({ · with final := true }) r

/-- A step that reads a part. -/
def reading {α : Type} (p : Part) (r : Reader α) : Reader α :=
  describing (fun f => { f with part := f.part <|> some p }) r

/-- A step in place of which some things could have come. -/
def instead {α : Type} (choices : List String) (r : Reader α) : Reader α :=
  describing (fun f => { f with choices := f.choices ++ choices }) r

/-- The first step or, unless its fault is final, the second in its place. -/
def orElse {α : Type} (r s : Reader α) : Reader α := fun cs =>
  match r cs with
  | .error f => if f.final then .error f else s cs
  | ok => ok

/-- A step that may be left out. -/
def optional {α : Type} (r : Reader α) : Reader (Option α) := orElse (some <$> r) (return none)

/-- A step whose outcome is looked at; what is wrong with it is placed before the step. -/
def checked {α β : Type} (r : Reader α) (check : α → Except Cause β) : Reader β := do
  let left := (← get).length
  match check (← r) with
  | .ok b => return b
  | .error c => throw { left, cause := some c }

/-- The next character, left where it is. -/
def peek : Reader (Option Char) := do return (← get).head?

/-- Takes one character that passes a test. -/
def one (p : Char → Bool) : Reader Char := fun cs =>
  match cs with
  | c :: rest => if p c then .ok (c, rest) else .error { left := cs.length }
  | [] => .error { left := 0 }

/-- Takes these characters. -/
def exactly (text : List Char) : Reader Unit := fun cs =>
  match Text.dropStart? text cs with
  | some rest => .ok ((), rest)
  | none => .error { left := cs.length }

/-- Takes the characters that pass a test. -/
def many (p : Char → Bool) : Reader (List Char) := fun cs => .ok (cs.takeWhile p, cs.dropWhile p)

/-! ## 2. Between things -/

/-- A blank inside a line. -/
def isBlank (c : Char) : Bool := c = ' ' || c = '\t'

/-- Takes the blanks that come next. -/
def skipBlanks : Reader Unit := discard (many isBlank)

/-- A character that a comment or a string may hold as it is. -/
def isText (c : Char) : Bool := c = '\t' || (0x20 ≤ c.toNat && c.toNat ≠ 0x7F)

/-- Takes a comment up to the end of the line. -/
def comment : Reader Unit := do
  let _ ← one (· = '#')
  discard (many isText)

/-- Takes the end of a line.  A fault is placed behind the character that is no such end. -/
def newline : Reader Unit := fun cs =>
  match cs with
  | '\n' :: rest | '\r' :: '\n' :: rest => .ok ((), rest)
  | _ => .error { left := cs.length - 1 }

/-- Takes the end of a line, or stands at the end of the text. -/
def lineEnd : Reader Unit := orElse newline do unless (← get) = [] do failHere

/-- Takes what may follow on a line, and its end. -/
def restOfLine : Reader Unit :=
  instead ["newline", "\x60#\x60"] do
    skipBlanks
    let _ ← optional comment
    lineEnd

def skipLines : Nat → Reader Unit
  | 0 => return
  | fuel + 1 => do
    skipBlanks
    match ← peek with
    | some '#' => do
      comment
      newline
      skipLines fuel
    | some '\n' | some '\r' => do
      newline
      skipLines fuel
    | _ => return

/-- Takes all that may stand between the items of a list. -/
def skipSpace : Reader Unit := do skipLines ((← get).length + 1)

end Reader
end Scriptorium.Toml
