import Scriptorium.Json5.Raw
import Scriptorium.Text.Cut
import Scriptorium.Text.Word

/-!
# Steps of reading a JSON5 text

Where a text may go on in several ways they are tried one after the other.  What is said of a text
that is refused is what was tried at the farthest place that any trial reached: `Attempts` keeps
the place and the kinds of things that were tried there, and survives all that is taken back.
-/
namespace Scriptorium.Json5

/-! ## 1. Attempts -/

/-- A kind of thing that a text is made of, in the order in which they are named. -/
inductive Kind where
  | textEnd
  | array
  | boolean
  | charEscape
  | char
  | hexEscape
  | identifier
  | nulEscape
  | null
  | number
  | object
  | string
  | unicodeEscape
  deriving DecidableEq, Repr

/-- The name of a kind. -/
def Kind.name : Kind → String
  | .textEnd => "EOI"
  | .array => "array"
  | .boolean => "boolean"
  | .charEscape => "char_escape_sequence"
  | .char => "char_literal"
  | .hexEscape => "hex_escape_sequence"
  | .identifier => "identifier"
  | .nulEscape => "nul_escape_sequence"
  | .null => "null"
  | .number => "number"
  | .object => "object"
  | .string => "string"
  | .unicodeEscape => "unicode_escape_sequence"

/-- What was tried at the farthest place. -/
structure Attempts where
  /-- How many characters were left there. -/
  left : Nat
  tried : List Kind := []
  deriving DecidableEq, Repr

def Attempts.countAt (a : Attempts) (left : Nat) : Nat :=
  if a.left = left then a.tried.length else 0

/-- Keeps that a thing was tried in vain where so many characters were left.  It takes the place of
its parts that were tried there, unless there was just one; `before` is what was known before. -/
def Attempts.note (a before : Attempts) (k : Kind) (left : Nat) : Attempts :=
  if a.countAt left = before.countAt left + 1 then a
  else if left < a.left then ⟨left, [k]⟩
  else if left = a.left then { a with tried := a.tried.take (before.countAt left) ++ [k] }
  else a

/-- A step of reading: the characters that are left are taken back where it fails, the attempts
are not. -/
abbrev Reader (α : Type) := StateT (List Char) (OptionT (StateM Attempts)) α

namespace Reader

def orElse {α : Type} (r s : Reader α) : Reader α := fun cs => OptionT.mk do
  match ← (r cs).run with
  | some out => return some out
  | none => (s cs).run

/-- Reads a thing of a kind. -/
def kind {α : Type} (k : Kind) (r : Reader α) : Reader α := fun cs => OptionT.mk do
  let before ← get
  match ← (r cs).run with
  | some out => return some out
  | none =>
    modify (·.note before k cs.length)
    return none

/-- Fails where it stands. -/
def fail {α : Type} : Reader α := fun _ => OptionT.mk (return none)

/-- Takes a character that passes a test. -/
def one (p : Char → Bool) : Reader Char := do
  match ← get with
  | c :: rest => if p c then set rest; return c else fail
  | [] => fail

/-- Takes these characters. -/
def exactly (text : String) : Reader Unit := do
  match Text.dropStart? text.toList (← get) with
  | some rest => set rest
  | none => fail

/-- Takes the characters that pass a test. -/
def many (p : Char → Bool) : Reader (List Char) := do
  let cs ← get
  set (cs.dropWhile p)
  return cs.takeWhile p

/-- Takes characters that pass a test; there has to be one. -/
def many1 (p : Char → Bool) : Reader (List Char) := do return (← one p) :: (← many p)

/-- A step that may be left out. -/
def optional {α : Type} (r : Reader α) : Reader (Option α) := orElse (some <$> r) (return none)

def repeatedFor {α : Type} (r : Reader α) : Nat → Reader (List α)
  | 0 => return []
  | fuel + 1 => do
    match ← optional r with
    | some a => return a :: (← repeatedFor r fuel)
    | none => return []

/-- Takes a step as often as possible; it takes a character at least. -/
def repeated {α : Type} (r : Reader α) : Reader (List α) := do
  repeatedFor r ((← get).length + 1)

/-! ## 2. Blanks and comments -/

def isBreak (c : Char) : Bool := c = '\n' || c = '\r' || c = '\u2028' || c = '\u2029'

def isBlank (c : Char) : Bool := (Text.isSpace c && c ≠ '\u0085') || c = '\uFEFF'

def commentEnd? : List Char → Option (List Char)
  | '*' :: '/' :: rest => some rest
  | _ :: rest => commentEnd? rest
  | [] => none

def comment : Reader Unit :=
  orElse
    (do
      exactly "/*"
      match commentEnd? (← get) with
      | some rest => set rest
      | none => fail)
    (do
      exactly "//"
      let _ ← many fun c => !isBreak c)

/-- Takes blanks and comments. -/
def skip : Reader Unit := do
  let _ ← many isBlank
  let _ ← repeated do
    comment
    many isBlank

/-! ## 3. Strings and names -/

/-- Takes so many hexadecimal digits, which are a code. -/
def code (k : Kind) (n : Nat) : Reader Nat :=
  kind k do
    let ds := (← get).take n
    unless ds.length = n && ds.all isHex do fail
    modify (·.drop n)
    return hexNumber ds

def literal : Reader Piece := kind .char (.char <$> one fun c => c ≠ '\\' && !isBreak c)

def escaped : Char → Char
  | 'b' => '\x08'
  | 'f' => '\x0c'
  | 'n' => '\n'
  | 'r' => '\r'
  | 't' => '\t'
  | 'v' => '\x0b'
  | c => c

def escape : Reader Piece :=
  orElse (kind .charEscape do
    return .char (escaped (← one fun c => !c.isDigit && c ≠ 'x' && c ≠ 'u' && !isBreak c))) <|
  orElse (kind .nulEscape do
    exactly "0"
    return .char '\x00') <|
  orElse (do
    exactly "x"
    return .short (← code .hexEscape 2)) do
    exactly "u"
    return .long (← code .unicodeEscape 4)

/-- Takes a piece of a string between two quotes.  The end of a line behind a backslash does not
count. -/
def stringPiece (quote : Char) : Reader (Option Piece) :=
  orElse (do
    exactly "\\"
    return some (← escape)) <|
  orElse (do
    exactly "\\"
    orElse (exactly "\r\n") (discard (one isBreak))
    return none) do
    if (← get).head? = some quote then fail
    return some (← literal)

def stringIn (quote : Char) : Reader (List Piece) := do
  let _ ← one (· = quote)
  let pieces ← repeated (stringPiece quote)
  let _ ← one (· = quote)
  return pieces.filterMap id

/-- Takes a string. -/
def string : Reader (List Piece) := kind .string (orElse (stringIn '"') (stringIn '\''))

def isNameStart (c : Char) : Bool := Text.isLetter c || c = '$' || c = '_'

def isNamePart (c : Char) : Bool :=
  isNameStart c || Text.isJoined c || c = '\u200C' || c = '\u200D'

def namePiece (p : Char → Bool) : Reader Piece :=
  orElse (.char <$> one p) do
    exactly "\\u"
    return .long (← code .unicodeEscape 4)

/-- Takes a name without quotes. -/
def identifier : Reader (List Piece) :=
  kind .identifier do
    let first ← namePiece isNameStart
    return first :: (← repeated (namePiece isNamePart))

/-! ## 4. Values -/

def exponent : Reader (List Char) := do
  let e ← one fun c => c = 'e' || c = 'E'
  let sign ← optional (one fun c => c = '+' || c = '-')
  return e :: sign.toList ++ (← many1 Char.isDigit)

def decimal : Reader (List Char) := do
  let whole : Reader (List Char) :=
    orElse (do exactly "0"; return ['0']) (many1 Char.isDigit)
  let digits ← orElse (do
      let front ← whole
      exactly "."
      return front ++ '.' :: (← many Char.isDigit)) <|
    orElse (do
      exactly "."
      return '.' :: (← many1 Char.isDigit)) whole
  return digits ++ (← optional exponent).getD []

/-- Takes the digits of a hexadecimal number. -/
def hexadecimal : Reader (List Char) := do
  let zero ← one (· = '0')
  let x ← one fun c => c = 'x' || c = 'X'
  return zero :: x :: (← many1 isHex)

/-- Takes a word. -/
def word (w : String) : Reader (List Char) := do
  exactly w
  return w.toList

/-- Reads a number. -/
def number : Reader Raw :=
  kind .number do
    let sign ← optional (one fun c => c = '+' || c = '-')
    let digits ← orElse hexadecimal (orElse decimal (orElse (word "Infinity") (word "NaN")))
    return .number (sign.toList ++ digits)

/-- Takes things between two brackets with commas between them; a comma may stand behind the last
one. -/
def row {α : Type} (opening closing : String) (r : Reader α) : Reader (List α) :=
  orElse (do
    exactly opening
    skip
    exactly closing
    return []) do
    exactly opening
    skip
    let first ← r
    let more ← repeated do
      skip
      exactly ","
      skip
      r
    skip
    let _ ← optional (exactly ",")
    skip
    exactly closing
    return first :: more

/-- Reads a value. -/
def value : Nat → Reader Raw
  | 0 => fail
  | fuel + 1 =>
    orElse (kind .null do
      exactly "null"
      return .null) <|
    orElse (kind .boolean do
      let b ← orElse (do exactly "true"; return true) (do exactly "false"; return false)
      return .bool b) <|
    orElse (.string <$> string) <|
    orElse number <|
    orElse (kind .object do
      return .object (← row "\x7b" "\x7d" do
        let name ← orElse identifier string
        skip
        exactly ":"
        skip
        return (name, ← value fuel))) <|
    kind .array do
      return .array (← row "[" "]" (value fuel))

/-- Reads a whole text. -/
def document : Reader Raw := do
  skip
  let v ← value ((← get).length + 1)
  skip
  kind .textEnd do unless (← get) = [] do fail
  return v

end Reader
end Scriptorium.Json5
