/-!
# Steps of reading an INI text

A `Reader` goes through a text character by character and keeps the line and the column of the next
one, which a `Fault` tells.
-/
namespace Scriptorium.Ini

/-! ## 1. Faults -/

/-- Where a piece of text ends. -/
inductive Stop where
  | keyEnd
  | sectionEnd
  | doubleQuote
  | singleQuote
  | lineEnd
  deriving DecidableEq, Repr

/-- Whether a piece of text ends before a character, or at the end of the text. -/
def Stop.isAt : Stop → Option Char → Bool
  | .keyEnd, c => c = some '=' || c = some ':'
  | .sectionEnd, c => c = some ']'
  | .doubleQuote, c => c = some '"'
  | .singleQuote, c => c = some '\''
  | .lineEnd, c => c = some '\n' || c = some '\r' || c = none

def Stop.shown : Stop → String
  | .keyEnd => "[Some('='), Some(':')]"
  | .sectionEnd => "[Some(']')]"
  | .doubleQuote => "[Some('\"')]"
  | .singleQuote => "[Some('\\'')]"
  | .lineEnd => "[Some('\\n'), Some('\\r'), None]"

/-- What is wrong with a text. -/
inductive Trouble where
  | ended (s : Stop)
  | comment
  | missingKey
  | brokenCode (found : Option Char)
  | unknownCode
  deriving DecidableEq, Repr

/-- The words for what is wrong. -/
def Trouble.words : Trouble → String
  | .ended s => "expecting \"" ++ s.shown ++ "\" but found EOF."
  | .comment => "doesn't support inline comment"
  | .missingKey => "missing key"
  | .brokenCode found =>
    let shown := match found with
      | some c => s!"Some('{c}')"
      | none => "None"
    "expecting \"\\\\n\" but found \"" ++ shown ++ "\"."
  | .unknownCode => "unknown character in \\xHH form"

/-- Why a text is refused.  The column counts the character that stands there. -/
structure Fault where
  line : Nat
  column : Nat
  trouble : Trouble
  deriving DecidableEq, Repr

/-- The text of a fault. -/
def Fault.message (f : Fault) : String := s!"{f.line + 1}:{f.column + 1} {f.trouble.words}"

/-! ## 2. Steps -/

/-- What is left of a text.  The line and the column count the next character too. -/
structure Cursor where
  rest : List Char
  line : Nat := 0
  column : Nat := 0
  deriving DecidableEq, Repr

/-- Stands before a text. -/
def Cursor.entering (c : Cursor) (rest : List Char) : Cursor :=
  match rest with
  | '\n' :: _ => ⟨rest, c.line + 1, 0⟩
  | _ :: _ => ⟨rest, c.line, c.column + 1⟩
  | [] => ⟨[], c.line, c.column⟩

/-- A step of reading. -/
abbrev Reader (α : Type) := StateT Cursor (Except Fault) α

namespace Reader

/-- Fails where it stands. -/
def fail {α : Type} (t : Trouble) : Reader α := do
  let c ← get
  throw ⟨c.line, c.column, t⟩

/-- The next character. -/
def peek : Reader (Option Char) := do return (← get).rest.head?

/-- Takes one character. -/
def pass : Reader Unit := modify fun c => c.entering (c.rest.drop 1)

/-- The next character, which has to be there. -/
def demand (s : Stop) : Reader Char := do
  match ← peek with
  | some c => return c
  | none => fail (.ended s)

def skipWhileFor (p : Char → Bool) : Nat → Reader Unit
  | 0 => return
  | fuel + 1 => do
    if (← peek).any p then
      pass
      skipWhileFor p fuel

/-- Takes characters that pass a test. -/
def skipWhile (p : Char → Bool) : Reader Unit := do skipWhileFor p ((← get).rest.length)

end Reader
end Scriptorium.Ini
