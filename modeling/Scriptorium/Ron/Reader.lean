import Scriptorium.Text.Cut

/-!
# Steps of reading a RON text

A `Reader` works on the characters that are left of a text and fails with a `Fault`, whose message
tells the line and the column.  The second section holds blanks, comments, which may be nested, and
names.
-/
namespace Scriptorium.Ron

/-! ## 1. Faults and steps -/

/-- What is wrong with a text. -/
inductive Trouble where
  | ended
  | attribute
  | attributeEnd
  | comma
  | char
  | float
  | floatUnderscore
  | integer
  | leadingUnderscore
  | optionStart
  | optionEnd
  | colon
  | string
  | stringEnd
  | identifier
  | rawIdentifier (name : String)
  | extension (name : String)
  | unknownEscape
  | hexEscape
  | codeStart
  | codeDigits
  | codeEnd
  | codeValue
  | unclosedComment
  | unexpected (c : Char)
  | trailing
  /-- A key is no text. -/
  | key (found : String)
  | tooDeep
  deriving DecidableEq, Repr

/-- The words for what is wrong. -/
def Trouble.words : Trouble → String
  | .ended => "Unexpected end of RON"
  | .attribute => "Expected an \x60#![enable(...)]\x60 attribute"
  | .attributeEnd => "Expected closing \x60)]\x60 after the enable attribute"
  | .comma => "Expected comma"
  | .char => "Expected char"
  | .float => "Expected float"
  | .floatUnderscore => "Unexpected underscore in float"
  | .integer => "Expected integer"
  | .leadingUnderscore => "Unexpected leading underscore in an integer"
  | .optionStart => "Expected option"
  | .optionEnd => "Expected closing \x60)\x60"
  | .colon => "Expected colon"
  | .string => "Expected string"
  | .stringEnd => "Expected end of string"
  | .identifier => "Expected identifier"
  | .rawIdentifier name =>
    s!"Found invalid std identifier \x60{name}\x60, try the raw identifier \x60r#{name}\x60 instead"
  | .extension name => s!"No RON extension named \x60{name}\x60"
  | .unknownEscape => "Unknown escape character"
  | .hexEscape => "Non-hex digit found"
  | .codeStart => "Missing \x7b in Unicode escape"
  | .codeDigits => "Expected 1-6 digits, got 0 digits in Unicode escape"
  | .codeEnd => "No \x7d at the end of Unicode escape"
  | .codeValue => "Not a valid char"
  | .unclosedComment => "Unclosed block comment"
  | .unexpected c => s!"Unexpected byte '{c}'"
  | .trailing => "Non-whitespace trailing characters"
  | .key found => s!"expected a string but found {found} instead"
  | .tooDeep => "Exceeded recursion limit, try increasing the limit and using "
      ++ "\x60serde_stacker\x60 to protect against a stack overflow"

/-- Why a text is refused, and how many characters were left. -/
structure Fault where
  left : Nat
  trouble : Trouble
  deriving DecidableEq, Repr

/-- The text of a fault in a text.  The column is counted in octets. -/
def Fault.message (f : Fault) (text : String) : String :=
  let passed := text.toList.take (text.length - f.left)
  let line := (passed.filter (· = '\n')).length + 1
  let onLine := passed.reverse.takeWhile (· ≠ '\n')
  match f.trouble with
  | .key _ => f.trouble.words
  | _ => s!"{line}:{(onLine.map Char.utf8Size).foldl (· + ·) 1}: {f.trouble.words}"

/-- A step of reading. -/
abbrev Reader (α : Type) := StateT (List Char) (Except Fault) α

namespace Reader

/-- Fails where it stands. -/
def fail {α : Type} (t : Trouble) : Reader α := fun cs => .error ⟨cs.length, t⟩

/-- The next character, left where it is. -/
def peek : Reader (Option Char) := do return (← get).head?

/-- The next character, which has to be there. -/
def demand : Reader Char := do
  match ← peek with
  | some c => return c
  | none => fail .ended

/-- Takes characters. -/
def pass (n : Nat) : Reader Unit := modify (·.drop n)

/-- Takes the next character, which has to be there. -/
def takeChar : Reader Char := do
  let c ← demand
  pass 1
  return c

/-- Takes these characters, if they come next. -/
def takeText (text : String) : Reader Bool := fun cs =>
  match Text.dropStart? text.toList cs with
  | some rest => .ok (true, rest)
  | none => .ok (false, cs)

/-- Takes these characters. -/
def exactly (text : String) (t : Trouble) : Reader Unit := do
  unless ← takeText text do fail t

/-- Takes the characters that pass a test. -/
def many (p : Char → Bool) : Reader (List Char) := fun cs => .ok (cs.takeWhile p, cs.dropWhile p)

/-! ## 2. Blanks and names -/

def commentEnd? : Nat → List Char → Option (List Char)
  | 0, cs => some cs
  | depth + 1, '/' :: '*' :: rest => commentEnd? (depth + 2) rest
  | depth + 1, '*' :: '/' :: rest => commentEnd? depth rest
  | depth + 1, _ :: rest => commentEnd? (depth + 1) rest
  | _ + 1, [] => none

/-- Takes blanks and comments. -/
def skipFor : Nat → Reader Unit
  | 0 => return
  | fuel + 1 => do
    let _ ← many fun c => c = ' ' || c = '\t' || c = '\n' || c = '\r'
    match ← get with
    | '/' :: '/' :: _ =>
      let _ ← many (· ≠ '\n')
      skipFor fuel
    | '/' :: '*' :: rest =>
      match commentEnd? 1 rest with
      | some rest => do
        set rest
        skipFor fuel
      | none => fail .unclosedComment
    | '/' :: rest => do
      set rest
      fail (.unexpected (← takeChar))
    | _ => return

/-- Takes blanks and comments. -/
def skip : Reader Unit := do skipFor ((← get).length + 1)

/-- Takes a comma and the blanks around it; tells whether there was one. -/
def takeComma : Reader Bool := do
  skip
  if ← takeText "," then
    skip
    return true
  else return false

/-- A character of a name. -/
def isNameChar (c : Char) : Bool := c.isAlphanum || c = '_'

def isRawChar (c : Char) : Bool := isNameChar c || c = '.' || c = '+' || c = '-'

/-- Takes a name. -/
def name : Reader String := do
  let cs ← get
  let plain := cs.takeWhile isNameChar
  let raw := cs.takeWhile isRawChar
  match cs with
  | [] => fail .ended
  | 'r' :: '"' :: _ | ['r'] => fail .identifier
  | 'r' :: '#' :: rest =>
    let marked := rest.takeWhile isRawChar
    if marked = [] then fail .identifier
    set (rest.drop marked.length)
    return String.ofList marked
  | c :: _ =>
    if !(c.isAlpha || c = '_') then
      if raw = [] then fail .identifier else fail (.rawIdentifier (String.ofList raw))
    if c ≠ 'r' && plain.length < raw.length then fail (.rawIdentifier (String.ofList raw))
    pass plain.length
    return String.ofList plain

/-- Takes a name, if one comes next. -/
def name? : Reader (Option String) := fun cs =>
  match name cs with
  | .ok (n, rest) => .ok (some n, rest)
  | .error _ => .ok (none, cs)

/-- Takes this word, if it comes next. -/
def takeWord (word : String) : Reader Bool := fun cs =>
  match Text.dropStart? word.toList cs with
  | some rest => if rest.head?.any isNameChar then .ok (false, cs) else .ok (true, rest)
  | none => .ok (false, cs)

end Reader
end Scriptorium.Ron
