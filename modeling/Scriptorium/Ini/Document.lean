import Scriptorium.Ini.Reader
import Scriptorium.Text.Cut

/-!
# INI texts

A text of sections, each with a name in brackets above its lines `name = text`.  A colon may stand
for the sign of equality.  A text is taken without the blanks around it, unless it is in quotes; a
backslash gives characters a meaning of their own everywhere.  Comments have lines of their own.
-/
namespace Scriptorium.Ini
namespace Reader

/-! ## 1. Pieces of text -/

def escaped : Char → List Char
  | '0' => ['\x00']
  | 'a' => ['\x07']
  | 'b' => ['\x08']
  | 't' => ['\t']
  | 'r' => ['\r']
  | 'n' => ['\n']
  | '\n' => []
  | c => [c]

def hexDigit? (c : Char) : Option Nat :=
  if c.isDigit then some (c.toNat - '0'.toNat)
  else if 'a' ≤ c && c ≤ 'f' then some (c.toNat - 'a'.toNat + 10)
  else if 'A' ≤ c && c ≤ 'F' then some (c.toNat - 'A'.toNat + 10)
  else none

def ofCode? (code : List Char) : Option Char := do
  let digits ← (if code.head? = some '+' then code.drop 1 else code).mapM hexDigit?
  let n := digits.foldl (fun n d => 16 * n + d) 0
  if n.isValidChar then some (Char.ofNat n) else none

/-- Takes the digits of a code, each from the character before it on. -/
def code (s : Stop) : Nat → Reader (List Char)
  | 0 => return []
  | n + 1 => do
    pass
    let c ← demand s
    if c = '\\' then
      pass
      let next ← peek
      unless next = some '\n' do fail (.brokenCode next)
    return c :: (← code s n)

def escape (s : Stop) : Reader (List Char) := do
  pass
  match ← demand s with
  | 'x' =>
    match ofCode? (← code s 4) with
    | some c => return [c]
    | none => fail .unknownCode
  | c => return escaped c

def textFor (s : Stop) (done : List Char) : Nat → Reader (List Char)
  | 0 => return done
  | fuel + 1 => do
    if s.isAt (← peek) then return done
    let c ← demand s
    let cs ← if c = '\\' then escape s else pure [c]
    pass
    textFor s (done ++ cs) fuel

/-- Takes a piece of text up to its end. -/
def text (s : Stop) : Reader (List Char) := do textFor s [] ((← get).rest.length + 1)

/-- Takes the value behind the sign of equality: parts in quotes, and what follows them on the
line.  `first` tells whether no part has been taken. -/
def valueFor (first : Bool) (done : List Char) : Nat → Reader (List Char)
  | 0 => return done
  | fuel + 1 => do
    let quoted (s : Stop) : Reader (List Char) := do
      pass
      let part ← text s
      pass
      return part
    match ← peek with
    | none => return done
    | some '"' => do valueFor false (done ++ (← quoted .doubleQuote)) fuel
    | some '\'' => do valueFor false (done ++ (← quoted .singleQuote)) fuel
    | some _ => do
      let line ← text .lineEnd
      return done ++ (if first then Text.trim else Text.dropEnd) Text.isSpace line

/-- Takes the sign of equality and the value behind it. -/
def value : Reader String := do
  pass
  skipWhile fun c => Text.isSpace c && c ≠ '\n' && c ≠ '\r'
  return String.ofList (← valueFor true [] ((← get).rest.length + 1))

end Reader

/-! ## 2. Sections -/

/-- A section with its name, if it has one, and its lines. -/
structure Part where
  name : Option String := none
  lines : List (String × String) := []
  deriving DecidableEq, Repr

def addLine (key value : String) : List Part → List Part
  | [] => [⟨none, [(key, value)]⟩]
  | [p] => [{ p with lines := p.lines ++ [(key, value)] }]
  | p :: rest => p :: addLine key value rest

/-- Takes a piece of text without the blanks around it. -/
def Reader.name (s : Stop) : Reader String := do
  return String.ofList (Text.trim Text.isSpace (← text s))

/-- Reads the rest of the sections.  A key may have been read already. -/
def Reader.partsFor (key : String) (done : List Part) : Nat → Reader (List Part)
  | 0 => return done
  | fuel + 1 => do
    skipWhile Text.isSpace
    match ← peek with
    | none => return done
    | some ';' | some '#' => do
      if 1 < (← get).column then fail .comment
      skipWhile (· ≠ '\n')
      partsFor key done fuel
    | some '[' => do
      pass
      let title ← name .sectionEnd
      pass
      partsFor key (done ++ [⟨some title, []⟩]) fuel
    | some '=' | some ':' => do
      if key = "" then fail .missingKey
      let v ← value
      partsFor "" (addLine key v done) fuel
    | some _ => do partsFor (← name .keyEnd) done fuel

/-- The sections of a text, in the order in which they are written. -/
def parse (text : String) : Except Fault (List Part) :=
  let start := Cursor.entering ⟨[], 0, 0⟩ text.toList
  (Reader.partsFor "" [{}] (text.length + 1)).run' start

end Scriptorium.Ini
