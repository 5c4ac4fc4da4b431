import Scriptorium.Ron.Scalar
import Scriptorium.Text.Quoted

/-!
# RON texts

Maps in braces, lists in brackets, and structures and tuples in round brackets, which may have a
name in front.  The values are taken for those of JSON: structures are maps, tuples are lists, a
value that may be missing counts as the value or as nothing, and so does the unit.  Keys have to be
texts.
-/
namespace Scriptorium.Ron
namespace Reader

/-! ## 1. Values -/

def ofWord (l : Decimal.Literal) : Json.Value := .number (.float l.bits)

def isStructure : Reader Bool := fun cs =>
  let look : Reader Bool := do
    pass 1
    skip
    match ← name? with
    | none => return false
    | some _ =>
      skip
      return (← peek) = some ':'
  match look cs with
  | .ok (b, _) => .ok (b, cs)
  | .error f => .error f

/-- Refuses what has no comma before it; `closing` ends the row. -/
def separated (comma : Bool) (closing : Char) : Reader Unit := do
  skip
  if (← demand) ≠ closing && !comma then fail .comma

def foundWords : Json.Value → String
  | .null => "a unit value"
  | .bool b => s!"the boolean \x60{b}\x60"
  | .number (.whole n) => s!"the signed integer \x60{n}\x60"
  | .number (.float bits) => s!"the floating point number \x60{Decimal.floatText bits}\x60"
  | .string s => s!"the string {Text.quoted s}"
  | .array _ => "a sequence"
  | .object _ => "a map"

def colon : Reader Unit := do
  skip
  exactly ":" .colon
  skip

mutual

/-- Reads a value. -/
def value : Nat → Reader Json.Value
  | 0 => fail .tooDeep
  | fuel + 1 => do
    if ← takeWord "true" then return .bool true
    if ← takeWord "false" then return .bool false
    if ← takeWord "None" then return .null
    if ← takeText "()" then return .null
    if ← takeWord "inf" then return ofWord (.infinite false)
    if ← takeWord "-inf" then return ofWord (.infinite true)
    if ← takeWord "NaN" then return ofWord (.notNumber false)
    if ← takeWord "Some" then
      skip
      exactly "(" .optionStart
      skip
      let v ← value fuel
      let _ ← takeComma
      exactly ")" .optionEnd
      return v
    if (← name?).isSome then
      skip
      if (← peek) = some '(' then inRound fuel else return .null
    else
      let c ← demand
      if c = '(' then inRound fuel
      else if c = '[' then
        pass 1
        return .array (← items ']' true fuel)
      else if c = '{' then
        pass 1
        return .object (← members true fuel)
      else if c.isDigit || c = '+' || c = '-' then number
      else if c = '.' then float
      else if c = '"' then
        pass 1
        return .string (String.ofList (← quotedFor [] .stringEnd ((← get).length + 1)))
      else if c = 'r' then
        pass 1
        return .string (← rawText)
      else if c = '\'' then return .string (← quotedChar)
      else fail (.unexpected c)

def inRound : Nat → Reader Json.Value
  | 0 => fail .tooDeep
  | fuel + 1 => do
    if ← isStructure then
      pass 1
      return .object (← parts true fuel)
    else
      pass 1
      return .array (← items ')' true fuel)

/-- Reads the rest of a list or tuple. -/
def items (closing : Char) (comma : Bool) : Nat → Reader (List Json.Value)
  | 0 => fail .tooDeep
  | fuel + 1 => do
    separated comma closing
    if ← takeText closing.toString then return []
    let v ← value fuel
    let comma ← takeComma
    return v :: (← items closing comma fuel)

/-- Reads the rest of a map. -/
def members (comma : Bool) : Nat → Reader (List (String × Json.Value))
  | 0 => fail .tooDeep
  | fuel + 1 => do
    separated comma '}'
    if ← takeText "\x7d" then return []
    match ← value fuel with
    | .string k =>
      colon
      let v ← value fuel
      let comma ← takeComma
      return (k, v) :: (← members comma fuel)
    | v => fail (.key (foundWords v))

/-- Reads the rest of a structure. -/
def parts (comma : Bool) : Nat → Reader (List (String × Json.Value))
  | 0 => fail .tooDeep
  | fuel + 1 => do
    separated comma ')'
    if ← takeText ")" then return []
    let k ← name
    colon
    let v ← value fuel
    let comma ← takeComma
    return (k, v) :: (← parts comma fuel)

end

/-! ## 2. Documents -/

/-- The names of the ways in which a text may differ from the usual one. -/
def extensions : List String := ["unwrap_newtypes", "implicit_some", "unwrap_variant_newtypes"]

def extensionNames : Nat → Reader Unit
  | 0 => return
  | fuel + 1 => do
    let n ← name
    unless extensions.contains n do fail (.extension n)
    let comma ← takeComma
    let more := (← peek).any isNameChar
    if more && !comma then fail .comma
    if more then extensionNames fuel

def attributes : Nat → Reader Unit
  | 0 => return
  | fuel + 1 => do
    skip
    if (← peek) = some '#' then
      for piece in ["#", "!", "[", "enable", "("] do
        exactly piece .attribute
        skip
      extensionNames fuel
      skip
      for piece in [")", "]"] do
        exactly piece .attributeEnd
        skip
      attributes fuel

def document (fuel : Nat) : Reader Json.Value := do
  attributes fuel
  let v ← value fuel
  skip
  unless (← get) = [] do fail .trailing
  return v

end Reader

/-- The value of a text. -/
def parse (text : String) : Except Fault Json.Value :=
  (Reader.document (2 * text.length + 2)).run' text.toList

end Scriptorium.Ron
