import Scriptorium.Json.Reader

/-!
# Reading whole values

`value` reads a value of any kind, `skipValue` passes over one.  The two are not equally strict: a
value that is passed over may be nested to any depth, may hold numbers too large to represent, and
may hold halves of characters, since nobody will look at it.

The steps through the items of a list and the members of an object (`nextItem`, `nextKey`) are
shared with the readers of messages and settings, which look for particular members.
-/
namespace Scriptorium.Json.Reader

/-! ## 1. Lists and objects -/

/-- How deep values may be nested. -/
def maxDepth : Nat := 128

/-- Goes one level down, given the levels that are left. -/
def enter : Nat → Reader Nat
  | 0 | 1 => failAhead .tooDeep
  | depth + 2 => return depth + 1

/-- Whether another item of a list follows.  The bracket that ends the list is left where it is. -/
def nextItem (first : Bool) : Reader Bool := do
  match ← peekToken with
  | none => failAhead (.unfinished .list)
  | some ']' => return false
  | some c =>
    if first then return true
    else if c = ',' then
      skip
      match ← peekToken with
      | some ']' => failAhead .trailingComma
      | some _ => return true
      | none => failAhead (.unfinished .value)
    else failAhead .expectedListEnd

/-- The name of the next member of an object, if there is one.  The brace that ends the object is
left where it is. -/
def nextKey (first : Bool) : Reader (Option String) := do
  match ← peekToken with
  | none => failAhead (.unfinished .object)
  | some '\x7d' => return none
  | some c =>
    if first then key c
    else if c = ',' then
      skip
      match ← peekToken with
      | some '\x7d' => failAhead .trailingComma
      | some d => key d
      | none => failAhead (.unfinished .value)
    else failAhead .expectedObjectEnd
where
  /-- The name that starts with `c`. -/
  key (c : Char) : Reader (Option String) := do
    if c = '"' then
      skip
      return some (← stringTail)
    else failAhead .keyNotString

/-- Takes the colon behind a name. -/
def colon : Reader Unit := do
  match ← peekToken with
  | some ':' => skip
  | some _ => failAhead .expectedColon
  | none => failAhead (.unfinished .object)

/-- Takes the end of a list. -/
def endList : Reader Unit := do
  match ← peekToken with
  | some ']' => skip
  | some ',' => do
    skip
    match ← peekToken with
    | some ']' => failAhead .trailingComma
    | _ => failAhead .trailingCharacters
  | some _ => failAhead .trailingCharacters
  | none => failAhead (.unfinished .list)

/-- Takes the end of an object. -/
def endObject : Reader Unit := do
  match ← peekToken with
  | some '\x7d' => skip
  | some ',' => failAhead .trailingComma
  | some _ => failAhead .trailingCharacters
  | none => failAhead (.unfinished .object)

/-- Reads what is between brackets and then their end.  The end is taken even if what is between
them is at fault, but then it cannot fail. -/
def closedBy {α : Type} (inside : Reader α) (close : Reader Unit) : Reader α := do
  match ← observing inside with
  | .ok a => do
    close
    return a
  | .error f => do
    discard (observing close)
    throw f
where
  /-- The outcome of a step, as a value. -/
  observing {β : Type} (r : Reader β) : Reader (Except Fault β) := fun c =>
    let (result, c') := ExceptT.run r c
    (.ok result, c')

/-- Makes sure that only blanks are left. -/
def endOfText : Reader Unit := do
  match ← peekToken with
  | some _ => failAhead .trailingCharacters
  | none => return

/-! ## 2. Values -/

mutual

/-- Reads a value, at most `depth` levels deep. -/
def valueWithin : Nat → Nat → Reader Value
  | 0, _ => failHere .tooDeep
  | fuel + 1, depth => do
    match ← peekValue with
    | 'n' => do skip; word "ull".toList; return .null
    | 't' => do skip; word "rue".toList; return .bool true
    | 'f' => do skip; word "alse".toList; return .bool false
    | '-' => do skip; return .number (← number false)
    | '"' => do skip; return .string (← stringTail)
    | '[' => do
      let depth ← enter depth
      skip
      let items ← itemsWithin fuel depth true []
      endList
      return .array items
    | '\x7b' => do
      let depth ← enter depth
      skip
      let members ← membersWithin fuel depth true []
      endObject
      return .object members
    | c => if c.isDigit then return .number (← number true) else failAhead .expectedValue

/-- Reads the items of a list behind those in `done`, which stand in reverse. -/
def itemsWithin : Nat → Nat → Bool → List Value → Reader (List Value)
  | 0, _, _, _ => failHere .tooDeep
  | fuel + 1, depth, first, done => do
    if ← nextItem first then
      let v ← valueWithin fuel depth
      itemsWithin fuel depth false (v :: done)
    else return done.reverse

/-- Reads the members of an object behind those in `done`, which stand in reverse. -/
def membersWithin : Nat → Nat → Bool → List (String × Value) → Reader (List (String × Value))
  | 0, _, _, _ => failHere .tooDeep
  | fuel + 1, depth, first, done => do
    match ← nextKey first with
    | none => return done.reverse
    | some name =>
      colon
      let v ← valueWithin fuel depth
      membersWithin fuel depth false ((name, v) :: done)

end

/-- More steps than reading the text that is left can take. -/
def enough : Reader Nat := do return 2 * (← get).rest.length + 2

/-- Reads a value, at most `depth` levels deep. -/
def value (depth : Nat) : Reader Value := do valueWithin (← enough) depth

/-- Reads the remaining items of a list. -/
def items (depth : Nat) (first : Bool) : Reader (List Value) := do
  itemsWithin (← enough) depth first []

/-! ## 3. Passing over a value -/

/-- What a value that is passed over is inside of. -/
inductive Enclosing where
  | list
  | object
  deriving DecidableEq, Repr

def Enclosing.closer : Enclosing → Char
  | .list => ']'
  | .object => '\x7d'

/-- What is wrong when the text ends inside it. -/
def Enclosing.unfinished : Enclosing → Reason
  | .list => .unfinished .list
  | .object => .unfinished .object

def Enclosing.notEnded : Enclosing → Reason
  | .list => .expectedListEnd
  | .object => .expectedObjectEnd

mutual

/-- Passes over a value, and then over the rest of what it is inside of. -/
def skipWithin : Nat → List Enclosing → Reader Unit
  | 0, _ => failHere .tooDeep
  | fuel + 1, outer => do
    match ← peekValue with
    | 'n' => do skip; word "ull".toList; skipAfter fuel outer
    | 't' => do skip; word "rue".toList; skipAfter fuel outer
    | 'f' => do skip; word "alse".toList; skipAfter fuel outer
    | '-' => do skip; skipNumber; skipAfter fuel outer
    | '"' => do skip; skipStringTail; skipAfter fuel outer
    | '[' => do skip; skipFirst fuel .list outer
    | '\x7b' => do skip; skipFirst fuel .object outer
    | c =>
      if c.isDigit then
        skipNumber
        skipAfter fuel outer
      else failAhead .expectedValue

def skipFirst : Nat → Enclosing → List Enclosing → Reader Unit
  | 0, _, _ => failHere .tooDeep
  | fuel + 1, inner, outer => do
    match ← peekToken with
    | none => failAhead inner.unfinished
    | some c =>
      if c = inner.closer then
        skip
        skipAfter fuel outer
      else skipItem fuel inner outer

def skipAfter : Nat → List Enclosing → Reader Unit
  | _, [] => return
  | 0, _ => failHere .tooDeep
  | fuel + 1, inner :: outer => do
    match ← peekToken with
    | none => failAhead inner.unfinished
    | some c =>
      if c = ',' then
        skip
        skipItem fuel inner outer
      else if c = inner.closer then
        skip
        skipAfter fuel outer
      else failAhead inner.notEnded

def skipItem : Nat → Enclosing → List Enclosing → Reader Unit
  | 0, _, _ => failHere .tooDeep
  | fuel + 1, inner, outer => do
    if inner = .object then
      match ← peekToken with
      | some '"' => skip
      | some _ => failAhead .keyNotString
      | none => failAhead (.unfinished .object)
      skipStringTail
      colon
    skipWithin fuel (inner :: outer)

end

/-- Passes over a value. -/
def skipValue : Reader Unit := do skipWithin (2 * (← enough) + 4) []

/-! ## 4. Texts -/

/-- Reads a whole text. -/
def readAll {α : Type} (r : Reader α) (text : String) : Except Fault α :=
  (ExceptT.run r (Cursor.ofString text)).1

/-- Reads a whole text as one value. -/
def parse (text : String) : Except Fault Value :=
  readAll (do
    let v ← value maxDepth
    endOfText
    return v) text

end Scriptorium.Json.Reader
