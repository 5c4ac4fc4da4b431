import Scriptorium.Decimal.Shortest
import Scriptorium.Json.Document
import Scriptorium.Text.Quoted

/-!
# Reading what is expected

A text that is well formed may still say something else than what was asked for.  `describe` words
what it says, and the readers here word what was expected: a string, a number up to a bound, one
of several words, a list, or a record of named fields.

A record may be written as an object or as a list of its fields in order.  In an object, unknown
members are passed over, and a field that is written twice is refused; in both forms a field that
is left out keeps the value it starts with.
-/
namespace Scriptorium.Json

def Number.describe : Number → String
  | .whole n => s!"integer `{n}`"
  | .float bits => s!"floating point `{Decimal.floatText bits}`"

def Value.describe : Value → String
  | .null => "null"
  | .bool b => s!"boolean `{b}`"
  | .number n => n.describe
  | .string s => s!"string {Text.quoted s}"
  | .array _ => "sequence"
  | .object _ => "map"

/-- The message for a value of the wrong kind. -/
def wrongType (found : Value) (expected : String) : String :=
  s!"invalid type: {found.describe}, expected {expected}"

def wrongValue (found : Value) (expected : String) : String :=
  s!"invalid value: {found.describe}, expected {expected}"

/-- The message for a list of the wrong length. -/
def wrongLength (length : Nat) (expected : String) : String :=
  s!"invalid length {length}, expected {expected}"

def missingField (name : String) : String := s!"missing field `{name}`"

def duplicateField (name : String) : String := s!"duplicate field `{name}`"

def choiceOf (names : List String) : String :=
  match names.map fun n => s!"`{n}`" with
  | [] => ""
  | [a] => a
  | [a, b] => s!"{a} or {b}"
  | all => "one of " ++ ", ".intercalate all

def unknownVariant (found : String) (names : List String) : String :=
  s!"unknown variant `{found}`, expected {choiceOf names}"

/-- A whole number as one that is at most `bound`, or the message that refuses it. -/
def naturalOf (bound : Nat) (expected : String) (n : Number) : Except String Nat :=
  match n with
  | .whole (.ofNat k) =>
    if k ≤ bound then .ok k else .error (wrongValue (.number n) expected)
  | .whole _ => .error (wrongValue (.number n) expected)
  | .float _ => .error (wrongType (.number n) expected)

namespace Reader

/-! ## 1. Single values -/

/-- Fails with the message for the value that comes next, of which only a scalar is taken. -/
def unexpected {α : Type} (expected : String) : Reader α := placed do
  match ← peek with
  | some 'n' => do skip; word "ull".toList; failMeaning (wrongType .null expected)
  | some 't' => do skip; word "rue".toList; failMeaning (wrongType (.bool true) expected)
  | some 'f' => do skip; word "alse".toList; failMeaning (wrongType (.bool false) expected)
  | some '-' => do skip; failMeaning (wrongType (.number (← number false)) expected)
  | some '"' => do skip; failMeaning (wrongType (.string (← stringTail)) expected)
  | some '[' => failMeaning (wrongType (.array []) expected)
  | some '\x7b' => failMeaning (wrongType (.object []) expected)
  | some c =>
    if c.isDigit then failMeaning (wrongType (.number (← number true)) expected)
    else failAhead .expectedValue
  | none => failAhead .expectedValue

/-- Reads a string. -/
def string (expected : String) : Reader String := do
  match ← peekValue with
  | '"' => do skip; stringTail
  | _ => unexpected expected

/-- Reads a word that `choose` knows. -/
def choice {α : Type} (expected : String) (names : List String) (choose : String → Option α) :
    Reader α := placed do
  let s ← string expected
  match choose s with
  | some a => return a
  | none => failMeaning (unknownVariant s names)

/-- Reads a whole number that is at most `bound`. -/
def natural (bound : Nat) (expected : String) : Reader Nat := placed do
  let c ← peekValue
  let n ← if c = '-' then do skip; number false
    else if c.isDigit then number true
    else unexpected expected
  match naturalOf bound expected n with
  | .ok k => return k
  | .error message => failMeaning message

/-- Reads `null`. -/
def unit : Reader Unit := do
  match ← peekValue with
  | 'n' => do skip; word "ull".toList
  | _ => unexpected "unit"

/-- Reads a value that may be `null`. -/
def optional {α : Type} (r : Reader α) : Reader (Option α) := do
  match ← peekToken with
  | some 'n' => do
    skip
    word "ull".toList
    return none
  | _ => return some (← r)

/-- Reads a word by itself or as the only name of an object, with `null` for its value. -/
def tagged {α : Type} (expected : String) (names : List String) (choose : String → Option α)
    (depth : Nat) : Reader α := do
  match ← peekToken with
  | some '\x7b' => do
    let _ ← enter depth
    skip
    let a ← choice expected names choose
    colon
    unit
    match ← peekToken with
    | some '\x7d' => do
      skip
      return a
    | some _ => failHere .expectedValue
    | none => failHere (.unfinished .object)
  | some '"' => choice expected names choose
  | some _ => failAhead .expectedValue
  | none => failAhead (.unfinished .value)

/-! ## 2. Lists -/

/-- Reads items behind those in `done`, which stand in reverse. -/
def itemsOf {α : Type} (item : Reader α) : Nat → Bool → List α → Reader (List α)
  | 0, _, _ => failHere .tooDeep
  | fuel + 1, first, done => do
    if ← nextItem first then
      let a ← item
      itemsOf item fuel false (a :: done)
    else return done.reverse

/-- Reads a list. -/
def list {α : Type} (item : Reader α) (depth : Nat) : Reader (List α) := placed do
  match ← peekValue with
  | '[' => do
    let _ ← enter depth
    skip
    closedBy (do itemsOf item (← enough) true []) endList
  | _ => unexpected "a sequence"

/-! ## 3. Records -/

/-- A named part of a record: how it is read, at most so many levels deep, into the record. -/
structure RecordField (σ : Type) where
  name : String
  read : Nat → σ → Reader σ

def fieldsInOrder {σ : Type} (depth : Nat) : List (RecordField σ) → Bool → σ → Reader σ
  | [], _, s => return s
  | f :: rest, first, s => do
    if ← nextItem first then fieldsInOrder depth rest false (← f.read depth s)
    else return s

/-- Reads the fields of a record that is written as an object, those in `seen` having come. -/
def fieldsByName {σ : Type} (fields : List (RecordField σ)) (depth : Nat) :
    Nat → Bool → List String → σ → Reader σ
  | 0, _, _, _ => failHere .tooDeep
  | fuel + 1, first, seen, s => do
    match ← nextKey first with
    | none => return s
    | some name =>
      match fields.find? (·.name == name) with
      | none => do
        colon
        skipValue
        fieldsByName fields depth fuel false seen s
      | some f =>
        if seen.contains name then failMeaning (duplicateField name)
        else do
          colon
          fieldsByName fields depth fuel false (name :: seen) (← f.read depth s)

/-- Reads a record, starting from `init`. -/
def record {σ : Type} (title : String) (fields : List (RecordField σ)) (init : σ) (depth : Nat) :
    Reader σ := placed do
  match ← peekValue with
  | '[' => do
    let depth ← enter depth
    skip
    closedBy (fieldsInOrder depth fields true init) endList
  | '\x7b' => do
    let depth ← enter depth
    skip
    closedBy (do fieldsByName fields depth (← enough) true [] init) endObject
  | _ => unexpected s!"struct {title}"

end Reader
end Scriptorium.Json
