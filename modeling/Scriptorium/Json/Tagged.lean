import Scriptorium.Json.Expect

/-!
# Reading tagged records

A tagged record is an object with one member that says which kind of record it is, or a list whose
first item says so.  Since the tag may come last, the other members are read as plain values first
(`taggedBy`), and the fields of the record are taken from these values afterwards (`rowOf`).

A `Row` holds one value for each field of a kind of record, of the type that the field holds.  In
an object the fields may come in any order among members of other names, each at most once, and an
optional field may be left out; a list has all of them in order and nothing else.
-/
namespace Scriptorium.Json

/-! ## 1. Rows -/

/-- What a field holds. -/
inductive Kind where
  | text
  | optionalText
  | optionalNatural
  deriving DecidableEq, Repr

/-- The type of what a field holds. -/
abbrev Kind.Holds : Kind → Type
  | .text => String
  | .optionalText => Option String
  | .optionalNatural => Option Nat

/-- A named part of a record. -/
structure Slot where
  name : String
  kind : Kind
  deriving DecidableEq, Repr

/-- A value for each slot. -/
inductive Row : List Slot → Type where
  | nil : Row []
  | cons {slot : Slot} {slots : List Slot} (value : slot.kind.Holds) (rest : Row slots) :
      Row (slot :: slots)

/-- What a field holds if its value is this one, or the message that refuses it. -/
def Kind.read : (k : Kind) → Value → Except String k.Holds
  | .text, .string s => .ok s
  | .text, v => .error (wrongType v "a string")
  | .optionalText, .null => .ok none
  | .optionalText, .string s => .ok (some s)
  | .optionalText, v => .error (wrongType v "a string")
  | .optionalNatural, .null => .ok none
  | .optionalNatural, .number n => (naturalOf Reader.maxWhole "usize" n).map some
  | .optionalNatural, v => .error (wrongType v "usize")

/-- What a field holds that is left out, if it may be. -/
def Kind.whenMissing : (k : Kind) → Option k.Holds
  | .text => none
  | .optionalText => some none
  | .optionalNatural => some none

/-- The value that a field is written as. -/
def Kind.write : (k : Kind) → k.Holds → Value
  | .text, s => .string s
  | .optionalText, s => .optional s
  | .optionalNatural, none => .null
  | .optionalNatural, some n => .whole n

/-- The members that a row is written as. -/
def Row.members : {slots : List Slot} → Row slots → List (String × Value)
  | [], .nil => []
  | slot :: _, .cons v rest => (slot.name, slot.kind.write v) :: rest.members

/-! ## 2. Rows from values -/

/-- What a tagged record holds besides its tag. -/
inductive Body where
  | members (ms : List (String × Value))
  | items (vs : List Value)
  deriving Repr

/-- Goes through the members in order and refuses the first that repeats the name of a slot or does
not hold what its slot asks for; `seen` are the names of slots that have come. -/
def checkMembers (slots : List Slot) (seen : List String) :
    List (String × Value) → Except String Unit
  | [] => .ok ()
  | (name, v) :: rest =>
    match slots.find? (·.name == name) with
    | none => checkMembers slots seen rest
    | some slot =>
      if seen.contains name then .error (duplicateField name)
      else
        match slot.kind.read v with
        | .error message => .error message
        | .ok _ => checkMembers slots (name :: seen) rest

/-- The value of the first member of a name. -/
def firstOf (name : String) (ms : List (String × Value)) : Option Value :=
  (ms.find? (·.1 == name)).map (·.2)

/-- The row that the members hold. -/
def gather (ms : List (String × Value)) : (slots : List Slot) → Except String (Row slots)
  | [] => .ok .nil
  | slot :: slots =>
    let found := match firstOf slot.name ms with
      | some v => slot.kind.read v
      | none =>
        match slot.kind.whenMissing with
        | some v => .ok v
        | none => .error (missingField slot.name)
    match found with
    | .error message => .error message
    | .ok v => (gather ms slots).map (.cons v)

def elements (n : Nat) : String := if n = 1 then "1 element" else s!"{n} elements"

/-- The row that the items hold, `before` of the items having been taken, with the items that are
left over. -/
def takeItems (expected : String) (before : Nat) :
    (slots : List Slot) → List Value → Except String (Row slots × List Value)
  | [], vs => .ok (.nil, vs)
  | _ :: _, [] => .error (wrongLength before expected)
  | slot :: slots, v :: vs =>
    match slot.kind.read v with
    | .error message => .error message
    | .ok a => (takeItems expected (before + 1) slots vs).map fun (row, left) => (.cons a row, left)

/-- The row of a kind of record called `title` that a body holds. -/
def rowOf (title : String) (slots : List Slot) : Body → Except String (Row slots)
  | .members ms =>
    match checkMembers slots [] ms with
    | .error message => .error message
    | .ok () => gather ms slots
  | .items vs =>
    match takeItems s!"struct variant {title} with {elements slots.length}" 0 slots vs with
    | .error message => .error message
    | .ok (row, []) => .ok row
    | .ok (_, _ :: _) =>
      .error (wrongLength vs.length s!"{elements slots.length} in sequence")

/-! ## 3. The tag -/

namespace Reader

/-- Reads members and looks for the tag among them; `done` are the other members in reverse. -/
def membersWithTag {α : Type} (name : String) (tag : Reader α) (depth : Nat) :
    Nat → Bool → Option α → List (String × Value) → Reader (α × Body)
  | 0, _, _, _ => failHere .tooDeep
  | fuel + 1, first, found, done => do
    match ← nextKey first with
    | none =>
      match found with
      | some a => return (a, .members done.reverse)
      | none => failMeaning (missingField name)
    | some key =>
      if key = name then
        if found.isSome then failMeaning (duplicateField name)
        else do
          colon
          membersWithTag name tag depth fuel false (some (← tag)) done
      else do
        colon
        membersWithTag name tag depth fuel false found ((key, ← value depth) :: done)

/-- Reads a tagged record called `title`, whose tag is the member of the given name. -/
def taggedBy {α : Type} (title name : String) (tag : Reader α) (depth : Nat) :
    Reader (α × Body) := placed do
  match ← peekValue with
  | '[' => do
    let depth ← enter depth
    skip
    closedBy (do
      if ← nextItem true then
        let a ← tag
        return (a, .items (← items depth false))
      else failMeaning (missingField name)) endList
  | '\x7b' => do
    let depth ← enter depth
    skip
    closedBy (do membersWithTag name tag depth (← enough) true none []) endObject
  | _ => unexpected s!"internally tagged enum {title}"

end Reader
end Scriptorium.Json
