/-!
# JSON values

The values that messages and results are made of.  A number is a whole number, or a floating point
number given by its bits; only a number read from a text can be the latter.  An object keeps its
members in the order they were written in, repeated names included: what a repeated name means is
for the reader of a message to say.
-/
namespace Scriptorium.Json

/-- A number. -/
inductive Number where
  | whole (n : Int)
  | float (bits : UInt64)
  deriving DecidableEq, Repr

/-- A value. -/
inductive Value where
  | null
  | bool (b : Bool)
  | number (n : Number)
  | string (s : String)
  | array (items : List Value)
  | object (members : List (String × Value))
  deriving Repr, Inhabited

namespace Value

/-- A whole number as a value. -/
def whole (n : Int) : Value := .number (.whole n)

/-- A text that may be missing, as a value. -/
def optional : Option String → Value
  | some s => .string s
  | none => .null

/-- The value of the first member of a name. -/
def member? (name : String) : Value → Option Value
  | .object members => (members.find? fun m => m.1 == name).map (·.2)
  | _ => none

mutual

/-- The value with the members of every object in the order of their names; of members with one
name the last is kept. -/
def sorted : Value → Value
  | .array items => .array (sortedItems items)
  | .object members => .object (sortedMembers members)
  | v => v

/-- `sorted` for the items of an array. -/
def sortedItems : List Value → List Value
  | [] => []
  | v :: rest => sorted v :: sortedItems rest

/-- `sorted` for the members of an object. -/
def sortedMembers : List (String × Value) → List (String × Value)
  | [] => []
  | (name, v) :: rest => insert name (sorted v) (sortedMembers rest)

/-- Puts a member in its place, unless its name is there already. -/
def insert (name : String) (v : Value) : List (String × Value) → List (String × Value)
  | [] => [(name, v)]
  | (n, w) :: rest =>
    if name < n then (name, v) :: (n, w) :: rest
    else if name = n then (n, w) :: rest
    else (n, w) :: insert name v rest

end

end Value
end Scriptorium.Json
