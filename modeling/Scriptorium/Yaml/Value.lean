import Scriptorium.Decimal.Nearest
import Scriptorium.Text.Quoted

/-!
# The values of a YAML text

What a plain scalar is shows in how it is written, unless a tag says it.  Tables keep their members
in the order in which they are written.
-/
namespace Scriptorium.Yaml

/-- A value. -/
inductive Value where
  | nothing
  | bool (b : Bool)
  | whole (n : Int)
  /-- A floating point number as it is written. -/
  | float (text : String)
  | string (s : String)
  | list (items : List Value)
  | table (members : List (Value × Value))
  /-- No value: a scalar that is not what its tag says, or something that contains itself. -/
  | bad
  deriving Repr, Inhabited

/-! ## 1. Scalars -/

def wholeIn? (base : Nat) (text : List Char) : Option Int :=
  let (negative, ds) := Decimal.Literal.sign text
  let digit? (c : Char) : Option Nat :=
    let d := if c.isDigit then c.toNat - '0'.toNat else c.toLower.toNat - 'a'.toNat + 10
    if c.isAlphanum && d < base then some d else none
  match ds, ds.mapM digit? with
  | _ :: _, some values =>
    let n : Nat := values.foldl (fun n d => base * n + d) 0
    let signed : Int := if negative then -(n : Int) else n
    if Decimal.fitsWord signed then some signed else none
  | _, _ => none

def isFloat (text : List Char) : Bool :=
  [".inf", ".Inf", ".INF", "+.inf", "+.Inf", "+.INF", "-.inf", "-.Inf", "-.INF", ".nan", ".NaN",
      ".NAN"].contains (String.ofList text)
    || (text.any Char.isDigit && (Decimal.Literal.read? text).isSome)

/-- A whole number with a sign of its own kind in front: `0x`, `0o` or one more plus sign. -/
def markedWhole? : List Char → Option Int
  | '0' :: 'x' :: ds => wholeIn? 16 ds
  | '0' :: 'o' :: ds => wholeIn? 8 ds
  | '+' :: ds => wholeIn? 10 ds
  | _ => none

/-- The value of a plain scalar. -/
def Value.ofPlain (text : String) : Value :=
  let cs := text.toList
  match markedWhole? cs with
  | some n => .whole n
  | none =>
    if text = "" || text = "~" || text = "null" then .nothing
    else if text = "true" then .bool true
    else if text = "false" then .bool false
    else match wholeIn? 10 cs with
      | some n => .whole n
      | none => if isFloat cs then .float text else .string text

/-- What the tags of the language itself begin with. -/
def coreTag : String := "tag:yaml.org,2002:"

/-- The value of a plain scalar with a tag. -/
def Value.ofTagged (handle rest text : String) : Value :=
  if handle ≠ coreTag then .string text
  else match rest with
    | "bool" => if text = "true" then .bool true else if text = "false" then .bool false else .bad
    | "int" => ((wholeIn? 10 text.toList).map .whole).getD .bad
    | "float" => if isFloat text.toList then .float text else .bad
    | "null" => if text = "~" || text = "null" then .nothing else .bad
    | _ => .string text

/-! ## 2. Messages -/

mutual

/-- How a value is shown in messages. -/
def Value.shown : Value → String
  | .nothing => "Null"
  | .bool b => s!"Boolean({b})"
  | .whole n => s!"Integer({n})"
  | .float text => s!"Real({Text.quoted text})"
  | .string s => s!"String({Text.quoted s})"
  | .list items => "Array([" ++ ", ".intercalate (shownItems items) ++ "])"
  | .table members => "Hash(\x7b" ++ ", ".intercalate (shownMembers members) ++ "\x7d)"
  | .bad => "BadValue"

def Value.shownItems : List Value → List String
  | [] => []
  | v :: rest => shown v :: shownItems rest

def Value.shownMembers : List (Value × Value) → List String
  | [] => []
  | (k, v) :: rest => (shown k ++ ": " ++ shown v) :: shownMembers rest

end

/-! ## 3. Tables -/

mutual

/-- Whether two values are written alike. -/
def Value.same : Value → Value → Bool
  | .nothing, .nothing | .bad, .bad => true
  | .bool a, .bool b => a = b
  | .whole a, .whole b => a = b
  | .float a, .float b | .string a, .string b => a = b
  | .list as, .list bs => sameItems as bs
  | .table as, .table bs => sameMembers as bs
  | _, _ => false

def Value.sameItems : List Value → List Value → Bool
  | [], [] => true
  | a :: as, b :: bs => same a b && sameItems as bs
  | _, _ => false

def Value.sameMembers : List (Value × Value) → List (Value × Value) → Bool
  | [], [] => true
  | (k, v) :: as, (l, w) :: bs => same k l && same v w && sameMembers as bs
  | _, _ => false

end

/-- A table that is being read: its members in reverse, and the key whose value has not been
read. -/
structure OpenTable where
  members : List (Value × Value) := []
  key : Value := .bad
  deriving Repr, Inhabited

/-- The table with one more node, which is a key or a value.  A bad value is no key.  The key comes
back if the table had it before. -/
def OpenTable.add (t : OpenTable) (v : Value) : OpenTable × Option Value :=
  match t.key with
  | .bad => ({ t with key := v }, none)
  | k => (⟨(k, v) :: t.members, .bad⟩, if t.members.any (k.same ·.1) then some k else none)

/-- The table as a value. -/
def OpenTable.value (t : OpenTable) : Value := .table t.members.reverse

end Scriptorium.Yaml
