import Scriptorium.Decimal.Shortest
import Scriptorium.Text.Lowercase
import Scriptorium.Text.Quoted

/-!
# What was given

Settings are given in layers: files and the environment.  Whatever was given is kept as a tree of
tables, lists and single values until all layers are known.  Every value remembers where it was
given, for the sake of the message that refuses it.

The names in tables do not tell capital and small letters apart; they are kept in small letters.
A layer is laid over those below it by `assign`: a table joins the table below it member by member,
and anything else takes the place of what was there.
-/
namespace Scriptorium.Settings

/-- Where a value was given. -/
inductive Origin where
  /-- It is built in, or has been put together from several places. -/
  | unstated
  | environment
  | file (name : String)
  deriving DecidableEq, Repr, Inhabited

/-- A single value. -/
inductive Scalar where
  | nothing
  | bool (b : Bool)
  | whole (n : Int)
  | float (bits : UInt64)
  | text (s : String)
  deriving DecidableEq, Repr, Inhabited

/-- What was given. -/
inductive Given where
  | scalar (origin : Origin) (v : Scalar)
  | list (origin : Origin) (items : List Given)
  | table (origin : Origin) (members : List (String × Given))
  deriving Repr, Inhabited

/-- A step into a table or a list. -/
inductive Step where
  | name (n : String)
  /-- The item at a place, counted from the end if negative. -/
  | index (i : Int)
  deriving DecidableEq, Repr

/-- A name in small letters. -/
def smallName (n : String) : String := String.ofList (Text.lowercase n.toList)

namespace Given

/-! ## 1. Tables -/

/-- The empty table. -/
def empty : Given := .table .unstated []

def asTable : Given → Given
  | .table origin members => .table origin members
  | _ => empty

/-- The members of a table; nothing else has any. -/
def members : Given → List (String × Given)
  | .table _ ms => ms
  | _ => []

/-- The member of a name. -/
def member? (n : String) (g : Given) : Option Given :=
  (g.members.find? fun m => m.1 == n).map (·.2)

def setIn (n : String) (v : Given) : List (String × Given) → List (String × Given)
  | [] => [(n, v)]
  | (m, w) :: rest => if m = n then (n, v) :: rest else (m, w) :: setIn n v rest

/-- The table with a member put in the place of that name. -/
def set (g : Given) (n : String) (v : Given) : Given :=
  match g with
  | .table origin ms => .table origin (setIn n v ms)
  | _ => .table .unstated [(n, v)]

theorem find?_setIn (n k : String) (v : Given) (ms : List (String × Given)) :
    ((setIn n v ms).find? fun m => m.1 == k).map (·.2) =
      if k = n then some v else (ms.find? fun m => m.1 == k).map (·.2) := by
  induction ms with
  | nil => by_cases h : k = n <;> simp [setIn, h, Ne.symm]
  | cons m rest ih =>
    obtain ⟨a, w⟩ := m
    by_cases han : a = n
    · subst han
      by_cases h : a = k
      · simp [setIn, h]
      · simp [setIn, h, Ne.symm h]
    · by_cases h : a = k
      · subst h
        simp [setIn, han]
      · simpa [setIn, han, h] using ih

/-- A table holds what was put into it last. -/
theorem member?_set (g : Given) (n k : String) (v : Given) :
    (g.set n v).member? k = if k = n then some v else g.member? k := by
  cases g with
  | table o ms => exact find?_setIn n k v ms
  | scalar o s => simpa [set, member?, members, setIn] using find?_setIn n k v []
  | list o items => simpa [set, member?, members, setIn] using find?_setIn n k v []

/-- The value that a list of names leads to. -/
def at? : List String → Given → Option Given
  | [], g => some g
  | n :: rest, g => g.member? n >>= at? rest

/-! ## 2. Laying one value over another -/

mutual

/-- Lays a value over the member of a name.  What is no table becomes one. -/
def assign (n : String) : Given → Given → Given
  | .table _ ms, below =>
    below.set (smallName n) (assignAll ms ((below.member? (smallName n)).getD empty))
  | .scalar origin v, below => below.set (smallName n) (.scalar origin v)
  | .list origin items, below => below.set (smallName n) (.list origin items)

/-- Lays all members of a table over a value. -/
def assignAll : List (String × Given) → Given → Given
  | [], below => below
  | (n, v) :: rest, below => assignAll rest (assign n v below)

end

/-- The place of an item in a list of so many. -/
def place (i : Int) (length : Nat) : Nat := if i < 0 then length - i.natAbs else i.toNat

def lengthened (i : Nat) (items : List Given) : List Given :=
  items ++ List.replicate (i + 1 - items.length) (.scalar .unstated .nothing)

/-- Lays a value over what some steps lead to.  Tables and lists are made on the way. -/
def assignAt (v : Given) : List Step → Given → Given
  | [], _ => v
  | [.name n], below => assign n v below
  | .name n :: rest, below =>
    let inner := (below.member? (smallName n)).getD (.scalar .unstated .nothing)
    below.set (smallName n) (assignAt v rest inner)
  | .index i :: rest, below =>
    let (origin, items) := match below with
      | .list o is => (o, is)
      | _ => (.unstated, [])
    let p := place i items.length
    let items := lengthened p items
    .list origin (items.set p (assignAt v rest (items[p]?.getD (.scalar .unstated .nothing))))

end Given

/-! ## 3. Words -/

/-- Floating point numbers are written positionally; `pointZero` says whether a whole one gets a
point. -/
def floatForm (pointZero : Bool) : Decimal.Form := ⟨-400, 400, pointZero, false, 1⟩

/-- How numbers are put into words. -/
structure Wording where
  /-- The word for a whole number. -/
  whole : String
  /-- Whether a floating point number is shown to be one even if it is whole. -/
  pointZero : Bool
  deriving DecidableEq, Repr

/-- The wording where a single value is refused. -/
def Wording.single : Wording := ⟨"64-bit integer", false⟩

/-- The wording where something stands in place of a section or a list. -/
def Wording.compound : Wording := ⟨"integer", true⟩

/-- The words for a value in a message. -/
def Given.words (w : Wording) : Given → String
  | .scalar _ .nothing => "unit value"
  | .scalar _ (.bool b) => s!"boolean \x60{b}\x60"
  | .scalar _ (.whole n) => s!"{w.whole} \x60{n}\x60"
  | .scalar _ (.float bits) => s!"floating point \x60{(floatForm w.pointZero).text bits}\x60"
  | .scalar _ (.text s) => s!"string {Text.quoted s}"
  | .list _ _ => "sequence"
  | .table _ _ => "map"

/-! ## 4. Layers -/

/-- Values and the steps that lead to where they belong. -/
abbrev Layer := List (List Step × Given)

/-- What is given when a layer is laid over what is below it. -/
def Layer.onto (layer : Layer) (below : Given) : Given :=
  layer.foldl (fun g (steps, v) => Given.assignAt v steps g) below

end Scriptorium.Settings
