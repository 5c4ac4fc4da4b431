import Scriptorium.FileSystem.Path

/-!
# A file system as a value

A file system is a finite list of entries, each at a `Location`: the names on the way from the
root directory down to it, through real directories only.  The root directory is always there.
Keeping the entries flat makes the effect of each operation on the whole tree one list operation:
removing a tree drops the entries at or below a location, and moving one rewrites the beginning
of their locations.

`object?_put` and `object?_removeBelow` say what is found at a location
after each change.
-/
namespace Scriptorium

/-- Where an object is: the names on the way down from the root directory. -/
abbrev Location := List Name

namespace FileSystem

/-- What can be at a location. -/
inductive Object where
  | file (content : Bytes) (executable : Bool)
  | link (target : Path)
  | directory
  /-- The device that holds nothing and keeps nothing. -/
  | device
  deriving DecidableEq, Repr

/-- Whether the object is a directory, and not merely a link to one. -/
def Object.isDirectory : Object → Bool
  | .directory => true
  | _ => false

end FileSystem

open FileSystem in
/-- Files, links and directories, each at its location.  The first entry at a location counts. -/
structure FileSystem where
  entries : List (Location × Object)
  deriving DecidableEq, Repr

namespace FileSystem

/-- No file but the root directory. -/
def empty : FileSystem := ⟨[]⟩

instance : Inhabited FileSystem := ⟨empty⟩

/-! ## 1. Finding -/

/-- The first entry of a list at a location. -/
def lookup (loc : Location) : List (Location × Object) → Option Object
  | [] => none
  | (l, o) :: rest => if l = loc then some o else lookup loc rest

/-- The object at a location. -/
def object? (fs : FileSystem) (loc : Location) : Option Object :=
  if loc = [] then some .directory else lookup loc fs.entries

/-- The name of a location that lies directly in the directory `dir`. -/
def nameIn? (dir loc : Location) : Option Name :=
  match loc.getLast? with
  | some n => if loc.dropLast = dir then some n else none
  | none => none

/-- The names in a directory with what each stands for, in no particular order. -/
def children (fs : FileSystem) (dir : Location) : List (Name × Object) :=
  fs.entries.filterMap fun (loc, o) => (nameIn? dir loc).map (·, o)

/-! ## 2. Changing -/

/-- Replaces the first entry at a location, or adds one behind all others. -/
def putIn (loc : Location) (o : Object) : List (Location × Object) → List (Location × Object)
  | [] => [(loc, o)]
  | (l, p) :: rest => if l = loc then (l, o) :: rest else (l, p) :: putIn loc o rest

/-- The file system with `o` at `loc`. -/
def put (fs : FileSystem) (loc : Location) (o : Object) : FileSystem := ⟨putIn loc o fs.entries⟩

/-- The file system without what is at or below `loc`. -/
def removeBelow (fs : FileSystem) (loc : Location) : FileSystem :=
  ⟨fs.entries.filter fun e => !loc.isPrefixOf e.1⟩

/-- The file system without what is below the directory `loc`, which itself stays. -/
def clear (fs : FileSystem) (loc : Location) : FileSystem :=
  ⟨fs.entries.filter fun e => !loc.isPrefixOf e.1 || e.1 = loc⟩

/-- What is at or below `source` moved to `target`, in place of what was there. -/
def relocate (fs : FileSystem) (source target : Location) : FileSystem :=
  ⟨(fs.entries.filter fun e => source.isPrefixOf e.1 || !target.isPrefixOf e.1).map fun e =>
    if source.isPrefixOf e.1 then (target ++ e.1.drop source.length, e.2) else e⟩

theorem lookup_putIn (loc l : Location) (o : Object) (es : List (Location × Object)) :
    lookup l (putIn loc o es) = if loc = l then some o else lookup l es := by
  induction es with
  | nil => simp [putIn, lookup]
  | cons e es ih =>
    obtain ⟨k, p⟩ := e
    by_cases hk : k = loc
    · subst hk; by_cases hl : k = l <;> simp [putIn, lookup, hl]
    · by_cases hl : loc = l
      · subst hl; simp [putIn, lookup, hk, ih]
      · simp [putIn, lookup, hk, ih, hl]

/-- Putting an object changes what is found at its location, and nowhere else. -/
theorem object?_put (fs : FileSystem) (loc l : Location) (o : Object) (h : loc ≠ []) :
    (fs.put loc o).object? l = if loc = l then some o else fs.object? l := by
  unfold object? put
  by_cases hl : l = []
  · subst hl; simp [h]
  · simp [hl, lookup_putIn]

theorem lookup_filter (p : Location → Bool) (l : Location) (es : List (Location × Object)) :
    lookup l (es.filter fun e => p e.1) = if p l then lookup l es else none := by
  induction es with
  | nil => simp [lookup]
  | cons e es ih =>
    obtain ⟨k, o⟩ := e
    by_cases hk : k = l
    · subst hk; by_cases hp : p k <;> simp [List.filter, lookup, hp, ih]
    · by_cases hp : p k <;> simp [List.filter, lookup, hp, hk, ih]

/-- Removing a tree takes away what is at or below its location, and nothing else. -/
theorem object?_removeBelow (fs : FileSystem) (loc l : Location) (h : loc ≠ []) :
    (fs.removeBelow loc).object? l = if loc.isPrefixOf l then none else fs.object? l := by
  unfold object? removeBelow
  by_cases hl : l = []
  · subst hl; cases loc with
    | nil => exact absurd rfl h
    | cons n ns => simp
  · simp only [hl, if_false]
    rw [lookup_filter (fun k => !loc.isPrefixOf k)]
    cases loc.isPrefixOf l <;> simp

end FileSystem
end Scriptorium
