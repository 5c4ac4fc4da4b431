import Scriptorium.FileSystem.Basic
import Scriptorium.OsError

/-!
# Walking a path

A path is followed from a starting directory one step at a time.  Links on the way are entered,
at most forty of them; a link in the last place is entered only on request.  A walk ends at an
object (`Spot.found`), or in a directory that lacks the last name (`Spot.free`), or with the
reason why there is no such place.

A trailing slash asks for a directory, so a lookup takes it as one more step that stays where it
is.  The operations that make, move or remove an entry need the directory and the name apart;
`parentOf` gives them, and says whether a slash came after.
-/
namespace Scriptorium.FileSystem

/-- One step of a walk. -/
inductive Step where
  | stay
  | up
  | into (n : Name)
  deriving DecidableEq, Repr

/-- The step that a piece of a path asks for; none if it is empty. -/
def Step.ofPiece? (piece : Bytes) : Option Step :=
  if piece = [] then none
  else if piece = [Path.dot] then some .stay
  else if piece = [Path.dot, Path.dot] then some .up
  else some (.into piece)

/-- The steps of a path, without regard to a slash at its end. -/
def stepsOf (p : Path) : List Step := p.pieces.filterMap Step.ofPiece?

/-- The steps of a path, a slash at its end being one that stays. -/
def allStepsOf (p : Path) : List Step :=
  stepsOf p ++ if p.endsInSlash then [.stay] else []

/-- Where a walk ends. -/
inductive Spot where
  /-- At an object. -/
  | found (loc : Location) (o : Object)
  /-- In a directory without an entry of the last name. -/
  | free (dir : Location) (n : Name)
  deriving DecidableEq, Repr

/-- The longest name a directory can hold, in bytes. -/
def maxNameLength : Nat := 255

/-- The shortest path that is too long, in bytes. -/
def pathLimit : Nat := 4096

/-- The number of links that one walk may enter. -/
def maxLinks : Nat := 40

/-- Walks on from the directory `at_`, entering a link in the last place if `follow`. -/
def walkFrom (fs : FileSystem) (follow : Bool) (links : Nat) (at_ : Location) :
    List Step → Except OsError Spot
  | [] => .ok (.found at_ .directory)
  | .stay :: rest => walkFrom fs follow links at_ rest
  | .up :: rest => walkFrom fs follow links at_.dropLast rest
  | .into n :: rest =>
    if n.length > maxNameLength then .error .nameTooLong
    else match fs.object? (at_ ++ [n]) with
      | none => if rest = [] then .ok (.free at_ n) else .error .noEntry
      | some .directory => walkFrom fs follow links (at_ ++ [n]) rest
      | some (.file c x) =>
        if rest = [] then .ok (.found (at_ ++ [n]) (.file c x)) else .error .notDirectory
      | some .device =>
        if rest = [] then .ok (.found (at_ ++ [n]) .device) else .error .notDirectory
      | some (.link t) =>
        if rest = [] ∧ follow = false then .ok (.found (at_ ++ [n]) (.link t))
        else match links with
          | 0 => .error .tooManyLinks
          | more + 1 =>
            walkFrom fs follow more (if t.isAbsolute then [] else at_) (allStepsOf t ++ rest)
termination_by steps => (links, steps.length)

/-- Where a walk of the path starts. -/
def startOf (cwd : Location) (p : Path) : Location := if p.isAbsolute then [] else cwd

/-- Refuses what cannot be handed to the system as a path. -/
def passable (p : Path) : Except OsError Unit :=
  if 0 ∈ p.bytes then .error .zeroInName
  else if p.bytes = [] then .error .noEntry
  else if p.bytes.length ≥ pathLimit then .error .nameTooLong
  else .ok ()

/-- Walks a path. -/
def walk (fs : FileSystem) (cwd : Location) (follow : Bool) (p : Path) : Except OsError Spot := do
  passable p
  walkFrom fs follow maxLinks (startOf cwd p) (allStepsOf p)

/-- The object that a path leads to, links in the last place entered if `follow`. -/
def find (fs : FileSystem) (cwd : Location) (follow : Bool) (p : Path) :
    Except OsError (Location × Object) := do
  match ← fs.walk cwd follow p with
  | .found loc o => .ok (loc, o)
  | .free _ _ => .error .noEntry

/-- The target of a link. -/
def readLink? (fs : FileSystem) (cwd : Location) (p : Path) : Option Path :=
  match fs.find cwd false p with
  | .ok (_, .link t) => some t
  | _ => none

/-! ## The last step apart -/

/-- What the last step of a path asks for. -/
inductive Last where
  /-- The path has no step: it names the root directory. -/
  | root
  | stay
  | up
  | into (n : Name)
  deriving DecidableEq, Repr

/-- The place an operation on an entry works at. -/
structure Place where
  dir : Location
  last : Last
  /-- Whether a slash came after the last step. -/
  slashed : Bool
  deriving DecidableEq, Repr

/-- What the last step asks for, as a `Last`. -/
def Last.ofStep : Step → Last
  | .stay => .stay
  | .up => .up
  | .into n => .into n

/-- Walks a path up to its last step. -/
def parentOf (fs : FileSystem) (cwd : Location) (p : Path) : Except OsError Place := do
  passable p
  let steps := stepsOf p
  match steps.getLast? with
  | none => .ok ⟨[], .root, p.endsInSlash⟩
  | some last =>
    match ← walkFrom fs true maxLinks (startOf cwd p) (steps.dropLast ++ [.stay]) with
    | .found dir _ => .ok ⟨dir, .ofStep last, p.endsInSlash⟩
    | .free _ _ => .error .noEntry

/-- The object of a name in a directory, if there is one. -/
def entry? (fs : FileSystem) (dir : Location) (n : Name) : Except OsError (Option Object) :=
  if n.length > maxNameLength then .error .nameTooLong else .ok (fs.object? (dir ++ [n]))

/-! ## The true name of a place -/

/-- The path of a location from the root directory. -/
def pathOf (loc : Location) : Path := Path.ofNames loc

/-- The path without links, `.` and `..` to the object that a path leads to. -/
def canonicalize (fs : FileSystem) (cwd : Location) (p : Path) : Except OsError Path :=
  if 0 ∈ p.bytes then .error .zeroInName
  else if p.bytes = [] then .error .noEntry
  else do
    match ← walkFrom fs true maxLinks (startOf cwd p) (allStepsOf p) with
    | .found loc _ =>
      if (pathOf loc).bytes.length ≥ pathLimit then .error .nameTooLong else .ok (pathOf loc)
    | .free _ _ => .error .noEntry

end Scriptorium.FileSystem
