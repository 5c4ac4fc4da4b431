import Scriptorium.FileSystem.Walk

/-!
# Operations on files

Reading, writing, making, moving and removing, each with the checks of the system in its order,
since a path with two faults is refused for the first.  Paths are seen from a working directory.

An operation returns the changed file system.  Removing a tree is the one that can both fail and
change something: it empties the directory before it removes it, so `removeTree` returns the
file system beside its verdict.
-/
namespace Scriptorium.FileSystem

/-! ## 1. Reading -/

/-- The bytes of a file. -/
def readFile (fs : FileSystem) (cwd : Location) (p : Path) : Except OsError Bytes := do
  match (← fs.find cwd true p).2 with
  | .file content _ => .ok content
  | .device => .ok []
  | _ => .error .isDirectory

/-- The names in a directory with what each stands for. -/
def readDirectory (fs : FileSystem) (cwd : Location) (p : Path) :
    Except OsError (List (Name × Object)) := do
  let (loc, o) ← fs.find cwd true p
  if o.isDirectory then .ok (fs.children loc) else .error .notDirectory

/-- Everything below a location, parents before their entries and names in the order of their
bytes. -/
def below (fs : FileSystem) (loc : Location) : List (Location × Object) :=
  ((fs.entries.filter fun e => loc.isPrefixOf e.1 && e.1 != loc).mergeSort
    fun a b => decide (a.1 ≤ b.1)).map fun e => (e.1.drop loc.length, e.2)

/-! ## 2. Making and changing files -/

/-- Gives the file at a path this content, making the file if need be. -/
def writeFile (fs : FileSystem) (cwd : Location) (p : Path) (content : Bytes) :
    Except OsError FileSystem := do
  let place ← fs.parentOf cwd p
  match place.last with
  | .into _ =>
    if place.slashed then .error .isDirectory
    else match ← fs.walk cwd true p with
      | .found loc (.file _ x) => .ok (fs.put loc (.file content x))
      | .found _ .device => .ok fs
      | .found _ _ => .error .isDirectory
      | .free dir n => .ok (fs.put (dir ++ [n]) (.file content false))
  | _ => .error .isDirectory

/-- Makes an empty file where nothing is yet. -/
def createFile (fs : FileSystem) (cwd : Location) (p : Path) : Except OsError FileSystem := do
  let place ← fs.parentOf cwd p
  match place.last with
  | .into n =>
    if place.slashed then .error .isDirectory
    else match ← fs.entry? place.dir n with
      | some _ => .error .alreadyExists
      | none => .ok (fs.put (place.dir ++ [n]) (.file [] false))
  | _ => .error .alreadyExists

/-- Makes the directory at a location and those above it that are missing. -/
def makeDirectories (fs : FileSystem) (cwd : Location) (p : Path) : FileSystem :=
  (stepsOf p).foldl (fun (acc : FileSystem × Location) step =>
    match step with
    | .stay => acc
    | .up => (acc.1, acc.2.dropLast)
    | .into n =>
      match acc.1.walk acc.2 true ⟨n⟩ with
      | .ok (.found loc .directory) => (acc.1, loc)
      | .ok (.free dir n) => (acc.1.put (dir ++ [n]) .directory, dir ++ [n])
      | _ => acc) (fs, startOf cwd p) |>.1

/-- Makes a link. -/
def makeLink (fs : FileSystem) (cwd : Location) (target p : Path) : Except OsError FileSystem := do
  let place ← fs.parentOf cwd p
  match place.last with
  | .into n =>
    match ← fs.entry? place.dir n with
    | some _ => .error .alreadyExists
    | none => .ok (fs.put (place.dir ++ [n]) (.link target))
  | _ => .error .alreadyExists

/-- Makes a file executable, or not. -/
def setExecutable (fs : FileSystem) (cwd : Location) (p : Path) (x : Bool) :
    Except OsError FileSystem := do
  match ← fs.find cwd true p with
  | (loc, .file content _) => .ok (fs.put loc (.file content x))
  | _ => .ok fs

/-! ## 3. Removing -/

/-- Removes an entry that is no directory; a link goes, not what it leads to. -/
def unlink (fs : FileSystem) (cwd : Location) (p : Path) : Except OsError FileSystem := do
  let place ← fs.parentOf cwd p
  match place.last with
  | .into n =>
    match ← fs.entry? place.dir n with
    | none => .error .noEntry
    | some .directory => .error .isDirectory
    | some _ =>
      if place.slashed then .error .notDirectory else .ok (fs.removeBelow (place.dir ++ [n]))
  | _ => .error .isDirectory

/-- Removes an empty directory. -/
def removeDirectory (fs : FileSystem) (cwd : Location) (p : Path) : Except OsError FileSystem := do
  let place ← fs.parentOf cwd p
  match place.last with
  | .root => .error .busy
  | .stay => .error .invalidArgument
  | .up => .error .notEmpty
  | .into n =>
    match ← fs.entry? place.dir n with
    | none => .error .noEntry
    | some .directory =>
      if fs.children (place.dir ++ [n]) = [] then .ok (fs.removeBelow (place.dir ++ [n]))
      else .error .notEmpty
    | some _ => .error .notDirectory

/-- Empties a directory and removes it; a link is removed, and what it leads to is left alone,
unless the path ends in a slash. -/
def removeTree (fs : FileSystem) (cwd : Location) (p : Path) : FileSystem × Except OsError Unit :=
  match fs.find cwd false p with
  | .error e => (fs, .error e)
  | .ok (loc, .directory) =>
    let emptied := fs.clear loc
    match emptied.removeDirectory cwd p with
    | .ok gone => (gone, .ok ())
    | .error e => (emptied, .error e)
  | .ok (_, .link _) =>
    match fs.unlink cwd p with
    | .ok gone => (gone, .ok ())
    | .error e => (fs, .error e)
  | .ok (_, .file _ _) | .ok (_, .device) => (fs, .error .notDirectory)

/-! ## 4. Moving -/

/-- Moves an entry to another place, in place of what was there: a file for a file or a link, a
directory for an empty directory. -/
def rename (fs : FileSystem) (cwd : Location) (source target : Path) :
    Except OsError FileSystem := do
  let s ← fs.parentOf cwd source
  let t ← fs.parentOf cwd target
  match s.last, t.last with
  | .into m, .into n =>
    let sLoc := s.dir ++ [m]
    let tLoc := t.dir ++ [n]
    match ← fs.entry? s.dir m with
    | none => .error .noEntry
    | some moved =>
      let there ← fs.entry? t.dir n
      if !moved.isDirectory && (s.slashed || t.slashed) then .error .notDirectory
      else if sLoc.isPrefixOf t.dir then .error .invalidArgument
      else if tLoc.isPrefixOf s.dir then .error .notEmpty
      else if sLoc = tLoc then .ok fs
      else match there with
        | none => .ok (fs.relocate sLoc tLoc)
        | some .directory =>
          if !moved.isDirectory then .error .isDirectory
          else if fs.children tLoc = [] then .ok (fs.relocate sLoc tLoc)
          else .error .notEmpty
        | some _ =>
          if moved.isDirectory then .error .notDirectory else .ok (fs.relocate sLoc tLoc)
  | _, _ => .error .busy

end Scriptorium.FileSystem
