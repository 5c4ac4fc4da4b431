import Scriptorium.FileSystem.Operations
import Scriptorium.Workspace.Entry
import Scriptorium.Workspace.Resolve

/-!
# Requests to a workspace

Each request resolves its path first and then works on the resolved path, which is also the one
that a failure names.  A request that changes files returns the changed file system; deleting is
the only one that can change files and still fail.

* `list` shows a directory in the order of `Entry.sort`.
* `tree` shows a directory without hidden entries, and the directories in it down to a depth; it
  does not enter links, and shows a directory that it cannot read as empty.
* `delete` refuses the root of the workspace.
-/
namespace Scriptorium.Workspace

/-- Names the action and the path of a failure. -/
def during {α : Type} (action : Action) (path : Path) : Except OsError α → Except Error α
  | .ok a => .ok a
  | .error cause => .error (.refused action path cause)

/-! ## 1. Looking -/

/-- The entries of a directory, in no particular order. -/
def entriesOf (fs : FileSystem) (cwd : Location) (dir : Path) : Except Error (List Entry) := do
  let found ← during .readDirectory dir (fs.readDirectory cwd dir)
  .ok (found.map fun (n, o) => ⟨Text.Utf8.lossyString n, dir.entry n, o.isDirectory⟩)

/-- The entries of a directory in their order. -/
def list (w : Workspace) (fs : FileSystem) (cwd : Location) (p : Path) :
    Except Error (List Entry) := do
  let dir ← w.resolve fs cwd p
  .ok (Entry.sort (← entriesOf fs cwd dir))

/-- The entries of a directory that are not hidden, in their order. -/
def visibleOf (fs : FileSystem) (cwd : Location) (dir : Path) : Except Error (List Entry) := do
  .ok (Entry.sort ((← entriesOf fs cwd dir).filter fun e => !e.isHidden))

/-- The tree below a directory, down to `depth` levels of directories in it. -/
def treeOf (fs : FileSystem) (cwd : Location) : Nat → Path → Except Error (List TreeNode)
  | 0, dir => (visibleOf fs cwd dir).map fun es => es.map fun e => .node e []
  | depth + 1, dir => (visibleOf fs cwd dir).map fun es => es.map fun e =>
    .node e <|
      if e.isDirectory then
        match treeOf fs cwd depth e.path with
        | .ok nodes => nodes
        | .error _ => []
      else []

/-- The tree below a requested directory. -/
def tree (w : Workspace) (fs : FileSystem) (cwd : Location) (p : Path) (depth : Nat) :
    Except Error (List TreeNode) := do
  treeOf fs cwd depth (← w.resolve fs cwd p)

/-- The text of a file. -/
def read (w : Workspace) (fs : FileSystem) (cwd : Location) (p : Path) : Except Error String := do
  let path ← w.resolve fs cwd p
  let bytes ← during .readFile path (fs.readFile cwd path)
  match Text.Utf8.decodeString? bytes with
  | some s => .ok s
  | none => .error (.refused .readFile path .notText)

/-! ## 2. Changing -/

/-- Saves a text in a file, making the file if need be. -/
def write (w : Workspace) (fs : FileSystem) (cwd : Location) (p : Path) (content : String) :
    Except Error FileSystem := do
  let path ← w.resolve fs cwd p
  during .writeFile path (fs.writeFile cwd path (Text.Utf8.encode content))

/-- Makes an empty file. -/
def create (w : Workspace) (fs : FileSystem) (cwd : Location) (p : Path) :
    Except Error FileSystem := do
  let path ← w.resolve fs cwd p
  during .createFile path (fs.createFile cwd path)

/-- Whether a path is the root of the workspace. -/
def isRoot (w : Workspace) (p : Path) : Bool := w.root.any (·.sameAs p)

/-- Removes a file, a link or a directory with all that is in it. -/
def delete (w : Workspace) (fs : FileSystem) (cwd : Location) (p : Path) :
    FileSystem × Except Error Unit :=
  match w.resolve fs cwd p with
  | .error e => (fs, .error e)
  | .ok path =>
    if w.isRoot path then (fs, .error (.outside path))
    else match during .delete path (fs.find cwd false path) with
      | .error e => (fs, .error e)
      | .ok (_, .directory) =>
        let (fs', verdict) := fs.removeTree cwd path
        (fs', during .delete path verdict)
      | .ok _ =>
        match during .delete path (fs.unlink cwd path) with
        | .ok fs' => (fs', .ok ())
        | .error e => (fs, .error e)

/-- Moves a file, a link or a directory. -/
def rename (w : Workspace) (fs : FileSystem) (cwd : Location) (source target : Path) :
    Except Error FileSystem := do
  let source ← w.resolve fs cwd source
  let target ← w.resolve fs cwd target
  during .rename source (fs.rename cwd source target)

end Scriptorium.Workspace
