import Scriptorium.FileSystem.Path
import Scriptorium.Json.Value
import Scriptorium.Text.Lowercase

/-!
# Entries of a directory, as the editor lists them

An entry shows its name as text, its path, and whether it is a directory.  Lists of entries are in
one order: directories first, then by the name in small letters, then by the name itself.

An entry is written as a JSON object, which only works if its path is text.
-/
namespace Scriptorium.Workspace

/-- An entry of a directory. -/
structure Entry where
  name : String
  path : Path
  isDirectory : Bool
  deriving DecidableEq, Repr

/-- An entry and, if it is a directory that was looked into, the entries in it. -/
inductive TreeNode where
  | node (entry : Entry) (children : List TreeNode)
  deriving Repr

namespace Entry

/-- Whether the name starts with a dot. -/
def isHidden (e : Entry) : Bool := e.name.toList.head? = some '.'

/-- The order of entries: directories first, then small-letter names, then names. -/
def order (a b : Entry) : Ordering :=
  (compare b.isDirectory a.isDirectory).then <|
    (compare (Text.lowercase a.name.toList) (Text.lowercase b.name.toList)).then <|
      compare a.name.toList b.name.toList

/-- A list of entries in their order; entries that the order does not tell apart stay as they
stood. -/
def sort (es : List Entry) : List Entry := es.mergeSort fun a b => (order a b).isLE

/-- The members that an entry is written as. -/
def members? (e : Entry) : Option (List (String × Json.Value)) :=
  e.path.text?.map fun path =>
    [("name", .string e.name), ("path", .string path), ("is_directory", .bool e.isDirectory)]

end Entry

/-- A list of entries as JSON. -/
def entriesToJson? (es : List Entry) : Option Json.Value :=
  (es.mapM fun (e : Entry) => e.members?.map Json.Value.object).map .array

mutual

/-- A tree as JSON. -/
def TreeNode.toJson? : TreeNode → Option Json.Value
  | .node e children => do
    let members ← e.members?
    let children ← nodesToJson? children
    return .object (members ++ [("children", .array children)])

/-- The trees of a list as JSON. -/
def nodesToJson? : List TreeNode → Option (List Json.Value)
  | [] => some []
  | t :: rest => do
    let v ← t.toJson?
    let vs ← nodesToJson? rest
    return v :: vs

end

/-- What is said of a value that cannot be written because a path in it is no text. -/
def notTextMessage : String := "path contains invalid UTF-8 characters"

end Scriptorium.Workspace
