import Scriptorium.FileSystem.Path
import Scriptorium.Text.Cut
import Scriptorium.Web.MediaTable

/-!
# Media types of files

The media type of a file is told from its extension: what stands behind the last dot of its name,
unless that dot is the first character.  Capital and small letters are not told apart, and a letter
that is only another way to write some small ASCII letters counts as those.
-/
namespace Scriptorium.Web.MediaType

/-- The small ASCII letters that a character stands for, or the character itself. -/
def folded (c : Char) : List Char :=
  match c with
  | 'ſ' => ['s']
  | '\u212A' => ['k']
  | 'ß' | 'ẞ' => ['s', 's']
  | 'ﬀ' => ['f', 'f']
  | 'ﬁ' => ['f', 'i']
  | 'ﬂ' => ['f', 'l']
  | 'ﬃ' => ['f', 'f', 'i']
  | 'ﬄ' => ['f', 'f', 'l']
  | 'ﬅ' | 'ﬆ' => ['s', 't']
  | c => [c.toLower]

def unknown : String := "application/octet-stream"

def ofExtension? (extension : List Char) : Option String :=
  let wanted := extension.flatMap folded
  (MediaTable.rows.find? fun row => (Text.pieces ' ' row.2.toList).contains wanted).map (·.1)

def extension? (n : Name) : Option Name :=
  let behind := (n.reverse.takeWhile (· ≠ Path.dot)).reverse
  if behind.length + 1 < n.length then some behind else none

def ofName (n : Name) : String :=
  ((extension? n).bind Text.Utf8.decode? >>= ofExtension?).getD unknown

/-- The media type of the file at a path. -/
def ofPath (p : Path) : String :=
  match p.components.getLast? with
  | some (.name n) => ofName n
  | _ => unknown

end Scriptorium.Web.MediaType
