import Scriptorium.FileSystem.Operations
import Scriptorium.Web.Date
import Scriptorium.Web.MediaType
import Scriptorium.Web.Request
import Scriptorium.Web.Response

/-!
# The pages of the user interface

The pages are the files below one directory.  The path of a request names a file below it, a
directory stands for the `index.html` in it, and whatever is not there is answered with the
`index.html` of the whole interface, which then finds out by itself what to show.

The path of a request is decoded first, and a path that climbs with `..` or starts at the root
directory once it is decoded leads nowhere.

A request may want a file only if it has been changed since some date, or only if it has not, and
it may want a stretch of it only.  `changed` is the date at which the files were changed last, in
seconds from the beginning of 1970.
-/
namespace Scriptorium.Web.Pages

/-! ## 1. From the path of a request to a file -/

def hexValue? (b : UInt8) : Option UInt8 :=
  if 0x30 ≤ b && b ≤ 0x39 then some (b - 0x30)
  else if 0x41 ≤ b && b ≤ 0x46 then some (b - 0x37)
  else if 0x61 ≤ b && b ≤ 0x66 then some (b - 0x57)
  else none

def hexByte? (high low : UInt8) : Option UInt8 := do
  return (← hexValue? high) * 16 + (← hexValue? low)

/-- A byte string with a byte for each percent sign and the two digits behind it.  A percent sign
without digits stands for itself. -/
def percentDecoded : Bytes → Bytes
  | 0x25 :: high :: low :: rest =>
    match hexByte? high low with
    | some b => b :: percentDecoded rest
    | none => 0x25 :: percentDecoded (high :: low :: rest)
  | b :: rest => b :: percentDecoded rest
  | [] => []

def fileFor? (dir : Path) (path : List Char) : Option Path := do
  let named := percentDecoded (Text.Utf8.encode (String.ofList (path.dropWhile (· = '/'))))
  let _ ← Text.Utf8.decode? named
  (Path.mk named).components.foldlM (fun (p : Path) c =>
    match c with
    | .name n => some (p.entry n)
    | .here => some p
    | _ => none) dir

def indexName : Name := Text.Utf8.encode "index.html"

/-! ## 2. Answers -/

def dateOf? (r : Request) (name : String) : Option Nat :=
  ((r.value? name >>= Text.Utf8.decode?).bind Date.ofText?).map Date.seconds

/-- The answer to a request whose conditions are not met: it fails if the file has been changed
after a date, and needs no answer if it has not. -/
def unlessWanted? (changed : Nat) (r : Request) : Option Response :=
  if (dateOf? r "if-unmodified-since").any (· < changed) then some (.bare 412)
  else if (dateOf? r "if-modified-since").any (changed ≤ ·) then some (.bare 304)
  else none

def extentOf (r : Request) (size : Nat) : Extent :=
  match r.text? "range" with
  | some asked => .ofText size asked
  | none => .whole

def ofContent (type : String) (content : Bytes) : Extent → Response
  | .whole => { status := 200, contentType := some type, body := content }
  | .part first last =>
    { status := 206, contentType := some type, body := (content.take (last + 1)).drop first }
  | .scattered =>
    { status := 416, contentType := some type
      body := Text.Utf8.encode "Cannot serve multipart range requests" }
  | .unsatisfiable => { status := 416, contentType := some type }

def ofFile (fs : FileSystem) (cwd : Location) (changed : Nat) (r : Request) (p : Path) :
    Except OsError Response := do
  let content ← match ← fs.find cwd true p with
    | (_, .file content _) => .ok content
    | _ => .ok []
  return (unlessWanted? changed r).getD
    (ofContent (MediaType.ofPath p) content (extentOf r content.length))

/-- Whether a failure to open a file only says that there is no such file to show. -/
def isAbsence : OsError → Bool
  | .noEntry | .accessDenied | .notDirectory => true
  | _ => false

def ofFileOr (fs : FileSystem) (cwd : Location) (changed : Nat) (r : Request) (p : Path)
    (otherwise : Response) : Response :=
  match ofFile fs cwd changed r p with
  | .ok r => r
  | .error cause => if isAbsence cause then otherwise else .bare 500

def leadsToDirectory (fs : FileSystem) (cwd : Location) (p : Path) : Bool :=
  match fs.find cwd true p with
  | .ok (_, o) => o.isDirectory
  | .error _ => false

/-- The response to a request for the page at its path. -/
def page (fs : FileSystem) (cwd : Location) (changed : Nat) (dir : Path) (r : Request) : Response :=
  let start := ofFileOr fs cwd changed r (dir.entry indexName) (.bare 404)
  match fileFor? dir r.target.path with
  | none => start
  | some p =>
    if leadsToDirectory fs cwd p then
      if r.target.path.getLast? = some '/' then
        ofFileOr fs cwd changed r (p.entry indexName) start
      else .bare 307
    else ofFileOr fs cwd changed r p start

end Scriptorium.Web.Pages
