import Scriptorium.FileSystem.Operations
import Scriptorium.Ini.Document
import Scriptorium.Json.Document
import Scriptorium.Json5.Document
import Scriptorium.Ron.Document
import Scriptorium.Settings.Key
import Scriptorium.Toml.Document
import Scriptorium.Yaml.Document

/-!
# Settings from files

A file of settings is named without its extension, which says how it is written.  A file of
exactly that name is taken first, if its own extension is a known one; otherwise the known
extensions are tried in turn.  There need not be a file at all, but one that is there has to be
well formed.
-/
namespace Scriptorium.Settings

/-! ## 1. Texts -/

/-- How a file is written. -/
inductive Format where
  | toml
  | json
  | yaml
  | ini
  | ron
  | json5
  deriving DecidableEq, Repr

def Format.extensions : Format → List String
  | .toml => ["toml"]
  | .json => ["json"]
  | .yaml => ["yaml", "yml"]
  | .ini => ["ini"]
  | .ron => ["ron"]
  | .json5 => ["json5"]

/-- All formats, in the order in which they are looked for. -/
def Format.all : List Format := [.toml, .json, .yaml, .ini, .ron, .json5]

def Format.ofExtension? (e : Name) : Option Format :=
  all.find? fun f => f.extensions.any fun x => Text.Utf8.encode x = e

mutual

def Given.ofToml (o : Origin) : Toml.Value → Given
  | .bool b => .scalar o (.bool b)
  | .whole n => .scalar o (.whole n)
  | .float bits => .scalar o (.float bits)
  | .string s | .moment s => .scalar o (.text s)
  | .array items => .list o (ofTomlItems o items)
  | .table members => .table o (ofTomlMembers o members)

def Given.ofTomlItems (o : Origin) : List Toml.Value → List Given
  | [] => []
  | v :: rest => ofToml o v :: ofTomlItems o rest

def Given.ofTomlMembers (o : Origin) : List (String × Toml.Value) → List (String × Given)
  | [] => []
  | (n, v) :: rest => (n, ofToml o v) :: ofTomlMembers o rest

end

/-- What a JSON number gives.  A whole number that needs more than 63 binary digits becomes a
floating point number. -/
def Scalar.ofNumber : Json.Number → Scalar
  | .whole n => if Decimal.fitsWord n then .whole n else .float (UInt64.ofNat (Decimal.nearest n.toNat 1))
  | .float bits => .float bits

mutual

def Given.ofJson (o : Origin) : Json.Value → Given
  | .null => .scalar o .nothing
  | .bool b => .scalar o (.bool b)
  | .number n => .scalar o (.ofNumber n)
  | .string s => .scalar o (.text s)
  | .array items => .list o (ofJsonItems o items)
  | .object members => .table o (ofJsonMembers o members)

def Given.ofJsonItems (o : Origin) : List Json.Value → List Given
  | [] => []
  | v :: rest => ofJson o v :: ofJsonItems o rest

/-- What the members of a JSON object give.  Of members with one name the last counts. -/
def Given.ofJsonMembers (o : Origin) : List (String × Json.Value) → List (String × Given)
  | [] => []
  | (n, v) :: rest =>
    if rest.any (·.1 = n) then ofJsonMembers o rest else (n, ofJson o v) :: ofJsonMembers o rest

end

def lastOfEach (members : List (String × Given)) : List (String × Given) :=
  members.foldr (fun m rest => if rest.any (·.1 = m.1) then rest else m :: rest) []

mutual

/-- What a YAML value gives, or why it gives nothing.  Keys are texts or whole numbers, and numbers
are written in digits. -/
def Given.ofYaml (o : Origin) : Yaml.Value → Except String Given
  | .nothing | .bad => .ok (.scalar o .nothing)
  | .bool b => .ok (.scalar o (.bool b))
  | .whole n => .ok (.scalar o (.whole n))
  | .float text =>
    match Decimal.Literal.read? text.toList with
    | some l => .ok (.scalar o (.float l.bits))
    | none => .error s!"Parsing {text} as floating point number failed"
  | .string s => .ok (.scalar o (.text s))
  | .list items => (ofYamlItems o items).map (.list o)
  | .table members => (ofYamlMembers o members).map fun ms => .table o (lastOfEach ms)

def Given.ofYamlItems (o : Origin) : List Yaml.Value → Except String (List Given)
  | [] => .ok []
  | v :: rest => do return (← ofYaml o v) :: (← ofYamlItems o rest)

def Given.ofYamlMembers (o : Origin) :
    List (Yaml.Value × Yaml.Value) → Except String (List (String × Given))
  | [] => .ok []
  | (k, v) :: rest => do
    let name ← match k with
      | .string s => .ok s
      | .whole n => .ok (toString n)
      | _ => .error "internal error: entered unreachable code"
    return (name, ← ofYaml o v) :: (← ofYamlMembers o rest)

end

def Given.ofIni (o : Origin) (parts : List Ini.Part) : Given :=
  .table o <| lastOfEach <| parts.flatMap fun p =>
    let lines := p.lines.map fun (n, s) => (n, Given.scalar o (.text s))
    match p.name with
    | some n => [(n, .table o (lastOfEach lines))]
    | none => lines

/-- Why a file could not be read, in words. -/
structure FileFault where
  file : String
  message : String
  deriving DecidableEq, Repr

/-- What the text of a file gives. -/
def Given.ofText (o : Origin) (format : Format) (text : String) : Except String Given :=
  match format with
  | .toml => ((Toml.parse text).mapError (·.report text)).map fun ms => .table o (ofTomlMembers o ms)
  | .json => ((Json.Reader.parse text).mapError (·.message)).map (ofJson o)
  | .yaml => do
    match ← (Yaml.parse text).mapError (·.message) with
    | [] => return .table o []
    | [v] => ofYaml o v
    | vs => .error s!"Got {vs.length} YAML documents, expected 1"
  | .ini => ((Ini.parse text).mapError (·.message)).map (ofIni o)
  | .ron => ((Ron.parse text).mapError (·.message text)).map (ofJson o)
  | .json5 => ((Json5.parse text).mapError (·.report text)).map (ofJson o)

/-- The layer that the text of a file makes up, which has to be a table. -/
def ofFileText (file : String) (format : Format) (text : String) : Except FileFault Layer :=
  match Given.ofText (.file file) format text with
  | .error message => .error ⟨file, message⟩
  | .ok (.table _ members) => .ok (members.map fun (n, v) => (keySteps n, v))
  | .ok g => .error ⟨file, s!"invalid type: {g.words .single}, expected a map in {file}"⟩

/-! ## 2. Files -/

/-- The extension of a path: what stands behind the last dot of its last name, if the name does
not begin with it. -/
def extension? (p : Path) : Option Name := do
  let (_, n) ← p.splitLast?
  match n.reverse.span (· ≠ Path.dot) with
  | (e, _ :: _ :: _) => some e.reverse
  | _ => none

def withExtension (p : Path) (e : String) : Path :=
  match p.splitLast? with
  | some (dir, n) => dir.entry (n ++ Path.dot :: Text.Utf8.encode e)
  | none => p

/-- Whether there is a file at a path. -/
def isFile (fs : FileSystem) (cwd : Location) (p : Path) : Bool :=
  match fs.find cwd true p with
  | .ok (_, .file _ _) => true
  | _ => false

/-- The file that a name without an extension stands for, and its format. -/
def fileFor? (fs : FileSystem) (cwd : Location) (p : Path) : Option (Path × Format) :=
  if isFile fs cwd p then
    (extension? p >>= Format.ofExtension?).map (p, ·)
  else
    (Format.all.flatMap fun f => f.extensions.map fun e => (withExtension p e, f)).find?
      fun (q, _) => isFile fs cwd q

/-- The layer that a file makes up, if there is one and it is text. -/
def ofFile (fs : FileSystem) (cwd : Location) (name : String) : Except FileFault Layer :=
  match fileFor? fs cwd (.ofString name) with
  | none => .ok []
  | some (p, format) =>
    match (fs.readFile cwd p).toOption >>= Text.Utf8.decode? with
    | some cs => ofFileText (Path.ofComponents p.components).display format (String.ofList cs)
    | none => .ok []

end Scriptorium.Settings
