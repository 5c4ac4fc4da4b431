import Scriptorium.Text.Cut
import Scriptorium.Text.Utf8

/-!
# Requests to the server

A request has a method, a target and header fields.  The names of header fields do not tell
capital and small letters apart, and of several fields with one name the first counts.  A value is
a byte string; it can be read as text if all its bytes are visible ASCII characters, blanks or
tabs.
-/
namespace Scriptorium.Web

/-- A header field. -/
structure Field where
  name : String
  value : Bytes
  deriving DecidableEq, Repr

/-- What a request is for. -/
structure Target where
  path : List Char
  query : Option (List Char)
  deriving DecidableEq, Repr

/-- A request without a body. -/
structure Request where
  method : String := "GET"
  target : Target
  fields : List Field := []
  deriving DecidableEq, Repr

/-! ## 1. Targets -/

namespace Target

/-- The target with these characters behind the name of the server. -/
def ofPath (cs : List Char) : Target :=
  match Text.upTo (· = '?') cs with
  | (path, []) => ⟨path, none⟩
  | (path, _ :: query) => ⟨path, some query⟩

/-- The target that a text writes: a path with a query, or a whole address, whose empty path
stands for that of the root. -/
def ofText (text : String) : Target :=
  let cs := (Text.upTo (· = '#') text.toList).1
  if cs.head? = some '/' then ofPath cs
  else match Text.upTo (· = ':') cs with
    | (_, ':' :: '/' :: '/' :: rest) =>
      let t := ofPath (Text.upTo (fun c => c = '/' || c = '?') rest).2
      if t.path = [] then ⟨['/'], t.query⟩ else t
    | _ => ⟨if cs = ['*'] then cs else [], none⟩

/-- The values of a parameter in the query, as they are written there. -/
def parameter (t : Target) (name : String) : List (List Char) :=
  match t.query with
  | none => []
  | some query => (Text.pieces '&' query).filterMap (Text.dropStart? (name.toList ++ ['=']))

end Target

/-! ## 2. Header fields -/

/-- The small ASCII letters for the capital ones. -/
def lowered (cs : List Char) : List Char := cs.map Char.toLower

/-- Whether a byte may stand in a value that is text. -/
def isReadable (b : UInt8) : Bool := 0x20 ≤ b && b < 0x7F || b = 0x09

/-- A value as text, if it can be read. -/
def readable? (value : Bytes) : Option (List Char) :=
  if value.all isReadable then some (value.map fun b => Char.ofNat b.toNat) else none

/-- The value of the first field of a name. -/
def Request.value? (r : Request) (name : String) : Option Bytes :=
  (r.fields.find? fun f => lowered f.name.toList = lowered name.toList).map (·.value)

/-- The value of the first field of a name, if it can be read. -/
def Request.text? (r : Request) (name : String) : Option (List Char) :=
  r.value? name >>= readable?

end Scriptorium.Web
