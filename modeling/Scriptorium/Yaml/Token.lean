import Scriptorium.Yaml.Fault

/-!
# The tokens of a YAML text

A YAML text is a row of tokens.  Some of them are written as they are: brackets, commas, names of
anchors, scalars.  Others come from the indentation: that a list or a table begins on lines of its
own, or ends, and that what was read before is a key.

The first section sorts characters into the classes that tokens are made of.
-/
namespace Scriptorium.Yaml

/-! ## 1. Characters

The end of the text counts as a character with the code zero. -/

/-- The character that stands for the end of a text. -/
def endChar : Char := '\x00'

/-- A character that ends a line. -/
def isBreak (c : Char) : Bool := c = '\n' || c = '\r'

/-- The end of a line or of the text. -/
def isLineEnd (c : Char) : Bool := isBreak c || c = endChar

/-- A blank inside a line. -/
def isBlank (c : Char) : Bool := c = ' ' || c = '\t'

/-- A character that no word goes on with. -/
def isGap (c : Char) : Bool := isBlank c || isLineEnd c

/-- A bracket of a list or table in brackets, or the comma inside. -/
def isFlow (c : Char) : Bool := c = ',' || c = '[' || c = ']' || c = '{' || c = '}'

/-- A character of the name of a handle or a directive. -/
def isNameChar (c : Char) : Bool := c.isAlphanum || c = '_' || c = '-'

/-- A hexadecimal digit. -/
def isHex (c : Char) : Bool := c.isDigit || ('a' ≤ c && c ≤ 'f') || ('A' ≤ c && c ≤ 'F')

/-- The value of a hexadecimal digit. -/
def hexValue (c : Char) : Nat :=
  if c.isDigit then c.toNat - '0'.toNat
  else if 'a' ≤ c then c.toNat - 'a'.toNat + 10
  else c.toNat - 'A'.toNat + 10

/-- The number that hexadecimal digits write. -/
def hexNumber (ds : List Char) : Nat := ds.foldl (fun n c => 16 * n + hexValue c) 0

/-- A character of the name of an anchor. -/
def isAnchorChar (c : Char) : Bool := !isGap c && !isFlow c && c ≠ '\uFEFF'

/-- A character of the address in a tag. -/
def isUriChar (c : Char) : Bool :=
  c.isAlphanum || c = '-' || "#;/?:@&=+$,_.!~*'()[]%".toList.contains c

/-- A character of a tag that is not written out. -/
def isTagChar (c : Char) : Bool := isUriChar c && !isFlow c && c ≠ '!'

/-! ## 2. Tokens -/

/-- A piece of a text. -/
inductive Token where
  | textStart
  | textEnd
  /-- A directive that names a version. -/
  | version
  /-- A directive that says what a handle stands for. -/
  | handle (name meaning : String)
  | documentStart
  | documentEnd
  /-- A list on lines of its own begins. -/
  | blockList
  /-- A table on lines of its own begins. -/
  | blockTable
  /-- A list or table on lines of its own ends. -/
  | blockEnd
  /-- A list in brackets begins. -/
  | flowList
  | flowListEnd
  /-- A table in brackets begins. -/
  | flowTable
  | flowTableEnd
  /-- A dash. -/
  | entry
  /-- A comma. -/
  | comma
  /-- A key follows. -/
  | key
  /-- A value follows. -/
  | value
  /-- What an anchor was given to comes again. -/
  | reference (name : String)
  | anchor (name : String)
  | tag (handle rest : String)
  /-- A scalar; a plain one is written without quotes on the lines of what surrounds it. -/
  | scalar (plain : Bool) (text : String)
  deriving DecidableEq, Repr, Inhabited

/-- A token and where it stands. -/
structure Placed where
  mark : Mark
  token : Token
  deriving DecidableEq, Repr, Inhabited

end Scriptorium.Yaml
