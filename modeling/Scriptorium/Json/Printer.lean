import Scriptorium.Decimal.Shortest
import Scriptorium.Json.Value

/-!
# Writing JSON

The text of a value has no blanks.  In a string the quote, the backslash and the characters below
the blank are written with a backslash, and every other character stands for itself; the text
of a value never holds a control character.
-/
namespace Scriptorium.Json

/-- The digit of a number below sixteen. -/
def hexDigit (n : Nat) : Char := if n < 10 then Char.ofNat (48 + n) else Char.ofNat (87 + n)

/-- How a character of a string is written. -/
def escape (c : Char) : List Char :=
  if c = '"' then ['\\', '"']
  else if c = '\\' then ['\\', '\\']
  else if c = '\x08' then ['\\', 'b']
  else if c = '\x0c' then ['\\', 'f']
  else if c = '\n' then ['\\', 'n']
  else if c = '\r' then ['\\', 'r']
  else if c = '\t' then ['\\', 't']
  else if c.toNat < 0x20 then
    ['\\', 'u', '0', '0', hexDigit (c.toNat / 16), hexDigit (c.toNat % 16)]
  else [c]

/-- How a string is written. -/
def quote (s : String) : List Char := '"' :: (s.toList.flatMap escape ++ ['"'])

/-- How a number is written. -/
def Number.text : Number → List Char
  | .whole n => (toString n).toList
  | .float bits => (Decimal.floatText bits).toList

/-- Texts with commas between them. -/
def commaSeparated : List (List Char) → List Char
  | [] => []
  | [t] => t
  | t :: rest => t ++ ',' :: commaSeparated rest

namespace Value

mutual

/-- The text of a value. -/
def text : Value → List Char
  | .null => "null".toList
  | .bool true => "true".toList
  | .bool false => "false".toList
  | .number n => n.text
  | .string s => quote s
  | .array items => '[' :: (commaSeparated (textItems items) ++ [']'])
  | .object members => '\x7b' :: (commaSeparated (textMembers members) ++ ['\x7d'])

/-- The texts of the items of an array. -/
def textItems : List Value → List (List Char)
  | [] => []
  | v :: rest => v.text :: textItems rest

/-- The texts of the members of an object. -/
def textMembers : List (String × Value) → List (List Char)
  | [] => []
  | (name, v) :: rest => (quote name ++ ':' :: v.text) :: textMembers rest

end

/-- The text of a value as a string. -/
def render (v : Value) : String := String.ofList v.text

end Value
end Scriptorium.Json
