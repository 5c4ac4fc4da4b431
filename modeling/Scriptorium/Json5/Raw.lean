import Scriptorium.Decimal.Nearest
import Scriptorium.Json.Value

/-!
# What is written in a JSON5 text

A text is read to its end before its numbers and the codes in its strings are looked at, so a text
that is not written as it should be is refused for that first.  `Raw` is what has been read so far:
numbers as they are written, strings as characters and codes.  `Raw.value` gives the value, which is
one of JSON.
-/
namespace Scriptorium.Json5

/-- A part of a string. -/
inductive Piece where
  | char (c : Char)
  /-- A code in two digits. -/
  | short (code : Nat)
  /-- A code in four digits: a character, or half of one. -/
  | long (code : Nat)
  deriving DecidableEq, Repr

/-- What is written in a text. -/
inductive Raw where
  | null
  | bool (b : Bool)
  | number (text : List Char)
  | string (pieces : List Piece)
  | array (items : List Raw)
  | object (members : List (List Piece × Raw))
  deriving Repr, Inhabited

/-- What is wrong with a number or a string. -/
inductive Trouble where
  | integer
  | hexadecimal
  | number
  | tooLarge
  | surrogate
  deriving DecidableEq, Repr

/-- The words for what is wrong. -/
def Trouble.words : Trouble → String
  | .integer => "error parsing integer"
  | .hexadecimal => "error parsing hex"
  | .number => "error parsing number"
  | .tooLarge => "error parsing number: too large"
  | .surrogate => "error parsing unicode escape"

/-! ## 1. Strings -/

/-- A hexadecimal digit. -/
def isHex (c : Char) : Bool := c.isDigit || ('a' ≤ c && c ≤ 'f') || ('A' ≤ c && c ≤ 'F')

/-- The number that hexadecimal digits write. -/
def hexNumber (ds : List Char) : Nat :=
  ds.foldl (fun n c =>
    16 * n + (if c.isDigit then c.toNat - '0'.toNat else c.toLower.toNat - 'a'.toNat + 10)) 0

/-- The characters that the pieces of a string stand for.  A character beyond the first 65536 is
written as two codes. -/
def charsOf : List Piece → Except Trouble (List Char)
  | [] => .ok []
  | .char c :: rest => (charsOf rest).map (c :: ·)
  | .short code :: rest => (charsOf rest).map (Char.ofNat code :: ·)
  | [.long code] =>
    if code.isValidChar then .ok [Char.ofNat code] else .error .surrogate
  | .long code :: p :: rest =>
    if code.isValidChar then (charsOf (p :: rest)).map (Char.ofNat code :: ·)
    else match p with
      | .long low =>
        if code < 0xDC00 ∧ 0xDC00 ≤ low ∧ low < 0xE000 then
          let c := Char.ofNat (0x10000 + (code - 0xD800) * 0x400 + (low - 0xDC00))
          (charsOf rest).map (c :: ·)
        else .error .surrogate
      | _ => .error .surrogate

def textOf (pieces : List Piece) : Except Trouble String := (charsOf pieces).map String.ofList

/-! ## 2. Numbers -/

def floatOf (text : List Char) : Except Trouble Json.Number :=
  match Decimal.Literal.read? text with
  | some l =>
    if l.bits.toNat % Decimal.signBit = Decimal.infinity then .error .tooLarge
    else .ok (.float l.bits)
  | none => .error .number

/-- The number that a text writes.  Words and hexadecimal digits stand without a plus sign, the
latter without any sign and with at most 32 binary digits. -/
def numberOf (text : List Char) : Except Trouble Json.Number :=
  match String.ofList text, text with
  | "Infinity", _ => .ok (.float (Decimal.Literal.infinite false).bits)
  | "-Infinity", _ => .ok (.float (Decimal.Literal.infinite true).bits)
  | "NaN", _ | "-NaN", _ => .ok (.float (Decimal.Literal.notNumber false).bits)
  | _, '0' :: x :: d :: ds =>
    if x = 'x' || x = 'X' then
      let n := hexNumber (d :: ds)
      if n < 0x100000000 then .ok (.whole n) else .error .hexadecimal
    else plain
  | _, _ => plain
where
  /-- The number that a decimal text writes. -/
  plain : Except Trouble Json.Number :=
    if text.any fun c => c = '.' || c = 'e' || c = 'E' then floatOf text
    else match (Decimal.whole? text).filter Decimal.fitsWord with
      | some n => .ok (.whole n)
      | none => .error .integer

/-! ## 3. Values -/

mutual

/-- The value of what is written. -/
def Raw.value : Raw → Except Trouble Json.Value
  | .null => .ok .null
  | .bool b => .ok (.bool b)
  | .number text => (numberOf text).map .number
  | .string pieces => (textOf pieces).map .string
  | .array items => (valueItems items).map .array
  | .object members => (valueMembers members).map .object

def Raw.valueItems : List Raw → Except Trouble (List Json.Value)
  | [] => .ok []
  | r :: rest => do return (← value r) :: (← valueItems rest)

def Raw.valueMembers : List (List Piece × Raw) → Except Trouble (List (String × Json.Value))
  | [] => .ok []
  | (n, r) :: rest => do return (← textOf n, ← value r) :: (← valueMembers rest)

end

end Scriptorium.Json5
