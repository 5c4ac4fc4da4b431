import Scriptorium.Decimal.Shortest

/-!
# The floating point number of a decimal text

A decimal text stands for the floating point number nearest to what it says; of two that are
equally near, for the one with an even last digit.  `nearest` finds it in exact arithmetic: it
scales the number so that its whole part has 53 binary digits, or fewer if the number is that
small, and rounds once.

`Literal` is what a decimal text says before it is rounded: a sign, digits and a power of ten.
Texts have one grammar here, `Literal.read?`: digits with a point before, between or behind them,
and an exponent.  There are words as well, for infinity and for what is not a number.
-/
namespace Scriptorium.Decimal

/-! ## 1. Rounding -/

/-- The quotient of two numbers, rounded to the nearest whole number and then to the even one. -/
def divideEven (n d : Nat) : Nat :=
  let whole := n / d
  let rest := 2 * (n % d)
  if rest < d ∨ (rest = d ∧ whole % 2 = 0) then whole else whole + 1

/-- The bits of infinity. -/
def infinity : Nat := 0x7FF0000000000000

/-- The bits of the floating point number nearest to `n / d`, which is above zero. -/
def nearest (n d : Nat) : Nat :=
  let guess : Int := (n.log2 : Int) - d.log2
  -- The power of two of the first binary digit.
  let first := if d * pow2 guess ≤ n * pow2 (-guess) then guess else guess - 1
  let q := max (first - 52) (-1074)
  let m := divideEven (n * pow2 (-q)) (d * pow2 q)
  min ((q + 1074).toNat * hiddenBit + m) infinity

/-- The bits of the floating point number nearest to a decimal number. -/
def Digits.nearest (d : Digits) : Nat :=
  let first := d.exponent + digitCount d.digits
  if d.digits = 0 ∨ first < -400 then 0
  else if 400 < first then infinity
  else Decimal.nearest (d.digits * pow10 d.exponent) (pow10 (-d.exponent))

def signedBits (negative : Bool) (bits : Nat) : UInt64 :=
  UInt64.ofNat (if negative then signBit + bits else bits)

/-! ## 2. Texts -/

/-- What a text says that stands for a floating point number. -/
inductive Literal where
  | digits (negative : Bool) (d : Digits)
  | infinite (negative : Bool)
  | notNumber (negative : Bool)
  deriving DecidableEq, Repr

namespace Literal

/-- The bits of the number that a text stands for. -/
def bits : Literal → UInt64
  | digits negative d => signedBits negative d.nearest
  | infinite negative => signedBits negative infinity
  | notNumber negative => signedBits negative (infinity + hiddenBit / 2)

/-- A sign, if there is one, and what is left behind it. -/
def sign : List Char → Bool × List Char
  | '-' :: rest => (true, rest)
  | '+' :: rest => (false, rest)
  | cs => (false, cs)

/-- The number that digits write. -/
def valueOf (ds : List Char) : Nat := ds.foldl (fun n c => 10 * n + (c.toNat - '0'.toNat)) 0

/-- The exponent that stands at the end of a number; nothing stands for zero. -/
def exponent? : List Char → Option Int
  | [] => some 0
  | c :: rest =>
    let (negative, ds) := sign rest
    if (c = 'e' ∨ c = 'E') ∧ ds ≠ [] ∧ ds.all Char.isDigit then
      some (if negative then -(valueOf ds : Int) else valueOf ds)
    else none

/-- The word for what no digits write. -/
def word? (negative : Bool) (cs : List Char) : Option Literal :=
  let w := String.ofList (cs.map Char.toLower)
  if w = "inf" ∨ w = "infinity" then some (.infinite negative)
  else if w = "nan" then some (.notNumber negative)
  else none

/-- Reads a whole text. -/
def read? (text : List Char) : Option Literal :=
  let (negative, cs) := sign text
  let whole := cs.takeWhile Char.isDigit
  let behind := cs.dropWhile Char.isDigit
  let (fraction, rest) := match behind with
    | '.' :: more => (more.takeWhile Char.isDigit, more.dropWhile Char.isDigit)
    | _ => ([], behind)
  if whole = [] ∧ fraction = [] then word? negative cs
  else (exponent? rest).map fun e =>
    .digits negative ⟨valueOf (whole ++ fraction), e - fraction.length⟩

end Literal

/-! ## 3. Whole numbers -/

/-- A whole number that a text writes in digits, with or without a sign, without bounds. -/
def whole? (text : List Char) : Option Int :=
  let (negative, ds) := Literal.sign text
  if ds ≠ [] ∧ ds.all Char.isDigit then
    some (if negative then -(Literal.valueOf ds : Int) else Literal.valueOf ds)
  else none

/-- Whether a whole number fits 64 bits, one of which is that of the sign. -/
def fitsWord (n : Int) : Bool := -0x8000000000000000 ≤ n && n < 0x8000000000000000

/-- The largest whole number of 64 bits. -/
def maxWord : Nat := 0xFFFFFFFFFFFFFFFF

/-- The floating point number rounded to the nearest whole number that is at least zero and at
most `bound`; what lies half way goes up, and what is not a number is zero. -/
def clamped (bound : Nat) (bits : UInt64) : Nat :=
  match parts bits with
  | .zero | .notNumber => 0
  | .infinite => if isNegative bits then 0 else bound
  | .finite b =>
    if isNegative bits then 0
    else min bound ((2 * b.m * pow2 b.q + pow2 (-b.q)) / (2 * pow2 (-b.q)))

end Scriptorium.Decimal
