/-!
# The text of a floating point number

A finite floating point number is `m · 2^q` for whole numbers `m` and `q`, and stands for every
real number that rounds to it.  It is written with the fewest digits that still round back to it,
and of two such texts with the nearer one.  `shortest` finds them in exact arithmetic: for one
digit, two digits and so on it tries the two neighbours of the number on the grid of that many
digits.  Seventeen digits are always enough.

The form of the text is one record, `Form`: where positional writing ends and how an exponent is
written.
-/
namespace Scriptorium.Decimal

/-- Two to a power, and one for a negative power. -/
def pow2 (e : Int) : Nat := Nat.pow 2 e.toNat

/-- Ten to a power, and one for a negative power. -/
def pow10 (e : Int) : Nat := Nat.pow 10 e.toNat

/-- The bit of the sign. -/
def signBit : Nat := 0x8000000000000000

/-- The first bit of the digits of a number.  It is not written, unless as that of the exponent. -/
def hiddenBit : Nat := 0x10000000000000

/-- A finite number that is not zero, apart from its sign: `m · 2^q`.  `halfBelow` says whether the
next smaller number is only half as far away as the next larger one. -/
structure Binary where
  m : Nat
  q : Int
  halfBelow : Bool
  deriving DecidableEq, Repr

/-- The parts of the bits of a floating point number. -/
inductive Parts where
  | zero
  | finite (b : Binary)
  | infinite
  | notNumber
  deriving DecidableEq, Repr

/-- Takes the bits of a floating point number apart, the sign aside. -/
def parts (bits : UInt64) : Parts :=
  let exponent : Nat := (bits.toNat / hiddenBit) % 0x800
  let fraction : Nat := bits.toNat % hiddenBit
  if exponent = 2047 then if fraction = 0 then .infinite else .notNumber
  else if exponent = 0 then
    if fraction = 0 then .zero else .finite ⟨fraction, -1074, false⟩
  else .finite ⟨hiddenBit + fraction, (exponent : Int) - 1075, fraction = 0 && 1 < exponent⟩

/-- Whether the sign bit is set. -/
def isNegative (bits : UInt64) : Bool := bits.toNat ≥ signBit

/-- A decimal number `digits · 10^exponent`. -/
structure Digits where
  digits : Nat
  exponent : Int
  deriving DecidableEq, Repr

/-- A whole number `n` times `2^a · 10^b`, over a common denominator that makes it whole, for
comparing such numbers: `scale` is the power of ten it is multiplied by and `shift` the power of
two. -/
def scaled (n : Nat) (a b shift scale : Int) : Nat :=
  n * pow2 (a + shift) * pow10 (b + scale)

/-- Whether a decimal number rounds to `b`: it lies between the halves of the ways to the numbers
next to `b`, or on one of them if `b.m` is even. -/
def roundsTo (b : Binary) (d : Digits) : Bool :=
  let shift : Int := if b.q - 2 < 0 then 2 - b.q else 0
  let scale : Int := if d.exponent < 0 then -d.exponent else 0
  let value := scaled d.digits 0 d.exponent shift scale
  let low := scaled (4 * b.m - if b.halfBelow then 1 else 2) (b.q - 2) 0 shift scale
  let high := scaled (4 * b.m + 2) (b.q - 2) 0 shift scale
  if b.m % 2 = 0 then low ≤ value && value ≤ high else low < value && value < high

/-- How far a decimal number is from `b`, over a denominator that depends on `d.exponent` alone. -/
def distance (b : Binary) (d : Digits) : Nat :=
  let shift : Int := if b.q < 0 then -b.q else 0
  let scale : Int := if d.exponent < 0 then -d.exponent else 0
  let value := scaled d.digits 0 d.exponent shift scale
  let exact := scaled b.m b.q 0 shift scale
  if value ≤ exact then exact - value else value - exact

def floorAt (b : Binary) (e : Int) : Nat :=
  (b.m * pow2 b.q * pow10 (-e)) / (pow2 (-b.q) * pow10 e)

/-- The number of decimal digits of `n`. -/
def digitCount (n : Nat) : Nat := (Nat.toDigits 10 n).length

/-- The power of ten of the first digit of `b`: the one that leaves a single digit in front. -/
def leadingExponent (b : Binary) : Int :=
  if floorAt b 0 > 0 then (digitCount (floorAt b 0) : Int) - 1
  else
    -- Below one: scaled by 10^400 every number has a whole part.
    (digitCount (floorAt b (-400)) : Int) - 401

/-- The better of the two neighbours of `b` on the grid of `n` digits, if one rounds back. -/
def neighbour? (b : Binary) (n : Nat) : Option Digits :=
  let e := leadingExponent b - ((n : Int) - 1)
  let below : Digits := ⟨floorAt b e, e⟩
  let above : Digits := ⟨floorAt b e + 1, e⟩
  match roundsTo b below, roundsTo b above with
  | true, true => if distance b above < distance b below then some above else some below
  | true, false => some below
  | false, true => some above
  | false, false => none

def shortest (b : Binary) : Digits :=
  ((List.range' 1 17).findSome? (neighbour? b)).getD ⟨floorAt b 0, 0⟩

def trimZeros : Nat → Digits → Digits
  | 0, d => d
  | n + 1, d =>
    if d.digits ≠ 0 ∧ d.digits % 10 = 0 then trimZeros n ⟨d.digits / 10, d.exponent + 1⟩ else d

/-! ## The form of the text -/

/-- How a number is laid out. -/
structure Form where
  /-- The least power of ten of the first digit that is still written positionally. -/
  least : Int
  /-- The first one, above those, that is no longer. -/
  past : Int
  /-- Whether a whole number gets a point and a zero. -/
  pointZero : Bool
  /-- Whether a positive exponent gets a sign. -/
  plus : Bool
  /-- The least number of digits of an exponent. -/
  exponentWidth : Nat
  deriving DecidableEq, Repr

/-- Lays out digits by a form. -/
def Form.layOut (f : Form) (d : Digits) : String :=
  let ds := Nat.toDigits 10 d.digits
  let n : Int := ds.length
  let first := d.exponent + n - 1
  let zeros (k : Int) : List Char := List.replicate k.toNat '0'
  if f.least ≤ first ∧ first < f.past then
    if d.exponent ≥ 0 then
      String.ofList (ds ++ zeros d.exponent ++ if f.pointZero then ['.', '0'] else [])
    else if first ≥ 0 then
      String.ofList (ds.take (first + 1).toNat ++ '.' :: ds.drop (first + 1).toNat)
    else String.ofList ('0' :: '.' :: zeros (-first - 1) ++ ds)
  else
    let mantissa := match ds with
      | [] => []
      | [c] => [c]
      | c :: rest => c :: '.' :: rest
    let sign := if first < 0 then ['-'] else if f.plus then ['+'] else []
    let e := Nat.toDigits 10 first.natAbs
    String.ofList (mantissa ++ 'e' :: sign ++ List.replicate (f.exponentWidth - e.length) '0' ++ e)

/-- The text of a floating point number in a form. -/
def Form.text (f : Form) (bits : UInt64) : String :=
  let sign := if isNegative bits then "-" else ""
  match parts bits with
  | .zero => sign ++ if f.pointZero then "0.0" else "0"
  | .infinite => sign ++ "inf"
  | .notNumber => "NaN"
  | .finite b => sign ++ f.layOut (trimZeros 20 (shortest b))

/-- Numbers in messages are written positionally from `0.00001` up to below `1e+16`, and a whole
one gets a point. -/
def messageForm : Form := ⟨-5, 16, true, true, 1⟩

/-- The text of a floating point number in a message. -/
def floatText (bits : UInt64) : String := messageForm.text bits

end Scriptorium.Decimal
