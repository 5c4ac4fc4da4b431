import Scriptorium.Json.Value

/-!
# Reading JSON text, one token at a time

A `Reader` works on a `Cursor`: the text that is left and the place in the whole text that it
starts at.  Reading fails with a `Fault`, which says what is wrong and, if the text itself is
wrong, where.  A reader that fails still leaves its cursor where it stopped, since a fault of
meaning is placed only after the value around it has been closed (`placed`).

A place counts lines from one and, within a line, bytes from its beginning.  A fault found by
looking at the next character is placed behind that character, one found after taking it likewise;
`here` and `ahead` are the two.
-/
namespace Scriptorium.Json

/-! ## 1. Places and faults -/

/-- A place in a text. -/
structure Position where
  line : Nat
  column : Nat
  deriving DecidableEq, Repr

/-- The beginning of a text. -/
def Position.start : Position := ⟨1, 0⟩

/-- The place behind a character. -/
def Position.after (p : Position) (c : Char) : Position :=
  if c = '\n' then ⟨p.line + 1, 0⟩ else ⟨p.line, p.column + c.utf8Size⟩

/-- The place `n` single bytes further on. -/
def Position.along (p : Position) (n : Nat) : Position := ⟨p.line, p.column + n⟩

/-- What a text ended in the middle of. -/
inductive Unfinished where
  | list
  | object
  | string
  | value
  deriving DecidableEq, Repr

/-- What is wrong with a text or with what it says. -/
inductive Reason where
  | unfinished (what : Unfinished)
  | expectedColon
  | expectedListEnd
  | expectedObjectEnd
  | expectedIdent
  | expectedValue
  | invalidEscape
  | invalidNumber
  | numberOutOfRange
  | controlCharacter
  | keyNotString
  | loneSurrogate
  | brokenSurrogate
  | trailingComma
  | trailingCharacters
  | tooDeep
  /-- The text is well formed and says something that was not asked for. -/
  | meaning (message : String)
  deriving DecidableEq, Repr

/-- The words for a reason. -/
def Reason.message : Reason → String
  | .unfinished .list => "EOF while parsing a list"
  | .unfinished .object => "EOF while parsing an object"
  | .unfinished .string => "EOF while parsing a string"
  | .unfinished .value => "EOF while parsing a value"
  | .expectedColon => "expected `:`"
  | .expectedListEnd => "expected `,` or `]`"
  | .expectedObjectEnd => "expected `,` or `\x7d`"
  | .expectedIdent => "expected ident"
  | .expectedValue => "expected value"
  | .invalidEscape => "invalid escape"
  | .invalidNumber => "invalid number"
  | .numberOutOfRange => "number out of range"
  | .controlCharacter => "control character (\\u0000-\\u001F) found while parsing a string"
  | .keyNotString => "key must be a string"
  | .loneSurrogate => "lone leading surrogate in hex escape"
  | .brokenSurrogate => "unexpected end of hex escape"
  | .trailingComma => "trailing comma"
  | .trailingCharacters => "trailing characters"
  | .tooDeep => "recursion limit exceeded"
  | .meaning message => message

/-- Why reading failed and, if known, where. -/
structure Fault where
  reason : Reason
  place : Option Position
  deriving DecidableEq, Repr

/-- The text of a fault. -/
def Fault.message (f : Fault) : String :=
  match f.place with
  | some p => s!"{f.reason.message} at line {p.line} column {p.column}"
  | none => f.reason.message

/-! ## 2. Readers -/

/-- What is left of a text, and the place it starts at. -/
structure Cursor where
  rest : List Char
  place : Position
  deriving DecidableEq, Repr

/-- A cursor at the beginning of a text. -/
def Cursor.ofString (s : String) : Cursor := ⟨s.toList, .start⟩

/-- The place behind the next character, or the end of the text. -/
def Cursor.ahead (c : Cursor) : Position :=
  match c.rest with
  | [] => c.place
  | x :: _ => if x = '\n' then c.place.after x else ⟨c.place.line, c.place.column + 1⟩

/-- A step of reading.  The cursor is kept when it fails. -/
abbrev Reader (α : Type) := ExceptT Fault (StateM Cursor) α

namespace Reader

/-- Fails at the place reached. -/
def failHere {α : Type} (reason : Reason) : Reader α := do
  throw ⟨reason, some (← get).place⟩

/-- Fails at the place behind the next character. -/
def failAhead {α : Type} (reason : Reason) : Reader α := do
  throw ⟨reason, some (← get).ahead⟩

/-- Fails for what the text says, at a place that is still to be found. -/
def failMeaning {α : Type} (message : String) : Reader α := throw ⟨.meaning message, none⟩

/-- The next character, left where it is. -/
def peek : Reader (Option Char) := do return (← get).rest.head?

/-- Takes one character. -/
def skip : Reader Unit :=
  modify fun c =>
    match c.rest with
    | [] => c
    | x :: rest => ⟨rest, c.place.after x⟩

/-- Takes the next character, if there is one. -/
def next : Reader (Option Char) := do
  let x ← peek
  skip
  return x

/-- A character between tokens. -/
def isBlank (c : Char) : Bool := c = ' ' || c = '\n' || c = '\t' || c = '\r'

/-- The cursor behind the blanks. -/
def skipBlanksFrom (place : Position) : List Char → Cursor
  | [] => ⟨[], place⟩
  | c :: rest => if isBlank c then skipBlanksFrom (place.after c) rest else ⟨c :: rest, place⟩

/-- The next character that is no blank, left where it is. -/
def peekToken : Reader (Option Char) := do
  modify fun c => skipBlanksFrom c.place c.rest
  peek

/-- The next character that is no blank, where a value has to start. -/
def peekValue : Reader Char := do
  match ← peekToken with
  | some c => return c
  | none => failAhead (.unfinished .value)

/-- Takes the rest of a word of letters. -/
def word : List Char → Reader Unit
  | [] => return
  | c :: cs => do
    match ← peek with
    | none => failHere (.unfinished .value)
    | some x =>
      if x = c then
        skip
        word cs
      else failAhead .expectedIdent

/-- Places a fault of meaning where reading stopped. -/
def placed {α : Type} (r : Reader α) : Reader α := do
  try r
  catch f =>
    match f.place with
    | some _ => throw f
    | none => failHere f.reason

/-! ## 3. Strings -/

def simpleEscape? (c : Char) : Option Char :=
  match c with
  | '"' => some '"'
  | '\\' => some '\\'
  | '/' => some '/'
  | 'b' => some '\x08'
  | 'f' => some '\x0c'
  | 'n' => some '\n'
  | 'r' => some '\r'
  | 't' => some '\t'
  | _ => none

/-- The value of a hexadecimal digit. -/
def hexValue? (c : Char) : Option Nat :=
  if '0' ≤ c ∧ c ≤ '9' then some (c.toNat - 48)
  else if 'a' ≤ c ∧ c ≤ 'f' then some (c.toNat - 87)
  else if 'A' ≤ c ∧ c ≤ 'F' then some (c.toNat - 55)
  else none

/-- The value of four hexadecimal digits. -/
def hexValue4? (a b c d : Char) : Option Nat := do
  let a ← hexValue? a
  let b ← hexValue? b
  let c ← hexValue? c
  let d ← hexValue? d
  return ((a * 16 + b) * 16 + c) * 16 + d

def placeAfterBytes (place : Position) : Nat → List Char → Option Position
  | 0, _ => some place
  | _ + 1, [] => none
  | n + 1, c :: rest =>
    if c.utf8Size ≤ n + 1 then placeAfterBytes (place.after c) (n + 1 - c.utf8Size) rest
    else some ⟨place.line, place.column + (n + 1)⟩

def placeAfterAll (place : Position) (cs : List Char) : Position :=
  cs.foldl Position.after place

def hexFault (place : Position) (rest : List Char) : Fault :=
  match placeAfterBytes place 4 rest with
  | some p => ⟨.invalidEscape, some p⟩
  | none => ⟨.unfinished .string, some (placeAfterAll place rest)⟩

/-- Reads on behind the opening quote of a string, `done` being what was read in reverse. -/
def stringFrom (done : List Char) (p : Position) : List Char → Except Fault String × Cursor
  | [] => (.error ⟨.unfinished .string, some p⟩, ⟨[], p⟩)
  | '"' :: rest => (.ok (String.ofList done.reverse), ⟨rest, p.along 1⟩)
  | '\\' :: 'u' :: rest =>
    match rest with
    | a :: b :: c :: d :: rest' =>
      match hexValue4? a b c d with
      | none => (.error (hexFault (p.along 2) rest), ⟨rest, p.along 2⟩)
      | some n =>
        let q := p.along 6
        if 0xDC00 ≤ n ∧ n ≤ 0xDFFF then (.error ⟨.loneSurrogate, some q⟩, ⟨rest', q⟩)
        else if n < 0xD800 ∨ 0xDBFF < n then stringFrom (Char.ofNat n :: done) q rest'
        else match rest' with
          | [] => (.error ⟨.unfinished .string, some q⟩, ⟨[], q⟩)
          | '\\' :: 'u' :: more =>
            match more with
            | e :: f :: g :: h :: more' =>
              match hexValue4? e f g h with
              | none => (.error (hexFault (q.along 2) more), ⟨more, q.along 2⟩)
              | some m =>
                if 0xDC00 ≤ m ∧ m ≤ 0xDFFF then
                  stringFrom (Char.ofNat (0x10000 + (n - 0xD800) * 1024 + (m - 0xDC00)) :: done)
                    (q.along 6) more'
                else (.error ⟨.loneSurrogate, some (q.along 6)⟩, ⟨more', q.along 6⟩)
            | _ => (.error (hexFault (q.along 2) more), ⟨more, q.along 2⟩)
          | ['\\'] => (.error ⟨.unfinished .string, some (q.along 1)⟩, ⟨[], q.along 1⟩)
          | '\\' :: x :: more =>
            (.error ⟨.brokenSurrogate, some (Cursor.ahead ⟨x :: more, q.along 1⟩)⟩,
              ⟨more, q.along 2⟩)
          | x :: more =>
            (.error ⟨.brokenSurrogate, some (Cursor.ahead ⟨x :: more, q⟩)⟩, ⟨more, q.along 1⟩)
    | _ => (.error (hexFault (p.along 2) rest), ⟨rest, p.along 2⟩)
  | ['\\'] => (.error ⟨.unfinished .string, some (p.along 1)⟩, ⟨[], p.along 1⟩)
  | '\\' :: x :: rest =>
    match simpleEscape? x with
    | some y => stringFrom (y :: done) (p.along 2) rest
    | none => (.error ⟨.invalidEscape, some (Cursor.ahead ⟨x :: rest, p.along 1⟩)⟩,
        ⟨rest, p.along 2⟩)
  | c :: rest =>
    if c.toNat < 0x20 then (.error ⟨.controlCharacter, some (p.after c)⟩, ⟨rest, p.after c⟩)
    else stringFrom (c :: done) (p.after c) rest

/-- Runs a step that is written as a function of the cursor. -/
def ofFunction {α : Type} (f : Cursor → Except Fault α × Cursor) : Reader α := do
  let (result, cursor) := f (← get)
  set cursor
  liftExcept result
where
  liftExcept {α : Type} : Except Fault α → Reader α
    | .ok a => return a
    | .error e => throw e

/-- The string behind its opening quote. -/
def stringTail : Reader String := ofFunction fun c => stringFrom [] c.place c.rest

/-- Passes over a string behind its opening quote, with less attention: any four digits make an
escape, and a control character is only looked at. -/
def skipStringFrom (p : Position) : List Char → Except Fault Unit × Cursor
  | [] => (.error ⟨.unfinished .string, some p⟩, ⟨[], p⟩)
  | '"' :: rest => (.ok (), ⟨rest, p.along 1⟩)
  | '\\' :: 'u' :: rest =>
    match rest with
    | a :: b :: c :: d :: rest' =>
      match hexValue4? a b c d with
      | none => (.error (hexFault (p.along 2) rest), ⟨rest, p.along 2⟩)
      | some _ => skipStringFrom (p.along 6) rest'
    | _ => (.error (hexFault (p.along 2) rest), ⟨rest, p.along 2⟩)
  | ['\\'] => (.error ⟨.unfinished .string, some (p.along 1)⟩, ⟨[], p.along 1⟩)
  | '\\' :: x :: rest =>
    match simpleEscape? x with
    | some _ => skipStringFrom (p.along 2) rest
    | none => (.error ⟨.invalidEscape, some (Cursor.ahead ⟨x :: rest, p.along 1⟩)⟩,
        ⟨rest, p.along 2⟩)
  | c :: rest =>
    if c.toNat < 0x20 then (.error ⟨.controlCharacter, some p⟩, ⟨c :: rest, p⟩)
    else skipStringFrom (p.after c) rest

/-- Passes over a string behind its opening quote. -/
def skipStringTail : Reader Unit := ofFunction fun c => skipStringFrom c.place c.rest

/-! ## 4. Numbers -/

/-- The largest whole number that is read exactly. -/
def maxWhole : Nat := 0xFFFFFFFFFFFFFFFF

def powerOfTen (n : Nat) : Float := Float.ofScientific 1 false n

/-- The floating point number `significand · 10^exponent` up to its sign: one multiplication or
division, or several by `10^308` for exponents below all powers; none if it is too large. -/
def scaledFloat? : Nat → Float → Int → Option Float
  | 0, f, _ => some f
  | fuel + 1, f, exponent =>
    if exponent.natAbs ≤ 308 then
      if exponent ≥ 0 then
        let g := f * powerOfTen exponent.natAbs
        if g.isInf then none else some g
      else some (f / powerOfTen exponent.natAbs)
    else if f == 0 then some f
    else if exponent ≥ 0 then none
    else scaledFloat? fuel (f / powerOfTen 308) (exponent + 308)

/-- A floating point number with its sign. -/
def signed (positive : Bool) (f : Float) : Number := .float (if positive then f else -f).toBits

/-- The number `significand · 10^exponent`. -/
def finishFloat (positive : Bool) (significand : Nat) (exponent : Int) : Reader Number := do
  match scaledFloat? 8 significand.toUInt64.toFloat exponent with
  | some f => return signed positive f
  | none => failHere .numberOutOfRange

/-- The digits at the front of a text. -/
def digitsOf (rest : List Char) : List Char := rest.takeWhile Char.isDigit

/-- Takes the digits that come next. -/
def digits : Reader (List Char) :=
  modifyGet fun c =>
    let ds := digitsOf c.rest
    (ds, ⟨c.rest.drop ds.length, c.place.along ds.length⟩)

def digitsValue (ds : List Char) : Nat := ds.foldl (fun n d => n * 10 + (d.toNat - 48)) 0

/-- As many of the digits as keep the number below `2^64`, from `n` on, and the others. -/
def absorb (n : Nat) : List Char → Nat × List Char
  | [] => (n, [])
  | d :: rest =>
    if n * 10 + (d.toNat - 48) ≤ maxWhole then absorb (n * 10 + (d.toNat - 48)) rest
    else (n, d :: rest)

def maxExponent : Nat := 0x7FFFFFFF

/-- The value of the digits of an exponent, from `n` on, and how many of them were looked at, after
`taken` others.  The digit that takes the exponent past all bounds is the last one. -/
def absorbExponent (n taken : Nat) : List Char → Option Nat × Nat
  | [] => (some n, taken)
  | d :: rest =>
    if n * 10 + (d.toNat - 48) ≤ maxExponent then
      absorbExponent (n * 10 + (d.toNat - 48)) (taken + 1) rest
    else (none, taken + 1)

/-- Reads an exponent, the letter before it being next. -/
def exponentPart (positive : Bool) (significand : Nat) (before : Int) : Reader Number := do
  skip
  let up ← match ← peek with
    | some '+' => do skip; pure true
    | some '-' => do skip; pure false
    | _ => pure true
  match ← peek with
  | none => failHere (.unfinished .value)
  | some d =>
    if d.isDigit then
      skip
      let (e?, taken) := absorbExponent (d.toNat - 48) 0 (digitsOf (← get).rest)
      modify fun c => ⟨c.rest.drop taken, c.place.along taken⟩
      match e? with
      | some e => finishFloat positive significand (if up then before + e else before - e)
      | none =>
        if significand ≠ 0 ∧ up then failHere .numberOutOfRange
        else
          discard digits
          return signed positive 0
    else failAhead .invalidNumber

/-- Reads on at the end of the digits of a floating point number. -/
def exponentOrEnd (positive : Bool) (significand : Nat) (exponent : Int) : Reader Number := do
  match ← peek with
  | some 'e' | some 'E' => exponentPart positive significand exponent
  | _ => finishFloat positive significand exponent

/-- Reads the digits behind a point, which is next. -/
def fractionPart (positive : Bool) (significand : Nat) (before : Int) : Reader Number := do
  skip
  let ds ← digits
  if ds = [] then
    match ← peek with
    | some _ => failAhead .invalidNumber
    | none => failAhead (.unfinished .value)
  else
    let (n, spare) := absorb significand ds
    exponentOrEnd positive n (before - ((ds.length - spare.length : Nat) : Int))

/-- Reads a number behind its sign. -/
def number (positive : Bool) : Reader Number := do
  match ← peek with
  | none => failHere (.unfinished .value)
  | some d =>
    if d = '0' then
      skip
      match ← peek with
      | some c => if c.isDigit then failAhead .invalidNumber else finish 0 []
      | none => finish 0 []
    else if d.isDigit then
      let (n, spare) := absorb 0 (← digits)
      finish n spare
    else failAhead .invalidNumber
where
  /-- What follows the digits before a point, of which `spare` did not fit. -/
  finish (n : Nat) (spare : List Char) : Reader Number := do
    match ← peek with
    | some '.' => fractionPart positive n spare.length
    | some 'e' | some 'E' => exponentPart positive n spare.length
    | _ =>
      if spare ≠ [] then finishFloat positive n spare.length
      else if positive then return .whole n
      else if n = 0 ∨ 0x8000000000000000 < n then return .float (-n.toUInt64.toFloat).toBits
      else return .whole (-n)

def skipExponent : Reader Unit := do
  skip
  match ← peek with
  | some '+' | some '-' => skip
  | _ => pure ()
  if (← digits) = [] then failAhead .invalidNumber

/-- Passes over a number behind its sign, however large it is. -/
def skipNumber : Reader Unit := do
  match ← peek with
  | some d =>
    if d = '0' then
      skip
      match ← peek with
      | some c => if c.isDigit then failAhead .invalidNumber else pure ()
      | none => pure ()
    else if d.isDigit then discard digits
    else failAhead .invalidNumber
  | none => failHere .invalidNumber
  match ← peek with
  | some '.' => do
    skip
    if (← digits) = [] then failAhead .invalidNumber
    match ← peek with
    | some 'e' | some 'E' => skipExponent
    | _ => pure ()
  | some 'e' | some 'E' => skipExponent
  | _ => pure ()

end Reader
end Scriptorium.Json
