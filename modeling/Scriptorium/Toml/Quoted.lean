import Scriptorium.Toml.Reader

/-!
# TOML strings

A string stands between two quotes or between two groups of three; the latter may go over several
lines.  Between double quotes a backslash begins an escape, between single ones it does not.
-/
namespace Scriptorium.Toml.Reader

/-! ## 1. Escapes -/

/-- A hexadecimal digit. -/
def isHex (c : Char) : Bool := c.isDigit || 'a' ≤ c && c ≤ 'f' || 'A' ≤ c && c ≤ 'F'

def digitValue (c : Char) : Nat :=
  if c.isDigit then c.toNat - '0'.toNat else c.toLower.toNat - 'a'.toNat + 10

/-- The number that digits write in a base. -/
def valueIn (base : Nat) (ds : List Char) : Nat := ds.foldl (fun n c => base * n + digitValue c) 0

def coded (p : Part) (digits : Nat) (cs : List Char) : Except Fault (Char × List Char) :=
  let ds := (cs.take digits).takeWhile isHex
  let fault : Fault := { left := cs.length, final := true, part := some p }
  if ds.length < digits then .error fault
  else if (valueIn 16 ds).isValidChar then .ok (Char.ofNat (valueIn 16 ds), cs.drop digits)
  else .error { fault with cause := some .outOfRange }

def escapes : List (Char × Char) :=
  [('b', '\x08'), ('f', '\x0c'), ('n', '\n'), ('r', '\r'), ('t', '\t'), ('\\', '\\'), ('"', '"')]

def escaped (cs : List Char) : Except Fault (Char × List Char) :=
  match cs with
  | [] => .error { left := 0 }
  | 'u' :: rest => coded .shortCode 4 rest
  | 'U' :: rest => coded .longCode 8 rest
  | c :: rest =>
    match escapes.lookup c with
    | some d => .ok (d, rest)
    | none => .error
      { left := if c.toNat < 0x80 then rest.length else cs.length
        final := true
        part := some .escape
        choices := ['b', 'f', 'n', 'r', 't', 'u', 'U', '\\', '"'].map fun c => s!"\x60{c}\x60" }

theorem coded_length {p : Part} {n : Nat} {cs rest : List Char} {c : Char}
    (h : coded p n cs = .ok (c, rest)) : rest.length ≤ cs.length := by
  unfold coded at h
  simp only at h
  split at h
  · simp at h
  · split at h <;> simp only [Except.ok.injEq, Prod.mk.injEq, reduceCtorEq] at h
    rw [← h.2, List.length_drop]
    omega

theorem escaped_length {cs rest : List Char} {c : Char} (h : escaped cs = .ok (c, rest)) :
    rest.length < cs.length := by
  unfold escaped at h
  split at h
  · simp at h
  · have := coded_length h
    simp only [List.length_cons]
    omega
  · have := coded_length h
    simp only [List.length_cons]
    omega
  · split at h <;> simp only [Except.ok.injEq, Prod.mk.injEq, reduceCtorEq] at h
    rw [← h.2]
    simp

/-! ## 2. On one line -/

def unended {α : Type} (p : Part) (left : Nat) : Except Fault α :=
  .error { left, final := true, part := some p }

/-- The rest of a string in double quotes, behind the characters in `done`, which stand in
reverse. -/
def basicFrom (done : List Char) (cs : List Char) : Except Fault (List Char × List Char) :=
  match cs with
  | '"' :: rest => .ok (done.reverse, rest)
  | '\\' :: rest =>
    match _h : escaped rest with
    | .ok (c, rest') => basicFrom (c :: done) rest'
    | .error f => if f.final then .error f else unended .basicString cs.length
  | c :: rest => if isText c then basicFrom (c :: done) rest else unended .basicString cs.length
  | [] => unended .basicString 0
termination_by cs.length
decreasing_by
  · have := escaped_length _h
    simp only [List.length_cons]
    omega
  · simp

def literalFrom (done : List Char) : List Char → Except Fault (List Char × List Char)
  | '\'' :: rest => .ok (done.reverse, rest)
  | c :: rest =>
    if isText c then literalFrom (c :: done) rest else unended .literalString (rest.length + 1)
  | [] => unended .literalString 0

/-! ## 3. On several lines -/

/-- The end of a string in three quotes, if it comes next: those of up to two more quotes that
belong to the string, and what is left behind it. -/
def tripleEnd? (q : Char) (cs : List Char) : Option (List Char × List Char) :=
  let quotes := (cs.takeWhile (· = q)).take 5
  if quotes.length < 3 then none else some (quotes.drop 3, cs.drop quotes.length)

def dropSpace : List Char → List Char
  | '\n' :: rest | '\r' :: '\n' :: rest => dropSpace rest
  | c :: rest => if isBlank c then dropSpace rest else c :: rest
  | [] => []

/-- What is left behind a backslash at the end of a line: the text from the next line on that is not
blank. -/
def joined? (cs : List Char) : Option (List Char) :=
  match cs.dropWhile isBlank with
  | '\n' :: rest | '\r' :: '\n' :: rest => some (dropSpace rest)
  | _ => none

theorem dropSpace_length (cs : List Char) : (dropSpace cs).length ≤ cs.length := by
  fun_induction dropSpace cs <;> simp_all <;> omega

theorem joined?_length {cs rest : List Char} (h : joined? cs = some rest) :
    rest.length ≤ cs.length := by
  have le := (List.dropWhile_sublist isBlank (l := cs)).length_le
  unfold joined? at h
  split at h
  case h_1 r hr =>
    have := dropSpace_length r
    simp_all
    omega
  case h_2 r hr =>
    have := dropSpace_length r
    simp_all
    omega
  case h_3 => simp at h

/-- The rest of a string in three double quotes. -/
def longFrom (done : List Char) (cs : List Char) : Except Fault (List Char × List Char) :=
  match tripleEnd? '"' cs with
  | some (quotes, rest) => .ok (done.reverse ++ quotes, rest)
  | none =>
    match cs with
    | '\r' :: '\n' :: rest => longFrom ('\n' :: done) rest
    | '\\' :: rest =>
      match _hj : joined? rest with
      | some rest' => longFrom done rest'
      | none =>
        match _h : escaped rest with
        | .ok (c, rest') => longFrom (c :: done) rest'
        | .error f => if f.final then .error f else unended .longString cs.length
    | c :: rest =>
      if c = '"' ∧ rest.all (· = '"') then unended .longString cs.length
      else if isText c ∨ c = '\n' then longFrom (c :: done) rest
      else unended .longString cs.length
    | [] => unended .longString 0
termination_by cs.length
decreasing_by
  all_goals simp only [List.length_cons]
  · omega
  · have := joined?_length _hj
    omega
  · have := escaped_length _h
    omega
  · omega

/-- The rest of a string in three single quotes. -/
def longLiteralFrom (done : List Char) (cs : List Char) : Except Fault (List Char × List Char) :=
  match tripleEnd? '\'' cs with
  | some (quotes, rest) => .ok (done.reverse ++ quotes, rest)
  | none =>
    match cs with
    | '\r' :: '\n' :: rest => longLiteralFrom ('\n' :: done) rest
    | c :: rest =>
      if (c = '\'' && !goesOn (rest.dropWhile (· = '\''))) || !goesOn cs then
        unended .longLiteral cs.length
      else longLiteralFrom (c :: done) rest
    | [] => unended .longLiteral 0
termination_by cs.length
where
  /-- Whether the next character may stand in the string. -/
  goesOn : List Char → Bool
    | '\r' :: '\n' :: _ => true
    | c :: _ => isText c || c = '\n'
    | [] => false

/-! ## 4. Strings -/

def onRest (f : List Char → Except Fault (List Char × List Char)) : Reader String := fun cs =>
  (f cs).map fun (s, rest) => (String.ofList s, rest)

/-- Reads a string on one line. -/
def shortString : Reader String :=
  orElse (do exactly ['"']; onRest (basicFrom [])) (do exactly ['\'']; onRest (literalFrom []))

/-- Reads a string.  An end of line right behind three quotes is not part of it. -/
def string : Reader String :=
  let long (quote : Char) (rest : List Char → Except Fault (List Char × List Char)) :
      Reader String := do
    exactly [quote, quote, quote]
    let _ ← optional newline
    onRest rest
  orElse (long '"' (longFrom [])) (orElse (long '\'' (longLiteralFrom [])) shortString)

end Scriptorium.Toml.Reader
