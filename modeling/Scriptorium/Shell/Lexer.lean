import Scriptorium.Shell.Syntax

/-!
# Tokens of the shell

A script is split into words, operators and redirections.  Every function returns what is left of
its input, and takes a bound on the steps that it may make; the length of the input is one that is
never reached.
-/
namespace Scriptorium.Shell

/-- A token. -/
inductive Token where
  | word (line : Nat) (w : Word)
  /-- An operator; a line break is one. -/
  | operator (s : Octets)
  | redirect (fd : Nat) (kind : RedirectKind)
  deriving Repr

/-- Whether a character may stand in a name. -/
def isNameChar (c : Char) : Bool := c.isAlphanum || c = '_'

def endsWord (c : Char) : Bool :=
  c = ' ' || c = '\t' || c = '\n' || c = ';' || c = '&' || c = '|' || c = '<' || c = '>'
    || c = '(' || c = ')'

def upTo? (stop : Char) : Octets → Octets → Option (Octets × Octets)
  | _, [] => none
  | done, c :: rest => if c = stop then some (done.reverse, rest) else upTo? stop (c :: done) rest

/-- The text up to the bracket that closes one that was opened before, and what is behind it.
Quotes and further brackets are passed over. -/
def upToClosing? (opening closing : Char) : Nat → Nat → Octets → Octets → Option (Octets × Octets)
  | 0, _, _, _ => none
  | _, _, _, [] => none
  | fuel + 1, depth, done, c :: rest =>
    if c = '\\' then
      match rest with
      | [] => none
      | d :: rest => upToClosing? opening closing fuel depth (d :: c :: done) rest
    else if c = '\'' then
      match upTo? '\'' [] rest with
      | none => none
      | some (s, rest) =>
        upToClosing? opening closing fuel depth ('\'' :: s.reverse ++ '\'' :: done) rest
    else if c = closing then
      match depth with
      | 0 => some (done.reverse, rest)
      | d + 1 => upToClosing? opening closing fuel d (c :: done) rest
    else if c = opening then upToClosing? opening closing fuel (depth + 1) (c :: done) rest
    else upToClosing? opening closing fuel depth (c :: done) rest

def bracedPiece (s : Octets) : Piece :=
  match s with
  | '#' :: c :: rest => .length (c :: rest)
  | _ =>
    let name := match s with
      | c :: rest => if isNameChar c then (c :: rest).takeWhile isNameChar else [c]
      | [] => []
    let behind := s.drop name.length
    match behind with
    | ':' :: c :: rest => .parameter name [':', c] rest
    | c :: rest => .parameter name [c] rest
    | [] => .parameter name [] []

/-- The piece that a dollar sign opens, and what is behind it. -/
def dollar? (s : Octets) : Option (Piece × Octets) :=
  match s with
  | '(' :: '(' :: rest =>
    match upToClosing? '(' ')' (rest.length + 1) 1 [] rest with
    | some (inner, behind) => some (.arithmetic inner.dropLast, behind)
    | none => none
  | '(' :: rest =>
    (upToClosing? '(' ')' (rest.length + 1) 0 [] rest).map fun (inner, behind) =>
      (.command inner, behind)
  | '\x7b' :: rest => (upTo? '\x7d' [] rest).map fun (inner, behind) => (bracedPiece inner, behind)
  | c :: rest =>
    if c.isDigit || c = '@' || c = '*' || c = '#' || c = '?' || c = '$' || c = '!' || c = '-' then
      some (.parameter [c] [] [], rest)
    else if isNameChar c then
      some (.parameter (s.takeWhile isNameChar) [] [], s.dropWhile isNameChar)
    else some (.text ['$'], s)
  | [] => some (.text ['$'], [])

/-- The parts between double quotes, and what is behind them. -/
def quotedParts? : Nat → List Part → Octets → Option (List Part × Octets)
  | 0, _, _ => none
  | _, _, [] => none
  | fuel + 1, done, c :: rest =>
    let add (p : Piece) := (⟨p, true⟩ : Part) :: done
    if c = '"' then some ((if done = [] then [⟨.text [], true⟩] else done.reverse), rest)
    else if c = '\\' then
      match rest with
      | [] => none
      | '\n' :: rest => quotedParts? fuel done rest
      | d :: rest =>
        if d = '$' || d = '\x60' || d = '"' || d = '\\' then
          quotedParts? fuel (add (.text [d])) rest
        else quotedParts? fuel (add (.text [c, d])) rest
    else if c = '$' then
      match dollar? rest with
      | some (p, rest) => quotedParts? fuel (add p) rest
      | none => none
    else if c = '\x60' then
      match upTo? '\x60' [] rest with
      | some (s, rest) => quotedParts? fuel (add (.command s)) rest
      | none => none
    else quotedParts? fuel (add (.text [c])) rest

/-- Puts a piece of plain text behind the parts so far, which stand in reverse. -/
def addText (c : Char) : List Part → List Part
  | ⟨.text s, false⟩ :: rest => ⟨.text (s ++ [c]), false⟩ :: rest
  | done => ⟨.text [c], false⟩ :: done

/-- The parts of a word, and what is behind it. -/
def wordParts? : Nat → List Part → Octets → Option (List Part × Octets)
  | 0, _, _ => none
  | _, done, [] => some (done.reverse, [])
  | fuel + 1, done, c :: rest =>
    if endsWord c then some (done.reverse, c :: rest)
    else if c = '\'' then
      match upTo? '\'' [] rest with
      | some (s, rest) => wordParts? fuel (⟨.text s, true⟩ :: done) rest
      | none => none
    else if c = '"' then
      match quotedParts? (rest.length + 1) [] rest with
      | some (parts, rest) => wordParts? fuel (parts.reverse ++ done) rest
      | none => none
    else if c = '\\' then
      match rest with
      | [] => some ((⟨.text ['\\'], true⟩ :: done).reverse, [])
      | '\n' :: rest => wordParts? fuel done rest
      | d :: rest => wordParts? fuel (⟨.text [d], true⟩ :: done) rest
    else if c = '$' then
      match dollar? rest with
      | some (.text s, rest) => wordParts? fuel (s.foldl (fun done c => addText c done) done) rest
      | some (p, rest) => wordParts? fuel (⟨p, false⟩ :: done) rest
      | none => none
    else if c = '\x60' then
      match upTo? '\x60' [] rest with
      | some (s, rest) => wordParts? fuel (⟨.command s, false⟩ :: done) rest
      | none => none
    else wordParts? fuel (addText c done) rest

def redirect? (fd : Option Nat) : Octets → Option (Token × Octets)
  | '>' :: '>' :: rest => some (.redirect (fd.getD 1) .append, rest)
  | '>' :: '&' :: rest => some (.redirect (fd.getD 1) .duplicate, rest)
  | '>' :: '|' :: rest => some (.redirect (fd.getD 1) .write, rest)
  | '>' :: rest => some (.redirect (fd.getD 1) .write, rest)
  | '<' :: '&' :: rest => some (.redirect (fd.getD 0) .duplicate, rest)
  | '<' :: rest => some (.redirect (fd.getD 0) .read, rest)
  | _ => none

def operator? : Octets → Option (Octets × Octets)
  | '&' :: '&' :: rest => some (['&', '&'], rest)
  | '|' :: '|' :: rest => some (['|', '|'], rest)
  | ';' :: ';' :: rest => some ([';', ';'], rest)
  | c :: rest =>
    if c = '&' || c = '|' || c = ';' || c = '(' || c = ')' || c = '\n' then some ([c], rest)
    else none
  | [] => none

/-- The number that digits write. -/
def numberOf (ds : Octets) : Nat := ds.foldl (fun n d => n * 10 + (d.toNat - 48)) 0

/-- The tokens of a script; none if a quote or a bracket is not closed. -/
def tokensFrom? : Nat → Nat → List Token → Octets → Option (List Token)
  | 0, _, _, _ => none
  | _, _, done, [] => some done.reverse
  | fuel + 1, line, done, c :: rest =>
    if c = ' ' || c = '\t' then tokensFrom? fuel line done rest
    else if c = '\\' && rest.head? = some '\n' then tokensFrom? fuel (line + 1) done rest.tail
    else if c = '#' then tokensFrom? fuel line done (rest.dropWhile (· != '\n'))
    else match operator? (c :: rest) with
      | some (op, rest) =>
        tokensFrom? fuel (if op = ['\n'] then line + 1 else line) (.operator op :: done) rest
      | none =>
        let digits := (c :: rest).takeWhile Char.isDigit
        let behind := (c :: rest).drop digits.length
        let fd := if digits = [] then none else some (numberOf digits)
        match redirect? fd behind with
        | some (t, rest) => tokensFrom? fuel line (t :: done) rest
        | none =>
          match wordParts? (rest.length + 2) [] (c :: rest) with
          | some (w, rest') =>
            let lines := ((c :: rest).take (rest.length + 1 - rest'.length)).count '\n'
            tokensFrom? fuel (line + lines) (.word line w :: done) rest'
          | none => none

/-- The tokens of a script. -/
def tokens? (s : Octets) : Option (List Token) := tokensFrom? (s.length + 1) 1 [] s

end Scriptorium.Shell
