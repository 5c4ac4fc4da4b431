import Scriptorium.Shell.Lexer

/-!
# Reading commands

Commands are read from tokens by recursive descent.  What is left of the tokens is returned beside
each command; a script that is no sequence of commands has no reading.
-/
namespace Scriptorium.Shell

def leadingWord? : List Token → Option Octets
  | .word _ w :: _ => bareText? w
  | _ => none

def beginsWith (s : Octets) : List Token → Bool
  | .operator op :: _ => op = s
  | _ => false

def skipBreaks : List Token → List Token
  | .operator ['\n'] :: rest => skipBreaks rest
  | ts => ts

def expectWord? (s : String) (ts : List Token) : Option (List Token) :=
  if leadingWord? ts = some s.toList then some ts.tail else none

def atListEnd (ts : List Token) : Bool :=
  ts.isEmpty || beginsWith [')'] ts ||
    ["then", "do", "done", "else", "elif", "fi", "\x7d"].any fun s =>
      leadingWord? ts = some s.toList

def assignment? (w : Word) : Option (Octets × Word) :=
  match w with
  | ⟨.text s, false⟩ :: parts =>
    let name := s.takeWhile isNameChar
    match s.drop name.length, name with
    | '=' :: value, c :: _ =>
      if c.isDigit then none
      else some (name, if value = [] then parts else ⟨.text value, false⟩ :: parts)
    | _, _ => none
  | _ => none

def redirects? : List Token → Option (List Redirect × List Token)
  | .redirect fd kind :: .word _ w :: rest =>
    (redirects? rest).map fun (rs, rest) => (⟨fd, kind, w⟩ :: rs, rest)
  | .redirect _ _ :: _ => none
  | ts => some ([], ts)

/-- Reads a simple command behind what is given of it in reverse. -/
def simple? (line : Nat) (assignments : List (Octets × Word)) (words : List Word)
    (redirects : List Redirect) : List Token → Option (Command × List Token)
  | .word _ w :: rest =>
    match words, assignment? w with
    | [], some a => simple? line (a :: assignments) words redirects rest
    | _, _ => simple? line assignments (w :: words) redirects rest
  | .redirect fd kind :: .word _ w :: rest =>
    simple? line assignments words (⟨fd, kind, w⟩ :: redirects) rest
  | .redirect _ _ :: _ => none
  | ts =>
    if assignments = [] ∧ words = [] ∧ redirects = [] then none
    else some (.simple line assignments.reverse words.reverse redirects.reverse, ts)

def wordsToEnd : List Word → List Token → List Word × List Token
  | done, .word _ w :: rest => wordsToEnd (w :: done) rest
  | done, .operator [';'] :: rest => (done.reverse, rest)
  | done, ts => (done.reverse, ts)

mutual

/-- Reads a list of commands up to something that ends it. -/
def list? : Nat → List Token → Option (Command × List Token)
  | 0, _ => none
  | fuel + 1, ts => do
    let ts := skipBreaks ts
    if atListEnd ts then some (.nothing, ts)
    else
      let (c, ts) ← andOr? fuel ts
      let (c, ts) := if beginsWith ['&'] ts then (Command.background c, ts.tail)
        else if beginsWith [';'] ts then (c, ts.tail)
        else (c, ts)
      let ts' := skipBreaks ts
      if atListEnd ts' then some (c, ts')
      else
        let (rest, ts) ← list? fuel ts'
        some (.sequence c rest, ts)

def andOr? : Nat → List Token → Option (Command × List Token)
  | 0, _ => none
  | fuel + 1, ts => do
    let (c, ts) ← pipeline? fuel ts
    andOrFrom? fuel c ts

def andOrFrom? : Nat → Command → List Token → Option (Command × List Token)
  | 0, _, _ => none
  | fuel + 1, c, ts =>
    if beginsWith ['&', '&'] ts then do
      let (d, ts) ← pipeline? fuel (skipBreaks ts.tail)
      andOrFrom? fuel (.both c d) ts
    else if beginsWith ['|', '|'] ts then do
      let (d, ts) ← pipeline? fuel (skipBreaks ts.tail)
      andOrFrom? fuel (.either c d) ts
    else some (c, ts)

def pipeline? : Nat → List Token → Option (Command × List Token)
  | 0, _ => none
  | fuel + 1, ts =>
    match expectWord? "!" ts with
    | some ts => (pipeline? fuel ts).map fun (c, ts) => (.negated c, ts)
    | none => do
      let (c, ts) ← single? fuel ts
      if beginsWith ['|'] ts then
        let (d, ts) ← pipeline? fuel (skipBreaks ts.tail)
        some (.pipe c d, ts)
      else some (c, ts)

def branchTail? : Nat → Command → List Token → Option (Command × List Token)
  | 0, _, _ => none
  | fuel + 1, test, ts => do
    let ts ← expectWord? "then" ts
    let (yes, ts) ← list? fuel ts
    match expectWord? "elif" ts, expectWord? "else" ts with
    | some ts, _ =>
      let (test', ts) ← list? fuel ts
      let (no, ts) ← branchTail? fuel test' ts
      some (.branch test yes no, ts)
    | none, some ts =>
      let (no, ts) ← list? fuel ts
      some (.branch test yes no, ← expectWord? "fi" ts)
    | none, none => some (.branch test yes .nothing, ← expectWord? "fi" ts)

def body? : Nat → List Token → Option (Command × List Token)
  | 0, _ => none
  | fuel + 1, ts => do
    let ts ← expectWord? "do" (skipBreaks ts)
    let (body, ts) ← list? fuel ts
    some (body, ← expectWord? "done" ts)

/-- Reads one command. -/
def single? : Nat → List Token → Option (Command × List Token)
  | 0, _ => none
  | fuel + 1, ts => do
    let inGroup (c : Command) (ts : List Token) : Option (Command × List Token) := do
      let (rs, ts) ← redirects? ts
      some (if rs.isEmpty then c else .group c rs, ts)
    if beginsWith ['('] ts then
      let (body, ts) ← list? fuel ts.tail
      if beginsWith [')'] ts then
        let (rs, ts) ← redirects? ts.tail
        some (.subshell body rs, ts)
      else none
    else match (leadingWord? ts).map String.ofList with
      | some "\x7b" =>
        let (body, ts) ← list? fuel ts.tail
        inGroup body (← expectWord? "\x7d" ts)
      | some "while" =>
        let (test, ts) ← list? fuel ts.tail
        let (body, ts) ← body? fuel ts
        inGroup (.loop false test body) ts
      | some "until" =>
        let (test, ts) ← list? fuel ts.tail
        let (body, ts) ← body? fuel ts
        inGroup (.loop true test body) ts
      | some "if" =>
        let (test, ts) ← list? fuel ts.tail
        let (c, ts) ← branchTail? fuel test ts
        inGroup c ts
      | some "for" =>
        match ts.tail with
        | .word _ w :: ts =>
          let name ← bareText? w
          let (words, ts) := match expectWord? "in" ts with
            | some ts => wordsToEnd [] ts
            | none => ([[⟨.parameter ['@'] [] [], true⟩]],
                if beginsWith [';'] ts then ts.tail else ts)
          let (body, ts) ← body? fuel ts
          inGroup (.forEach name words body) ts
        | _ => none
      | _ =>
        match ts with
        | .word line _ :: _ => simple? line [] [] [] ts
        | .redirect _ _ :: .word line _ :: _ => simple? line [] [] [] ts
        | _ => none

end

/-- The commands of a script. -/
def parse? (s : Octets) : Option Command := do
  let ts ← tokens? s
  match ← list? (8 * ts.length + 8) ts with
  | (c, []) => some c
  | _ => none

end Scriptorium.Shell
