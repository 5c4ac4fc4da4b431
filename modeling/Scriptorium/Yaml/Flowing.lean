import Scriptorium.Yaml.Scan

/-!
# Plain and quoted scalars of YAML

Scalars that may go on over several lines, whose ends are folded: a single end of a line stands for
a space, and of several ones the first is dropped.  Blanks around the ends of lines do not count.
-/
namespace Scriptorium.Yaml

/-- Ends of lines inside a scalar. -/
structure Breaks where
  /-- Whether the first one is there; it may have been taken away by a backslash. -/
  first : Bool := false
  /-- Those behind it. -/
  more : List Char := []
  deriving DecidableEq, Repr, Inhabited

/-- What ends of lines stand for. -/
def Breaks.folded (b : Breaks) : List Char := if b.first && b.more = [] then [' '] else b.more

namespace Scanner

/-! ## 1. Plain scalars -/

/-- Whether a plain scalar goes on with a character before another one.  It ends at a colon before
a gap; inside brackets, also at brackets and commas. -/
def goesOn (inFlow : Bool) (c next : Char) : Bool :=
  let ends (d : Char) : Bool := isGap d || (inFlow && isFlow d)
  !(isGap c || (inFlow && isFlow c) || (c = ':' && ends next))

def plainRun (inFlow : Bool) : List Char → List Char
  | [] => []
  | c :: rest => if goesOn inFlow c (rest.headD endChar) then c :: plainRun inFlow rest else []

/-- Takes the blanks and ends of lines inside a plain scalar. -/
def plainBlanksFor (indent : Int) (start : Mark) (b : Breaks) (blanks : List Char) :
    Nat → Scanner (Breaks × List Char)
  | 0 => return (b, blanks)
  | fuel + 1 => do
    let s ← get
    let c ← peek
    if isBlank c then
      if !s.leading then
        passBlanks 1
        plainBlanksFor indent start b (blanks ++ [c]) fuel
      else if s.mark.column < indent && c = '\t' then
        let _ ← skipBlanks
        unless isLineEnd (← peek) do failAt .tabInPlain start
        plainBlanksFor indent start b blanks fuel
      else
        passBlanks 1
        plainBlanksFor indent start b blanks fuel
    else if isBreak c then
      let ends ← lineBreak
      if s.leading then plainBlanksFor indent start { b with more := b.more ++ ends } blanks fuel
      else plainBlanksFor indent start { b with first := true } [] fuel
    else return (b, blanks)

/-- Takes the rest of a plain scalar behind the text in `done` and what separates it from that. -/
def plainFor (indent : Int) (start : Mark) (done : List Char) (b : Breaks) (blanks : List Char) :
    Nat → Scanner (List Char)
  | 0 => return done
  | fuel + 1 => do
    let s ← get
    let inFlow : Bool := 0 < s.flowLevel
    if s.mark.column = 0 && (← isDocumentMark) then return done
    if (← peek) = '#' then return done
    if inFlow && (← peek) = '-' && isFlow (← peekAt 1) then fail .plainDash
    let run := plainRun inFlow s.rest
    unless run = [] do pass run.length
    let done := if run = [] then done else done ++ (if s.leading then b.folded else blanks) ++ run
    let c ← peek
    if isGap c && c ≠ endChar then
      let (b, blanks) ← plainBlanksFor indent start (if run = [] then b else {})
        (if run = [] then blanks else []) ((← get).rest.length + 1)
      if !inFlow && (← here).column < indent then return done
      plainFor indent start done b blanks fuel
    else return done

/-- Reads a plain scalar. -/
def plain : Scanner Unit := do
  markKey
  allowKey false
  dropIndents
  let indent := (← get).indent + 1
  let start ← here
  if 0 < (← get).flowLevel && start.column < indent then failAt .flowIndentation start
  let text ← plainFor indent start [] {} [] ((← get).rest.length + 1)
  if (← get).leading then allowKey true
  push (.scalar true (String.ofList text)) start

/-! ## 2. Quoted scalars -/

def escapes : List (Char × Char) :=
  [('0', '\x00'), ('a', '\x07'), ('b', '\x08'), ('t', '\t'), ('\t', '\t'), ('n', '\n'),
    ('v', '\x0b'), ('f', '\x0c'), ('r', '\r'), ('e', '\x1b'), (' ', ' '), ('"', '"'), ('/', '/'),
    ('\\', '\\'), ('N', '\u0085'), ('_', '\u00a0'), ('L', '\u2028'), ('P', '\u2029')]

def codeLength? : Char → Option Nat
  | 'x' => some 2
  | 'u' => some 4
  | 'U' => some 8
  | _ => none

/-- Takes a backslash and what belongs to it. -/
def escape (start : Mark) : Scanner Char := do
  let letter ← peekAt 1
  match escapes.find? (·.1 = letter), codeLength? letter with
  | some (_, c), _ =>
    pass 2
    return c
  | none, some n =>
    pass 2
    let ds := (← get).rest.take n
    unless ds.length = n && ds.all isHex do failAt .quotedDigits start
    let code := hexNumber ds
    unless code.isValidChar do failAt .quotedCode start
    pass n
    return Char.ofNat code
  | none, none => failAt .quotedEscape start

/-- Takes the characters of a quoted scalar up to a gap, the closing quote, or a backslash at the
end of a line, which is taken too; the second part of the result tells whether one has been. -/
def quotedRunFor (single : Bool) (start : Mark) (done : List Char) :
    Nat → Scanner (List Char × Bool)
  | 0 => return (done.reverse, false)
  | fuel + 1 => do
    let c ← peek
    let next ← peekAt 1
    if isGap c then return (done.reverse, false)
    else if single && c = '\'' && next = '\'' then
      pass 2
      quotedRunFor single start ('\'' :: done) fuel
    else if c = (if single then '\'' else '"') then return (done.reverse, false)
    else if !single && c = '\\' && isBreak next then
      pass 1
      let _ ← lineBreak
      return (done.reverse, true)
    else if !single && c = '\\' then
      quotedRunFor single start ((← escape start) :: done) fuel
    else
      pass 1
      quotedRunFor single start (c :: done) fuel

/-- Takes the blanks and ends of lines inside a quoted scalar; `leading` tells whether the end of a
line has been taken. -/
def quotedBlanksFor (leading : Bool) (b : Breaks) (blanks : List Char) : Nat → Scanner (List Char)
  | 0 => return blanks
  | fuel + 1 => do
    let c ← peek
    if isBlank c then
      let s ← get
      if leading && c = '\t' && s.mark.column < s.indent then fail .tabInQuoted
      passBlanks 1
      quotedBlanksFor leading b (if leading then blanks else blanks ++ [c]) fuel
    else if isBreak c then
      let ends ← lineBreak
      if leading then quotedBlanksFor true { b with more := b.more ++ ends } blanks fuel
      else quotedBlanksFor true { b with first := true } [] fuel
    else return if leading then b.folded else blanks

def quotedFor (single : Bool) (start : Mark) (done : List Char) : Nat → Scanner (List Char)
  | 0 => return done
  | fuel + 1 => do
    let s ← get
    if s.mark.column = 0 && (← isDocumentMark) then failAt .quotedDocument start
    if s.rest = [] then failAt .quotedEnd start
    if s.mark.column < s.indent then failAt .quotedIndentation start
    let (run, folded) ← quotedRunFor single start [] (s.rest.length + 1)
    let done := done ++ run
    if (← peek) = (if single then '\'' else '"') then return done
    let between ← quotedBlanksFor folded {} [] ((← get).rest.length + 1)
    quotedFor single start (done ++ between) fuel

def quotedTail (start : Mark) : Scanner Unit := do
  let _ ← skipBlanks
  let s ← get
  let c ← peek
  let isFine := isLineEnd c
    || (0 < s.flowLevel && (c = ',' || c = '}' || c = ']' || c = ':'))
    || (c = ':' && start.line = s.mark.line)
  unless isFine do fail .quotedTail

/-- Reads a scalar in single or double quotes.  A value may follow it closely. -/
def quoted (single : Bool) : Scanner Unit := do
  markKey
  allowKey false
  let start ← here
  pass 1
  let text ← quotedFor single start [] ((← get).rest.length + 1)
  pass 1
  quotedTail start
  skipSpace
  modify fun s => { s with adjacentAt := s.mark.index }
  push (.scalar false (String.ofList text)) start

end Scanner
end Scriptorium.Yaml
