import Scriptorium.Yaml.Token

/-!
# The state of parting a YAML text into tokens

A token may have to be told from what comes later: that a scalar is a key shows at the colon behind
it.  So tokens wait in a queue until it is certain that nothing is to be put before them, and a
place where a key may have begun is kept with the number of the token there.

The second section takes characters, the third blanks, ends of lines and comments, and the fourth
keeps the indentation: a list or table on lines of its own is open as long as lines are indented as
far as its first one.
-/
namespace Scriptorium.Yaml

/-! ## 1. The state -/

/-- A place where a key may have begun. -/
structure PossibleKey where
  /-- Whether it is still possible. -/
  possible : Bool := false
  /-- Whether there has to be one. -/
  required : Bool := false
  /-- The number of the token there. -/
  number : Nat := 0
  mark : Mark := {}
  deriving DecidableEq, Repr, Inhabited

/-- An indentation inside which another one has begun. -/
structure Indent where
  column : Int
  /-- Whether the inner one is that of a list or table, whose end is a token. -/
  isBlock : Bool
  deriving DecidableEq, Repr, Inhabited

/-- How far a text has been parted. -/
structure Scan where
  /-- The characters that are left. -/
  rest : List Char
  mark : Mark := {}
  /-- The tokens that have not been taken. -/
  queue : List Placed := []
  /-- How many tokens have been taken. -/
  taken : Nat := 0
  started : Bool := false
  /-- Whether the last token has been taken. -/
  ended : Bool := false
  /-- Whether a key may begin here. -/
  keyAllowed : Bool := false
  /-- The places where keys may have begun, the innermost brackets first. -/
  keys : List PossibleKey := []
  /-- Where a colon needs no blank behind it. -/
  adjacentAt : Nat := 0
  /-- The indentation of the innermost list or table. -/
  indent : Int := -1
  /-- The indentations around it, the innermost first. -/
  indents : List Indent := []
  /-- How many brackets are open. -/
  flowLevel : Nat := 0
  /-- Whether nothing but blanks has been seen on this line. -/
  leading : Bool := true
  /-- Whether a table in brackets has begun, so that keys need none of their own. -/
  tableBegun : Bool := false
  /-- For every open list in brackets, the innermost first, whether a pair without brackets of its
  own is open in it. -/
  pairs : List Bool := []
  deriving Repr, Inhabited

/-- A step of parting a text. -/
abbrev Scanner (α : Type) := StateT Scan (Except Fault) α

namespace Scanner

/-- Fails at a mark. -/
def failAt {α : Type} (t : Trouble) (m : Mark) : Scanner α := throw ⟨t, m⟩

/-- The place that has been reached. -/
def here : Scanner Mark := do return (← get).mark

/-- Fails at the place that has been reached. -/
def fail {α : Type} (t : Trouble) : Scanner α := do failAt t (← here)

/-- The next character. -/
def peek : Scanner Char := do return (← get).rest.headD endChar

/-- The character so many places ahead. -/
def peekAt (n : Nat) : Scanner Char := do return (← get).rest.getD n endChar

/-! ## 2. Characters -/

/-- Takes blanks. -/
def passBlanks (n : Nat) : Scanner Unit := modify fun s =>
  { s with
    rest := s.rest.drop n
    mark := { s.mark with index := s.mark.index + n, column := s.mark.column + n } }

/-- Takes characters that are no blanks. -/
def pass (n : Nat) : Scanner Unit := do
  passBlanks n
  modify ({ · with leading := false })

/-- Takes the characters that pass a test as blanks. -/
def blanksWhile (p : Char → Bool) : Scanner (List Char) := do
  let cs := (← get).rest.takeWhile p
  passBlanks cs.length
  return cs

/-- Takes the characters that pass a test. -/
def takeWhile (p : Char → Bool) : Scanner (List Char) := do
  let cs := (← get).rest.takeWhile p
  unless cs = [] do pass cs.length
  return cs

/-- Takes what is left of the line. -/
def takeLine : Scanner (List Char) := takeWhile fun c => !isLineEnd c

/-- Takes the end of a line, which counts as one character of text.  If there is none, nothing
happens. -/
def lineBreak : Scanner (List Char) := do
  let n ← match (← get).rest with
    | '\r' :: '\n' :: _ => pure 2
    | c :: _ => pure (if isBreak c then 1 else 0)
    | [] => pure 0
  if n = 0 then return []
  modify fun s =>
    { s with
      rest := s.rest.drop n
      mark := ⟨s.mark.index + n, s.mark.line + 1, 0⟩
      leading := true }
  return ['\n']

/-- Whether a mark between documents stands at the place that has been reached. -/
def isMark (c : Char) : Scanner Bool := do
  let cs := (← get).rest
  return cs.take 3 = [c, c, c] && isGap (cs.getD 3 endChar)

/-- Whether a document begins or ends at the place that has been reached. -/
def isDocumentMark : Scanner Bool := do return (← isMark '-') || (← isMark '.')

/-- Puts a token behind all others. -/
def push (t : Token) (m : Mark) : Scanner Unit :=
  modify fun s => { s with queue := s.queue ++ [⟨m, t⟩] }

/-- Puts a token before the one of a number. -/
def insert (number : Nat) (t : Token) (m : Mark) : Scanner Unit :=
  modify fun s => { s with queue := s.queue.insertIdx (number - s.taken) ⟨m, t⟩ }

/-- Lets keys begin here, or not. -/
def allowKey (b : Bool) : Scanner Unit := modify ({ · with keyAllowed := b })

/-! ## 3. Blanks and comments -/

/-- The blanks between two things. -/
structure Blanks where
  spaces : Bool
  tabs : Bool
  deriving DecidableEq, Repr

/-- Takes the blanks on a line and the comment behind them. -/
def skipBlanks : Scanner Blanks := do
  let bs ← blanksWhile isBlank
  if (← peek) = '#' then
    if bs = [] then fail .gluedComment
    let _ ← blanksWhile fun c => !isLineEnd c
  return ⟨bs.contains ' ', bs.contains '\t'⟩

/-- Takes the end of a line.  Outside of brackets a key may begin behind it. -/
def newLine : Scanner Unit := do
  let _ ← lineBreak
  if (← get).flowLevel = 0 then allowKey true

/-- Takes blanks, comments and ends of lines.  Tabs are not to be part of an indentation. -/
def skipSpaceFor : Nat → Scanner Unit
  | 0 => return
  | fuel + 1 => do
    let s ← get
    let c ← peek
    if c = '\t' && s.indents ≠ [] && s.leading && s.mark.column < s.indent then
      let _ ← skipBlanks
      unless isLineEnd (← peek) do fail .tabInIndentation
      skipSpaceFor fuel
    else if isBlank c then
      passBlanks 1
      skipSpaceFor fuel
    else if isBreak c then
      newLine
      skipSpaceFor fuel
    else if c = '#' then
      let _ ← takeLine
      skipSpaceFor fuel

/-- Takes all that may stand between two tokens. -/
def skipSpace : Scanner Unit := do skipSpaceFor ((← get).rest.length + 1)

/-- Takes what follows a question mark: blanks without tabs, comments and ends of lines. -/
def skipKeySpaceFor (found : Bool) : Nat → Scanner Unit
  | 0 => return
  | fuel + 1 => do
    let c ← peek
    if c = ' ' then
      passBlanks 1
      skipKeySpaceFor true fuel
    else if isBreak c then
      newLine
      skipKeySpaceFor true fuel
    else if c = '#' then
      let _ ← takeLine
      skipKeySpaceFor found fuel
    else unless found do fail .noBlank

/-- Takes what follows a question mark, which is not to be nothing. -/
def skipKeySpace : Scanner Unit := do skipKeySpaceFor false ((← get).rest.length + 1)

/-! ## 4. Indentation and keys -/

/-- Begins a list or table on lines of its own, unless one is open that is indented as far.  The
token of the beginning comes before the token of a number, or behind all others. -/
def openBlock (column : Nat) (number : Option Nat) (t : Token) (m : Mark) : Scanner Unit := do
  unless (← get).flowLevel = 0 do return
  modify fun s => match s.indents with
    | i :: outer =>
      if s.indent ≤ column && !i.isBlock then { s with indent := i.column, indents := outer }
      else s
    | [] => s
  if (← get).indent < column then
    modify fun s => { s with indent := column, indents := ⟨s.indent, true⟩ :: s.indents }
    match number with
    | some n => insert n t m
    | none => push t m

/-- Lets what follows be indented by one column more. -/
def indentByOne : Scanner Unit := modify fun s =>
  match s.indents with
  | i :: _ =>
    if s.flowLevel = 0 && i.isBlock then
      { s with indent := s.indent + 1, indents := ⟨s.indent, false⟩ :: s.indents }
    else s
  | [] => s

/-- The state behind the ends of all lists and tables that are indented farther than a column. -/
def closedTo (column : Int) (s : Scan) : List Indent → Scan
  | [] => s
  | i :: outer =>
    if column < s.indent then
      closedTo column
        { s with
          indent := i.column
          indents := outer
          queue := if i.isBlock then s.queue ++ [⟨s.mark, .blockEnd⟩] else s.queue }
        outer
    else s

/-- Ends all lists and tables that are indented farther than a column. -/
def closeBlocks (column : Int) : Scanner Unit := modify fun s =>
  if s.flowLevel = 0 then closedTo column s s.indents else s

/-- Gives up the indentations that are not those of lists and tables. -/
def dropIndents : Scanner Unit := modify fun s =>
  let passed := s.indents.takeWhile (!·.isBlock)
  { s with
    indent := (passed.getLast?.map (·.column)).getD s.indent
    indents := s.indents.drop passed.length }

/-- Keeps the place that has been reached as one where a key may begin. -/
def markKey : Scanner Unit := modify fun s =>
  if s.keyAllowed then
    let required := s.flowLevel = 0 && s.indent = s.mark.column
      && (s.indents.head?.map (·.isBlock)).getD false
    { s with keys := ⟨true, required, s.taken + s.queue.length, s.mark⟩ :: s.keys.tail }
  else s

/-- Gives up the innermost place where a key may have begun. -/
def dropKey : Scanner Unit := do
  match (← get).keys with
  | k :: outer =>
    if k.possible && k.required then fail .keyExpected
    modify ({ · with keys := { k with possible := false } :: outer })
  | [] => return

/-- Whether a key cannot go on this far.  Outside of brackets it stands on one line and has at most
1024 characters. -/
def isStale (s : Scan) (k : PossibleKey) : Bool :=
  k.possible && s.flowLevel = 0
    && (k.mark.line < s.mark.line || k.mark.index + 1024 < s.mark.index)

/-- Gives up all places where no key can have begun. -/
def dropStaleKeys : Scanner Unit := do
  let s ← get
  if s.keys.any fun k => isStale s k && k.required then fail .keyWithoutColon
  set { s with
    keys := s.keys.map fun k => if isStale s k then { k with possible := false } else k }

end Scanner
end Scriptorium.Yaml
