import Scriptorium.Yaml.Scan

/-!
# Block scalars of YAML

Scalars on lines of their own below a bar, which keeps the ends of lines, or below a greater-than
sign, which folds them.  Their indentation is that of their first line, or is told beside the sign;
a sign for the last ends of lines may stand there too.
-/
namespace Scriptorium.Yaml

/-- What becomes of the ends of lines at the end of a block scalar. -/
inductive Ending where
  /-- One is kept. -/
  | clip
  /-- None is kept. -/
  | strip
  /-- All are kept. -/
  | keep
  deriving DecidableEq, Repr, Inhabited

namespace Scanner

/-! ## 1. What stands beside the sign -/

/-- Takes the sign for the last ends of lines. -/
def ending : Scanner Ending := do
  match ← peek with
  | '+' =>
    pass 1
    return .keep
  | '-' =>
    pass 1
    return .strip
  | _ => return .clip

/-- Takes the digit for the indentation; without one it is zero. -/
def increment (start : Mark) : Scanner Nat := do
  let c ← peek
  if c = '0' then failAt .blockZero start
  if c.isDigit then
    pass 1
    return c.toNat - '0'.toNat
  else return 0

def blockHeader (start : Mark) : Scanner (Ending × Nat) := do
  let c ← peek
  if c = '+' || c = '-' then
    let e ← ending
    return (e, ← increment start)
  else if c.isDigit then
    let n ← increment start
    return (← ending, n)
  else return (.clip, 0)

/-! ## 2. Lines -/

/-- Takes the indentation of a line, at most so many columns, and the empty lines before it, whose
ends are the result. -/
def blockIndentFor (indent : Nat) (ends : List Char) : Nat → Scanner (List Char)
  | 0 => return ends
  | fuel + 1 => do
    let s ← get
    passBlanks ((s.rest.take (indent - s.mark.column)).takeWhile (· = ' ')).length
    if isBreak (← peek) then blockIndentFor indent (ends ++ (← lineBreak)) fuel else return ends

/-- Takes the indentation of the first line and the empty lines before it.  The result is the
greatest indentation of these lines, and the ends of the empty ones. -/
def firstIndentFor (widest : Nat) (ends : List Char) : Nat → Scanner (Nat × List Char)
  | 0 => return (widest, ends)
  | fuel + 1 => do
    let _ ← blanksWhile (· = ' ')
    let widest := max widest (← here).column
    if isBreak (← peek) then firstIndentFor widest (ends ++ (← lineBreak)) fuel
    else return (widest, ends)

def blockStart (told : Nat) : Scanner (Nat × List Char) := do
  let s ← get
  let fuel := s.rest.length + 1
  if 0 < told then
    let indent := if 0 ≤ s.indent then s.indent.toNat + told else told
    return (indent, ← blockIndentFor indent [] fuel)
  else
    let (widest, ends) ← firstIndentFor 0 [] fuel
    return (max widest (s.indent + 1).toNat, ends)

/-- What has been read of a block scalar. -/
structure BlockText where
  text : List Char := []
  /-- The end of the last line. -/
  last : List Char := []
  /-- The ends of the empty lines behind it. -/
  empty : List Char := []
  /-- Whether the last line begins with a blank. -/
  blank : Bool := false
  deriving Repr, Inhabited

/-- The text with what separates it from a line; `blank` tells whether that begins with a blank.
Ends of lines are folded only between lines without blanks in front. -/
def BlockText.joined (b : BlockText) (literal blank : Bool) : List Char :=
  if !literal && b.last ≠ [] && !b.blank && !blank then
    b.text ++ (if b.empty = [] then [' '] else b.empty)
  else b.text ++ b.last ++ b.empty

def blockLinesFor (literal : Bool) (indent : Nat) (b : BlockText) : Nat → Scanner BlockText
  | 0 => return b
  | fuel + 1 => do
    let s ← get
    if s.mark.column ≠ indent || s.rest = [] then return b
    if indent = 0 && (← isMark '.') then return b
    let blank := isBlank (← peek)
    let line ← takeLine
    let text := b.joined literal blank ++ line
    if (← get).rest = [] then return ⟨text, [], [], blank⟩
    let last ← lineBreak
    let empty ← blockIndentFor indent [] (s.rest.length + 1)
    blockLinesFor literal indent ⟨text, last, empty, blank⟩ fuel

/-- Reads a block scalar. -/
def block (literal : Bool) : Scanner Unit := do
  markKey
  allowKey true
  let start ← here
  pass 1
  dropIndents
  let (ending, told) ← blockHeader start
  let _ ← skipBlanks
  unless isLineEnd (← peek) do failAt .blockHeader start
  let first ← lineBreak
  if (← peek) = '\t' then failAt .blockTab start
  let (indent, empty) ← blockStart told
  let s ← get
  if s.rest = [] then
    let text :=
      if ending = .strip || s.mark.line = start.line then []
      else if ending = .clip || empty = [] then first
      else empty
    push (.scalar false (String.ofList text)) start
  else
    if s.mark.column < indent && s.indent < s.mark.column then fail .blockIndentation
    let b ← blockLinesFor literal indent { empty } (s.rest.length + 1)
    let s' ← get
    let newEnd := if s'.rest = [] && max indent 1 ≤ s'.mark.column then ['\n'] else []
    let tail := match ending with
      | .strip => []
      | .clip => b.last ++ newEnd
      | .keep => b.last ++ newEnd ++ b.empty
    push (.scalar false (String.ofList (b.text ++ tail))) s.mark

end Scanner
end Scriptorium.Yaml
