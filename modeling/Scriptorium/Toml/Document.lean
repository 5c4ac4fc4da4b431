import Scriptorium.Toml.Entry

/-!
# TOML documents

A document is read line by line.  A header opens a table, which takes the values of the lines
behind it; the lines in front of the first header belong to the document itself.
-/
namespace Scriptorium.Toml

/-- What has been read of a document: all of it, and the names that lead to the open table. -/
structure Document where
  members : Members := []
  opened : List String := []
  deriving Repr

namespace Reader

/-! ## 1. Lines -/

/-- Reads a header: that of a table, or that of an item of a list of tables. -/
def header (d : Document) : Reader Document :=
  reading .header do
    let double := (← get).take 2 = ['[', '[']
    if (← get).length < 2 then failHere
    let (opening, closing) := if double then (['[', '['], [']', ']']) else (['['], [']'])
    checked
      (do
        exactly opening
        let k ← final key
        instead ["\x60.\x60", "\x60" ++ String.ofList closing ++ "\x60"] (final (exactly closing))
        final restOfLine
        return k)
      fun (path, last) =>
        ((if double then Members.openItem? else Members.openTable?) path last d.members).mapError
          .clash |>.map fun members => ⟨members, path ++ [last]⟩

/-- Reads a key and its value. -/
def entry (d : Document) : Reader Document :=
  checked
    (do
      let k ← key
      final do
        equals
        let v ← value
        restOfLine
        return (k, v))
    fun ((path, last), v) =>
      (Members.within (Members.put? (some d.opened) v last [] path) [] d.opened d.members).mapError
        .clash |>.map fun members => { d with members }

/-- Reads the lines that are left. -/
def linesFrom : Nat → Document → Reader Document
  | 0, d => return d
  | fuel + 1, d => do
    skipBlanks
    match ← peek with
    | none => return d
    | some '#' => do
      comment
      lineEnd
      linesFrom fuel d
    | some '\n' | some '\r' => do
      orElse newline failHere
      linesFrom fuel d
    | some '[' => linesFrom fuel (← header d)
    | some _ => linesFrom fuel (← entry d)

end Reader

/-! ## 2. Documents -/

def byteOrderMark : Char := '\uFEFF'

def contents (text : String) : List Char :=
  match text.toList with
  | c :: rest => if c = byteOrderMark then rest else c :: rest
  | [] => []

/-- Reads a whole text as the members of a table. -/
def parse (text : String) : Except Fault (List (String × Value)) := do
  let cs := contents text
  let (d, _) ← (Reader.linesFrom (cs.length + 1) {}).run cs
  return valuesOf d.members

/-! ## 3. Reports -/

/-- The column of a place on its line, of which `before` comes before it.  It is counted in
characters, but before a character that is more than one byte long it is counted in bytes. -/
def columnBefore (before : List Char) (next : Option Char) : Nat :=
  if next.any fun c => 0x80 ≤ c.toNat then (before.map Char.utf8Size).foldl (· + ·) 0
  else before.length

/-- The text of a fault: where it is, the line it is on, and what is wrong.  The end of the text is
the place behind its last character. -/
def Fault.report (f : Fault) (text : String) : String :=
  let cs := text.toList
  let place := if f.left = 0 then cs.length - 1 else cs.length - f.left
  let before := cs.take place
  let next := if f.left = 0 then none else cs[place]?
  let line := before.count '\n'
  let start := (before.reverse.takeWhile (· ≠ '\n')).reverse
  let column := columnBefore start next + if f.left = 0 then 1 else 0
  let shown := String.ofList ((Text.pieces '\n' cs)[line]?.getD [])
  let number := toString (line + 1)
  let margin := String.ofList (List.replicate (number.length + 1) ' ') ++ "|"
  let pointer := List.replicate (column + 1) ' ' ++ List.replicate (next.elim 1 Char.utf8Size) '^'
  s!"TOML parse error at line {number}, column {column + 1}\n{margin}\n{number} | {shown}\n"
    ++ s!"{margin}{String.ofList pointer}\n{f.message}\n"

end Scriptorium.Toml
