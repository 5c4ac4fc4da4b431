import Scriptorium.Json5.Reader

/-!
# JSON5 texts

JSON as it is written by hand: with comments, single quotes, names without quotes, a comma behind
the last item, and numbers that begin with a sign or a point, end with a point, or are hexadecimal.
`parse` gives the value of a text.  A text that is refused is shown in its message, with the place
marked, if it is not written as it should be.
-/
namespace Scriptorium.Json5

/-- Why a text is refused. -/
inductive Fault where
  /-- It is not written as it should be. -/
  | form (a : Attempts)
  /-- A number or a string in it stands for nothing. -/
  | content (t : Trouble)
  deriving DecidableEq, Repr

def Kind.listed : List Kind → String
  | [] => "unknown parsing error"
  | [a] => s!"expected {a.name}"
  | [a, b] => s!"expected {a.name} or {b.name}"
  | ks =>
    let names := ks.map (·.name)
    "expected " ++ ", ".intercalate names.dropLast ++ ", or " ++ names.getLast?.getD ""

def placeAfter (line column : Nat) : List Char → Nat × Nat
  | [] => (line, column)
  | '\r' :: '\n' :: rest | '\n' :: rest => placeAfter (line + 1) 1 rest
  | _ :: rest => placeAfter line (column + 1) rest

def Attempts.kinds (a : Attempts) : List Kind :=
  [.textEnd, .array, .boolean, .charEscape, .char, .hexEscape, .identifier, .nulEscape, .null,
    .number, .object, .string, .unicodeEscape].filter a.tried.contains

/-- A character that ends a line in what is shown. -/
def isEnd (c : Char) : Bool := c = '\n' || c = '\r'

/-- How a character is shown in its line.  The end of the line shows only where it is what is
marked. -/
def shownIn (ends : Bool) (c : Char) : Option Char :=
  if !isEnd c then some c
  else if !ends then none
  else some (if c = '\n' then '␊' else '␍')

/-- What is said of the farthest place in a text. -/
def Attempts.report (a : Attempts) (text : String) : String :=
  let cs := text.toList
  let passed := cs.take (cs.length - a.left)
  let behind := cs.drop (cs.length - a.left)
  let (line, column) := placeAfter 1 1 passed
  let front := (passed.reverse.takeWhile (· ≠ '\n')).reverse
  let back := behind.takeWhile (· ≠ '\n') ++ (behind.dropWhile (· ≠ '\n')).take 1
  let shown := (front ++ back).filterMap (shownIn (behind.head?.any isEnd))
  let under := (shown.take (column - 1)).map fun c => if c = '\t' then c else ' '
  let number := toString line
  let space := String.ofList (List.replicate number.length ' ')
  "\n".intercalate [
    s!"{space}--> {line}:{column}",
    s!"{space} |",
    s!"{number} | " ++ String.ofList shown,
    s!"{space} | " ++ String.ofList under ++ "^---",
    s!"{space} |",
    s!"{space} = {Kind.listed a.kinds}"]

/-- The message of a fault in a text. -/
def Fault.report (text : String) : Fault → String
  | .form a => a.report text
  | .content t => t.words

/-- The value of a text. -/
def parse (text : String) : Except Fault Json.Value :=
  let cs := text.toList
  match (Reader.document.run cs).run.run ⟨cs.length, []⟩ with
  | (some (raw, _), _) => raw.value.mapError .content
  | (none, a) => .error (.form a)

end Scriptorium.Json5
