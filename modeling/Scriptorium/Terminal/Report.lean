import Scriptorium.Run.Error
import Scriptorium.Text.Cut

/-!
# Reports of failures

A failure is reported on the local error stream: what could not be done, and below it the causes,
each the cause of the one before it.  Several causes are numbered.
-/
namespace Scriptorium.Terminal

/-- A failure of the program. -/
structure Report where
  /-- What could not be done. -/
  failed : String
  /-- Why, the nearest cause first. -/
  causes : List String
  deriving DecidableEq, Repr

/-- A text with its first line behind `first` and the others behind `margin`. -/
def indented (first margin text : String) : String :=
  String.intercalate ("\n" ++ margin)
    ((Text.pieces '\n' text.toList).map String.ofList) |> (first ++ ·)

/-- A cause of a number. -/
def numbered (n : Nat) (cause : String) : String :=
  let digits := toString n
  let first := String.ofList (List.replicate (5 - digits.length) ' ') ++ digits ++ ": "
  indented first (String.ofList (List.replicate 7 ' ')) cause

namespace Report

/-- The lines of the causes. -/
def causeLines : List String → List String
  | [] => []
  | [cause] => [indented "    " "    " cause]
  | causes => ((List.range causes.length).zip causes).map fun (n, cause) => numbered n cause

/-- The text of a report. -/
def text (r : Report) : String :=
  let causes := if r.causes = [] then [] else "\n\nCaused by:" :: (causeLines r.causes).map ("\n" ++ ·)
  s!"Error: {r.failed}" ++ String.join causes ++ "\n"

end Report

/-- An error and the causes of it, the error first. -/
def causesOf (e : Run.Error) : List String :=
  match e with
  | .spawn _ cause | .io cause => [e.message, cause.message]
  | _ => [e.message]

end Scriptorium.Terminal
