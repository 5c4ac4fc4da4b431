import Scriptorium.Text.Utf8

/-!
# Lines of the local input

The local input of a terminal is read line by line.  A line ends with a newline, and a carriage
return right in front of that newline belongs to the ending; the last line need not have one.
Nothing is read beyond a line that is no text.
-/
namespace Scriptorium.Terminal

/-- The byte that ends a line. -/
def newline : UInt8 := 0x0A

/-- The byte that may stand in front of it. -/
def carriageReturn : UInt8 := 0x0D

/-- What comes next on the local input. -/
inductive Reading where
  /-- A line without its ending, and what is left. -/
  | line (bytes rest : Bytes)
  /-- A line that is no text. -/
  | unreadable
  | atEnd
  deriving DecidableEq, Repr

/-- A line without a carriage return at its end. -/
def withoutReturn (line : Bytes) : Bytes :=
  if line.getLast? = some carriageReturn then line.dropLast else line

/-- Reads the next line. -/
def nextLine (input : Bytes) : Reading :=
  if input = [] then .atEnd
  else
    let line := input.takeWhile (· ≠ newline)
    if (Text.Utf8.decode? line).isNone then .unreadable
    else match input.dropWhile (· ≠ newline) with
      | [] => .line line []
      | _ :: rest => .line (withoutReturn line) rest

theorem nextLine_length {input line rest : Bytes} (h : nextLine input = .line line rest) :
    rest.length < input.length := by
  unfold nextLine at h
  split at h
  · exact absurd h nofun
  · next hne =>
    have hpos := List.length_pos_iff.2 hne
    have hs := (List.dropWhile_suffix (l := input) (· ≠ newline)).length_le
    simp only at h
    split at h
    · exact absurd h nofun
    · split at h <;> simp only [Reading.line.injEq] at h <;> obtain ⟨-, rfl⟩ := h
      · simpa using hpos
      · next hd =>
        rw [hd, List.length_cons] at hs
        omega

end Scriptorium.Terminal
