/-!
# Cutting texts

Small operations on the characters of a text: taking a known beginning off, parting a text at a
separator, and taking blanks or other characters off its ends.

`join_pieces` says that parting loses nothing but the separators.
-/
namespace Scriptorium.Text

/-- A character that separates words or lines. -/
def isSpace (c : Char) : Bool :=
  let n := c.toNat
  (0x09 ≤ n && n ≤ 0x0D) || n = 0x20 || n = 0x85 || n = 0xA0 || n = 0x1680
    || (0x2000 ≤ n && n ≤ 0x200A) || n = 0x2028 || n = 0x2029 || n = 0x202F || n = 0x205F
    || n = 0x3000

/-- What is left of a text behind its beginning, if it begins so. -/
def dropStart? (start cs : List Char) : Option (List Char) :=
  if start.isPrefixOf cs then some (cs.drop start.length) else none

/-- What stands before the first character that passes a test, and what stands from it on. -/
def upTo (p : Char → Bool) (cs : List Char) : List Char × List Char :=
  (cs.takeWhile fun c => !p c, cs.dropWhile fun c => !p c)

/-- The pieces between separators, empty ones included. -/
def pieces (separator : Char) : List Char → List (List Char)
  | [] => [[]]
  | c :: rest =>
    if c = separator then [] :: pieces separator rest
    else match pieces separator rest with
      | [] => [[c]]
      | piece :: others => (c :: piece) :: others

/-- A text without the characters at its end that pass a test. -/
def dropEnd (p : Char → Bool) (cs : List Char) : List Char := (cs.reverse.dropWhile p).reverse

/-- A text without the characters at either end that pass a test. -/
def trim (p : Char → Bool) (cs : List Char) : List Char := dropEnd p (cs.dropWhile p)

/-- Texts with a separator between them. -/
def join (separator : Char) : List (List Char) → List Char
  | [] => []
  | [piece] => piece
  | piece :: rest => piece ++ separator :: join separator rest

theorem pieces_ne_nil (separator : Char) (cs : List Char) : pieces separator cs ≠ [] := by
  cases cs with
  | nil => simp [pieces]
  | cons c rest =>
    unfold pieces
    split
    · simp
    · split <;> simp

theorem join_cons (separator : Char) (piece : List Char) {rest : List (List Char)}
    (h : rest ≠ []) : join separator (piece :: rest) = piece ++ separator :: join separator rest := by
  cases rest with
  | nil => exact absurd rfl h
  | cons _ _ => rfl

/-- Parting a text loses nothing but the separators. -/
theorem join_pieces (separator : Char) (cs : List Char) :
    join separator (pieces separator cs) = cs := by
  induction cs with
  | nil => rfl
  | cons c rest ih =>
    unfold pieces
    split
    · next h => rw [join_cons _ _ (pieces_ne_nil _ _), ih, h]; rfl
    · split
      · next h => exact absurd h (pieces_ne_nil _ _)
      · next piece others h =>
        rw [h] at ih
        cases others with
        | nil => simpa [join] using ih
        | cons o os => simpa [join] using ih

end Scriptorium.Text
