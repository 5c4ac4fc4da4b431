/-!
# Similar words

A word that is not known may be a known one misspelled.  How similar two words are is measured by
the characters that they share at about the same place, and by how many of those stand in another
order; `Shared.isClose` compares the measure with seven tenths.
-/
namespace Scriptorium.CommandLine

/-- Takes the first character like `c` between two places off a list of places and characters. -/
def takeNear (c : Char) (low high : Nat) : List (Nat × Char) → Option (List (Nat × Char))
  | [] => none
  | (i, d) :: rest =>
    if low ≤ i ∧ i < high ∧ d = c then some rest
    else (takeNear c low high rest).map ((i, d) :: ·)

/-- The characters of `a` that find a partner near their place, in the order of `a`, and the places
and characters of `b` that are left without one. -/
def matched (range : Nat) : List (Nat × Char) → List (Nat × Char) → List Char × List (Nat × Char)
  | [], left => ([], left)
  | (i, c) :: rest, left =>
    match takeNear c (i - range) (i + range + 1) left with
    | some left' =>
      let (found, left'') := matched range rest left'
      (c :: found, left'')
    | none => matched range rest left

def placed (cs : List Char) : List (Nat × Char) := (List.range cs.length).zip cs

/-- What two words share. -/
structure Shared where
  /-- The lengths of the words. -/
  first : Nat
  second : Nat
  /-- The number of characters that they share. -/
  common : Nat
  /-- The number of pairs of those that stand in another order. -/
  swapped : Nat
  deriving DecidableEq, Repr

def Shared.ofWords (a b : List Char) : Shared :=
  let range := max a.length b.length / 2 - 1
  let (found, left) := matched range (placed a) (placed b)
  let partners := ((placed b).filter fun p => !left.contains p).map (·.2)
  let moved := ((found.zip partners).filter fun p => p.1 != p.2).length
  ⟨a.length, b.length, found.length, moved / 2⟩

/-- How similar the words are, from zero up to one for the same word: the mean of the shares of the
characters in common in the first word, in the second, and of those in order among them. -/
def Shared.measure (s : Shared) : Float :=
  if s.common = 0 then 0
  else
    let common := s.common.toFloat
    (common / s.first.toFloat + common / s.second.toFloat
      + (s.common - s.swapped).toFloat / common) / 3

def Shared.isClose (s : Shared) : Bool := 0.7 < s.measure

def Shared.closer (s t : Shared) : Bool := t.measure < s.measure

/-- The known words that a word may stand for, the most similar one last. -/
def similar (word : String) (known : List String) : List String :=
  let scored := known.map fun k => (Shared.ofWords word.toList k.toList, k)
  ((scored.filter fun p => p.1.isClose).mergeSort fun p q => !p.1.closer q.1).map (·.2)

end Scriptorium.CommandLine
