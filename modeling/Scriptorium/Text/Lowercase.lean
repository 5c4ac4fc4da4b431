import Scriptorium.Text.CaseTable

/-!
# Small letters

`lowercase` writes a text in small letters by the rules of Unicode, without those of any one
language.  Three rules make it up:

* a capital with one small letter becomes that letter;
* the dotted capital `İ` becomes an `i` and a combining dot;
* a capital sigma becomes the final form `ς` at the end of a word and `σ` elsewhere.

Names are sorted by it, so distinct names may well have one lowercase form.
-/
namespace Scriptorium.Text

/-- Whether a table of ranges holds a code point. -/
def inRanges (table : List (Nat × Nat)) (n : Nat) : Bool :=
  table.any fun (first, last) => first ≤ n && n ≤ last

/-- A mark that does not end a word. -/
def isCaseIgnorable (c : Char) : Bool :=
  if c.toNat < 0x80 then c = '\'' || c = '.' || c = ':' || c = '^' || c = '\x60'
  else inRanges CaseTable.ignorable c.toNat

/-- A letter that has a case. -/
def isCased (c : Char) : Bool :=
  if c.toNat < 0x80 then c.isAlpha else inRanges CaseTable.cased c.toNat

/-- The small letter of a capital that has one. -/
def smallLetter? (n : Nat) : Option Nat :=
  CaseTable.smaller.findSome? fun (first, last, step, target) =>
    if first ≤ n ∧ n ≤ last ∧ (n - first) % step = 0 then some (target + (n - first)) else none

/-- The small form of a character by itself. -/
def lowerChar (c : Char) : List Char :=
  if c.toNat < 0x80 then [c.toLower]
  else if c = 'İ' then ['i', '\u0307']
  else match smallLetter? c.toNat with
    | some n => [Char.ofNat n]
    | none => [c]

/-- Whether, marks apart, the text begins with a letter that has a case. -/
def beginsCased (cs : List Char) : Bool :=
  match cs.dropWhile isCaseIgnorable with
  | c :: _ => isCased c
  | [] => false

/-- A text in small letters, after `before`, which stands in reverse. -/
def lowercaseAfter (before : List Char) : List Char → List Char
  | [] => []
  | c :: rest =>
    (if c = 'Σ' then [if beginsCased before && !beginsCased rest then 'ς' else 'σ']
      else lowerChar c) ++ lowercaseAfter (c :: before) rest

/-- A text in small letters. -/
def lowercase (cs : List Char) : List Char := lowercaseAfter [] cs

end Scriptorium.Text
