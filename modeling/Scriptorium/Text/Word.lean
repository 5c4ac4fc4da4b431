import Scriptorium.Text.LetterTable
import Scriptorium.Text.Lowercase

/-!
# Letters of names

Which characters a name without quotes may begin and go on with.
-/
namespace Scriptorium.Text

/-- A letter of any kind. -/
def isLetter (c : Char) : Bool :=
  if c.toNat < 0x80 then c.isAlpha else inRanges LetterTable.letters c.toNat

/-- A mark, digit or joining sign that may stand between letters. -/
def isJoined (c : Char) : Bool :=
  if c.toNat < 0x80 then c.isDigit || c = '_' || c = '^' || c = '\x60'
  else inRanges LetterTable.joined c.toNat

end Scriptorium.Text
