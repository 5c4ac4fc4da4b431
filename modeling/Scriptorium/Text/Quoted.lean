import Scriptorium.Text.Lowercase
import Scriptorium.Text.UnshownTable

/-!
# Texts quoted in messages

A message that quotes a text puts it between quotation marks and spells out what could not be
read off: a quotation mark or a backslash inside, control characters, and characters that are not
shown by themselves, by their code points.
-/
namespace Scriptorium.Text

/-- How a character is shown inside quotation marks. -/
def quotedChar (c : Char) : List Char :=
  match c with
  | '"' => ['\\', '"']
  | '\\' => ['\\', '\\']
  | '\x00' => ['\\', '0']
  | '\t' => ['\\', 't']
  | '\r' => ['\\', 'r']
  | '\n' => ['\\', 'n']
  | c =>
    if c.toNat < 0x20 ∨ c.toNat = 0x7F ∨ (0x80 ≤ c.toNat ∧ inRanges UnshownTable.ranges c.toNat) then
      ['\\', 'u', '\x7b'] ++ Nat.toDigits 16 c.toNat ++ ['\x7d']
    else [c]

/-- A text in quotation marks. -/
def quoted (s : String) : String := String.ofList ('"' :: s.toList.flatMap quotedChar ++ ['"'])

end Scriptorium.Text
