/-!
# UTF-8, read from the front

A byte string is read one character at a time.  `lead` says how it begins: with a whole
character, with bytes that no character begins with, with the start of a character that the
string is too short for, or not at all.  Two readings of a whole string rest on it:

* `lossy` never fails: each maximal piece that is no character, and a cut-off character at the
  end, becomes one replacement character;
* `complete` fails at the first piece that is no character, and otherwise parts the string into
  its whole characters and the cut-off character that may stand at its end.

Both are written with an accumulator, so that a long string costs no stack; `lossy_eq` and
`complete_eq` give the equations one would write without it.
-/
namespace Scriptorium

/-- A byte string. -/
abbrev Bytes := List UInt8

namespace Text.Utf8

/-! ## 1. How a byte string begins -/

/-- The character that stands for bytes that are no text. -/
def replacement : Char := '\uFFFD'

/-- What a first byte announces: how many bytes follow it, the range that the first of them must
lie in, and the bits of the code point that it carries itself. -/
structure Announced where
  tails : Nat
  low : UInt8
  high : UInt8
  bits : Nat
  deriving DecidableEq, Repr

/-- The first bytes of well-formed sequences.  The narrowed ranges after `E0`, `ED`, `F0` and `F4`
keep out overlong forms, surrogates and code points above `10FFFF`. -/
def announce (b : UInt8) : Option Announced :=
  if b < 0x80 then some ⟨0, 0x80, 0xBF, b.toNat⟩
  else if b < 0xC2 then none
  else if b < 0xE0 then some ⟨1, 0x80, 0xBF, b.toNat - 0xC0⟩
  else if b = 0xE0 then some ⟨2, 0xA0, 0xBF, 0⟩
  else if b = 0xED then some ⟨2, 0x80, 0x9F, 0xD⟩
  else if b < 0xF0 then some ⟨2, 0x80, 0xBF, b.toNat - 0xE0⟩
  else if b = 0xF0 then some ⟨3, 0x90, 0xBF, 0⟩
  else if b < 0xF4 then some ⟨3, 0x80, 0xBF, b.toNat - 0xF0⟩
  else if b = 0xF4 then some ⟨3, 0x80, 0x8F, 4⟩
  else none

/-- How a byte string begins. -/
inductive Lead where
  /-- It is empty. -/
  | done
  /-- With a whole character. -/
  | char (c : Char) (rest : Bytes)
  /-- With a maximal piece that no whole character begins with. -/
  | broken (rest : Bytes)
  /-- It is all of it the beginning of one character, and too short for it. -/
  | cut
  deriving DecidableEq, Repr

/-- Reads the bytes that must follow a first byte. -/
def follow : Nat → UInt8 → UInt8 → Nat → Bytes → Lead
  | 0, _, _, code, rest => .char (Char.ofNat code) rest
  | _ + 1, _, _, _, [] => .cut
  | n + 1, low, high, code, b :: rest =>
    if low ≤ b ∧ b ≤ high then follow n 0x80 0xBF (code * 64 + (b.toNat - 0x80)) rest
    else .broken (b :: rest)

/-- How a byte string begins. -/
def lead : Bytes → Lead
  | [] => .done
  | b :: rest =>
    match announce b with
    | none => .broken rest
    | some a => follow a.tails a.low a.high a.bits rest

theorem follow_char_length {n : Nat} {low high : UInt8} {code : Nat} {bs rest : Bytes} {c : Char}
    (h : follow n low high code bs = .char c rest) : rest.length ≤ bs.length := by
  induction n generalizing low high code bs with
  | zero => simp only [follow, Lead.char.injEq] at h; simp [h.2]
  | succ n ih =>
    cases bs with
    | nil => simp [follow] at h
    | cons b bs =>
      simp only [follow] at h
      split at h
      · have := ih h; simp; omega
      · simp at h

theorem follow_broken_length {n : Nat} {low high : UInt8} {code : Nat} {bs rest : Bytes}
    (h : follow n low high code bs = .broken rest) : rest.length ≤ bs.length := by
  induction n generalizing low high code bs with
  | zero => simp [follow] at h
  | succ n ih =>
    cases bs with
    | nil => simp [follow] at h
    | cons b bs =>
      simp only [follow] at h
      split at h
      · have := ih h; simp; omega
      · simp only [Lead.broken.injEq] at h; simp [← h]

/-- A whole character takes at least one byte. -/
theorem lead_char_length {bs rest : Bytes} {c : Char} (h : lead bs = .char c rest) :
    rest.length < bs.length := by
  cases bs with
  | nil => simp [lead] at h
  | cons b bs =>
    simp only [lead] at h
    split at h
    · simp at h
    · have := follow_char_length h; simp; omega

/-- A broken piece takes at least one byte. -/
theorem lead_broken_length {bs rest : Bytes} (h : lead bs = .broken rest) :
    rest.length < bs.length := by
  cases bs with
  | nil => simp [lead] at h
  | cons b bs =>
    simp only [lead] at h
    split at h
    · simp only [Lead.broken.injEq] at h; simp [← h]
    · have := follow_broken_length h; simp; omega

/-! ## 2. Reading without failing -/

/-- `lossy` after the characters `acc`, which stand in reverse. -/
def lossyOnto (acc : List Char) (bs : Bytes) : List Char :=
  match _h : lead bs with
  | .done => acc.reverse
  | .char c rest => lossyOnto (c :: acc) rest
  | .broken rest => lossyOnto (replacement :: acc) rest
  | .cut => (replacement :: acc).reverse
termination_by bs.length
decreasing_by
  · exact lead_char_length _h
  · exact lead_broken_length _h

/-- The text of a byte string, with a replacement character for each piece that is no text. -/
def lossy (bs : Bytes) : List Char := lossyOnto [] bs

theorem lossyOnto_eq (acc : List Char) (bs : Bytes) :
    lossyOnto acc bs = acc.reverse ++ lossy bs := by
  suffices h : ∀ n (acc : List Char) (bs : Bytes), bs.length ≤ n →
      lossyOnto acc bs = acc.reverse ++ lossyOnto [] bs from h _ acc bs (Nat.le_refl _)
  intro n
  induction n with
  | zero =>
    intro acc bs hn
    have hb : bs = [] := List.length_eq_zero_iff.mp (Nat.le_zero.mp hn)
    subst hb
    rw [lossyOnto, lossyOnto]; simp [lead]
  | succ n ih =>
    intro acc bs hn
    rw [lossyOnto, lossyOnto]
    cases hl : lead bs with
    | done => simp
    | char c rest =>
      have hr : rest.length ≤ n := by have := lead_char_length hl; omega
      simp only
      rw [ih (c :: acc) rest hr, ih [c] rest hr]; simp
    | broken rest =>
      have hr : rest.length ≤ n := by have := lead_broken_length hl; omega
      simp only
      rw [ih (replacement :: acc) rest hr, ih [replacement] rest hr]; simp
    | cut => simp

/-- `lossy` without its accumulator. -/
theorem lossy_eq (bs : Bytes) :
    lossy bs = match lead bs with
      | .done => []
      | .char c rest => c :: lossy rest
      | .broken rest => replacement :: lossy rest
      | .cut => [replacement] := by
  rw [lossy, lossyOnto]
  cases lead bs <;> simp [lossyOnto_eq]

/-! ## 3. Reading up to a fault -/

/-- `complete` after the characters `acc`, which stand in reverse. -/
def completeOnto (acc : List Char) (bs : Bytes) : Option (List Char × Bytes) :=
  match _h : lead bs with
  | .done => some (acc.reverse, [])
  | .char c rest => completeOnto (c :: acc) rest
  | .broken _ => none
  | .cut => some (acc.reverse, bs)
termination_by bs.length
decreasing_by exact lead_char_length _h

/-- The whole characters of a byte string and the cut-off character behind them, or none if it
holds a piece that no character begins with. -/
def complete (bs : Bytes) : Option (List Char × Bytes) := completeOnto [] bs

/-- `complete` without its accumulator. -/
theorem completeOnto_eq (acc : List Char) (bs : Bytes) :
    completeOnto acc bs = (complete bs).map fun (cs, held) => (acc.reverse ++ cs, held) := by
  suffices h : ∀ n (acc : List Char) (bs : Bytes), bs.length ≤ n →
      completeOnto acc bs
        = (completeOnto [] bs).map fun (cs, held) => (acc.reverse ++ cs, held) from
    h _ acc bs (Nat.le_refl _)
  intro n
  induction n with
  | zero =>
    intro acc bs hn
    have hb : bs = [] := List.length_eq_zero_iff.mp (Nat.le_zero.mp hn)
    subst hb
    rw [completeOnto, completeOnto]; simp [lead]
  | succ n ih =>
    intro acc bs hn
    rw [completeOnto, completeOnto]
    cases hl : lead bs with
    | done => simp
    | char c rest =>
      have hr : rest.length ≤ n := by have := lead_char_length hl; omega
      simp only
      rw [ih (c :: acc) rest hr, ih [c] rest hr]
      cases completeOnto [] rest <;> simp
    | broken rest => simp
    | cut => simp

theorem complete_eq (bs : Bytes) :
    complete bs = match lead bs with
      | .done => some ([], [])
      | .char c rest => (complete rest).map fun (cs, held) => (c :: cs, held)
      | .broken _ => none
      | .cut => some ([], bs) := by
  rw [complete, completeOnto]
  cases lead bs <;> simp [completeOnto_eq]

/-- The characters of a byte string that is text from end to end. -/
def decode? (bs : Bytes) : Option (List Char) :=
  match complete bs with
  | some (cs, []) => some cs
  | _ => none

/-- The bytes of a string. -/
def encode (s : String) : Bytes := s.toUTF8.toList

/-- The string of a byte string, with replacement characters where it is no text. -/
def lossyString (bs : Bytes) : String := String.ofList (lossy bs)

/-- The string of a byte string that is text. -/
def decodeString? (bs : Bytes) : Option String := (decode? bs).map String.ofList

end Text.Utf8
end Scriptorium
