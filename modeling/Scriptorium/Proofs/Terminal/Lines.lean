import Mathlib.Data.List.TakeWhile
import Scriptorium.Proofs.Text.Characters
import Scriptorium.Terminal.Line

/-!
# The lines that are typed

A terminal types the lines of its local input one by one, each with a newline behind it (`typed`),
however it was ended there.  `Spells` says what the lines of an input are without reading it from
the front: a newline ends a line, a carriage return right in front of that newline belongs to the
ending, and what stands behind the last newline is a line too, unless it is nothing.

Every input is spelled by lines (`exists_spells`), and the terminal types these, up to the first one
that is no text (`Spells.typed_eq`): nothing is read beyond that line, and it is not typed itself.
That is all of them exactly if the input is text (`Spells.typed_all_iff`), since a newline is never a
part of another character (`isText_part`).
-/
namespace Scriptorium

/-! ## 1. Text and its parts -/

namespace Text.Utf8

/-- The bytes are text from end to end. -/
def isText (bs : Bytes) : Bool := (decode? bs).isSome

/-- Bytes are text if reading characters from them leaves nothing over. -/
theorem isText_eq_true {bs : Bytes} : isText bs = true ↔ ∃ cs, complete bs = some (cs, []) := by
  rw [isText, decode?]
  constructor
  · intro h
    split at h
    · rename_i cs hc
      exact ⟨cs, hc⟩
    · exact absurd h (by simp)
  · rintro ⟨cs, hc⟩
    simp [hc]

@[simp] theorem isText_nil : isText [] = true :=
  isText_eq_true.mpr ⟨[], by simp [complete_eq, lead]⟩

/-- A byte below the others is a character by itself. -/
theorem lead_low {b : UInt8} (hb : b < 0x80) (rest : Bytes) :
    ∃ c, lead (b :: rest) = .char c rest :=
  ⟨_, by simp [lead, announce, hb, follow]; rfl⟩

/-- It does not go on with a character that is cut off. -/
theorem complete_cut_low {bs : Bytes} {b : UInt8} (hc : lead bs = .cut) (hb : b < 0x80)
    (rest : Bytes) : complete (bs ++ b :: rest) = none := by
  obtain ⟨n, low, high, code, hlow, -, hmore⟩ := lead_cut hc
  have hout : ¬ (low ≤ b ∧ b ≤ high) := by
    rintro ⟨hle, -⟩
    exact absurd (UInt8.lt_of_lt_of_le hb (UInt8.le_trans hlow hle)) (UInt8.lt_irrefl b)
  rw [complete_eq, hmore, follow, if_neg hout]

/-- **Such a byte parts a text**: the whole is text if what stands in front of it and what stands
behind it are. -/
theorem isText_part {b : UInt8} (hb : b < 0x80) (front rest : Bytes) :
    isText (front ++ b :: rest) = (isText front && isText rest) := by
  rw [Bool.eq_iff_iff, Bool.and_eq_true_iff, isText_eq_true, isText_eq_true, isText_eq_true]
  cases hf : complete front with
  | none => simp [complete_append_none hf]
  | some p =>
    obtain ⟨cs, held⟩ := p
    rcases held_of_complete hf with rfl | hcut
    · obtain ⟨c, hc⟩ := lead_low hb rest
      rw [complete_append hf, List.nil_append, complete_eq (b :: rest), hc]
      cases hr : complete rest with
      | none => simp [hr]
      | some q => simp [hr, Prod.ext_iff]
    · have hne : held ≠ [] := by
        rintro rfl
        exact absurd hcut (by simp [lead])
      rw [complete_append hf, complete_cut_low hcut hb]
      simp [hne]

end Text.Utf8

namespace Terminal

open Text.Utf8

variable {input line rest : Bytes} {lines : List Bytes}

/-! ## 2. What is typed -/

/-- What is typed of an input, line by line. -/
def typed (input : Bytes) : List Bytes :=
  match _h : nextLine input with
  | .line line rest => (line ++ [newline]) :: typed rest
  | .unreadable | .atEnd => []
termination_by input.length
decreasing_by exact nextLine_length _h

/-- The first line is typed with a newline, and then whatever is typed of the rest. -/
theorem typed_of_line (h : nextLine input = .line line rest) :
    typed input = (line ++ [newline]) :: typed rest := by
  rw [typed]
  split
  · rename_i h'
    obtain ⟨rfl, rfl⟩ := Reading.line.inj (h'.symm.trans h)
    rfl
  · rename_i h'
    exact absurd (h'.symm.trans h) (by simp)
  · rename_i h'
    exact absurd (h'.symm.trans h) (by simp)

theorem typed_eq_nil (h : ∀ line rest, nextLine input ≠ .line line rest) : typed input = [] := by
  rw [typed]
  split
  · rename_i line rest h'
    exact absurd h' (h line rest)
  · rfl
  · rfl

/-! ## 3. What the lines of an input are -/

/-- The lines of an input, without their endings. -/
inductive Spells : Bytes → List Bytes → Prop
  | nothing : Spells [] []
  /-- The last line need not have an ending. -/
  | last {line : Bytes} : line ≠ [] → newline ∉ line → Spells line [line]
  | ended {line rest : Bytes} {lines : List Bytes} : newline ∉ line →
      line.getLast? ≠ some carriageReturn → Spells rest lines →
      Spells (line ++ newline :: rest) (line :: lines)
  | returned {line rest : Bytes} {lines : List Bytes} : newline ∉ line → Spells rest lines →
      Spells (line ++ carriageReturn :: newline :: rest) (line :: lines)

/-- What is read up to the first newline. -/
theorem nextLine_append (hline : newline ∉ line) (rest : Bytes) :
    nextLine (line ++ newline :: rest)
      = if isText line then .line (withoutReturn line) rest else .unreadable := by
  have hall : ∀ b ∈ line, (decide (b ≠ newline)) = true := by
    intro b hb
    simpa using fun he : b = newline => hline (he ▸ hb)
  have htake : (line ++ newline :: rest).takeWhile (· ≠ newline) = line := by
    rw [List.takeWhile_append_of_pos hall]
    simp
  have hdrop : (line ++ newline :: rest).dropWhile (· ≠ newline) = newline :: rest := by
    rw [List.dropWhile_append_of_pos hall]
    simp
  rw [nextLine, if_neg (by simp), htake, hdrop, isText]
  dsimp only
  cases decode? line with
  | none => rfl
  | some cs => rfl

/-- What is read if there is no newline. -/
theorem nextLine_last (hne : line ≠ []) (hline : newline ∉ line) :
    nextLine line = if isText line then .line line [] else .unreadable := by
  have hall : ∀ b ∈ line, (decide (b ≠ newline)) = true := by
    intro b hb
    simpa using fun he : b = newline => hline (he ▸ hb)
  have htake : line.takeWhile (· ≠ newline) = line := List.takeWhile_eq_self_iff.mpr hall
  have hdrop : line.dropWhile (· ≠ newline) = [] := List.dropWhile_eq_nil_iff.mpr hall
  rw [nextLine, if_neg hne, htake, hdrop, isText]
  dsimp only
  cases decode? line with
  | none => rfl
  | some cs => rfl

theorem withoutReturn_append (line : Bytes) : withoutReturn (line ++ [carriageReturn]) = line := by
  simp [withoutReturn]

theorem withoutReturn_of_ne (h : line.getLast? ≠ some carriageReturn) :
    withoutReturn line = line := if_neg h

/-- **What is typed are the lines of the input**, each with a newline, up to the first one that is
no text.  The reader decodes a line as a whole, so a line that is no text is not typed in part
either. -/
theorem Spells.typed_eq (h : Spells input lines) :
    typed input = (lines.takeWhile isText).map (· ++ [newline]) := by
  -- each case says what the next line is if it is text, and that nothing is read otherwise
  have hcons : ∀ {input line rest : Bytes} {lines : List Bytes},
      nextLine input = (if isText line then .line line rest else .unreadable) →
      typed rest = (lines.takeWhile isText).map (· ++ [newline]) →
      typed input = ((line :: lines).takeWhile isText).map (· ++ [newline]) := by
    intro input line rest lines hnext hrest
    by_cases hline : isText line = true
    · rw [if_pos hline] at hnext
      rw [typed_of_line hnext, hrest, List.takeWhile_cons_of_pos hline, List.map_cons]
    · rw [if_neg hline] at hnext
      rw [List.takeWhile_cons_of_neg hline, typed_eq_nil (by simp [hnext]), List.map_nil]
  have hnil : typed [] = (([] : List Bytes).takeWhile isText).map (· ++ [newline]) :=
    typed_eq_nil (by simp [nextLine])
  induction h with
  | nothing => exact hnil
  | last hne hline => exact hcons (nextLine_last hne hline) hnil
  | @ended line rest lines hline hreturn _ ih =>
    refine hcons ?_ ih
    rw [nextLine_append hline, withoutReturn_of_ne hreturn]
  | @returned line rest lines hline _ ih =>
    have hwith : newline ∉ line ++ [carriageReturn] := by
      simpa using ⟨hline, by decide⟩
    have htext : isText (line ++ [carriageReturn]) = isText line := by
      rw [isText_part (by decide), isText_nil, Bool.and_true]
    refine hcons ?_ ih
    rw [List.append_cons, nextLine_append hwith, withoutReturn_append, htext]

/-- **Every input has lines.**  So what is said of the lines of an input is said of every input. -/
theorem exists_spells (input : Bytes) : ∃ lines, Spells input lines := by
  by_cases hin : newline ∈ input
  · obtain ⟨front, rest, rfl, hfront⟩ := List.eq_append_cons_of_mem hin
    obtain ⟨lines, hlines⟩ := exists_spells rest
    by_cases hreturn : front.getLast? = some carriageReturn
    · obtain ⟨line, rfl⟩ := List.getLast?_eq_some_iff.mp hreturn
      have hline : newline ∉ line := fun h => hfront (List.mem_append_left _ h)
      rw [← List.append_cons]
      exact ⟨line :: lines, .returned hline hlines⟩
    · exact ⟨front :: lines, .ended hfront hreturn hlines⟩
  · by_cases hne : input = []
    · exact ⟨[], hne ▸ .nothing⟩
    · exact ⟨[input], .last hne hin⟩
termination_by input.length
decreasing_by
  subst_vars
  simp
  omega

/-- An input is text if its lines are: no character is cut by a newline. -/
theorem Spells.isText_iff (h : Spells input lines) :
    isText input = true ↔ ∀ line ∈ lines, isText line = true := by
  induction h with
  | nothing => simp
  | last _ _ => simp
  | ended _ _ _ ih =>
    rw [isText_part (by decide), Bool.and_eq_true_iff, ih, List.forall_mem_cons]
  | @returned line rest lines _ _ ih =>
    have hrest : isText (newline :: rest) = isText rest := by
      rw [← List.nil_append (newline :: rest), isText_part (by decide), isText_nil, Bool.true_and]
    rw [isText_part (by decide), hrest, Bool.and_eq_true_iff, ih, List.forall_mem_cons]

/-- **All lines are typed exactly if the input is text.** -/
theorem Spells.typed_all_iff (h : Spells input lines) :
    (typed input).flatten = (lines.map (· ++ [newline])).flatten ↔ isText input = true := by
  rw [h.typed_eq, h.isText_iff]
  have hsplit : lines.map (· ++ [newline]) = (lines.takeWhile isText).map (· ++ [newline])
      ++ (lines.dropWhile isText).map (· ++ [newline]) := by
    rw [← List.map_append, List.takeWhile_append_dropWhile]
  constructor
  · intro hall
    -- no line is empty once it has its newline, so nothing was left out
    rw [hsplit, List.flatten_append, List.self_eq_append_right, List.flatten_eq_nil_iff] at hall
    have hnone : lines.dropWhile isText = [] := List.eq_nil_iff_forall_not_mem.mpr (by simpa using hall)
    exact List.dropWhile_eq_nil_iff.mp hnone
  · intro hall
    rw [List.takeWhile_eq_self_iff.mpr hall]

/-- A carriage return in front of a newline, an empty line, and a last line without an ending; a
line that is no text ends it all. -/
example : typed [0x61, 0x0D, 0x0A, 0x0A, 0x62, 0x0D] = [[0x61, 0x0A], [0x0A], [0x62, 0x0D, 0x0A]]
    ∧ typed [0x61, 0x0A, 0xFF, 0x0A, 0x62, 0x0A] = [[0x61, 0x0A]] := by
  decide +kernel

end Terminal
end Scriptorium
