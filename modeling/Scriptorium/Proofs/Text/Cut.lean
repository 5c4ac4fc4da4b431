import Mathlib.Data.List.TakeWhile
import Scriptorium.Text.Cut

/-!
# What is cut off a text

The operations on the characters of a text, told by what they part it into.  Taking a known
beginning off (`dropStart?_eq_some`) and parting at a separator undo putting together
(`pieces_join`); what is taken off the ends of a text passes the test, and what is kept begins and
ends with characters that do not (`dropEnd_eq`, `trim_eq`).
-/
namespace Scriptorium.Text

variable {p : Char → Bool} {separator : Char} {cs kept rest start : List Char}
  {ps : List (List Char)}

/-! ## 1. Beginnings -/

/-- A known beginning is taken off a text exactly if the text begins with it, and leaves the rest.
-/
theorem dropStart?_eq_some : dropStart? start cs = some rest ↔ cs = start ++ rest := by
  constructor
  · intro h
    rw [dropStart?] at h
    split at h
    · rename_i hstart
      obtain ⟨after, rfl⟩ := List.isPrefixOf_iff_prefix.mp hstart
      rw [List.drop_left, Option.some.injEq] at h
      rw [h]
    · nomatch h
  · rintro rfl
    have hstart : start.isPrefixOf (start ++ rest) := List.isPrefixOf_iff_prefix.mpr ⟨rest, rfl⟩
    rw [dropStart?, if_pos hstart, List.drop_left]

theorem dropStart?_append (start rest : List Char) : dropStart? start (start ++ rest) = some rest :=
  dropStart?_eq_some.mpr rfl

theorem dropStart?_eq_none : dropStart? start cs = none ↔ ¬ start <+: cs := by
  rw [Option.eq_none_iff_forall_ne_some]
  constructor
  · rintro h ⟨rest, rfl⟩
    exact h rest (dropStart?_append start rest)
  · intro h rest hrest
    exact h ⟨rest, (dropStart?_eq_some.mp hrest).symm⟩

/-! ## 2. Separators -/

/-- No piece of a text has the separator in it. -/
theorem not_mem_of_mem_pieces : ∀ piece ∈ pieces separator cs, separator ∉ piece := by
  induction cs with
  | nil => simp [pieces]
  | cons c rest ih =>
    rw [pieces]
    split
    · intro piece hpiece
      rcases List.mem_cons.mp hpiece with rfl | hpiece
      · exact List.not_mem_nil
      · exact ih piece hpiece
    · rename_i hc
      have hcons : ∀ piece : List Char, separator ∉ piece → separator ∉ c :: piece := by
        intro piece hpiece hmem
        rcases List.mem_cons.mp hmem with rfl | hmem
        · exact hc rfl
        · exact hpiece hmem
      split
      · intro piece hpiece
        obtain rfl := List.mem_singleton.mp hpiece
        exact hcons [] List.not_mem_nil
      · rename_i first others hrest
        rw [hrest] at ih
        intro piece hpiece
        rcases List.mem_cons.mp hpiece with rfl | hpiece
        · exact hcons first (ih first List.mem_cons_self)
        · exact ih piece (List.mem_cons_of_mem _ hpiece)

theorem pieces_separator (rest : List Char) :
    pieces separator (separator :: rest) = [] :: pieces separator rest := by
  rw [pieces, if_pos rfl]

theorem pieces_append_separator {piece : List Char} (h : separator ∉ piece) (rest : List Char) :
    pieces separator (piece ++ separator :: rest) = piece :: pieces separator rest := by
  induction piece with
  | nil => exact pieces_separator rest
  | cons c piece ih =>
    have hc : c ≠ separator := fun hc => h (hc ▸ List.mem_cons_self)
    rw [List.cons_append, pieces, if_neg hc, ih fun hmem => h (List.mem_cons_of_mem _ hmem)]

theorem pieces_of_not_mem (h : separator ∉ cs) : pieces separator cs = [cs] := by
  induction cs with
  | nil => rfl
  | cons c cs ih =>
    have hc : c ≠ separator := fun hc => h (hc ▸ List.mem_cons_self)
    rw [pieces, if_neg hc, ih fun hmem => h (List.mem_cons_of_mem _ hmem)]

/-- **Texts put together with separators are parted again**, if none of them has one within. -/
theorem pieces_join (hne : ps ≠ []) (h : ∀ piece ∈ ps, separator ∉ piece) :
    pieces separator (join separator ps) = ps := by
  induction ps with
  | nil => exact absurd rfl hne
  | cons piece ps ih =>
    have hpiece := h piece List.mem_cons_self
    by_cases hps : ps = []
    · subst hps
      exact pieces_of_not_mem hpiece
    · rw [join_cons separator piece hps, pieces_append_separator hpiece,
        ih hps fun other hother => h other (List.mem_cons_of_mem _ hother)]

/-! ## 3. Ends -/

/-- The characters `off` are what can be taken off before the text `kept`. -/
def StopsBefore (p : Char → Bool) (off kept : List Char) : Prop :=
  (∀ c ∈ off, p c) ∧ ∀ c, kept.head? = some c → p c = false

/-- The characters `off` are what can be taken off behind the text `kept`. -/
def StopsBehind (p : Char → Bool) (kept off : List Char) : Prop :=
  (∀ c ∈ off, p c) ∧ ∀ c, kept.getLast? = some c → p c = false

/-- What is left of a text is what begins with the first character that does not pass the test. -/
theorem dropWhile_eq :
    cs.dropWhile p = kept ↔ ∃ off, cs = off ++ kept ∧ StopsBefore p off kept := by
  constructor
  · rintro rfl
    refine ⟨cs.takeWhile p, List.takeWhile_append_dropWhile.symm, ?_, ?_⟩
    · exact fun c hc => List.mem_takeWhile_imp hc
    · intro c hc
      have hnot := List.head?_dropWhile_not p cs
      rw [hc] at hnot
      exact hnot
  · rintro ⟨off, rfl, hoff, hkept⟩
    rw [List.dropWhile_append_of_pos hoff]
    cases kept with
    | nil => rfl
    | cons c kept => rw [List.dropWhile_cons, if_neg (by simp [hkept c rfl])]

/-- What is left of a text is what ends with the last character that does not pass the test. -/
theorem dropEnd_eq : dropEnd p cs = kept ↔ ∃ off, cs = kept ++ off ∧ StopsBehind p kept off := by
  rw [dropEnd, List.reverse_eq_iff, dropWhile_eq]
  constructor
  · rintro ⟨off, hcs, hoff, hkept⟩
    refine ⟨off.reverse, ?_, fun c hc => hoff c (List.mem_reverse.mp hc), ?_⟩
    · rw [← List.reverse_reverse cs, hcs, List.reverse_append, List.reverse_reverse]
    · rwa [List.head?_reverse] at hkept
  · rintro ⟨off, rfl, hoff, hkept⟩
    refine ⟨off.reverse, List.reverse_append, fun c hc => hoff c (List.mem_reverse.mp hc), ?_⟩
    rwa [List.head?_reverse]

/-- A text is trimmed to what begins and ends with characters that do not pass the test. -/
theorem trim_eq : trim p cs = kept ↔
    ∃ before behind, cs = before ++ kept ++ behind
      ∧ StopsBefore p before kept ∧ StopsBehind p kept behind := by
  constructor
  · intro h
    obtain ⟨behind, hrest, hbehind⟩ := dropEnd_eq.mp h
    obtain ⟨before, hcs, hbefore, hhead⟩ := dropWhile_eq.mp hrest
    rw [← List.append_assoc] at hcs
    cases kept with
    | cons c kept => exact ⟨before, behind, hcs, ⟨hbefore, hhead⟩, hbehind⟩
    | nil => exact ⟨before, behind, hcs, ⟨hbefore, fun c hc => nomatch hc⟩, hbehind⟩
  · rintro ⟨before, behind, rfl, ⟨hbefore, hhead⟩, hbehind⟩
    rw [trim, List.append_assoc, List.dropWhile_append_of_pos hbefore]
    cases kept with
    | cons c kept =>
      have hdrop : ((c :: kept) ++ behind).dropWhile p = (c :: kept) ++ behind :=
        dropWhile_eq.mpr ⟨[], rfl, List.forall_mem_nil _, hhead⟩
      rw [hdrop]
      exact dropEnd_eq.mpr ⟨behind, rfl, hbehind⟩
    | nil =>
      have hdrop : ([] ++ behind).dropWhile p = [] :=
        dropWhile_eq.mpr ⟨behind, by simp, hbehind.1, fun c hc => nomatch hc⟩
      rw [hdrop]
      rfl

end Scriptorium.Text
