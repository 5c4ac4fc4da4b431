import Scriptorium.Proofs.Text.Fronts

/-!
# What a decoder holds back

Whatever has been pushed into a decoder, text or not, and however often a stream has ended
meanwhile, it holds back nothing, or some of the bytes of one character but not all of them
(`Beginning`).  That does not depend on what was held back before: a push without a fault leaves
what stands behind its last whole character, and a push with a fault leaves nothing
(`holdsCut_push`).

Reading up to a fault calls such bytes cut off.  `lead_cut_iff` says that these are the beginnings
of characters and nothing else: every range that a next byte has to lie in has a byte in it, and so
there always is a way on to a whole character (`follow_completes`).
-/
namespace Scriptorium.Text

open Utf8

namespace Utf8

/-! ## 1. Beginnings of characters -/

/-- The bytes are some of those of a character, from the first one on, but not all of them. -/
def Beginning (bs : Bytes) : Prop :=
  ∃ c rest, bs ≠ [] ∧ rest ≠ [] ∧ bs ++ rest = String.utf8EncodeChar c

/-- There are bytes for every character that a first byte announces. -/
theorem exists_follow_char (n : Nat) {low high : UInt8} (hrange : low ≤ high) (code : Nat) :
    ∃ rest c, follow n low high code rest = .char c [] := by
  induction n generalizing low high code with
  | zero => exact ⟨[], _, rfl⟩
  | succ n ih =>
    have htail : (0x80 : UInt8) ≤ 0xBF := by decide
    obtain ⟨rest, c, hrest⟩ := ih htail (code * 64 + (low.toNat - 0x80))
    refine ⟨low :: rest, c, ?_⟩
    rw [follow, if_pos ⟨UInt8.le_refl low, hrange⟩]
    exact hrest

/-- A character that is cut off after any of its bytes can be completed: what is still missing can
be filled up with the lowest bytes that are allowed. -/
theorem follow_completes {n : Nat} {low high : UInt8} {code : Nat} {bs : Bytes}
    (hrange : low ≤ high) (h : follow n low high code bs = .cut) :
    ∃ rest c, follow n low high code (bs ++ rest) = .char c [] := by
  induction n generalizing low high code bs with
  | zero => exact absurd h (by simp [follow])
  | succ n ih =>
    cases bs with
    | nil => exact exists_follow_char (n + 1) hrange code
    | cons b bs =>
      simp only [follow] at h
      split at h
      · rename_i hb
        obtain ⟨rest, c, hrest⟩ := ih (by decide) h
        refine ⟨rest, c, ?_⟩
        rw [List.cons_append, follow, if_pos hb]
        exact hrest
      · exact absurd h (by simp)

theorem announce_inhabited : ∀ n < 256, ∀ a, announce (UInt8.ofNat n) = some a →
    a.low ≤ a.high := by
  intro n hn a h
  have all : ∀ n < 256, (announce (UInt8.ofNat n)).all fun a => decide (a.low ≤ a.high) := by
    decide +kernel
  have hone := all n hn
  rw [h] at hone
  simpa using hone

/-- **Whatever is cut off can be completed.**  A beginning is only held back if there is a character
that it begins. -/
theorem lead_completes {bs : Bytes} (h : lead bs = .cut) :
    ∃ rest c, lead (bs ++ rest) = .char c [] := by
  cases bs with
  | nil => exact absurd h (by simp [lead])
  | cons b bs =>
    simp only [lead] at h
    split at h
    · exact absurd h (by simp)
    · rename_i a ha
      have hrange := announce_inhabited b.toNat b.toNat_lt a (by rwa [UInt8.ofNat_toNat])
      obtain ⟨rest, c, hrest⟩ := follow_completes hrange h
      refine ⟨rest, c, ?_⟩
      simp only [List.cons_append, lead, ha]
      exact hrest

/-- **What is cut off is the beginning of a character**, and the other way round.  So a reader never
holds back what can only be a fault. -/
theorem lead_cut_iff {bs : Bytes} : lead bs = .cut ↔ Beginning bs := by
  constructor
  · intro h
    obtain ⟨rest, c, hrest⟩ := lead_completes h
    refine ⟨c, rest, ?_, ?_, ?_⟩
    · rintro rfl
      exact absurd h (by simp [lead])
    · rintro rfl
      rw [List.append_nil, h] at hrest
      exact absurd hrest (by simp)
    · simpa using eq_of_lead_char hrest
  · rintro ⟨c, rest, hne, hrest, htogether⟩
    refine lead_cut_of_beginning ⟨rest, htogether⟩ ?_ hne
    intro hall
    rw [hall] at htogether
    exact hrest (List.append_right_eq_self.mp htogether)

/-- A character takes at most four bytes. -/
theorem Beginning.length_le {bs : Bytes} (h : Beginning bs) : bs.length ≤ 3 := by
  obtain ⟨c, rest, -, hrest, htogether⟩ := h
  have hlen : bs.length + rest.length = c.utf8Size := by
    rw [← List.length_append, htogether, String.length_utf8EncodeChar]
  have hpos := List.length_pos_iff.mpr hrest
  have hfour := Char.utf8Size_le_four c
  omega

theorem complete_encodeChar (c : Char) : complete (String.utf8EncodeChar c) = some ([c], []) := by
  have hlead := lead_encodeChar c []
  rw [List.append_nil] at hlead
  rw [complete_eq, hlead]
  simp [complete_eq, lead]

end Utf8

namespace Decoder

variable {d : Decoder}

/-! ## 2. Decoders -/

/-- Whatever a decoder has held back, after a push it holds back nothing, or the beginning of a
character. -/
theorem holdsCut_push (d : Decoder) (c : Bytes) : (d.push c).2.HoldsCut := by
  cases hc : complete (d.held ++ c) with
  | none =>
    rw [push_of_fault hc]
    exact holdsCut_fresh
  | some p =>
    rw [push_of_complete hc]
    exact held_of_complete hc

theorem holdsCut_finish (d : Decoder) : d.finish.2.HoldsCut := by
  rw [finish_snd]
  exact holdsCut_fresh

/-- **So it is after any inputs.** -/
theorem HoldsCut.after (hd : d.HoldsCut) (inputs : List Input) : (d.after inputs).HoldsCut := by
  induction inputs generalizing d with
  | nil => exact hd
  | cons i inputs ih =>
    cases i with
    | chunk bytes => exact ih (holdsCut_push d bytes)
    | done => exact ih (holdsCut_finish d)

/-- The end of a stream gives nothing for nothing, and one replacement for the beginning of a
character. -/
theorem HoldsCut.finish_eq (hd : d.HoldsCut) :
    (d.held = [] ∧ d.finish = (none, fresh))
      ∨ (Beginning d.held ∧ d.finish = (some [replacement], fresh)) := by
  obtain ⟨hnone, hone⟩ := finish_of_held hd
  rcases hd with hnil | hcut
  · exact .inl ⟨hnil, Prod.ext (hnone hnil) d.finish_snd⟩
  · have hbegins := lead_cut_iff.mp hcut
    have hne : d.held ≠ [] := by
      obtain ⟨_, _, hne, -⟩ := hbegins
      exact hne
    exact .inr ⟨hbegins, Prod.ext (hone hne) d.finish_snd⟩

theorem HoldsCut.length_le (hd : d.HoldsCut) : d.held.length ≤ 3 := by
  rcases hd with hnil | hcut
  · simp [hnil]
  · exact (lead_cut_iff.mp hcut).length_le

/-- The bytes that are missing set the character free, and nothing else. -/
theorem push_rest {c : Char} {rest : Bytes} (h : d.held ++ rest = String.utf8EncodeChar c) :
    d.push rest = ([c], fresh) :=
  push_of_complete (h ▸ complete_encodeChar c)

/-- **A decoder never holds back more than the beginning of one character.**  After any chunks and
any ends of streams, in any order, either it holds nothing back, and an end of the stream would give
nothing; or it holds back the beginning of a character, which is at most three bytes, and an end of
the stream would give one replacement and nothing else.  After that it is as new.  And whichever
character it is that the bytes held back are completed to, the bytes that were missing set just that
character free. -/
theorem holds_one_beginning (inputs : List Input) :
    ((fresh.after inputs).held = [] ∧ (fresh.after inputs).finish = (none, fresh)
        ∨ Beginning (fresh.after inputs).held
          ∧ (fresh.after inputs).finish = (some [replacement], fresh))
      ∧ (fresh.after inputs).held.length ≤ 3
      ∧ ∀ c rest, (fresh.after inputs).held ++ rest = String.utf8EncodeChar c →
        (fresh.after inputs).push rest = ([c], fresh) := by
  have hholds := holdsCut_fresh.after inputs
  exact ⟨hholds.finish_eq, hholds.length_le, fun c rest h => push_rest h⟩

/-- A fault in front of a cut-off character lets go of it too. -/
example : (fresh.after [.chunk [0xE2], .chunk [0x82], .done, .chunk [0x61, 0xF0, 0x9F, 0x98]]).held
      = [0xF0, 0x9F, 0x98]
    ∧ (fresh.after [.chunk [0xE2], .chunk [0x28, 0xF0, 0x9F, 0x98]]).held = [] := by
  decide +kernel

end Decoder
end Scriptorium.Text
