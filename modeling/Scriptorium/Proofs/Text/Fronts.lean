import Scriptorium.Proofs.Text.Characters
import Scriptorium.Proofs.Text.Decoder

/-!
# What has come out so far

`Proofs.Text.Decoder` is about whole streams.  Here is what a decoder has shown after each chunk,
the end of the stream not yet known.

As long as the chunks are a text and at most one character that is cut off, it has shown all whole
characters of what has come and holds the cut-off character back (`shown_of_complete`).  These are
the most that any text at the beginning of the bytes can have (`Front`), so nothing is shown broken
and nothing later than it could be (`front_shown`).

Whatever the chunks are, what a decoder has shown takes at most three bytes for each byte that it
does not hold back (`size_shown_le`).
-/
namespace Scriptorium.Text

open Utf8

namespace Decoder

/-! ## 1. After some chunks -/

/-- What a decoder has shown after some chunks. -/
def shown (d : Decoder) (chunks : List Bytes) : List Char :=
  (d.run (chunks.map .chunk)).flatMap (·.getD [])

/-- The decoder after some chunks. -/
def past (d : Decoder) (chunks : List Bytes) : Decoder := d.after (chunks.map .chunk)

variable {d : Decoder} {chunks : List Bytes}

@[simp] theorem shown_nil (d : Decoder) : d.shown [] = [] := rfl

@[simp] theorem past_nil (d : Decoder) : d.past [] = d := rfl

theorem shown_cons (d : Decoder) (c : Bytes) (cs : List Bytes) :
    d.shown (c :: cs) = (d.push c).1 ++ (d.push c).2.shown cs := by simp [shown, run]

theorem past_cons (d : Decoder) (c : Bytes) (cs : List Bytes) :
    d.past (c :: cs) = (d.push c).2.past cs := rfl

/-- All that comes out is what was shown before the end, and what the end sets free. -/
theorem allText_eq (d : Decoder) (chunks : List Bytes) :
    d.allText chunks = d.shown chunks ++ (d.past chunks).finish.1.getD [] := by
  rw [allText, run_append, List.flatMap_append]
  simp [shown, past, run]

/-- What a decoder holds back is nothing, or the beginning of a character. -/
def HoldsCut (d : Decoder) : Prop := d.held = [] ∨ lead d.held = .cut

theorem holdsCut_fresh : HoldsCut fresh := .inl rfl

/-- **Without a fault, all whole characters have been shown and no other byte is held back.**  This
is as much as can be shown: what is held back may still become any of several characters. -/
theorem shown_of_complete {held : Bytes} {cs : List Char} (hd : d.HoldsCut)
    (h : complete (d.held ++ chunks.flatten) = some (cs, held)) :
    d.shown chunks = cs ∧ d.past chunks = ⟨held⟩ := by
  induction chunks generalizing d cs with
  | nil =>
    rw [List.flatten_nil, List.append_nil, complete_of_cut hd] at h
    obtain ⟨rfl, rfl⟩ := Prod.mk.inj (Option.some.inj h)
    exact ⟨rfl, rfl⟩
  | cons c chunks ih =>
    rw [List.flatten_cons, ← List.append_assoc] at h
    cases hc : complete (d.held ++ c) with
    | none =>
      rw [complete_append_none hc] at h
      exact absurd h (by simp)
    | some p =>
      obtain ⟨ds, held'⟩ := p
      rw [complete_append hc] at h
      obtain ⟨⟨es, rest⟩, hrest, he⟩ := Option.map_eq_some_iff.mp h
      obtain ⟨rfl, rfl⟩ := Prod.mk.inj he
      have hpush := push_of_complete hc
      have hheld : HoldsCut ⟨held'⟩ := held_of_complete hc
      obtain ⟨hshown, hpast⟩ := ih hheld hrest
      rw [shown_cons, past_cons, hpush]
      exact ⟨by rw [hshown], hpast⟩

/-! ## 2. The room that it takes -/

/-- A chunk of bytes is shown as three times its size at most, held bytes counted before and after;
a replacement character takes three bytes for one. -/
theorem size_push_le (d : Decoder) (c : Bytes) :
    (String.ofList (d.push c).1).utf8ByteSize + 3 * (d.push c).2.held.length
      ≤ 3 * (d.held.length + c.length) := by
  cases hc : complete (d.held ++ c) with
  | none =>
    have hle := size_lossy_le (d.held ++ c)
    rw [push_of_fault hc]
    simpa [fresh] using hle
  | some p =>
    obtain ⟨cs, held⟩ := p
    have hsize := size_of_complete hc
    rw [List.length_append] at hsize
    rw [push_of_complete hc]
    dsimp only
    omega

/-- **What has been shown takes at most three bytes for each byte that is not held back.** -/
theorem size_shown_le (d : Decoder) (chunks : List Bytes) :
    (String.ofList (d.shown chunks)).utf8ByteSize + 3 * (d.past chunks).held.length
      ≤ 3 * (d.held.length + chunks.flatten.length) := by
  induction chunks generalizing d with
  | nil => simp
  | cons c chunks ih =>
    have hpush := size_push_le d c
    have hrest := ih (d.push c).2
    rw [shown_cons, past_cons, String.ofList_append, String.utf8ByteSize_append, List.flatten_cons,
      List.length_append]
    omega

theorem size_finish_le (d : Decoder) :
    (String.ofList (d.finish.1.getD [])).utf8ByteSize ≤ 3 * d.held.length := by
  have hle := size_lossy_le d.held
  unfold finish
  split
  · simp
  · simpa using hle

/-- The end of a stream keeps within that. -/
theorem size_allText_le (chunks : List Bytes) :
    (String.ofList (fresh.allText chunks)).utf8ByteSize ≤ 3 * chunks.flatten.length := by
  have hshown := size_shown_le fresh chunks
  have hend := size_finish_le (fresh.past chunks)
  have hnone : fresh.held.length = 0 := rfl
  rw [allText_eq, String.ofList_append, String.utf8ByteSize_append]
  omega

/-! ## 3. Texts that end within a character -/

/-- A byte string that is a text, and behind it at most one character that is cut off. -/
def TextThenCut (bs : Bytes) : Prop :=
  ∃ text c cut, bs = encode text ++ cut ∧ cut <+: String.utf8EncodeChar c
    ∧ cut ≠ String.utf8EncodeChar c

/-- A byte string begins with the text `cs`, and with no text that is longer. -/
structure Front (cs : List Char) (bs : Bytes) : Prop where
  begins : encode (String.ofList cs) <+: bs
  longest : ∀ text, encode text <+: bs → text.toList <+: cs

/-- Text with a character that is cut off behind it is read as the text, and what was cut off is
held. -/
theorem complete_of_textThenCut {bs : Bytes} (h : TextThenCut bs) :
    ∃ cs held, complete bs = some (cs, held) := by
  obtain ⟨text, c, cut, rfl, hp, hne⟩ := h
  have hcut : cut = [] ∨ lead cut = .cut := by
    by_cases hnil : cut = []
    · exact .inl hnil
    · exact .inr (lead_cut_of_beginning hp hne hnil)
  refine ⟨text.toList, cut, ?_⟩
  rw [complete_encode_append, complete_of_cut hcut]
  simp

/-- A beginning of bytes without a fault has none. -/
theorem complete_of_prefix {bs more : Bytes} {p : List Char × Bytes}
    (h : complete (bs ++ more) = some p) : ∃ cs held, complete bs = some (cs, held) := by
  cases hb : complete bs with
  | some q => exact ⟨q.1, q.2, rfl⟩
  | none =>
    rw [complete_append_none hb] at h
    exact absurd h (by simp)

theorem front_of_complete {bs held : Bytes} {cs : List Char} (h : complete bs = some (cs, held)) :
    Front cs bs where
  begins := ⟨held, encode_of_complete h⟩
  longest text hp := by
    obtain ⟨more, rfl⟩ := hp
    rw [complete_encode_append] at h
    obtain ⟨⟨ds, held'⟩, -, he⟩ := Option.map_eq_some_iff.mp h
    exact ⟨ds, (Prod.mk.inj he).1⟩

/-- Bytes without a fault are a text exactly if no character is cut off at their end. -/
theorem text_iff_of_complete {bs held : Bytes} {cs : List Char}
    (h : complete bs = some (cs, held)) : (∃ text, bs = encode text) ↔ held = [] := by
  constructor
  · rintro ⟨text, rfl⟩
    rw [complete_encode] at h
    exact (Prod.mk.inj (Option.some.inj h)).2.symm
  · rintro rfl
    exact ⟨String.ofList cs, by simpa using (encode_of_complete h).symm⟩

theorem finish_of_held {held : Bytes} (h : held = [] ∨ lead held = .cut) :
    (held = [] → (finish ⟨held⟩).1 = none)
      ∧ (held ≠ [] → (finish ⟨held⟩).1 = some [replacement]) := by
  rcases h with rfl | h
  · exact ⟨fun _ => rfl, fun hne => absurd rfl hne⟩
  · cases held with
    | nil => exact absurd h (by simp [lead])
    | cons b held => exact ⟨fun hnil => absurd hnil (by simp), fun _ => by
        simp only [finish, lossy_of_cut h]⟩

/-- **Nothing is shown broken, and nothing later than it could be.**  However a text is cut that may
end within a character, after each chunk all whole characters of what has come have been shown and
nothing else; and if the stream ended there, a character that is cut off would come out as one
replacement, and otherwise nothing would come out. -/
theorem front_shown (h : TextThenCut chunks.flatten) (k : Nat) :
    Front (fresh.shown (chunks.take k)) (chunks.take k).flatten
      ∧ ((∃ text, (chunks.take k).flatten = encode text) →
          (fresh.past (chunks.take k)).finish.1 = none)
      ∧ ((¬∃ text, (chunks.take k).flatten = encode text) →
          (fresh.past (chunks.take k)).finish.1 = some [replacement]) := by
  obtain ⟨cs, held, hcomplete⟩ : ∃ cs held, complete (chunks.take k).flatten = some (cs, held) := by
    obtain ⟨_, _, hall⟩ := complete_of_textThenCut h
    rw [← List.take_append_drop k chunks, List.flatten_append] at hall
    exact complete_of_prefix hall
  obtain ⟨hshown, hpast⟩ := shown_of_complete holdsCut_fresh (by simpa [fresh] using hcomplete)
  obtain ⟨hnone, hone⟩ := finish_of_held (held_of_complete hcomplete)
  rw [hshown, hpast, text_iff_of_complete hcomplete]
  exact ⟨front_of_complete hcomplete, hnone, hone⟩

/-- A letter of two bytes is cut in its middle, an empty chunk comes, and the stream ends two bytes
into a sign of three. -/
theorem letter_then_cut_sign :
    TextThenCut [[0x61, 0xD8], [], [0xB6, 0xE2], [0x82]].flatten
      ∧ Front (fresh.shown [[0x61, 0xD8], []]) [0x61, 0xD8]
      ∧ fresh.shown [[0x61, 0xD8], []] = ['a']
      ∧ fresh.shown [[0x61, 0xD8], [], [0xB6, 0xE2]] = ['a', 'ض']
      ∧ (fresh.past [[0x61, 0xD8], [], [0xB6, 0xE2], [0x82]]).finish.1 = some [replacement] := by
  have h : TextThenCut [[0x61, 0xD8], [], [0xB6, 0xE2], [0x82]].flatten :=
    ⟨"aض", '€', [0xE2, 0x82], by decide +kernel, by decide, by decide⟩
  refine ⟨h, (front_shown h 2).1, by decide +kernel, by decide +kernel, (front_shown h 4).2.2 ?_⟩
  have hcut : complete [0x61, 0xD8, 0xB6, 0xE2, 0x82] = some (['a', 'ض'], [0xE2, 0x82]) := by
    decide +kernel
  exact fun htext => absurd ((text_iff_of_complete hcut).mp htext) (by decide)

end Decoder
end Scriptorium.Text
