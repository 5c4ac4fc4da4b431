import Scriptorium.Proofs.Text.Utf8
import Scriptorium.Text.Decoder

/-!
# What a stream reads as, chunk by chunk

A decoder is to make of a stream what reading all of it at once would make of it, however the
stream is cut.  It does for every stream that is text (`allText_encode`), and for every other one
as long as no chunk tears a character (`allText_of_not_tears`).

A chunk tears a character if it ends within one and, together with what was held back, holds a
fault: then the decoder lets everything go, and the beginning of the character comes out as
replacement although the next chunk would have gone on with it.  Every tear shows, because the bytes
of a torn character give more characters than the character (`length_lt_of_tears`).
-/
namespace Scriptorium.Text

open Utf8

namespace Decoder

/-! ## 1. A whole stream -/

/-- The decoder after some inputs. -/
def after (d : Decoder) : List Input → Decoder
  | [] => d
  | .chunk bytes :: rest => (d.push bytes).2.after rest
  | .done :: rest => d.finish.2.after rest

theorem run_append (d : Decoder) (xs ys : List Input) :
    d.run (xs ++ ys) = d.run xs ++ (d.after xs).run ys := by
  induction xs generalizing d with
  | nil => rfl
  | cons x xs ih => cases x <;> simp [run, after, ih]

theorem after_append (d : Decoder) (xs ys : List Input) :
    d.after (xs ++ ys) = (d.after xs).after ys := by
  induction xs generalizing d with
  | nil => rfl
  | cons x xs ih => cases x <;> simp [after, ih]

/-- All that comes out of a decoder for the chunks of a stream and its end. -/
def allText (d : Decoder) (chunks : List Bytes) : List Char :=
  (d.run (chunks.map .chunk ++ [.done])).flatMap (·.getD [])

@[simp] theorem allText_nil (d : Decoder) : d.allText [] = lossy d.held := by
  obtain ⟨held⟩ := d
  cases held with
  | nil => simp [allText, run, finish]
  | cons b bs => simp [allText, run, finish]

@[simp] theorem allText_cons (d : Decoder) (c : Bytes) (cs : List Bytes) :
    d.allText (c :: cs) = (d.push c).1 ++ (d.push c).2.allText cs := by
  simp [allText, run]

theorem push_of_complete {d : Decoder} {c held : Bytes} {cs : List Char}
    (h : complete (d.held ++ c) = some (cs, held)) : d.push c = (cs, ⟨held⟩) := by
  simp only [push, h]

theorem push_of_fault {d : Decoder} {c : Bytes} (h : complete (d.held ++ c) = none) :
    d.push c = (lossy (d.held ++ c), fresh) := by
  simp only [push, h]

/-! ## 2. Streams that are text -/

/-- **However a text is cut, it comes out as it is**, here behind what a decoder holds back. -/
theorem allText_of_complete {d : Decoder} {chunks : List Bytes} {cs : List Char}
    (h : complete (d.held ++ chunks.flatten) = some (cs, [])) : d.allText chunks = cs := by
  induction chunks generalizing d cs with
  | nil =>
    have hs := settle_of_complete h
    rw [List.flatten_nil, List.append_nil] at hs
    rw [allText_nil, lossy_eq_settle, hs]
    simp
  | cons c chunks ih =>
    rw [List.flatten_cons, ← List.append_assoc] at h
    cases hc : complete (d.held ++ c) with
    | none =>
      rw [complete_append_none hc] at h
      exact absurd h (by simp)
    | some p =>
      obtain ⟨ds, held⟩ := p
      rw [complete_append hc] at h
      obtain ⟨⟨es, rest⟩, hrest, he⟩ := Option.map_eq_some_iff.mp h
      obtain ⟨rfl, rfl⟩ := Prod.mk.inj he
      rw [allText_cons, push_of_complete hc, ih hrest]

theorem allText_encode {chunks : List Bytes} {text : String} (h : chunks.flatten = encode text) :
    fresh.allText chunks = text.toList := by
  refine allText_of_complete ?_
  rw [h]
  exact complete_encode text

/-! ## 3. Torn characters -/

/-- Whether one of the chunks tears a character. -/
def tears (d : Decoder) : List Bytes → Bool
  | [] => false
  | c :: cs =>
    (complete (d.held ++ c)).isNone && goesOn (settle (d.held ++ c)).2 cs.flatten
      || (d.push c).2.tears cs

/-- What a chunk without a fault comes to. -/
theorem lossy_of_complete {bs held : Bytes} {cs : List Char} (h : complete bs = some (cs, held))
    (more : Bytes) : lossy (bs ++ more) = cs ++ lossy (held ++ more) := by
  rw [lossy_append, settle_of_complete h]

/-- What a decoder holds back after a chunk without a fault is cut off, if it is anything. -/
theorem goesOn_of_lossy {held : Bytes} (more : Bytes) (h : held = [] ∨ lead held = .cut) :
    (goesOn held more = false → lossy (held ++ more) = lossy held ++ lossy more)
      ∧ (goesOn held more = true →
          (lossy (held ++ more)).length < (lossy held ++ lossy more).length) := by
  rcases h with rfl | h
  · refine ⟨fun _ => by simp, fun hg => ?_⟩
    cases more <;> exact absurd hg (by simp [goesOn])
  · rw [lossy_of_cut h]
    exact ⟨lossy_of_not_goesOn h, length_lossy_of_goesOn h⟩

/-- **A stream of which no chunk tears a character comes out as if it was read at once.**  Where a
character is cut off at the end of a chunk, the next chunk goes on with it or there was nothing to
tear. -/
theorem allText_of_not_tears {d : Decoder} {chunks : List Bytes} (h : d.tears chunks = false) :
    d.allText chunks = lossy (d.held ++ chunks.flatten) := by
  induction chunks generalizing d with
  | nil => simp
  | cons c chunks ih =>
    obtain ⟨hhere, hrest⟩ := Bool.or_eq_false_iff.mp h
    rw [allText_cons, List.flatten_cons, ← List.append_assoc, ih hrest]
    cases hc : complete (d.held ++ c) with
    | some p => rw [push_of_complete hc, lossy_of_complete hc]
    | none =>
      rw [hc] at hhere
      have hheld := goesOn_of_lossy chunks.flatten (settle_snd (d.held ++ c))
      rw [push_of_fault hc, lossy_append (d.held ++ c), hheld.1 (by simpa using hhere),
        ← List.append_assoc, ← lossy_eq_settle]
      simp [fresh]

/-- **A torn character shows**: more characters come out than if the stream was read at once.  What
was held is given up as one replacement character, and the bytes that would have completed it are
shown as more of them. -/
theorem length_lt_of_tears {d : Decoder} {chunks : List Bytes} (h : d.tears chunks = true) :
    (lossy (d.held ++ chunks.flatten)).length < (d.allText chunks).length := by
  induction chunks generalizing d with
  | nil => exact absurd h (by simp [tears])
  | cons c chunks ih =>
    have hle : (lossy ((d.push c).2.held ++ chunks.flatten)).length
        ≤ ((d.push c).2.allText chunks).length := by
      cases hrest : (d.push c).2.tears chunks with
      | false => exact Nat.le_of_eq (congrArg List.length (allText_of_not_tears hrest).symm)
      | true => exact Nat.le_of_lt (ih hrest)
    rw [allText_cons, List.flatten_cons, ← List.append_assoc, List.length_append]
    cases hc : complete (d.held ++ c) with
    | some p =>
      obtain ⟨cs, held⟩ := p
      rw [tears, hc, push_of_complete hc] at h
      have hlt := ih (d := ⟨held⟩) (by simpa using h)
      rw [push_of_complete hc, lossy_of_complete hc, List.length_append]
      exact Nat.add_lt_add_left hlt cs.length
    | none =>
      have hheld := goesOn_of_lossy chunks.flatten (settle_snd (d.held ++ c))
      rw [tears, hc] at h
      rw [push_of_fault hc] at h hle ⊢
      rw [lossy_append (d.held ++ c), lossy_eq_settle (d.held ++ c)]
      simp only [fresh, List.nil_append, List.length_append] at hle hheld ⊢
      cases hg : goesOn (settle (d.held ++ c)).2 chunks.flatten with
      | true =>
        have hlt := hheld.2 hg
        omega
      | false =>
        have hlt := ih (d := fresh) (by simpa [hg] using h)
        rw [hheld.1 hg, List.length_append]
        simp only [fresh, List.nil_append] at hlt
        omega

/-- **What a decoder makes of a stream.**  The chunks of a stream come out as if all of it was read
at once exactly if none of them tears a character; if one does, more characters come out; and a
stream that is text comes out as that text, however it is cut. -/
theorem allText_eq_lossy_iff (chunks : List Bytes) :
    (fresh.allText chunks = lossy chunks.flatten ↔ fresh.tears chunks = false)
      ∧ (fresh.tears chunks = true →
          (lossy chunks.flatten).length < (fresh.allText chunks).length)
      ∧ ∀ text, chunks.flatten = encode text → fresh.allText chunks = text.toList := by
  refine ⟨⟨fun h => ?_, fun h => ?_⟩, fun h => ?_, fun text h => allText_encode h⟩
  · cases ht : fresh.tears chunks with
    | false => rfl
    | true =>
      have hlt := length_lt_of_tears ht
      rw [h] at hlt
      exact absurd hlt (Nat.lt_irrefl _)
  · exact allText_of_not_tears h
  · exact length_lt_of_tears h

/-- The letter `D8 B6` is torn because a byte that is no text comes before it in the same chunk. -/
theorem torn_behind_fault :
    fresh.allText [[0xFF, 0xD8], [0xB6]] ≠ lossy [0xFF, 0xD8, 0xB6] := by
  decide +kernel

end Decoder
end Scriptorium.Text
