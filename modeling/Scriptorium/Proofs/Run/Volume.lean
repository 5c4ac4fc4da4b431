import Scriptorium.Proofs.Run.Transcript
import Scriptorium.Proofs.Text.Fronts

/-!
# How long a transcript can get

The ceiling counts the bytes that are read, but what is kept of them is text, which replacement
characters can make longer, and which may come with a later chunk than the bytes it is read from.
This module bounds the text by the ceiling all the same, at every moment of a run
(`size_transcript_le`).

The chunks of a stream that are kept are those that fit in below the ceiling: all before the first
one that there is no room for (`fitting`, `Watch.text_eq_fitting`).  They are a beginning of what
the pump has handed on, and of each such beginning the text is bounded by the bytes that it accounts
for, and is those bytes if they are a text (`Bounded`, `Course.bounded`).
-/
namespace Scriptorium.Run

open Text

/-! ## 1. The chunks that fit in -/

/-- The number of bytes that chunks account for. -/
def bytesOf (cs : List Chunk) : Nat := (cs.map (·.bytes)).sum

/-- The chunks before the first one that there is no room for. -/
def fitting : Nat → List Chunk → List Chunk
  | _, [] => []
  | room, c :: cs => if c.bytes ≤ room then c :: fitting (room - c.bytes) cs else []

@[simp] theorem bytesOf_nil : bytesOf [] = 0 := rfl

@[simp] theorem bytesOf_cons (c : Chunk) (cs : List Chunk) :
    bytesOf (c :: cs) = c.bytes + bytesOf cs := by simp [bytesOf]

theorem fitting_prefix (room : Nat) (cs : List Chunk) : fitting room cs <+: cs := by
  induction cs generalizing room with
  | nil => exact List.prefix_rfl
  | cons c cs ih =>
    rw [fitting]
    split
    · exact List.cons_prefix_cons.mpr ⟨rfl, ih _⟩
    · exact List.nil_prefix

/-- The chunks that there is room for take no more room than there is. -/
theorem bytesOf_fitting_le (room : Nat) (cs : List Chunk) : bytesOf (fitting room cs) ≤ room := by
  induction cs generalizing room with
  | nil => exact Nat.zero_le _
  | cons c cs ih =>
    rw [fitting]
    split
    · have := ih (room - c.bytes)
      rw [bytesOf_cons]
      omega
    · exact Nat.zero_le _

/-- One more chunk is kept exactly if there is room for it and for all before it. -/
theorem fitting_concat (room : Nat) (cs : List Chunk) (c : Chunk) :
    fitting room (cs ++ [c])
      = if bytesOf cs + c.bytes ≤ room then cs ++ [c] else fitting room cs := by
  induction cs generalizing room with
  | nil => simp [fitting]
  | cons d cs ih =>
    rw [List.cons_append, fitting, fitting, bytesOf_cons]
    by_cases hd : d.bytes ≤ room
    · rw [if_pos hd, if_pos hd, ih]
      by_cases hc : bytesOf cs + c.bytes ≤ room - d.bytes
      · rw [if_pos hc, if_pos (by omega)]
      · rw [if_neg hc, if_neg (by omega)]
    · rw [if_neg hd, if_neg hd, if_neg (by omega)]

theorem fitting_of_le {room : Nat} {cs : List Chunk} (h : bytesOf cs ≤ room) :
    fitting room cs = cs := by
  induction cs generalizing room with
  | nil => rfl
  | cons c cs ih =>
    rw [bytesOf_cons] at h
    rw [fitting, if_pos (by omega), ih (by omega)]

/-! ## 2. What is kept -/

/-- What is passed on of a chunk, if there is room for it. -/
theorem Supervisor.step_payloads_eq (s : Supervisor) (ceiling now : Nat) (run : Id) (e : Event)
    (stream : Stream) :
    payloadsOf stream ((s.step ceiling now e).2.event? run).toList
      = if (s.transcript stream).bytes + bytesOf (e.chunkFrom? stream).toList ≤ ceiling then
          (textsOf (e.chunkFrom? stream).toList).filter (· ≠ "")
        else [] := by
  cases e with
  | chunk c =>
    cases c with
    | data from_ text bytes =>
      by_cases hf : from_ = stream
      · subst hf
        have hchunk : (Event.chunk (.data from_ text bytes)).chunkFrom? from_
            = some (.data from_ text bytes) := by simp [Event.chunkFrom?, Chunk.stream]
        rw [hchunk]
        simp only [step, Option.toList_some, bytesOf_cons, bytesOf_nil, Chunk.bytes]
        by_cases hroom : (s.transcript from_).bytes + bytes ≤ ceiling
        · rw [if_neg (Nat.not_lt.mpr hroom)]
          by_cases ht : text = "" <;>
            simp [Reaction.event?, payloadsOf, textsOf, Chunk.text?, ht, hroom]
        · rw [if_pos (Nat.lt_of_not_le hroom)]
          simp [Reaction.event?, payloadsOf, hroom]
      · have hchunk : (Event.chunk (.data from_ text bytes)).chunkFrom? stream = none := by
          simp [Event.chunkFrom?, Chunk.stream, hf]
        rw [hchunk]
        simp only [step]
        split
        · simp [Reaction.event?, payloadsOf, textsOf]
        · split <;> simp [Reaction.event?, payloadsOf, textsOf, hf]
    | failed from_ cause =>
      by_cases hf : from_ = stream <;>
        simp [step, Reaction.event?, payloadsOf, Event.chunkFrom?, Chunk.stream, textsOf,
          Chunk.text?, hf]
  | cancelled => simp [step, Reaction.event?, payloadsOf, Event.chunkFrom?, textsOf]
  | timedOut => simp [step, Reaction.event?, payloadsOf, Event.chunkFrom?, textsOf]
  | _ => simp [step, Reaction.event?, payloadsOf, Event.chunkFrom?, textsOf]

theorem carried_eq_bytesOf (stream : Stream) (es : List Event) :
    carried stream es = bytesOf (chunksFrom stream es) := carried_eq stream es

namespace Watch

variable {terms : Terms} {s : Supervisor} {log : List Seen}

/-- **The chunks that fit in are passed on, and no others**, whatever else happens.  The first chunk
that does not fit stops the run, and what comes behind it is too late even if it is smaller. -/
theorem payloadsOf_fitting (h : Watch terms {} log s) (run : Id) (stream : Stream) :
    payloadsOf stream (relayed run log)
      = (textsOf (fitting terms.ceiling (chunksFrom stream (eventsOf log)))).filter (· ≠ "") := by
  induction h with
  | begin => rfl
  | @learn log s now e hrun _ ih =>
    rw [relayed_concat, payloadsOf_append, ih, Supervisor.step_payloads_eq, hrun.bytes_eq,
      carried_eq_bytesOf, eventsOf_concat, chunksFrom_concat]
    cases hc : e.chunkFrom? stream with
    | none => simp [textsOf]
    | some c =>
      simp only [Option.toList_some, bytesOf_cons, bytesOf_nil, Nat.add_zero, fitting_concat]
      split
      · rename_i hroom
        rw [fitting_of_le (by omega), textsOf_append, List.filter_append]
      · rw [List.append_nil]

/-- **The transcript of a stream is the text of the chunks that fit in.** -/
theorem text_eq_fitting (h : Watch terms {} log s) (stream : Stream) :
    (s.transcript stream).text
      = String.join (textsOf (fitting terms.ceiling (chunksFrom stream (eventsOf log)))) := by
  rw [h.text_eq .nil, h.payloadsOf_fitting, join_filter_ne_empty]
  cases stream <;> simp [Supervisor.transcript]

end Watch

/-! ## 3. What a pump makes of the bytes that it reads -/

/-- The text of chunks is bounded by the bytes that they account for, which are the first ones of
`source`; and if these are a text, it is that text. -/
structure Bounded (source : Bytes) (cs : List Chunk) : Prop where
  within : bytesOf cs ≤ source.length
  size_le : (String.join (textsOf cs)).utf8ByteSize ≤ 3 * bytesOf cs
  eq_of_text : ∀ text, source.take (bytesOf cs) = Utf8.encode text → String.join (textsOf cs) = text

/-- Bytes that come later change nothing. -/
theorem Bounded.append {source : Bytes} {cs : List Chunk} (h : Bounded source cs) (more : Bytes) :
    Bounded (source ++ more) cs where
  within := by
    have := h.within
    rw [List.length_append]
    omega
  size_le := h.size_le
  eq_of_text text htext := by
    rw [List.take_append_of_le_length h.within] at htext
    exact h.eq_of_text text htext

/-- What a decoder makes of pieces, and maybe of their end, is bounded by them. -/
theorem bounded_of_decoded {pieces : List Bytes} {cs : List Chunk}
    (hbytes : bytesOf cs = pieces.flatten.length)
    (htexts : textsOf cs = decoded (pieces.map .chunk)
      ∨ textsOf cs = decoded (pieces.map .chunk ++ [.done])) :
    Bounded pieces.flatten cs := by
  have hshown : String.join (decoded (pieces.map .chunk))
      = String.ofList (Decoder.fresh.shown pieces) := join_filterMap_ofList _
  refine ⟨Nat.le_of_eq hbytes, ?_, fun text htext => ?_⟩
  · rw [hbytes]
    rcases htexts with htexts | htexts
    · have := Decoder.size_shown_le .fresh pieces
      have hnone : Decoder.fresh.held.length = 0 := rfl
      rw [htexts, hshown]
      omega
    · rw [htexts, join_decoded]
      exact Decoder.size_allText_le pieces
  · rw [hbytes, List.take_length] at htext
    rcases htexts with htexts | htexts
    · have hcomplete : Utf8.complete (Decoder.fresh.held ++ pieces.flatten)
          = some (text.toList, []) := by
        rw [htext]
        exact Utf8.complete_encode text
      rw [htexts, hshown, (Decoder.shown_of_complete Decoder.holdsCut_fresh hcomplete).1,
        String.ofList_toList]
    · rw [htexts, join_decoded, Decoder.allText_encode htext, String.ofList_toList]

/-- What a deed does to the decoder of a stream. -/
def Deed.inputs (stream : Stream) : Deed → List Decoder.Input
  | .read from_ piece => if from_ = stream then [.chunk piece] else []
  | .readEnd from_ => if from_ = stream then [.done] else []
  | .readFailed _ _ | .learned _ => []

/-- The texts that a pump hands on are those that its decoder makes. -/
theorem Pump.texts_does (p : Pump) (stream : Stream) (d : Deed) :
    textsOf (p.does stream d).1
      = (p.decoder.run (d.inputs stream)).filterMap (·.map String.ofList) := by
  cases d with
  | read from_ piece =>
    by_cases h : from_ = stream <;>
      simp [Pump.does, Pump.push, Deed.inputs, Decoder.run, textsOf, Chunk.text?, h]
  | readEnd from_ =>
    by_cases h : from_ = stream
    · simp only [Pump.does, Pump.finish, Deed.inputs, if_pos h, Decoder.run]
      split <;> rename_i hf <;> simp [hf, textsOf, Chunk.text?]
    · simp [Pump.does, Deed.inputs, Decoder.run, textsOf, h]
  | readFailed from_ cause =>
    by_cases h : from_ = stream <;>
      simp [Pump.does, Pump.fail, Deed.inputs, Decoder.run, textsOf, Chunk.text?, h]
  | learned e => rfl

/-- Whatever happens to a pump, it hands on one chunk at most. -/
theorem Pump.does_nil_or_singleton (p : Pump) (stream : Stream) (d : Deed) :
    (p.does stream d).1 = [] ∨ ∃ c, (p.does stream d).1 = [c] := by
  cases d with
  | readEnd from_ =>
    simp only [Pump.does, Pump.finish]
    split
    · dsimp only
      split <;> simp
    · simp
  | learned e => exact .inl rfl
  | _ => simp only [Pump.does]; split <;> simp

/-- A pump that is still reading has handed on what its decoder makes of the pieces, and after a
deed of its own what it makes of that too. -/
theorem Pumped.texts_of_does {terms : Terms} {stream : Stream} {log : List Done}
    {s s' : Supervision} {now : Nat} {cancelled : Bool} {x : Done}
    (h : Pumped terms stream log s) (hd : s.Does now cancelled x s')
    (hx : x.deed.stream? = some stream) :
    textsOf (handedFrom stream (log ++ [x]) s')
        = decoded ((piecesOf stream (log ++ [x])).map .chunk)
      ∨ textsOf (handedFrom stream (log ++ [x]) s')
        = decoded ((piecesOf stream (log ++ [x])).map .chunk ++ [.done]) := by
  have hopen := hd.isOpen hx
  cases h with
  | reading hp ht =>
    rw [hd.handedFrom, textsOf_append, ht, Pump.texts_does, hp, ← decoded_append, piecesOf_concat]
    obtain ⟨deed, reaction⟩ := x
    cases deed with
    | read from_ piece =>
      obtain rfl : from_ = stream := Option.some.inj hx
      exact .inl (by simp [Deed.inputs, Deed.pieceOf?])
    | readEnd from_ =>
      obtain rfl : from_ = stream := Option.some.inj hx
      exact .inr (by simp [Deed.inputs, Deed.pieceOf?])
    | readFailed from_ cause => exact .inl (by simp [Deed.inputs, Deed.pieceOf?])
    | learned e => exact absurd hx (by simp [Deed.stream?])
  | atEnd ho _ _ => exact absurd (ho.symm.trans hopen) (by simp)
  | failed _ ho _ => exact absurd (ho.symm.trans hopen) (by simp)
  | never ho _ => exact absurd (ho.symm.trans hopen) (by simp)

namespace Course

variable {terms : Terms} {s : Supervision} {log : List Done}

/-- **Each beginning of what a pump has handed on is bounded by the bytes that it has read.**  The
decoder holds bytes back but never more than it got, so its debt is paid by the chunks that follow.
-/
theorem bounded (h : Course (.start terms) log s) (stream : Stream) :
    ∀ cs, cs <+: handedFrom stream log s → Bounded (piecesOf stream log).flatten cs := by
  induction h with
  | begin =>
    intro cs hcs
    obtain rfl : cs = [] := by
      simpa [handedFrom, Supervision.start, seenOf, eventsOf, chunksFrom] using hcs
    have hnothing : textsOf [] = decoded (([] : List Bytes).map .chunk) := rfl
    exact bounded_of_decoded rfl (.inl hnothing)
  | @next log s s' x now cancelled hs hd ih =>
    intro cs hcs
    have hpieces : (piecesOf stream (log ++ [x])).flatten
        = (piecesOf stream log).flatten ++ (x.deed.pieceOf? stream).toList.flatten := by
      rw [piecesOf_concat, List.flatten_append]
    by_cases hwhole : cs = handedFrom stream (log ++ [x]) s' ∧ x.deed.stream? = some stream
    · obtain ⟨rfl, hx⟩ := hwhole
      exact bounded_of_decoded ((hs.next now cancelled hd).carried_handedFrom stream)
        ((hs.pumped stream).texts_of_does hd hx)
    · -- what was handed on before, or a beginning of it
      have hbefore : cs <+: handedFrom stream log s := by
        rw [hd.handedFrom] at hcs hwhole
        rcases (s.pump stream).does_nil_or_singleton stream x.deed with hnone | ⟨c, hone⟩
        · simpa [hnone] using hcs
        · rw [hone] at hcs hwhole
          rcases List.prefix_concat_iff.mp hcs with heq | hp
          · by_cases hx : x.deed.stream? = some stream
            · exact absurd ⟨heq, hx⟩ hwhole
            · rw [Pump.does_of_ne _ hx] at hone
              exact absurd hone (by simp)
          · exact hp
      rw [hpieces]
      exact (ih cs hbefore).append _

/-- What was kept of a stream is a beginning of what its pump has handed on. -/
theorem fitting_prefix (log : List Done) (s : Supervision) (stream : Stream) (room : Nat) :
    fitting room (chunksFrom stream (eventsOf (seenOf log))) <+: handedFrom stream log s := by
  refine (Run.fitting_prefix room _).trans ?_
  rw [handedFrom, chunksFrom_append]
  exact List.prefix_append _ _

end Course

/-! ## 4. The bound -/

/-- The bytes of a stream that the supervisor has accepted: those of the chunks that it has learned
of and that fit in below the ceiling. -/
def accepted (ceiling : Nat) (stream : Stream) (log : List Done) : Bytes :=
  (piecesOf stream log).flatten.take
    (bytesOf (fitting ceiling (chunksFrom stream (eventsOf (seenOf log)))))

/-- As long as a stream is not over the ceiling, every byte that is counted is accepted. -/
theorem accepted_of_le {ceiling : Nat} {stream : Stream} {log : List Done}
    (h : carried stream (eventsOf (seenOf log)) ≤ ceiling) :
    accepted ceiling stream log
      = (piecesOf stream log).flatten.take (carried stream (eventsOf (seenOf log))) := by
  rw [carried_eq_bytesOf] at h ⊢
  rw [accepted, fitting_of_le h]

/-- A transcript takes at most three bytes for each byte accepted of its stream, which are at most
as many as the ceiling says; and if they are a text, it is that text. -/
structure WithinCeiling (ceiling : Nat) (accepted : Bytes) (transcript : String) : Prop where
  length_le : accepted.length ≤ ceiling
  size_le : transcript.utf8ByteSize ≤ 3 * accepted.length
  eq_of_text : ∀ text, accepted = Utf8.encode text → transcript = text

namespace WithinCeiling

variable {ceiling : Nat} {accepted : Bytes} {transcript : String}

theorem size_le_three (h : WithinCeiling ceiling accepted transcript) :
    transcript.utf8ByteSize ≤ 3 * ceiling := by
  have := h.length_le
  have := h.size_le
  omega

theorem size_le_ceiling (h : WithinCeiling ceiling accepted transcript)
    (htext : ∃ text, accepted = Utf8.encode text) : transcript.utf8ByteSize ≤ ceiling := by
  obtain ⟨text, ht⟩ := htext
  have hlength := h.length_le
  rwa [ht, Utf8.length_encode, ← h.eq_of_text text ht] at hlength

end WithinCeiling

/-- The transcript of a stream stays within the ceiling at every moment of a run.  What was accepted
of the stream does, and the decoder makes three bytes of text of each byte at most. -/
theorem Course.withinCeiling {terms : Terms} {s : Supervision} {log : List Done}
    (h : Course (.start terms) log s) (stream : Stream) :
    WithinCeiling terms.ceiling (accepted terms.ceiling stream log)
      (s.supervisor.transcript stream).text := by
  have hw : Watch terms {} (seenOf log) s.supervisor := h.watch.2
  have hbounded := h.bounded stream _ (Course.fitting_prefix log s stream terms.ceiling)
  have hlength : (accepted terms.ceiling stream log).length
      = bytesOf (fitting terms.ceiling (chunksFrom stream (eventsOf (seenOf log)))) := by
    rw [accepted, List.length_take, Nat.min_eq_left hbounded.within]
  refine ⟨?_, ?_, fun text htext => ?_⟩
  · rw [hlength]
    exact bytesOf_fitting_le _ _
  · rw [hlength, hw.text_eq_fitting]
    exact hbounded.size_le
  · rw [hw.text_eq_fitting]
    exact hbounded.eq_of_text text htext

/-- **A transcript is never much longer than the ceiling.**  At every moment of a run, whatever has
come and in whatever order, it takes at most three times as many bytes as the ceiling says; if the
bytes accepted so far are a text it is that text, and takes no more bytes than the ceiling says.
The transcripts of an outcome are those of that moment. -/
theorem size_transcript_le {terms : Terms} {s : Supervision} {log : List Done}
    (h : Course (.start terms) log s) (stream : Stream) :
    WithinCeiling terms.ceiling (accepted terms.ceiling stream log)
        (s.supervisor.transcript stream).text
      ∧ (s.supervisor.transcript stream).text.utf8ByteSize ≤ 3 * terms.ceiling
      ∧ ((∃ text, accepted terms.ceiling stream log = Utf8.encode text) →
          (s.supervisor.transcript stream).text.utf8ByteSize ≤ terms.ceiling)
      ∧ ∀ run ms o, s.supervisor.outcome terms.ceiling run ms = .ok o →
          o.written stream = (s.supervisor.transcript stream).text := by
  have hwithin := h.withinCeiling stream
  exact ⟨hwithin, hwithin.size_le_three, hwithin.size_le_ceiling,
    fun run ms o ho => Outcome.written_eq ho stream⟩

/-- Four bytes that are no text are all that one stream may carry, and take twelve bytes in its
transcript; a fifth byte is too much.  The other stream has carried a letter. -/
theorem four_replacements :
    ∃ log s, Course (.start ⟨4, 8, none⟩) log s
      ∧ s.supervisor.stop = some (.overflow .stdout)
      ∧ (s.supervisor.transcript .stdout).text.utf8ByteSize = 3 * 4
      ∧ (s.supervisor.transcript .stdout).text.utf8ByteSize ≤ 3 * 4
      ∧ (s.supervisor.transcript .stderr).text = "é"
      ∧ (s.supervisor.transcript .stderr).text.utf8ByteSize ≤ 4 := by
  have h0 : Course (.start ⟨4, 8, none⟩) [] (.start ⟨4, 8, none⟩) := .begin
  have h1 := (h0.next 0 false (.read .stdout [0xFF, 0xFF, 0xFF, 0xFF] (by decide) (by decide)
    (by decide))).next 1 false (.take (.chunk (.data .stdout "\uFFFD\uFFFD\uFFFD\uFFFD" 4)) []
    (by decide) (by decide) (by decide +kernel))
  have h2 := (h1.next 2 false (.read .stdout [0x61] (by decide +kernel) (by decide)
    (by decide))).next 3 false (.take (.chunk (.data .stdout "a" 1)) [] (by decide +kernel)
    (by decide +kernel) (by decide +kernel))
  have h := (h2.next 4 false (.read .stderr [0xC3, 0xA9] (by decide +kernel) (by decide)
    (by decide))).next 5 false (.take (.chunk (.data .stderr "é" 2)) [] (by decide +kernel)
    (by decide +kernel) (by decide +kernel))
  refine ⟨_, _, h, by decide +kernel, by decide +kernel, (size_transcript_le h .stdout).2.1,
    by decide +kernel, (size_transcript_le h .stderr).2.2.1 ⟨"é", ?_⟩⟩
  rw [accepted_of_le (by decide +kernel)]
  decide +kernel

end Scriptorium.Run
