import Scriptorium.Proofs.Run.Course
import Scriptorium.Proofs.Text.Decoder

/-!
# What a run reports is what it has passed on

A supervisor keeps the text of each stream and passes it on to the listeners of the session piece by
piece.  The transcript of an outcome is what was passed on, joined (`Watch.text_eq`), and no
piece is empty (`Watch.payload_ne_empty`).

A run that has ended by itself has lost nothing: no stream was cut off by the ceiling, so every text
that its pump has handed on was kept (`Watch.payloadsOf_eq`), and the pump has come to the end of
the stream and handed on all that a decoder makes of it (`Pumped.atEnd`).  So the transcript of a
stream that is text is that text (`transcript_eq_relayed`).
-/
namespace Scriptorium.Run

open Text

/-- The transcript of a stream. -/
def Outcome.written (o : Outcome) : Stream → String
  | .stdout => o.stdout
  | .stderr => o.stderr

/-- The texts of chunks, in their order. -/
def textsOf (cs : List Chunk) : List String := cs.filterMap (·.text?)

theorem textsOf_append (cs ds : List Chunk) : textsOf (cs ++ ds) = textsOf cs ++ textsOf ds := by
  simp [textsOf]

/-! ## 1. What is kept and what is passed on -/

namespace Supervisor

variable (s : Supervisor) (ceiling now : Nat) (run : Id)

@[simp] theorem halt_emitted (why : Stop) : (s.halt now why).2.emitted = none := by
  unfold halt
  split <;> rfl

/-- **What is kept of a stream is what is passed on of it.**  Both are done in one place, with the
same text, so there is no step at which one is ahead of the other. -/
theorem step_text (e : Event) (stream : Stream) :
    ((s.step ceiling now e).1.transcript stream).text
      = (s.transcript stream).text
        ++ String.join (payloadsOf stream ((s.step ceiling now e).2.event? run).toList) := by
  cases e with
  | chunk c =>
    cases c with
    | data from_ text bytes =>
      simp only [step]
      split
      · by_cases h : from_ = stream
        · subst h; simp [transcript_setTranscript, Reaction.event?, payloadsOf]
        · simp [transcript_setTranscript, Reaction.event?, payloadsOf, h]
      · split
        · by_cases h : from_ = stream
          · subst h; simp [transcript_setTranscript, Reaction.event?, payloadsOf]
          · simp [transcript_setTranscript, Reaction.event?, payloadsOf, h]
        · by_cases h : from_ = stream
          · subst h; simp [transcript_setTranscript, Reaction.event?, payloadsOf]
          · simp [transcript_setTranscript, Reaction.event?, payloadsOf, h]
    | failed from_ cause => simp [step, Reaction.event?, payloadsOf]
  | cancelled => simp [step, Reaction.event?, payloadsOf]
  | timedOut => simp [step, Reaction.event?, payloadsOf]
  | _ => cases stream <;> simp [step, Reaction.event?, payloadsOf, transcript]

variable {s ceiling now run}

/-- What is passed on is the text of a chunk, it is not empty, and its stream has not carried more
than the ceiling. -/
theorem step_emitted {e : Event} {stream : Stream} {text : String}
    (h : (s.step ceiling now e).2.emitted = some (stream, text)) :
    (∃ bytes, e = .chunk (.data stream text bytes)) ∧ text ≠ ""
      ∧ ((s.step ceiling now e).1.transcript stream).bytes ≤ ceiling := by
  cases e with
  | chunk c =>
    cases c with
    | data from_ text' bytes =>
      simp only [step] at h ⊢
      split at h
      · simp at h
      · rename_i hc
        split at h
        · simp at h
        · rename_i ht
          obtain ⟨rfl, rfl⟩ := Prod.mk.inj (Option.some.inj h)
          refine ⟨⟨bytes, rfl⟩, ht, ?_⟩
          rw [if_neg hc, if_neg ht]
          simp only [transcript_setTranscript, if_true]
          omega
    | failed from_ cause => simp [step] at h
  | cancelled => simp [step] at h
  | timedOut => simp [step] at h
  | _ => simp [step] at h

/-- As long as a run is not stopped, every text that is not empty is passed on. -/
theorem step_payloads {e : Event} (stream : Stream) (h : (s.step ceiling now e).1.stop = none) :
    payloadsOf stream ((s.step ceiling now e).2.event? run).toList
      = (textsOf (e.chunkFrom? stream).toList).filter (· ≠ "") := by
  cases e with
  | chunk c =>
    cases c with
    | data from_ text bytes =>
      simp only [step] at h ⊢
      split at h
      · simp at h
      · rename_i hc
        rw [if_neg hc]
        by_cases hf : from_ = stream <;> by_cases ht : text = "" <;>
          simp [Reaction.event?, payloadsOf, Event.chunkFrom?, Chunk.stream, textsOf, Chunk.text?,
            hf, ht]
    | failed from_ cause => simp [step] at h
  | cancelled => simp [step] at h
  | timedOut => simp [step] at h
  | waitFailed cause => simp [step] at h
  | _ => simp [step, Reaction.event?, payloadsOf, Event.chunkFrom?, textsOf]

end Supervisor

namespace Watch

variable {terms : Terms} {s s' : Supervisor} {log : List Seen}

/-- **What has been kept in a history is what was passed on in it.**  The transcript at the end of a
run is so what its listeners have got, piece by piece. -/
theorem text_eq (h : Watch terms s log s') (run : Id) (stream : Stream) :
    (s'.transcript stream).text
      = (s.transcript stream).text ++ String.join (payloadsOf stream (relayed run log)) := by
  induction h with
  | begin => simp [relayed, payloadsOf]
  | learn now e _ _ ih =>
    rw [Supervisor.step_text _ _ _ run, ih, relayed_concat, payloadsOf_append, String.join_append,
      String.append_assoc]

/-- What is passed on bears the name of its run, and is not empty. -/
theorem payload_ne_empty (h : Watch terms s log s') (run : Id) :
    ∀ e ∈ relayed run log, e.run = run ∧ e.payload ≠ "" := by
  induction h with
  | begin => simp [relayed]
  | learn now e _ _ ih =>
    intro out hout
    rw [relayed_concat, List.mem_append, Option.mem_toList] at hout
    rcases hout with hout | hout
    · exact ih out hout
    · obtain ⟨⟨stream, payload⟩, hem, rfl⟩ := Option.map_eq_some_iff.mp hout
      exact ⟨rfl, (Supervisor.step_emitted hem).2.1⟩

/-- **As long as a run is not stopped, nothing is left out but empty texts.**  A chunk that only
holds the beginning of a character decodes to an empty text, of which nobody is told. -/
theorem payloadsOf_eq (h : Watch terms {} log s) (hs : s.stop = none) (run : Id)
    (stream : Stream) :
    payloadsOf stream (relayed run log)
      = (textsOf (chunksFrom stream (eventsOf log))).filter (· ≠ "") := by
  induction h with
  | begin => simp [relayed, payloadsOf, textsOf, chunksFrom, eventsOf]
  | @learn log s now e hrun _ ih =>
    have hbefore : s.stop = none := by
      cases hw : s.stop with
      | none => rfl
      | some why => rw [Supervisor.step_stop_of_some hw] at hs; exact absurd hs (by simp)
    rw [relayed_concat, payloadsOf_append, ih hbefore, Supervisor.step_payloads stream hs,
      eventsOf_concat, chunksFrom_concat, textsOf_append, List.filter_append]

/-- A stream that could not be read has stopped the run, if nothing else had before. -/
theorem stop_of_failed (h : Watch terms {} log s) {stream : Stream} {cause : OsError}
    (hm : .chunk (.failed stream cause) ∈ eventsOf log) : s.stop.isSome = true := by
  induction h with
  | begin => exact absurd hm (by simp [eventsOf])
  | @learn log s now e hrun _ ih =>
    rw [eventsOf_concat, List.mem_append, List.mem_singleton] at hm
    rcases hm with hm | rfl
    · obtain ⟨why, hw⟩ := Option.isSome_iff_exists.mp (ih hm)
      rw [Supervisor.step_stop_of_some hw]
      rfl
    · simp [Supervisor.step]

/-- A run that nobody looks after any more and that was not stopped has ended by itself. -/
theorem ended_of_not_stopped (h : Watch terms {} log s) (hdone : s.isActive = false)
    (hs : s.stop = none) : s.exit.isSome = true ∧ s.streamsOpen = false := by
  refine Supervisor.exit_of_not_active hdone ?_
  cases ha : s.abandoned with
  | false => rfl
  | true => exact absurd (h.stop_of_abandoned ha) (by simp [hs])

end Watch

/-! ## 2. What a pump hands on -/

/-- The texts that a decoder makes of what comes to it. -/
def decoded (inputs : List Decoder.Input) : List String :=
  (Decoder.fresh.run inputs).filterMap (·.map String.ofList)

theorem decoded_append (xs ys : List Decoder.Input) :
    decoded (xs ++ ys)
      = decoded xs ++ ((Decoder.fresh.after xs).run ys).filterMap (·.map String.ofList) := by
  rw [decoded, decoded, Decoder.run_append, List.filterMap_append]

theorem join_filterMap_ofList (texts : List (Option (List Char))) :
    String.join (texts.filterMap (·.map String.ofList))
      = String.ofList (texts.flatMap (·.getD [])) := by
  induction texts with
  | nil => rfl
  | cons t texts ih =>
    cases t with
    | none => simpa using ih
    | some cs => simp [ih]

/-- The texts of a whole stream, joined. -/
theorem join_decoded (pieces : List Bytes) :
    String.join (decoded (pieces.map .chunk ++ [.done]))
      = String.ofList (Decoder.fresh.allText pieces) :=
  join_filterMap_ofList _

theorem join_filter_ne_empty (texts : List String) :
    String.join (texts.filter (· ≠ "")) = String.join texts := by
  induction texts with
  | nil => rfl
  | cons t texts ih =>
    by_cases h : t = ""
    · simp [h, ← ih]
    · simp [h, ← ih]

/-- How far the pump of a stream has come: it has handed on what a decoder makes of the pieces that
it has read, and at the end what that sets free; or it has met a fault, or it never could read. -/
inductive Pumped (terms : Terms) (stream : Stream) (log : List Done) (s : Supervision) : Prop
  | reading :
      s.pump stream = ⟨Decoder.fresh.after ((piecesOf stream log).map .chunk), true⟩ →
      textsOf (handedFrom stream log s) = decoded ((piecesOf stream log).map .chunk) →
      Pumped terms stream log s
  | atEnd : (s.pump stream).isOpen = false → .readEnd stream ∈ deedsOf log →
      textsOf (handedFrom stream log s) = decoded ((piecesOf stream log).map .chunk ++ [.done]) →
      Pumped terms stream log s
  | failed (cause : OsError) : (s.pump stream).isOpen = false →
      .failed stream cause ∈ handedFrom stream log s → Pumped terms stream log s
  | never : (s.pump stream).isOpen = false → Pump.maxRequest < terms.chunkSize →
      Pumped terms stream log s

namespace Pumped

variable {terms : Terms} {stream : Stream} {log : List Done} {s s' : Supervision}

theorem start (terms : Terms) (stream : Stream) : Pumped terms stream [] (.start terms) := by
  have hpump : (Supervision.start terms).pump stream = .start terms.chunkSize := by
    cases stream <;> rfl
  by_cases hsize : terms.chunkSize ≤ Pump.maxRequest
  · exact .reading (by simp [hpump, Pump.start, hsize, piecesOf, Decoder.after])
      (by simp [handedFrom, seenOf, eventsOf, chunksFrom, Supervision.start, textsOf, piecesOf,
        decoded, Decoder.run])
  · exact .never (by simp [hpump, Pump.start, hsize]) (by omega)

/-- What is not a deed of the pump leaves it where it was. -/
theorem frame (h : Pumped terms stream log s) {x : Done} (hx : x.deed.stream? ≠ some stream)
    (hpump : s'.pump stream = s.pump stream)
    (hhanded : handedFrom stream (log ++ [x]) s' = handedFrom stream log s) :
    Pumped terms stream (log ++ [x]) s' := by
  have hpieces : piecesOf stream (log ++ [x]) = piecesOf stream log := by
    rw [piecesOf_concat]
    cases hd : x.deed with
    | read from_ piece =>
      have hne : from_ ≠ stream := by simpa [hd, Deed.stream?] using hx
      simp [Deed.pieceOf?, hne]
    | _ => simp [Deed.pieceOf?]
  cases h with
  | reading hp ht => exact .reading (by rw [hpump, hpieces, hp]) (by rw [hhanded, hpieces, ht])
  | atEnd ho hm ht =>
    exact .atEnd (hpump ▸ ho) (by simp [deedsOf_concat, hm]) (by rw [hhanded, hpieces, ht])
  | failed cause ho hm => exact .failed cause (hpump ▸ ho) (hhanded ▸ hm)
  | never ho hs => exact .never (hpump ▸ ho) hs

/-- **A step keeps it.** -/
theorem next (h : Pumped terms stream log s) {now : Nat} {cancelled : Bool} {x : Done}
    (hd : s.Does now cancelled x s') : Pumped terms stream (log ++ [x]) s' := by
  have hpump := hd.pump stream
  have hhanded := hd.handedFrom stream log
  by_cases hx : x.deed.stream? = some stream
  · have hopen := hd.isOpen hx
    cases h with
    | reading hp ht =>
      obtain ⟨deed, reaction⟩ := x
      cases deed with
      | read from_ piece =>
        obtain rfl : from_ = stream := Option.some.inj hx
        have hpieces : piecesOf from_ (log ++ [⟨.read from_ piece, reaction⟩])
            = piecesOf from_ log ++ [piece] := by
          simp [piecesOf_concat, Deed.pieceOf?]
        refine .reading ?_ ?_
        · rw [hpump, hp, hpieces]
          simp [Pump.does, Pump.push, Decoder.after_append, Decoder.after]
        · rw [hhanded, textsOf_append, ht, hp, hpieces, List.map_append, decoded_append]
          simp [Pump.does, Pump.push, textsOf, Chunk.text?, Decoder.run]
      | readEnd from_ =>
        obtain rfl : from_ = stream := Option.some.inj hx
        have hpieces : piecesOf from_ (log ++ [⟨.readEnd from_, reaction⟩])
            = piecesOf from_ log := by
          simp [piecesOf_concat, Deed.pieceOf?]
        refine .atEnd ?_ (by simp [deedsOf_concat]) ?_
        · rw [hpump, hp]
          simp [Pump.does, Pump.finish]
        · rw [hhanded, textsOf_append, ht, hp, hpieces, decoded_append]
          congr 1
          simp only [Pump.does, if_true, Pump.finish, Decoder.run]
          split <;> rename_i hf <;> simp [hf, textsOf, Chunk.text?]
      | readFailed from_ cause =>
        obtain rfl : from_ = stream := Option.some.inj hx
        refine .failed cause ?_ ?_
        · rw [hpump]
          simp [Pump.does, Pump.fail]
        · rw [hhanded]
          simp [Pump.does, Pump.fail]
      | learned e => exact absurd hx (by simp [Deed.stream?])
    | atEnd ho _ _ => exact absurd (ho.symm.trans hopen) (by simp)
    | failed _ ho _ => exact absurd (ho.symm.trans hopen) (by simp)
    | never ho _ => exact absurd (ho.symm.trans hopen) (by simp)
  · rw [Pump.does_of_ne _ hx] at hpump hhanded
    exact h.frame hx hpump (by simpa using hhanded)

end Pumped

/-- Each pump of a course has come so far. -/
theorem Course.pumped {terms : Terms} {log : List Done} {s : Supervision}
    (h : Course (.start terms) log s) (stream : Stream) : Pumped terms stream log s := by
  induction h with
  | begin => exact .start terms stream
  | next now cancelled _ hd ih => exact ih.next hd

/-! ## 3. Runs that have ended -/

/-- A run that was not stopped has come to the end of each of its streams, and all that a decoder
makes of them was learned. -/
theorem Course.decoded_of_exited {terms : Terms} {log : List Done} {s : Supervision}
    (h : Course (.start terms) log s) (hsize : terms.chunkSize ≤ Pump.maxRequest)
    (hdone : s.supervisor.isActive = false) (hs : s.supervisor.stop = none) (stream : Stream) :
    .readEnd stream ∈ deedsOf log
      ∧ textsOf (chunksFrom stream (eventsOf (seenOf log)))
        = decoded ((piecesOf stream log).map .chunk ++ [.done]) := by
  have hw : Watch terms {} (seenOf log) s.supervisor := h.watch.2
  obtain ⟨hqueue, hclosed⟩ := h.closed (hw.ended_of_not_stopped hdone hs).2
  have hhanded : handedFrom stream log s = chunksFrom stream (eventsOf (seenOf log)) := by
    simp [handedFrom, hqueue]
  cases h.pumped stream with
  | reading hp _ => exact absurd ((hclosed stream).symm.trans (congrArg Pump.isOpen hp)) (by simp)
  | atEnd _ hm ht => exact ⟨hm, hhanded ▸ ht⟩
  | failed cause _ hm =>
    have hstop := hw.stop_of_failed (mem_chunksFrom.mp (hhanded ▸ hm)).1
    exact absurd hstop (by simp [hs])
  | never _ hlarge => exact absurd hsize (by omega)

/-- What an outcome tells as written on a stream is the transcript of the supervisor, however the
run ended. -/
theorem Outcome.written_eq {s : Supervisor} {ceiling ms : Nat} {run : Id} {o : Outcome}
    (h : s.outcome ceiling run ms = .ok o) (stream : Stream) :
    o.written stream = (s.transcript stream).text := by
  unfold Supervisor.outcome at h
  cases ht : s.termination ceiling with
  | error e => rw [ht] at h; exact absurd h (by simp [Except.map])
  | ok t =>
    rw [ht] at h
    obtain rfl := Except.ok.inj h
    cases stream <;> rfl

/-- **What a run reports is what it has passed on.**  If a run has an outcome, the transcript of
each stream is what was passed on of that stream under the name of the run, joined, and nothing
empty was passed on.  If it has ended by itself, each stream was read to its end, and what was
passed on is what a decoder makes of all of it, its end included; so a stream that is text has that
text as its transcript, however it was cut and whatever came between. -/
theorem transcript_eq_relayed {terms : Terms} {source : Stream → Bytes} {log : List Done}
    {s : Supervision} {run : Id} {ms : Nat} {o : Outcome} (h : Course (.start terms) log s)
    (hreads : Reads source log) (hsize : terms.chunkSize ≤ Pump.maxRequest)
    (hdone : s.supervisor.isActive = false)
    (ho : s.supervisor.outcome terms.ceiling run ms = .ok o) :
    (∀ stream, o.written stream = String.join (payloadsOf stream (relayed run (seenOf log))))
      ∧ (∀ e ∈ relayed run (seenOf log), e.run = run ∧ e.payload ≠ "")
      ∧ (o.termination = .exited → ∀ stream,
          .readEnd stream ∈ deedsOf log
            ∧ (piecesOf stream log).flatten = source stream
            ∧ payloadsOf stream (relayed run (seenOf log))
              = (decoded ((piecesOf stream log).map .chunk ++ [.done])).filter (· ≠ "")
            ∧ ∀ text, source stream = Utf8.encode text → o.written stream = text) := by
  have hw : Watch terms {} (seenOf log) s.supervisor := h.watch.2
  have hwritten : ∀ stream,
      o.written stream = String.join (payloadsOf stream (relayed run (seenOf log))) := by
    intro stream
    rw [Outcome.written_eq ho, hw.text_eq run]
    cases stream <;> simp [Supervisor.transcript]
  refine ⟨hwritten, hw.payload_ne_empty run, fun hexited stream => ?_⟩
  have hs : s.supervisor.stop = none :=
    (s.supervisor.termination_iff terms.ceiling).1.mp
      (Supervisor.outcome_ok_iff.mp ⟨o, ho, hexited⟩)
  obtain ⟨hend, htexts⟩ := h.decoded_of_exited hsize hdone hs stream
  have hpayloads := hw.payloadsOf_eq hs run stream
  rw [htexts] at hpayloads
  have hall := hreads.ends stream hend
  refine ⟨hend, hall, hpayloads, fun text htext => ?_⟩
  rw [hwritten, hpayloads, join_filter_ne_empty, join_decoded,
    Decoder.allText_encode (hall.trans htext), String.ofList_toList]

/-- A letter that two reads have cut is in the transcript of its run as it was written, next to a
stream that carries nothing. -/
theorem cut_letter_arrives :
    ∃ log s o, Course (.start ⟨100, 4, none⟩) log s ∧ s.supervisor.isActive = false
      ∧ .learned (.chunk (.data .stdout "" 1)) ∈ deedsOf log
      ∧ s.supervisor.outcome 100 .nil 7 = .ok o ∧ o.termination = .exited
      ∧ o.written .stdout = "ض" ∧ o.written .stderr = "" := by
  have h0 : Course (.start ⟨100, 4, none⟩) [] (.start ⟨100, 4, none⟩) := .begin
  have h1 := (h0.next 0 false (.read .stdout [0xD8] (by decide) (by decide) (by decide))).next 1
    false (.readEnd .stderr (by decide))
  have h2 := (h1.next 2 false (.take (.chunk (.data .stdout "" 1)) [] (by decide) (by decide)
    (by decide +kernel))).next 3 false (.read .stdout [0xB6] (by decide) (by decide) (by decide))
  have h3 := (h2.next 4 false (.learn (.exited (some 0)) (by decide) (by decide) trivial)).next 5
    false (.readEnd .stdout (by decide))
  have h := (h3.next 6 false (.take (.chunk (.data .stdout "ض" 1)) [] (by decide +kernel)
    (by decide +kernel) (by decide +kernel))).next 7 false (.take .closed [] (by decide +kernel)
    (by decide +kernel) (by decide +kernel))
  obtain ⟨-, -, hexited⟩ := transcript_eq_relayed h
    (show Reads (fun | .stdout => [0xD8, 0xB6] | .stderr => []) _ from
      ⟨fun | .stdout => by decide | .stderr => by decide,
        fun | .stdout => by decide | .stderr => by decide⟩)
    (by decide) (by decide +kernel) (show Supervisor.outcome 100 .nil 7 _ = .ok _ from rfl)
  exact ⟨_, _, _, h, by decide +kernel, by decide +kernel, rfl, rfl,
    (hexited rfl .stdout).2.2.2 "ض" (by decide +kernel),
    (hexited rfl .stderr).2.2.2 "" (by decide +kernel)⟩

end Scriptorium.Run
