import Scriptorium.Proofs.Run.Transcript

/-!
# What goes over the ceiling

A stream may carry so many bytes and no more, and the bytes are counted as they are read, chunk by
chunk, before anything is made of them.  This module says that how the reads cut the streams, and
which chunk comes first, does not matter: if nothing else stops a run and its streams come to their
ends, the run fails exactly if one of its streams has more bytes than the ceiling
(`overLimit_iff`).

For this, the reason that a supervisor has for stopping is compared with the bytes that it has
counted (`Watch.none_or_overflow`), and these with the bytes that were read
(`Course.carried_le`, `Course.carried_eq_of_closed`).  A stream is silent from the chunk on that
takes it over the ceiling, that chunk included (`Watch.silent`).
-/
namespace Scriptorium.Run

/-! ## 1. Runs that nothing disturbs -/

/-- What stops a run, or keeps it from its end, and is not the output of its process. -/
def Event.disturbs : Event → Bool
  | .chunk (.failed _ _) | .waitFailed _ | .cancelled | .timedOut => true
  | .chunk (.data _ _ _) | .closed | .exited _ | .drained => false

/-- A fault of a stream disturbs a run already where a pump meets it. -/
def Deed.disturbs : Deed → Bool
  | .readFailed _ _ => true
  | .learned e => e.disturbs
  | .read _ _ | .readEnd _ => false

/-- A run is not cancelled, not too slow, and without faults of its streams and its process. -/
def Undisturbed (log : List Done) : Prop := ∀ d ∈ deedsOf log, d.disturbs = false

instance (log : List Done) : Decidable (Undisturbed log) :=
  inferInstanceAs (Decidable (∀ d ∈ deedsOf log, _))

/-- The pumps stand still, and the supervisor learns of nothing that disturbs the run. -/
def OnlyLearns (log : List Done) : Prop :=
  ∀ d ∈ deedsOf log, ∃ e, d = .learned e ∧ e.disturbs = false

namespace Undisturbed

variable {log : List Done}

/-- What the supervisor of an undisturbed run learns does not disturb it either: a fault of a stream
that it hears of was a fault already when the pump met it. -/
theorem disturbs_eq (h : Undisturbed log) : ∀ e ∈ eventsOf (seenOf log), e.disturbs = false := by
  intro e he
  obtain ⟨y, hy, rfl⟩ := List.mem_map.mp he
  obtain ⟨x, hx, hseen⟩ := List.mem_filterMap.mp hy
  have hd := h x.deed (List.mem_map.mpr ⟨x, hx, rfl⟩)
  unfold Done.seen? at hseen
  split at hseen
  · rename_i e' he'
    rw [he'] at hd
    obtain rfl := Option.some.inj hseen
    exact hd
  · exact absurd hseen (by simp)

theorem append_learns {more : List Done} (h : Undisturbed log) (hmore : OnlyLearns more) :
    Undisturbed (log ++ more) := by
  intro d hd
  rw [deedsOf_append, List.mem_append] at hd
  rcases hd with hd | hd
  · exact h d hd
  · obtain ⟨e, rfl, he⟩ := hmore d hd
    exact he

end Undisturbed

namespace OnlyLearns

variable {log more : List Done}

theorem nil : OnlyLearns [] := fun _ hd => absurd hd (by simp [deedsOf])

theorem cons {x : Done} {e : Event} (hx : x.deed = .learned e) (he : e.disturbs = false)
    (h : OnlyLearns more) : OnlyLearns (x :: more) := by
  intro d hd
  rcases List.mem_cons.mp hd with rfl | hd
  · exact ⟨e, hx, he⟩
  · exact h d hd

theorem readEnd_mem (h : OnlyLearns more) {stream : Stream} :
    .readEnd stream ∈ deedsOf (log ++ more) ↔ .readEnd stream ∈ deedsOf log := by
  rw [deedsOf_append, List.mem_append, or_iff_left]
  intro hm
  obtain ⟨e, he, -⟩ := h _ hm
  exact absurd he (by simp)

theorem piecesOf_append (h : OnlyLearns more) (stream : Stream) :
    piecesOf stream (log ++ more) = piecesOf stream log := by
  have hnone : ∀ x ∈ more, x.deed.pieceOf? stream = none := by
    intro x hx
    obtain ⟨e, he, -⟩ := h x.deed (List.mem_map_of_mem hx)
    rw [he]
    rfl
  rw [piecesOf, List.filterMap_append, List.filterMap_eq_nil_iff.mpr hnone, List.append_nil]
  rfl

theorem reads {source : Stream → Bytes} (h : OnlyLearns more) (hreads : Reads source log) :
    Reads source (log ++ more) where
  begins stream := (h.piecesOf_append stream).symm ▸ hreads.begins stream
  ends stream hm := (h.piecesOf_append stream).symm ▸ hreads.ends stream (h.readEnd_mem.mp hm)

end OnlyLearns

/-! ## 2. What the supervisor makes of the bytes that it counts -/

/-- A stream that is over the ceiling is silent. -/
theorem Supervisor.step_silent {s : Supervisor} {ceiling now : Nat} {e : Event} {stream : Stream}
    (h : ceiling < ((s.step ceiling now e).1.transcript stream).bytes) (run : Id) :
    payloadsOf stream ((s.step ceiling now e).2.event? run).toList = [] := by
  unfold Reaction.event?
  cases hem : (s.step ceiling now e).2.emitted with
  | none => rfl
  | some out =>
    obtain ⟨from_, text⟩ := out
    have hle := (step_emitted hem).2.2
    have hne : from_ ≠ stream := by
      rintro rfl
      omega
    simp [payloadsOf, hne]

theorem Supervisor.streamsOpen_of_active {s : Supervisor} (h : s.isActive = true)
    (hexit : s.exit.isSome = true) : s.streamsOpen = true := by
  obtain ⟨code, hcode⟩ := Option.isSome_iff_exists.mp hexit
  simp only [isActive, hcode, Option.isNone_some, Bool.false_or, Bool.and_eq_true] at h
  exact h.2

namespace Watch

variable {terms : Terms} {s : Supervisor} {log : List Seen}

/-- **A run that nothing disturbs is stopped for its output or not at all**, and that depends on the
bytes that have come. -/
theorem none_or_overflow (h : Watch terms {} log s)
    (hcalm : ∀ e ∈ eventsOf log, e.disturbs = false) :
    (s.stop = none ∧ ∀ stream, carried stream (eventsOf log) ≤ terms.ceiling)
      ∨ ∃ stream, s.stop = some (.overflow stream)
        ∧ terms.ceiling < carried stream (eventsOf log) := by
  induction h with
  | begin => exact .inl ⟨rfl, fun _ => Nat.zero_le _⟩
  | @learn log s now e hrun _ ih =>
    rw [eventsOf_concat] at hcalm ⊢
    rcases ih fun e he => hcalm e (List.mem_append_left _ he) with ⟨hs, hle⟩ | ⟨stream, hs, hlt⟩
    · rw [Supervisor.step_stop _ _ _ _ e hrun.bytes_eq, hs, Option.none_or]
      have hd : e.disturbs = false := hcalm e (by simp)
      have stays : (∀ stream, e.bytesOf stream = 0) →
          ∀ stream, carried stream (eventsOf log ++ [e]) ≤ terms.ceiling := by
        intro h0 stream
        rw [carried_concat, h0]
        exact hle stream
      cases e with
      | chunk c =>
        cases c with
        | data from_ text bytes =>
          by_cases hc : terms.ceiling < carried from_ (eventsOf log) + bytes
          · refine .inr ⟨from_, by simp [reason?, hc], ?_⟩
            rw [carried_concat]
            simpa [Event.bytesOf] using hc
          · refine .inl ⟨by simp [reason?, hc], fun stream => ?_⟩
            rw [carried_concat]
            by_cases hf : from_ = stream
            · subst hf
              simpa [Event.bytesOf] using Nat.le_of_not_lt hc
            · simpa [Event.bytesOf, hf] using hle stream
        | failed from_ cause => exact absurd hd (by simp [Event.disturbs])
      | closed => exact .inl ⟨rfl, stays fun _ => rfl⟩
      | exited code => exact .inl ⟨rfl, stays fun _ => rfl⟩
      | drained => exact .inl ⟨rfl, stays fun _ => rfl⟩
      | waitFailed cause => exact absurd hd (by simp [Event.disturbs])
      | cancelled => exact absurd hd (by simp [Event.disturbs])
      | timedOut => exact absurd hd (by simp [Event.disturbs])
    · refine .inr ⟨stream, Supervisor.step_stop_of_some hs, ?_⟩
      rw [carried_concat]
      omega

/-- **From the event on that takes a stream over the ceiling, nothing of it is passed on.**  Not
even the part of the chunk that would still fit is: the chunk is refused as a whole. -/
theorem silent (h : Watch terms {} log s) {stream : Stream} {before after : List Seen} {x : Seen}
    (hl : log = before ++ x :: after)
    (hc : terms.ceiling < carried stream (eventsOf (before ++ [x]))) (run : Id) :
    payloadsOf stream (relayed run (x :: after)) = [] := by
  induction h generalizing after with
  | begin => exact absurd hl (by simp)
  | @learn log s now e hrun ha ih =>
    have hbytes := (hrun.learn now e ha).bytes_eq stream
    rcases List.eq_nil_or_concat after with rfl | ⟨rest, y, rfl⟩
    · obtain ⟨rfl, hx⟩ := List.append_inj' hl rfl
      obtain rfl := (List.cons.inj hx).1
      rw [← hbytes] at hc
      exact Supervisor.step_silent hc run
    · rw [List.concat_eq_append, ← List.cons_append, ← List.append_assoc] at hl
      obtain ⟨rfl, hy⟩ := List.append_inj' hl rfl
      obtain rfl := (List.cons.inj hy).1
      rw [List.concat_eq_append, ← List.cons_append, relayed_concat, payloadsOf_append, ih rfl,
        List.nil_append]
      refine Supervisor.step_silent (Nat.lt_of_lt_of_le hc ?_) run
      rw [hbytes]
      simp [eventsOf, carried]

end Watch

/-! ## 3. The bytes that are counted and those that are read -/

namespace Course

variable {terms : Terms} {s : Supervision} {log : List Done}

theorem carried_add_queue (h : Course (.start terms) log s) (stream : Stream) :
    carried stream (eventsOf (seenOf log)) + carried stream (s.queue.map .chunk)
      = (piecesOf stream log).flatten.length := by
  rw [← h.carried_handedFrom stream, handedFrom, chunksFrom_append, List.map_append,
    List.sum_append, carried_eq, carried_eq]

/-- No byte is counted that was not read. -/
theorem carried_le (h : Course (.start terms) log s) (stream : Stream) :
    carried stream (eventsOf (seenOf log)) ≤ (piecesOf stream log).flatten.length := by
  have := h.carried_add_queue stream
  omega

/-- In the end all bytes that were read have been counted. -/
theorem carried_eq_of_closed (h : Course (.start terms) log s)
    (hc : s.supervisor.streamsOpen = false) (stream : Stream) :
    carried stream (eventsOf (seenOf log)) = (piecesOf stream log).flatten.length := by
  have hall := h.carried_add_queue stream
  rw [(h.closed hc).1] at hall
  simpa [carried] using hall

/-! ## 4. Every such run has an end -/

/-- Once it is known how the process ended and the pumps have come to their ends, the supervisor has
only to take what waits. -/
theorem finishes (hexit : s.supervisor.exit.isSome = true)
    (hclosed : ∀ stream, (s.pump stream).isOpen = false)
    (hqueue : ∀ c ∈ s.queue, (Event.chunk c).disturbs = false) :
    ∃ more s', Course s more s' ∧ OnlyLearns more ∧ s'.supervisor.isActive = false := by
  induction hq : s.queue generalizing s with
  | nil =>
    cases hactive : s.supervisor.isActive with
    | false => exact ⟨[], s, .begin, .nil, hactive⟩
    | true =>
      have hnext : s.next? = some (.closed, []) := by
        have ho := hclosed .stdout
        have he := hclosed .stderr
        simp only [Supervision.pump] at ho he
        simp [Supervision.next?, hq, ho, he]
      have hopen := Supervisor.streamsOpen_of_active hactive hexit
      refine ⟨_, _, Course.begin.next 0 false (.take .closed [] hactive hopen hnext),
        .cons rfl rfl .nil, ?_⟩
      obtain ⟨code, hcode⟩ := Option.isSome_iff_exists.mp hexit
      simp [Supervision.learn, Supervisor.step, Supervisor.isActive, hcode]
  | cons c rest ih =>
    cases hactive : s.supervisor.isActive with
    | false => exact ⟨[], s, .begin, .nil, hactive⟩
    | true =>
      have hnext : s.next? = some (.chunk c, rest) := by simp [Supervision.next?, hq]
      have hopen := Supervisor.streamsOpen_of_active hactive hexit
      have hfirst := Course.begin.next 0 false (.take (.chunk c) rest hactive hopen hnext)
      have hexit' := (s.supervisor.step_chunk_frame s.terms.ceiling 0 c).1.symm ▸ hexit
      obtain ⟨more, s', hmore, hlearns, hdone⟩ :=
        ih (s := { (s.learn 0 (.chunk c)).1 with queue := rest }) hexit' (by simpa using hclosed)
          (fun d hd => hqueue d (hq ▸ List.mem_cons_of_mem c hd)) rfl
      exact ⟨_, s', hfirst.append hmore,
        .cons rfl (hqueue c (hq ▸ List.mem_cons_self)) hlearns, hdone⟩

/-- A run whose streams have come to their ends can be looked after until it is over. -/
theorem finishes_of_readEnd (h : Course (.start terms) log s) (hcalm : Undisturbed log)
    (hends : ∀ stream, .readEnd stream ∈ deedsOf log) :
    ∃ more s', Course s more s' ∧ OnlyLearns more ∧ s'.supervisor.isActive = false := by
  have hclosed : ∀ stream, (s.pump stream).isOpen = false := fun stream =>
    h.isOpen_of_readEnd (hends stream)
  have hqueue : ∀ c ∈ s.queue, (Event.chunk c).disturbs = false := by
    intro c hc
    cases c with
    | data from_ text bytes => rfl
    | failed from_ cause =>
      have hm : .failed from_ cause ∈ handedFrom from_ log s :=
        mem_chunksFrom.mpr ⟨List.mem_append_right _ (List.mem_map_of_mem hc), rfl⟩
      exact absurd (hcalm _ (h.readFailed_of_mem hm)) (by simp [Deed.disturbs])
  cases hactive : s.supervisor.isActive with
  | false => exact ⟨[], s, .begin, .nil, hactive⟩
  | true =>
    cases hexit : s.supervisor.exit with
    | some code => exact finishes (by rw [hexit]; rfl) hclosed hqueue
    | none =>
      have hfirst := Course.begin.next 0 false
        (.learn (.exited none) hactive (by simp [Supervisor.allows, hexit]) trivial)
      obtain ⟨more, s', hmore, hlearns, hdone⟩ :=
        finishes (s := (s.learn 0 (.exited none)).1) rfl (by simpa using hclosed) hqueue
      exact ⟨_, s', hfirst.append hmore, .cons rfl rfl hlearns, hdone⟩

end Course

/-! ## 5. The verdict -/

/-- The result `r` of a run depends on the lengths of its streams: it is a failure for too much
output if one of them is over the ceiling, one that is over it is named, and otherwise the run has
ended by itself. -/
structure ByLength (ceiling : Nat) (source : Stream → Bytes) (r : Except Error Outcome) :
    Prop where
  exceeds : (∃ stream, r = .error (.outputLimit stream ceiling))
    ↔ ∃ stream, ceiling < (source stream).length
  named : ∀ stream, r = .error (.outputLimit stream ceiling) → ceiling < (source stream).length
  within : (∀ stream, (source stream).length ≤ ceiling) → ∃ o, r = .ok o ∧ o.termination = .exited

/-- The pumps of a run that have stopped have come to the ends of their streams. -/
def StopsAtEnds (log : List Done) (s : Supervision) : Prop :=
  ∀ stream, (s.pump stream).isOpen = false → .readEnd stream ∈ deedsOf log

/-- A run that was not stopped has counted all bytes of its streams, and one that was stopped has
counted too many of one. -/
theorem Course.byLength {terms : Terms} {source : Stream → Bytes} {log : List Done}
    {s : Supervision} (h : Course (.start terms) log s) (hreads : Reads source log)
    (hcalm : Undisturbed log) (hends : StopsAtEnds log s) (hdone : s.supervisor.isActive = false)
    (run : Id) (ms : Nat) :
    ByLength terms.ceiling source (s.supervisor.outcome terms.ceiling run ms) := by
  have hw : Watch terms {} (seenOf log) s.supervisor := h.watch.2
  have hverdict := s.supervisor.termination_iff terms.ceiling
  rcases hw.none_or_overflow hcalm.disturbs_eq with ⟨hs, hle⟩ | ⟨stream, hs, hlt⟩
  · have hclosed := (hw.ended_of_not_stopped hdone hs).2
    have hlength : ∀ stream, (source stream).length ≤ terms.ceiling := by
      intro stream
      have hend := hends stream ((h.closed hclosed).2 stream)
      rw [← hreads.ends stream hend, ← h.carried_eq_of_closed hclosed stream]
      exact hle stream
    obtain ⟨o, ho, ht⟩ := Supervisor.outcome_ok_iff.mpr (hverdict.1.mpr hs)
    have hnot : ∀ stream,
        s.supervisor.outcome terms.ceiling run ms ≠ .error (.outputLimit stream terms.ceiling) :=
      fun stream he => absurd (he.symm.trans ho) (by simp)
    exact {
      exceeds := ⟨fun ⟨stream, he⟩ => absurd he (hnot stream),
        fun ⟨stream, hlt⟩ => absurd (hlength stream) (Nat.not_le_of_lt hlt)⟩
      named := fun stream he => absurd he (hnot stream)
      within := fun _ => ⟨o, ho, ht⟩ }
  · have hread : terms.ceiling < (source stream).length :=
      Nat.lt_of_lt_of_le hlt
        (Nat.le_trans (h.carried_le stream) (hreads.begins stream).length_le)
    have he : s.supervisor.outcome terms.ceiling run ms
        = .error (.outputLimit stream terms.ceiling) :=
      Supervisor.outcome_error_iff.mpr ((hverdict.2.2.2.1 stream).mpr hs)
    refine ⟨⟨fun _ => ⟨stream, hread⟩, fun _ => ⟨stream, he⟩⟩, fun other ho => ?_, fun hall => ?_⟩
    · obtain rfl : stream = other := by simpa [he] using ho
      exact hread
    · exact absurd (hall stream) (Nat.not_le_of_lt hread)

/-- **A run fails for its output exactly if one of its streams has more bytes than the ceiling.**
Of a run that nothing disturbs and whose pumps stop at the ends of their streams, however these are
cut into pieces and in whatever order everything happens, the result depends on their lengths alone;
once both ends are reached the supervisor can come to that result.  And from the event on that takes
a stream over the ceiling, nothing of that stream is passed on and nothing more is kept, whatever
else happens. -/
theorem overLimit_iff {terms : Terms} {log : List Done} {s : Supervision}
    (h : Course (.start terms) log s) :
    (∀ source, Reads source log → Undisturbed log → StopsAtEnds log s →
        s.supervisor.isActive = false →
        ∀ run ms, ByLength terms.ceiling source (s.supervisor.outcome terms.ceiling run ms))
      ∧ (∀ source, Reads source log → Undisturbed log → (∀ stream, .readEnd stream ∈ deedsOf log) →
        ∃ more s', Course s more s' ∧ s'.supervisor.isActive = false
          ∧ ∀ run ms, ByLength terms.ceiling source (s'.supervisor.outcome terms.ceiling run ms))
      ∧ ∀ stream before x after, seenOf log = before ++ x :: after →
        terms.ceiling < carried stream (eventsOf (before ++ [x])) → ∀ run,
        payloadsOf stream (relayed run (x :: after)) = []
          ∧ (s.supervisor.transcript stream).text
            = String.join (payloadsOf stream (relayed run before)) := by
  refine ⟨fun source hreads hcalm hends hdone run ms => h.byLength hreads hcalm hends hdone run ms,
    ?_, ?_⟩
  · intro source hreads hcalm hends
    obtain ⟨more, s', hmore, hlearns, hdone⟩ := h.finishes_of_readEnd hcalm hends
    have hall := h.append hmore
    refine ⟨more, s', hmore, hdone, fun run ms => ?_⟩
    exact hall.byLength (hlearns.reads hreads) (hcalm.append_learns hlearns)
      (fun stream _ => hlearns.readEnd_mem.mpr (hends stream)) hdone run ms
  · intro stream before x after hl hc run
    have hw : Watch terms {} (seenOf log) s.supervisor := h.watch.2
    have hsilent := hw.silent hl hc run
    refine ⟨hsilent, ?_⟩
    rw [hw.text_eq run, hl, relayed_append, payloadsOf_append, hsilent]
    cases stream <;> simp [Supervisor.transcript]

/-- One stream has as many bytes as it may, the other has one more, which comes with the rest of a
letter that was held back: the run fails for the other, of which only the beginning was kept. -/
theorem one_byte_over :
    ∃ log s, Course (.start ⟨4, 8, none⟩) log s ∧ s.supervisor.isActive = false
      ∧ ByLength 4
        (fun stream => if stream = .stdout then [0x61, 0x62, 0x63, 0x64]
          else [0x68, 0xC3, 0xA9, 0xC3, 0xA9])
        (s.supervisor.outcome 4 .nil 9)
      ∧ s.supervisor.outcome 4 .nil 9 = .error (.outputLimit .stderr 4)
      ∧ (s.supervisor.transcript .stderr).text = "h" := by
  have h0 : Course (.start ⟨4, 8, none⟩) [] (.start ⟨4, 8, none⟩) := .begin
  have h1 := (h0.next 0 false (.read .stderr [0x68, 0xC3] (by decide) (by decide) (by decide))).next
    1 false (.take (.chunk (.data .stderr "h" 2)) [] (by decide) (by decide) (by decide +kernel))
  have h2 := (h1.next 2 false (.read .stdout [0x61, 0x62, 0x63, 0x64] (by decide +kernel)
    (by decide) (by decide))).next 3 false (.take (.chunk (.data .stdout "abcd" 4)) []
    (by decide +kernel) (by decide +kernel) (by decide +kernel))
  have h3 := (h2.next 4 false (.read .stderr [0xA9, 0xC3, 0xA9] (by decide +kernel) (by decide)
    (by decide))).next 5 false (.take (.chunk (.data .stderr "éé" 3)) [] (by decide +kernel)
    (by decide +kernel) (by decide +kernel))
  have h4 := (h3.next 6 false (.readEnd .stderr (by decide +kernel))).next 7 false
    (.readEnd .stdout (by decide +kernel))
  have h := (h4.next 8 false (.learn (.exited none) (by decide +kernel) (by decide +kernel)
    trivial)).next 9 false (.take .closed [] (by decide +kernel) (by decide +kernel)
    (by decide +kernel))
  obtain ⟨hresult, -, hsilent⟩ := overLimit_iff h
  refine ⟨_, _, h, by decide +kernel, hresult _ ?_ ?_ ?_ ?_ .nil 9, rfl, ?_⟩
  · exact ⟨fun | .stdout => by decide | .stderr => by decide,
      fun | .stdout => by decide | .stderr => by decide⟩
  · decide
  · rintro (_ | _) - <;> decide
  · decide +kernel
  · exact (hsilent .stderr
      [⟨.chunk (.data .stderr "h" 2), { emitted := some (.stderr, "h") }⟩,
        ⟨.chunk (.data .stdout "abcd" 4), { emitted := some (.stdout, "abcd") }⟩]
      ⟨.chunk (.data .stderr "éé" 3), { kill := true }⟩ [⟨.exited none, {}⟩, ⟨.closed, {}⟩] rfl
      (by decide) .nil).2.trans (by decide)

end Scriptorium.Run
