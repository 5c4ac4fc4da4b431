import Mathlib.Algebra.GroupWithZero.Nat
import Scriptorium.Run.Supervision

/-!
# The first reason to stop decides how a run ends

A supervisor learns of its events in any order that the guards of its loop let through
(`Supervisor.Awaits`), and several of them can ask for the run to be stopped.  This module says
which of them counts.

The reasons are read off the history alone: `reason?` says whether an event stops a run that was
not stopped before, `carried` being what its stream had brought until then, and `firstReason?` is
the first such reason.  Every state of the supervisor agrees with it (`Watch.stop_eq`), so that

* a run is stopped once, and its process killed at most once, while it was alive
  (`Watch.countP_kill`, `Watch.kill_before_exit`);
* the time at which the streams are given up is set together with the reason
  (`Watch.drainUntil_isSome`), except that a process that cannot be waited for ends the loop;
* the result is that of the first reason, and a run without one has ended by itself, its exit known
  and its streams closed (`first_reason_decides`).
-/
namespace Scriptorium.Run

/-! ## 1. Histories -/

/-- Whether the supervisor of a run with these terms looks for an event.  A time limit only comes
up where there is one. -/
def Supervisor.Awaits (terms : Terms) (s : Supervisor) (e : Event) : Prop :=
  s.isActive = true ∧ s.allows e = true ∧ (e = .timedOut → terms.deadline.isSome = true)

instance (terms : Terms) (s : Supervisor) (e : Event) : Decidable (s.Awaits terms e) :=
  inferInstanceAs (Decidable (_ ∧ _ ∧ _))

/-- An event that a supervisor has learned of, with what was done about it. -/
structure Seen where
  event : Event
  reaction : Reaction
  deriving DecidableEq, Repr

/-- `Watch terms s log s'`: from the state `s`, the events of `log` came one after the other, each
of them looked for and at some time, and led to `s'`. -/
inductive Watch (terms : Terms) (s : Supervisor) : List Seen → Supervisor → Prop
  | begin : Watch terms s [] s
  | learn {log : List Seen} {s' : Supervisor} (now : Nat) (e : Event) :
      Watch terms s log s' → s'.Awaits terms e →
      Watch terms s (log ++ [⟨e, (s'.step terms.ceiling now e).2⟩])
        (s'.step terms.ceiling now e).1

/-- The events of a history. -/
def eventsOf (log : List Seen) : List Event := log.map (·.event)

/-- The bytes of a stream that an event brings. -/
def Event.bytesOf (stream : Stream) : Event → Nat
  | .chunk (.data from_ _ bytes) => if from_ = stream then bytes else 0
  | _ => 0

/-- The bytes that a stream has carried. -/
def carried (stream : Stream) (es : List Event) : Nat := (es.map (·.bytesOf stream)).sum

/-- Why an event stops a run that was not stopped before; none if it does not. -/
def reason? (ceiling : Nat) (before : List Event) : Event → Option Stop
  | .chunk (.data stream _ bytes) =>
    if ceiling < carried stream before + bytes then some (.overflow stream) else none
  | .chunk (.failed _ cause) => some (.failed cause)
  | .waitFailed cause => some (.failed cause)
  | .cancelled => some .cancelled
  | .timedOut => some .timedOut
  | .closed | .exited _ | .drained => none

/-- The first reason to stop among events that come after others. -/
def firstReasonAfter (ceiling : Nat) (before : List Event) : List Event → Option Stop
  | [] => none
  | e :: es => (reason? ceiling before e).or (firstReasonAfter ceiling (before ++ [e]) es)

/-- The first reason to stop. -/
def firstReason? (ceiling : Nat) (es : List Event) : Option Stop := firstReasonAfter ceiling [] es

theorem eventsOf_concat (log : List Seen) (x : Seen) :
    eventsOf (log ++ [x]) = eventsOf log ++ [x.event] := by
  simp [eventsOf]

theorem carried_concat (stream : Stream) (es : List Event) (e : Event) :
    carried stream (es ++ [e]) = carried stream es + e.bytesOf stream := by
  simp [carried]

theorem firstReasonAfter_concat (ceiling : Nat) (e : Event) :
    ∀ (es before : List Event), firstReasonAfter ceiling before (es ++ [e])
      = (firstReasonAfter ceiling before es).or (reason? ceiling (before ++ es) e)
  | [], before => by simp [firstReasonAfter]
  | d :: es, before => by
    simp only [List.cons_append, firstReasonAfter]
    rw [firstReasonAfter_concat ceiling e es (before ++ [d]), Option.or_assoc]
    simp

theorem firstReason_concat (ceiling : Nat) (es : List Event) (e : Event) :
    firstReason? ceiling (es ++ [e])
      = (firstReason? ceiling es).or (reason? ceiling es e) := by
  simpa [firstReason?] using firstReasonAfter_concat ceiling e es []

/-! ## 2. What one event does to each part of the state -/

namespace Supervisor

variable (s : Supervisor) (ceiling now : Nat)

@[simp] theorem setTranscript_stop (stream : Stream) (t : Transcript) :
    (s.setTranscript stream t).stop = s.stop := by cases stream <;> rfl

@[simp] theorem setTranscript_exit (stream : Stream) (t : Transcript) :
    (s.setTranscript stream t).exit = s.exit := by cases stream <;> rfl

@[simp] theorem setTranscript_streamsOpen (stream : Stream) (t : Transcript) :
    (s.setTranscript stream t).streamsOpen = s.streamsOpen := by cases stream <;> rfl

@[simp] theorem setTranscript_drainUntil (stream : Stream) (t : Transcript) :
    (s.setTranscript stream t).drainUntil = s.drainUntil := by cases stream <;> rfl

@[simp] theorem setTranscript_abandoned (stream : Stream) (t : Transcript) :
    (s.setTranscript stream t).abandoned = s.abandoned := by cases stream <;> rfl

theorem transcript_setTranscript (stream other : Stream) (t : Transcript) :
    (s.setTranscript stream t).transcript other
      = if stream = other then t else s.transcript other := by
  cases stream <;> cases other <;> rfl

@[simp] theorem halt_stop (why : Stop) : (s.halt now why).1.stop = s.stop.or (some why) := by
  unfold halt
  cases hs : s.stop <;> simp [hs]

@[simp] theorem halt_exit (why : Stop) : (s.halt now why).1.exit = s.exit := by
  unfold halt
  split <;> rfl

@[simp] theorem halt_streamsOpen (why : Stop) :
    (s.halt now why).1.streamsOpen = s.streamsOpen := by
  unfold halt
  split <;> rfl

@[simp] theorem halt_abandoned (why : Stop) : (s.halt now why).1.abandoned = s.abandoned := by
  unfold halt
  split <;> rfl

@[simp] theorem halt_transcript (why : Stop) (stream : Stream) :
    (s.halt now why).1.transcript stream = s.transcript stream := by
  unfold halt
  split <;> cases stream <;> rfl

theorem halt_drainUntil (why : Stop) :
    (s.halt now why).1.drainUntil
      = if s.stop.isSome then s.drainUntil else some (now + drainGrace) := by
  unfold halt
  split <;> simp_all

theorem halt_kill (why : Stop) :
    (s.halt now why).2.kill = (s.stop.isNone && s.exit.isNone) := by
  unfold halt
  cases hs : s.stop <;> simp

/-- Each chunk counts for its stream, whatever becomes of its text. -/
theorem step_bytes (e : Event) (stream : Stream) :
    ((s.step ceiling now e).1.transcript stream).bytes
      = (s.transcript stream).bytes + e.bytesOf stream := by
  cases e with
  | chunk c =>
    cases c with
    | data from_ text bytes =>
      simp only [step, Event.bytesOf]
      by_cases h : from_ = stream
      · subst h
        split
        · simp [transcript_setTranscript]
        · split <;> simp [transcript_setTranscript]
      · split
        · simp [transcript_setTranscript, h]
        · split <;> simp [transcript_setTranscript, h]
    | failed from_ cause => simp [step, Event.bytesOf]
  | cancelled => simp [step, Event.bytesOf]
  | timedOut => simp [step, Event.bytesOf]
  | closed => cases stream <;> rfl
  | exited code => cases stream <;> rfl
  | waitFailed cause => cases stream <;> rfl
  | drained => cases stream <;> rfl

/-- A reason to stop is kept if it is the first. -/
theorem step_stop (before : List Event) (e : Event)
    (h : ∀ stream, (s.transcript stream).bytes = carried stream before) :
    (s.step ceiling now e).1.stop = s.stop.or (reason? ceiling before e) := by
  cases e with
  | chunk c =>
    cases c with
    | data stream text bytes =>
      simp only [step, reason?, ← h stream]
      split
      · simp
      · split <;> simp
    | failed stream cause => simp [step, reason?]
  | waitFailed cause => cases hs : s.stop <;> simp [step, reason?, hs]
  | cancelled => simp [step, reason?]
  | timedOut => simp [step, reason?]
  | closed => simp [step, reason?]
  | exited code => simp [step, reason?]
  | drained => simp [step, reason?]

/-- A chunk tells nothing about the process and the streams being open. -/
theorem step_chunk_frame (c : Chunk) :
    (s.step ceiling now (.chunk c)).1.exit = s.exit
      ∧ (s.step ceiling now (.chunk c)).1.streamsOpen = s.streamsOpen
      ∧ (s.step ceiling now (.chunk c)).1.abandoned = s.abandoned := by
  cases c with
  | data stream text bytes =>
    simp only [step]
    split
    · simp
    · split <;> simp
  | failed stream cause => simp [step]

theorem step_exit (e : Event) :
    (s.step ceiling now e).1.exit = match e with
      | .exited code => some code
      | _ => s.exit := by
  cases e with
  | chunk c => exact (s.step_chunk_frame ceiling now c).1
  | _ => simp [step]

theorem step_streamsOpen (e : Event) :
    (s.step ceiling now e).1.streamsOpen = match e with
      | .closed => false
      | _ => s.streamsOpen := by
  cases e with
  | chunk c => exact (s.step_chunk_frame ceiling now c).2.1
  | _ => simp [step]

theorem step_abandoned (e : Event) :
    (s.step ceiling now e).1.abandoned = match e with
      | .waitFailed _ | .drained => true
      | _ => s.abandoned := by
  cases e with
  | chunk c => exact (s.step_chunk_frame ceiling now c).2.2
  | _ => simp [step]

/-- What an event can do about stopping: nothing; or it asks for the run to be stopped, which
counts if nothing has before; or the process cannot be waited for, and then nothing is killed and
no time is set. -/
theorem step_cases (e : Event) :
    ((s.step ceiling now e).1.stop = s.stop
        ∧ (s.step ceiling now e).1.drainUntil = s.drainUntil
        ∧ (s.step ceiling now e).2.kill = false)
      ∨ (∃ why, (s.step ceiling now e).1.stop = s.stop.or (some why)
        ∧ (s.step ceiling now e).1.drainUntil
            = (if s.stop.isSome then s.drainUntil else some (now + drainGrace))
        ∧ (s.step ceiling now e).2.kill = (s.stop.isNone && s.exit.isNone))
      ∨ (∃ cause, e = .waitFailed cause
        ∧ (s.step ceiling now e).1.stop = s.stop.or (some (.failed cause))
        ∧ (s.step ceiling now e).1.drainUntil = s.drainUntil
        ∧ (s.step ceiling now e).2.kill = false) := by
  cases e with
  | chunk c =>
    cases c with
    | data stream text bytes =>
      simp only [step]
      split
      · exact .inr (.inl ⟨.overflow stream, by simp, by simp [halt_drainUntil],
          by simp [halt_kill]⟩)
      · split
        · exact .inl (by simp)
        · exact .inl (by simp)
    | failed stream cause =>
      exact .inr (.inl ⟨.failed cause, by simp [step], by simp [step, halt_drainUntil],
        by simp [step, halt_kill]⟩)
  | cancelled =>
    exact .inr (.inl ⟨.cancelled, by simp [step], by simp [step, halt_drainUntil],
      by simp [step, halt_kill]⟩)
  | timedOut =>
    exact .inr (.inl ⟨.timedOut, by simp [step], by simp [step, halt_drainUntil],
      by simp [step, halt_kill]⟩)
  | waitFailed cause =>
    exact .inr (.inr ⟨cause, rfl, by cases hs : s.stop <;> simp [step, hs], rfl, rfl⟩)
  | closed => exact .inl ⟨rfl, rfl, rfl⟩
  | exited code => exact .inl ⟨rfl, rfl, rfl⟩
  | drained => exact .inl ⟨rfl, rfl, rfl⟩

variable {s ceiling now}

/-- **A kill is the answer to the first reason, and to a process that is alive.**  A process that
has ended by itself is left alone, and one that was killed is not killed again. -/
theorem step_kill {e : Event} (h : (s.step ceiling now e).2.kill = true) :
    s.stop = none ∧ s.exit = none ∧ (s.step ceiling now e).1.stop.isSome = true := by
  rcases s.step_cases ceiling now e with ⟨_, _, hk⟩ | ⟨why, hs, _, hk⟩ | ⟨_, _, _, _, hk⟩
  · rw [hk] at h; exact absurd h (by simp)
  · rw [hk, Bool.and_eq_true, Option.isNone_iff_eq_none, Option.isNone_iff_eq_none] at h
    exact ⟨h.1, h.2, by rw [hs, h.1]; rfl⟩
  · rw [hk] at h; exact absurd h (by simp)

/-- A reason to stop stays. -/
theorem step_stop_of_some {e : Event} {why : Stop} (h : s.stop = some why) :
    (s.step ceiling now e).1.stop = some why := by
  rcases s.step_cases ceiling now e with ⟨hs, _⟩ | ⟨_, hs, _⟩ | ⟨_, _, hs, _⟩ <;> simp [hs, h]

/-- The time at which the streams are given up stays. -/
theorem step_drainUntil_of_some {e : Event} {t : Nat} (hs : s.stop.isSome = true)
    (h : s.drainUntil = some t) : (s.step ceiling now e).1.drainUntil = some t := by
  rcases s.step_cases ceiling now e with ⟨_, hd, _⟩ | ⟨_, _, hd, _⟩ | ⟨_, _, _, hd, _⟩
  · rw [hd, h]
  · rw [hd, if_pos hs, h]
  · rw [hd, h]

/-- The time at which the streams are given up is only there if there is a reason to stop. -/
theorem step_stop_of_drainUntil {e : Event}
    (h : s.drainUntil.isSome = true → s.stop.isSome = true)
    (hd : (s.step ceiling now e).1.drainUntil.isSome = true) :
    (s.step ceiling now e).1.stop.isSome = true := by
  rcases s.step_cases ceiling now e with ⟨hs, hd', _⟩ | ⟨why, hs, _⟩ | ⟨_, _, hs, _⟩
  · rw [hs]; rw [hd'] at hd; exact h hd
  · simp [hs]
  · simp [hs]

/-- Unless the process cannot be waited for, the time at which the streams are given up is set
together with the reason to stop. -/
theorem step_drainUntil_isSome {e : Event} (he : ∀ cause, e ≠ .waitFailed cause)
    (h : s.drainUntil.isSome = s.stop.isSome) :
    (s.step ceiling now e).1.drainUntil.isSome = (s.step ceiling now e).1.stop.isSome := by
  rcases s.step_cases ceiling now e with ⟨hs, hd, _⟩ | ⟨why, hs, hd, _⟩ | ⟨cause, hc, _⟩
  · rw [hs, hd, h]
  · rw [hs, hd]
    cases hw : s.stop with
    | none => simp
    | some first => simpa [hw] using h
  · exact absurd hc (he cause)

end Supervisor

/-! ## 3. What holds along a history -/

namespace Watch

variable {terms : Terms} {s s' : Supervisor} {log : List Seen}

/-- **A reason to stop never changes.**  Later reasons are learned of as well, but they come too
late. -/
theorem stop_of_some {why : Stop} (h : Watch terms s log s') (hs : s.stop = some why) :
    s'.stop = some why := by
  induction h with
  | begin => exact hs
  | learn now e _ _ ih => exact Supervisor.step_stop_of_some ih

/-- **The time at which the streams are given up is never moved.**  A second reason does not give
the streams more time, so a run that was stopped comes to its end. -/
theorem drainUntil_of_some {t : Nat} (h : Watch terms s log s') (hs : s.stop.isSome = true)
    (hd : s.drainUntil = some t) : s'.drainUntil = some t := by
  obtain ⟨why, hw⟩ := Option.isSome_iff_exists.mp hs
  induction h with
  | begin => exact hd
  | learn now e hrun _ ih =>
    exact Supervisor.step_drainUntil_of_some (by rw [hrun.stop_of_some hw]; rfl) ih

/-- The bytes that are counted are those that were carried. -/
theorem bytes_eq (h : Watch terms {} log s) (stream : Stream) :
    (s.transcript stream).bytes = carried stream (eventsOf log) := by
  induction h with
  | begin => cases stream <;> rfl
  | learn now e _ _ ih =>
    rw [Supervisor.step_bytes, ih, eventsOf_concat, carried_concat]

/-- **The reason to stop is the first one of the history.**  It can be read off from what was
learned, in the order in which it was learned, without looking at the supervisor. -/
theorem stop_eq (h : Watch terms {} log s) :
    s.stop = firstReason? terms.ceiling (eventsOf log) := by
  induction h with
  | begin => rfl
  | learn now e hrun _ ih =>
    rw [Supervisor.step_stop _ _ _ _ e hrun.bytes_eq, ih, eventsOf_concat, firstReason_concat]

/-- How the process ended is known from the event that told it. -/
theorem mem_of_exit {code : Option Int} (h : Watch terms {} log s) (hx : s.exit = some code) :
    .exited code ∈ eventsOf log := by
  induction h with
  | begin => exact absurd hx (by simp)
  | learn now e _ _ ih =>
    rw [eventsOf_concat]
    rw [Supervisor.step_exit] at hx
    cases e with
    | exited c => simp_all
    | _ => exact List.mem_append_left _ (ih hx)

/-- An end of the process that was told is known. -/
theorem exit_of_mem {code : Option Int} (h : Watch terms {} log s)
    (hm : .exited code ∈ eventsOf log) : s.exit.isSome = true := by
  induction h with
  | begin => exact absurd hm (by simp [eventsOf])
  | learn now e _ _ ih =>
    rw [Supervisor.step_exit]
    rw [eventsOf_concat, List.mem_append, List.mem_singleton] at hm
    rcases hm with hm | hm
    · cases e with
      | exited c => rfl
      | _ => exact ih hm
    · subst hm; rfl

/-- The streams are closed once that was told. -/
theorem mem_of_closed (h : Watch terms {} log s) (hc : s.streamsOpen = false) :
    .closed ∈ eventsOf log := by
  induction h with
  | begin => exact absurd hc (by simp)
  | learn now e _ _ ih =>
    rw [eventsOf_concat]
    rw [Supervisor.step_streamsOpen] at hc
    cases e with
    | closed => simp
    | _ => exact List.mem_append_left _ (ih hc)

/-- The streams are only given up for a reason. -/
theorem stop_of_drainUntil (h : Watch terms {} log s) (hd : s.drainUntil.isSome = true) :
    s.stop.isSome = true := by
  induction h with
  | begin => exact absurd hd (by simp)
  | learn now e _ _ ih => exact Supervisor.step_stop_of_drainUntil ih hd

/-- A run whose streams or process were given up was stopped. -/
theorem stop_of_abandoned (h : Watch terms {} log s) (ha : s.abandoned = true) :
    s.stop.isSome = true := by
  induction h with
  | begin => exact absurd ha (by simp)
  | @learn log' s' now e hrun haw ih =>
    have kept : s'.stop.isSome = true → (s'.step terms.ceiling now e).1.stop.isSome = true := by
      intro hs
      obtain ⟨why, hw⟩ := Option.isSome_iff_exists.mp hs
      rw [Supervisor.step_stop_of_some hw]; rfl
    rw [Supervisor.step_abandoned] at ha
    cases e with
    | drained => exact kept (hrun.stop_of_drainUntil haw.2.1)
    | waitFailed cause => rfl
    | _ => exact kept (ih ha)

/-- Unless the process could not be waited for, the time at which the streams are given up is
there exactly if there is a reason to stop. -/
theorem drainUntil_isSome (h : Watch terms {} log s)
    (hw : ∀ cause, .waitFailed cause ∉ eventsOf log) :
    s.drainUntil.isSome = s.stop.isSome := by
  induction h with
  | begin => rfl
  | learn now e _ _ ih =>
    rw [eventsOf_concat] at hw
    refine Supervisor.step_drainUntil_isSome ?_ (ih ?_)
    · rintro cause rfl
      exact hw cause (by simp)
    · exact fun cause hm => hw cause (List.mem_append_left _ hm)

/-- The kills of a history: at most one, and none while there is no reason to stop. -/
theorem countP_kill (h : Watch terms {} log s) :
    log.countP (·.reaction.kill) ≤ if s.stop.isSome then 1 else 0 := by
  induction h with
  | begin => simp
  | @learn log' s' now e _ _ ih =>
    rw [List.countP_append, List.countP_singleton]
    cases hk : (s'.step terms.ceiling now e).2.kill with
    | true =>
      obtain ⟨hn, -, hs⟩ := Supervisor.step_kill hk
      rw [hn] at ih
      simpa [hs] using ih
    | false =>
      cases hs : s'.stop with
      | none =>
        rw [hs] at ih
        simp only [Option.isSome_none, Bool.false_eq_true, if_false] at ih
        simp [Nat.le_zero.mp ih]
      | some why =>
        rw [hs] at ih
        simpa [Supervisor.step_stop_of_some hs] using ih

/-- A kill comes before the end of the process is known. -/
theorem kill_before_exit (h : Watch terms {} log s) {before after : List Seen} {x : Seen}
    (hl : log = before ++ x :: after) (hk : x.reaction.kill = true) (code : Option Int) :
    .exited code ∉ eventsOf before := by
  induction h generalizing after with
  | begin => exact absurd hl (by simp)
  | @learn log' s' now e hrun _ ih =>
    rcases List.eq_nil_or_concat after with rfl | ⟨rest, y, rfl⟩
    · obtain ⟨rfl, hx⟩ := List.append_inj' hl rfl
      obtain rfl := (List.cons.inj hx).1
      intro hm
      have hexit := hrun.exit_of_mem hm
      rw [(Supervisor.step_kill hk).2.1] at hexit
      exact absurd hexit (by simp)
    · rw [List.concat_eq_append, ← List.cons_append, ← List.append_assoc] at hl
      exact ih (List.append_inj' hl rfl).1

end Watch

/-! ## 4. Results -/

namespace Supervisor

theorem outcome_ok_iff {ceiling ms : Nat} {run : Id} {s : Supervisor} {t : Termination} :
    (∃ o, s.outcome ceiling run ms = .ok o ∧ o.termination = t)
      ↔ s.termination ceiling = .ok t := by
  unfold outcome
  cases s.termination ceiling with
  | error e => simp [Except.map]
  | ok u => simp [Except.map]

theorem outcome_error_iff {ceiling ms : Nat} {run : Id} {s : Supervisor} {e : Error} :
    s.outcome ceiling run ms = .error e ↔ s.termination ceiling = .error e := by
  unfold outcome
  cases s.termination ceiling <;> simp [Except.map]

/-- Each reason to stop has a result of its own. -/
theorem termination_iff (ceiling : Nat) (s : Supervisor) :
    (s.termination ceiling = .ok .exited ↔ s.stop = none)
      ∧ (s.termination ceiling = .ok .cancelled ↔ s.stop = some .cancelled)
      ∧ (s.termination ceiling = .ok .timedOut ↔ s.stop = some .timedOut)
      ∧ (∀ stream, s.termination ceiling = .error (.outputLimit stream ceiling)
          ↔ s.stop = some (.overflow stream))
      ∧ ∀ cause, s.termination ceiling = .error (.io cause) ↔ s.stop = some (.failed cause) := by
  unfold termination
  cases s.stop with
  | none => simp
  | some why => cases why <;> simp

/-- A run that is no longer looked after and was not stopped has ended by itself. -/
theorem exit_of_not_active {s : Supervisor} (h : s.isActive = false) (ha : s.abandoned = false) :
    s.exit.isSome = true ∧ s.streamsOpen = false := by
  simp only [isActive, ha, Bool.not_false, Bool.true_and, Bool.or_eq_false_iff] at h
  refine ⟨?_, h.2⟩
  cases hx : s.exit with
  | none => rw [hx] at h; exact absurd h.1 (by simp)
  | some code => rfl

end Supervisor

/-- The result `r` of a run with the events `es` is the one that their first reason to stop calls
for; without one, the run has ended by itself, and both how it ended and the end of its streams
were told. -/
structure Verdict (ceiling : Nat) (es : List Event) (r : Except Error Outcome) : Prop where
  exited : (∃ o, r = .ok o ∧ o.termination = .exited) ↔ firstReason? ceiling es = none
  told : firstReason? ceiling es = none →
    ∃ code, .exited code ∈ es ∧ .closed ∈ es ∧ ∀ o, r = .ok o → o.exitCode = code
  cancelled : (∃ o, r = .ok o ∧ o.termination = .cancelled)
    ↔ firstReason? ceiling es = some .cancelled
  timedOut : (∃ o, r = .ok o ∧ o.termination = .timedOut)
    ↔ firstReason? ceiling es = some .timedOut
  overflow : ∀ stream, r = .error (.outputLimit stream ceiling)
    ↔ firstReason? ceiling es = some (.overflow stream)
  failed : ∀ cause, r = .error (.io cause) ↔ firstReason? ceiling es = some (.failed cause)

/-- A run that was not stopped tells how it ended. -/
theorem Watch.told {terms : Terms} {log : List Seen} {s : Supervisor} (h : Watch terms {} log s)
    (hdone : s.isActive = false) (hs : s.stop = none) (run : Id) (ms : Nat) :
    ∃ code, .exited code ∈ eventsOf log ∧ .closed ∈ eventsOf log
      ∧ ∀ o, s.outcome terms.ceiling run ms = .ok o → o.exitCode = code := by
  have ha : s.abandoned = false := by
    cases ha : s.abandoned with
    | false => rfl
    | true =>
      have := h.stop_of_abandoned ha
      rw [hs] at this
      exact absurd this (by simp)
  obtain ⟨hx, hc⟩ := Supervisor.exit_of_not_active hdone ha
  obtain ⟨code, hx⟩ := Option.isSome_iff_exists.mp hx
  refine ⟨code, h.mem_of_exit hx, h.mem_of_closed hc, ?_⟩
  intro o ho
  simp only [Supervisor.outcome, Supervisor.termination, hs, hx, Except.map] at ho
  injection ho with ho
  rw [← ho]
  rfl

/-- What is left of a run when nobody looks after it any more is the verdict on its history. -/
theorem Watch.verdict {terms : Terms} {log : List Seen} {s : Supervisor} (h : Watch terms {} log s)
    (hdone : s.isActive = false) (run : Id) (ms : Nat) :
    Verdict terms.ceiling (eventsOf log) (s.outcome terms.ceiling run ms) := by
  obtain ⟨hexited, hcancelled, htimedOut, hoverflow, hfailed⟩ :=
    Supervisor.termination_iff terms.ceiling s
  rw [h.stop_eq] at hexited hcancelled htimedOut hoverflow hfailed
  refine ⟨?_, ?_, ?_, ?_, ?_, ?_⟩
  · rw [Supervisor.outcome_ok_iff, hexited]
  · intro hn
    exact h.told hdone (h.stop_eq.trans hn) run ms
  · rw [Supervisor.outcome_ok_iff, hcancelled]
  · rw [Supervisor.outcome_ok_iff, htimedOut]
  · intro stream
    rw [Supervisor.outcome_error_iff, hoverflow]
  · intro cause
    rw [Supervisor.outcome_error_iff, hfailed]

/-- **The first reason to stop decides.**  After any events that the guards let through, in any
order: the reason that the supervisor keeps is the first one of its history, and neither the reason
nor the time at which the streams are given up changes any more; the process is killed at most
once, and not after its end is known; unless the process could not be waited for, that time is set
exactly if there is a reason; and when the loop is over, the result is the verdict on the
history. -/
theorem first_reason_decides {terms : Terms} {log : List Seen} {s : Supervisor}
    (h : Watch terms {} log s) :
    s.stop = firstReason? terms.ceiling (eventsOf log)
      ∧ (∀ more s', Watch terms s more s' →
          (∀ why, s.stop = some why → s'.stop = some why)
            ∧ ∀ t, s.drainUntil = some t → s'.drainUntil = some t)
      ∧ log.countP (·.reaction.kill) ≤ 1
      ∧ (∀ before x after, log = before ++ x :: after → x.reaction.kill = true →
          ∀ code, .exited code ∉ eventsOf before)
      ∧ ((∀ cause, .waitFailed cause ∉ eventsOf log) → s.drainUntil.isSome = s.stop.isSome)
      ∧ (s.isActive = false → ∀ run ms,
          Verdict terms.ceiling (eventsOf log) (s.outcome terms.ceiling run ms)) := by
  refine ⟨h.stop_eq, ?_, ?_, fun _ _ _ hl hk => h.kill_before_exit hl hk,
    h.drainUntil_isSome, h.verdict⟩
  · intro more s' hmore
    refine ⟨fun why hs => hmore.stop_of_some hs, fun t hd => ?_⟩
    exact hmore.drainUntil_of_some (h.stop_of_drainUntil (by rw [hd]; rfl)) hd
  · have hk := h.countP_kill
    split at hk <;> omega

/-- A run that is stopped by its time limit while its output already waits, carries too much
afterwards, is killed, and whose streams do not end: the time limit came first. -/
theorem timeout_before_overflow :
    ∃ log s, Watch ⟨4, 8, some 1000⟩ {} log s ∧ s.isActive = false ∧ s.stop = some .timedOut
      ∧ .chunk (.data .stdout "cdef" 4) ∈ eventsOf log
      ∧ log.countP (·.reaction.kill) ≤ 1
      ∧ Verdict 4 (eventsOf log) (s.outcome 4 .nil 1600) := by
  have h0 : Watch ⟨4, 8, some 1000⟩ {} [] {} := .begin
  have h1 := (h0.learn 10 (.chunk (.data .stdout "ab" 2)) (by decide)).learn 1000 .timedOut
    (by decide)
  have h2 := (h1.learn 1001 (.chunk (.data .stdout "cdef" 4)) (by decide)).learn 1002
    (.exited none) (by decide)
  have h := (h2.learn 1003 (.chunk (.failed .stderr .ioFailure)) (by decide)).learn 1500 .drained
    (by decide)
  have all := first_reason_decides h
  exact ⟨_, _, h, by decide, by decide, by decide, all.2.2.1, all.2.2.2.2.2 (by decide) .nil 1600⟩

end Scriptorium.Run
