import Scriptorium.Run.Writer
import Scriptorium.Proofs.Run.Stopping

/-!
# The steps that a run takes by itself

The pumps of a run, its supervisor and its writer go on in no fixed order.  `Supervision.Step` is
one step of a pump or of the supervisor at some time, `Writer.Step` one of the writer.

What the supervisor does here is what `Watch` speaks of: the events that come out of the queue, and
those that the process, a request to stop and the clock bring, are ones that it looks for
(`Supervision.Step.watch`).
-/
namespace Scriptorium.Run

/-! ## 1. The supervisor and its pumps -/

/-- Whether something other than the queue brings an event at a time. -/
def Supervision.Brings (s : Supervision) (now : Nat) (cancelled : Bool) : Event → Prop
  | .chunk _ | .closed => False
  | .exited _ | .waitFailed _ => True
  | .cancelled => cancelled = true
  | .timedOut => ∃ t, s.terms.deadline = some t ∧ t ≤ now
  | .drained => ∃ t, s.supervisor.drainUntil = some t ∧ t ≤ now

/-- One step of a run with its pumps, at a time and with the request to stop made or not, and what
is done about it. -/
inductive Supervision.Step (now : Nat) (cancelled : Bool) (s : Supervision) :
    Supervision → Reaction → Prop
  | read (stream : Stream) (piece : Bytes) : s.canRead stream = true → piece ≠ [] →
      piece.length ≤ s.terms.chunkSize → Step now cancelled s (s.read stream piece) {}
  | readEnd (stream : Stream) : s.canRead stream = true →
      Step now cancelled s (s.readEnd stream) {}
  | readFailed (stream : Stream) (cause : OsError) : s.canRead stream = true →
      Step now cancelled s (s.readFailed stream cause) {}
  | take {s' : Supervision} {r : Reaction} : s.supervisor.isActive = true →
      s.take? now = some (s', r) → Step now cancelled s s' r
  | learn (e : Event) : s.supervisor.isActive = true → s.supervisor.allows e = true →
      s.Brings now cancelled e → Step now cancelled s (s.learn now e).1 (s.learn now e).2

namespace Supervision

variable {s s' : Supervision} {r : Reaction} {now : Nat} {cancelled : Bool}

@[simp] theorem setPump_supervisor (s : Supervision) (stream : Stream) (p : Pump) :
    (s.setPump stream p).supervisor = s.supervisor := by cases stream <;> rfl

@[simp] theorem setPump_terms (s : Supervision) (stream : Stream) (p : Pump) :
    (s.setPump stream p).terms = s.terms := by cases stream <;> rfl

/-- What comes out of the queue is the event that the supervisor learns of. -/
theorem take?_cases (h : s.take? now = some (s', r)) :
    s.supervisor.streamsOpen = true ∧ ∃ e rest, s.next? = some (e, rest)
      ∧ ((∃ c, e = .chunk c) ∨ e = .closed)
      ∧ s' = { s with queue := rest, supervisor := (s.supervisor.step s.terms.ceiling now e).1 }
      ∧ r = (s.supervisor.step s.terms.ceiling now e).2 := by
  unfold take? at h
  split at h
  · rename_i ho
    obtain ⟨⟨e, rest⟩, hn, he⟩ := Option.map_eq_some_iff.mp h
    refine ⟨ho, e, rest, hn, ?_, ?_⟩
    · unfold next? at hn
      split at hn
      · obtain ⟨rfl, -⟩ := Prod.mk.inj (Option.some.inj hn)
        exact .inl ⟨_, rfl⟩
      · split at hn
        · exact absurd hn (by simp)
        · obtain ⟨rfl, -⟩ := Prod.mk.inj (Option.some.inj hn)
          exact .inr rfl
    · obtain ⟨rfl, rfl⟩ := Prod.mk.inj he
      exact ⟨rfl, rfl⟩
  · exact absurd h (by simp)

/-- **The supervisor only learns of what it looks for.**  A step keeps the terms of the run; it is
a step of a pump, which tells the supervisor nothing, or an event of its history. -/
theorem Step.watch (h : Step now cancelled s s' r) :
    s'.terms = s.terms ∧ ((s'.supervisor = s.supervisor ∧ r = {})
      ∨ ∃ e, s.supervisor.Awaits s.terms e
        ∧ s'.supervisor = (s.supervisor.step s.terms.ceiling now e).1
        ∧ r = (s.supervisor.step s.terms.ceiling now e).2) := by
  cases h with
  | read stream piece _ _ _ =>
    exact ⟨by simp [Supervision.read], .inl ⟨by simp [Supervision.read], rfl⟩⟩
  | readEnd stream _ =>
    exact ⟨by simp [Supervision.readEnd], .inl ⟨by simp [Supervision.readEnd], rfl⟩⟩
  | readFailed stream cause _ =>
    exact ⟨by simp [Supervision.readFailed], .inl ⟨by simp [Supervision.readFailed], rfl⟩⟩
  | take ha ht =>
    obtain ⟨ho, e, rest, -, hk, rfl, rfl⟩ := take?_cases ht
    refine ⟨rfl, .inr ⟨e, ⟨ha, ?_, ?_⟩, rfl, rfl⟩⟩
    · rcases hk with ⟨c, rfl⟩ | rfl <;> exact ho
    · rcases hk with ⟨c, rfl⟩ | rfl <;> exact fun hc => absurd hc (by simp)
  | learn e ha hallow hb =>
    refine ⟨rfl, .inr ⟨e, ⟨ha, hallow, ?_⟩, rfl, rfl⟩⟩
    rintro rfl
    obtain ⟨t, ht, -⟩ := hb
    rw [ht]
    rfl

end Supervision

/-! ## 2. The writer -/

/-- One step of the writer of a run, which may be over. -/
inductive Writer.Step (isOver : Bool) (w : Writer) : Writer → Prop
  | complete {w' : Writer} : w.complete? = some w' → Step isOver w w'
  | begin {w' : Writer} : w.begin? = some w' → Step isOver w w'
  | advance (n : Nat) (c : Write) : w.isOpen = true → w.current = some c → n ≤ c.data.length →
      Step isOver w (w.advance n)
  | refuse (c : Write) : w.isOpen = true → w.current = some c → Step isOver w w.refuse
  | stop : w.isOpen = true → (isOver = true ∨ w.atEnd = true) → Step isOver w w.stop

end Scriptorium.Run
