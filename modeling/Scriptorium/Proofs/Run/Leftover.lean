import Scriptorium.Proofs.Run.Line

/-!
# What the writer of a run leaves over

The end of a run does not stop its writer.  The writer waits for the end and for the next write at
once, and while the pipe takes a write it waits for the end and for the pipe; where both have come
it may take either, and it only stops when it takes the end (`Line.Step.learn`).  So a write that
waits when the run ends may still be written, to a pipe that others may read from.

What it may write then is what is left over (`Line.left`), in order, and what is added to it.
`Line.Step.left_eq` is the balance of one step of a writer that goes on: what the pipe takes and
what is left afterwards are what was left before and what was added.  So whatever happens, the pipe
takes the beginning of that (`Line.Steps.fed_isPrefix`); and each beginning of what is left over can
be the last that it takes (`Line.exists_steps_fed`).
-/
namespace Scriptorium.Run.Line

variable {log more : List Act} {act : Act} {l l' : Line} {c : Write} {bytes tail : Bytes}

/-- What was added to the input and has not been taken by the pipe: the rest of the write under way
and the writes that wait. -/
def left (l : Line) : Bytes :=
  l.writer.current.elim [] (·.data) ++ l.writer.waiting.flatMap (·.data)

theorem left_of_none (hc : l.writer.current = none) :
    l.left = l.writer.waiting.flatMap (·.data) := by
  simp [left, hc]

theorem left_of_some (hc : l.writer.current = some c) :
    l.left = c.data ++ l.writer.waiting.flatMap (·.data) := by
  simp [left, hc]

/-! ## 1. What is taken of it -/

/-- **What a step takes, and what it leaves**, are what was left and what it adds.  Only a step that
stops the writer is left out here, since what is left then is never taken. -/
theorem Step.left_eq (h : Step l act l') (hgoes : l'.halted = false) :
    act.taken ++ l'.left = l.left ++ act.added?.getD [] := by
  cases h with
  | add _ hadd =>
    obtain ⟨-, -, rfl⟩ := add_eq_some hadd
    simp [left, Act.taken, Act.added?]
  | begin _ hbegin =>
    obtain ⟨-, next, rest, hc, hw, rfl⟩ := begin?_eq_some hbegin
    simp [left, hc, hw, Act.taken, Act.added?]
  | complete _ hcomplete =>
    obtain ⟨-, n, hc, rfl⟩ := complete?_eq_some hcomplete
    simp [left, hc, Act.taken, Act.added?]
  | pass n _ hc =>
    simp only [left, Writer.advance, hc, Option.map_some, Option.elim_some, Act.taken, Act.added?,
      Option.getD_none, List.append_nil]
    rw [← List.append_assoc, List.take_append_drop]
  | refuse _ _ => exact absurd hgoes (by simp)
  | finish _ _ | learn _ _ => exact absurd hgoes (by simp)
  | _ => simp [left, hold, letGo, Line.detach, Writer.stop, Act.taken, Act.added?]

theorem flatten_enqueued_concat (log : List Act) (act : Act) :
    (enqueued (log ++ [act])).flatten = (enqueued log).flatten ++ act.added?.getD [] := by
  cases h : act.added? <;> simp [enqueued, h]

/-- Of a writer that has gone on all the time, nothing is lost. -/
theorem Steps.left_eq (h : Steps l more l') (hgoes : l'.halted = false) :
    fed more ++ l'.left = l.left ++ (enqueued more).flatten := by
  induction h with
  | begin => simp [fed, enqueued]
  | @next more act l' l'' _ hstep ih =>
    have hbefore := ih (hstep.goes_before hgoes)
    calc fed (more ++ [act]) ++ l''.left
        = fed more ++ (act.taken ++ l''.left) := by simp [fed]
      _ = fed more ++ l'.left ++ act.added?.getD [] := by
        rw [hstep.left_eq hgoes, List.append_assoc]
      _ = l.left ++ (enqueued (more ++ [act])).flatten := by
        rw [hbefore, List.append_assoc, flatten_enqueued_concat]

/-- **What is still taken is the beginning of what is left and of what is added to it**, in this
order, whatever happens and whether or not the run is over. -/
theorem Steps.fed_isPrefix (h : Steps l more l') :
    fed more <+: l.left ++ (enqueued more).flatten := by
  induction h with
  | begin => exact List.nil_prefix
  | @next more act l' l'' hbefore hstep ih =>
    cases hgoes : l''.halted with
    | false => exact ⟨l''.left, Steps.left_eq (hbefore.next hstep) hgoes⟩
    | true =>
      -- the step that stops a writer takes nothing, and neither do those behind it
      have htaken : act.taken = [] := by
        rw [hstep.halted_eq, Bool.or_eq_true] at hgoes
        rcases hgoes with hhalted | hhalts
        · exact hstep.taken_of_halted hhalted
        · cases act with
          | passed bytes => exact absurd hhalts (by simp [Act.halts])
          | _ => rfl
      rw [fed_concat more htaken, flatten_enqueued_concat, ← List.append_assoc]
      exact ih.trans (List.prefix_append _ _)

/-! ## 2. What can be taken of it -/

/-- A writer at work, on a line that others leave alone. -/
structure Goes (l : Line) : Prop where
  running : l.halted = false
  isOpen : l.writer.isOpen = true

theorem History.goes (h : History log l) (hgoes : l.halted = false) : l.Goes :=
  ⟨hgoes, h.isOpen hgoes⟩

/-- The pipe can take a part of the write under way. -/
theorem Goes.takes_part (h : l.Goes) (hc : l.writer.current = some c) (hb : bytes <+: c.data) :
    ∃ l', Steps l [.passed bytes] l' := by
  have hstep := Step.pass (l := l) bytes.length h.running hc
  rw [← List.prefix_iff_eq_take.mp hb] at hstep
  exact ⟨_, Steps.begin.next hstep⟩

/-- The pipe can take all of the write under way, and the writer turns to those that wait. -/
theorem Goes.takes_all (h : l.Goes) (hc : l.writer.current = some c) :
    ∃ l', Steps l [.passed c.data, .aside] l' ∧ l'.Goes ∧ l'.writer.current = none
      ∧ l'.writer.waiting = l.writer.waiting := by
  obtain ⟨hrun, hopen⟩ := h
  have hpass := Step.pass (l := l) c.data.length hrun hc
  rw [List.take_length] at hpass
  have hcomplete : (l.writer.advance c.data.length).complete?
      = some { l.writer with
          current := none
          acknowledged := (c.number, true) :: l.writer.acknowledged } := by
    simp [Writer.complete?, Writer.advance, hopen, hc]
  exact ⟨_, (Steps.begin.next hpass).next (.complete hrun hcomplete), ⟨hrun, hopen⟩, rfl, rfl⟩

/-- What can be taken of a write under way and of what comes behind it. -/
theorem Goes.takes (h : l.Goes) (hc : l.writer.current = some c) (hb : bytes <+: c.data ++ tail)
    (hlater : ∀ l' bytes, l'.Goes → l'.writer.current = none →
      l'.writer.waiting = l.writer.waiting → bytes <+: tail →
        ∃ more l'', Steps l' more l'' ∧ fed more = bytes ∧ enqueued more = []) :
    ∃ more l', Steps l more l' ∧ fed more = bytes ∧ enqueued more = [] := by
  rcases List.prefix_or_prefix_of_prefix hb (List.prefix_append c.data tail) with
    hpart | ⟨rest, rfl⟩
  · obtain ⟨l', hsteps⟩ := h.takes_part hc hpart
    exact ⟨_, l', hsteps, by simp [fed, Act.taken], rfl⟩
  · obtain ⟨l', hall, hgoes, hnone, hwaiting⟩ := h.takes_all hc
    have hrest : rest <+: tail := (List.prefix_append_right_inj _).mp hb
    obtain ⟨more, l'', hmore, rfl, hadded⟩ := hlater l' rest hgoes hnone hwaiting hrest
    exact ⟨_, l'', hall.append hmore, by simp [fed, Act.taken],
      (enqueued_append _ more).trans hadded⟩

/-- **Each beginning of what is left over can be what is still taken**, with nothing added, whether
or not the run is over. -/
theorem exists_steps_fed (h : l.Goes) (hb : bytes <+: l.left) :
    ∃ more l', Steps l more l' ∧ fed more = bytes ∧ enqueued more = [] := by
  have hwaiting (ws : List Write) : ∀ l bytes, l.Goes → l.writer.current = none →
      l.writer.waiting = ws → bytes <+: ws.flatMap (·.data) →
        ∃ more l', Steps l more l' ∧ fed more = bytes ∧ enqueued more = [] := by
    induction ws with
    | nil =>
      intro l bytes _ _ _ hb
      exact ⟨[], l, .begin, (List.prefix_nil.mp hb).symm, rfl⟩
    | cons next rest ih =>
      intro l bytes hgoes hnone hw hb
      let w : Writer := { l.writer with current := some next, waiting := rest }
      have hbegin : l.writer.begin? = some w := by
        simp [Writer.begin?, hgoes.isOpen, hnone, hw, w]
      have hturned := Steps.begin.next (Step.begin hgoes.running hbegin)
      have hgoes' : Goes { l with writer := w } := ⟨hgoes.running, hgoes.isOpen⟩
      obtain ⟨more, l', hmore, hfed, hadded⟩ := hgoes'.takes rfl hb ih
      exact ⟨_, l', hturned.append hmore, hfed, hadded⟩
  cases hc : l.writer.current with
  | none =>
    rw [left_of_none hc] at hb
    exact hwaiting _ l bytes h hc rfl hb
  | some c =>
    rw [left_of_some hc] at hb
    exact h.takes hc hb (hwaiting _)

end Scriptorium.Run.Line
