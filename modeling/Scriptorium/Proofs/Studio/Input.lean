import Scriptorium.Proofs.Bridge.Lines
import Scriptorium.Proofs.Run.Leftover
import Scriptorium.Proofs.Studio.History

/-!
# What the input of a run takes

A writer carries what was added to the input of a run to the pipe of the process.  What a studio
does for it is what a line does (`writerStep?_line`): the pipe gets the bytes that the line says it
takes, and the studio lets go of the pipe when the writer stops.  Together with `Bridge.exists_line`
this carries what holds of all lines over to the runs of a studio (`inputs_in_order`).

Whether the writer heeds the end of its run is left open, as it is for a line.  So the end of a run
is not the end of what is written (`not_silent_after_end`).
-/
namespace Scriptorium

open Run

namespace Machine

/-! ## 1. Pipes -/

variable {m m' : Machine} {pipe n : Nat} {data : Bytes}

/-- What is in a pipe. -/
def piped (m : Machine) (pipe : Nat) : Bytes := (m.pipes[pipe]?).elim [] (·.buffer)

/-- Whether the program is at the end of a pipe that is written to. -/
def writesTo (m : Machine) (pipe : Nat) : Bool := (m.pipes[pipe]?).any (·.weWrite)

/-- What is in a pipe can still be read when the program has let go of it. -/
theorem piped_release (m : Machine) (pipe : Nat) : (m.release pipe).piped pipe = m.piped pipe := by
  unfold release
  split
  · rename_i p hp
    obtain ⟨hlt, rfl⟩ := List.getElem?_eq_some_iff.mp hp
    simp [piped, hlt]
  · rfl

theorem writesTo_release (m : Machine) (pipe : Nat) : (m.release pipe).writesTo pipe = false := by
  unfold release
  split
  · rename_i p hp
    obtain ⟨hlt, rfl⟩ := List.getElem?_eq_some_iff.mp hp
    simp [writesTo, hlt]
  · rename_i hp
    simp [writesTo, hp]

/-- What a pipe takes of some data is put behind what is in it, and the program is at its end as
before. -/
theorem writePipe_eq_taken (h : m.writePipe pipe data = .taken n m') :
    m'.piped pipe = m.piped pipe ++ data.take n ∧ m'.writesTo pipe = m.writesTo pipe := by
  unfold writePipe at h
  split at h
  · exact absurd h (by simp)
  · rename_i p hp
    obtain ⟨hlt, rfl⟩ := List.getElem?_eq_some_iff.mp hp
    split at h
    · exact absurd h (by simp)
    · dsimp only at h
      split at h
      · exact absurd h (by simp)
      · obtain ⟨rfl, rfl⟩ := Writing.taken.inj h
        constructor
        · simp [piped, hlt, ← List.take_eq_take_min]
        · simp [writesTo, hlt]

end Machine

namespace Studio

variable {w w' : Studio} {t : Task} {link : Machine.Spawned} {l : Line} {more : List Line.Act}
variable {writer : Writer} {pipe : Nat}

/-! ## 2. Steps of a writer in a studio -/

/-- What a step of a writer does in a studio when `more` happens on its line, which comes to `l`. -/
structure Carries (w : Studio) (t : Task) (pipe : Nat) (more : List Line.Act) (l : Line)
    (w' : Studio) : Prop where
  bridge : w'.bridge = w.bridge.updateTask t.info.id fun t => { t with writer := l.writer }
  /-- The pipe gets what the line says it takes. -/
  piped : w'.machine.piped pipe = w.machine.piped pipe ++ Line.fed more
  /-- The studio lets go of the pipe when the writer stops. -/
  writesTo : w'.machine.writesTo pipe = (w.machine.writesTo pipe && !more.any (·.halts))

/-- The writer does something that does not concern the pipe. -/
theorem carries_aside (hwriter : l.writer = writer) :
    w.Carries t pipe [.aside] l
      { w with bridge := w.bridge.updateTask t.info.id fun t => { t with writer } } where
  bridge := by rw [hwriter]
  piped := (List.append_nil _).symm
  writesTo := (Bool.and_true _).symm

/-- The writer stops. -/
theorem carries_release (hwriter : l.writer = writer) (hfed : Line.fed more = [])
    (hhalts : more.any (·.halts) = true) :
    w.Carries t pipe more l
      { w with
        machine := w.machine.release pipe
        bridge := w.bridge.updateTask t.info.id fun t => { t with writer } } where
  bridge := by rw [hwriter]
  piped := by rw [Machine.piped_release, hfed, List.append_nil]
  writesTo := by rw [Machine.writesTo_release, hhalts, Bool.not_true, Bool.and_false]

/-- What a line does for the writer of a run: nothing is added, and only of a run that is over it is
said that it has ended. -/
structure Works (l : Line) (isOver : Bool) (more : List Line.Act) (l' : Line) : Prop where
  steps : Line.Steps l more l'
  mirrors : l'.Mirrors l'.writer
  attached_eq : l'.writer.attached = l.writer.attached
  enqueued_eq : Line.enqueued more = []
  isOver_of_ended : .runEnded ∈ more → isOver = true

/-- A step of the writer and the steps of its line. -/
theorem works_of_step {isOver : Bool} {writer writer' : Writer} {l' : Line} (hm : l.Mirrors writer)
    (hstep : Writer.Step isOver writer writer') (hsteps : Line.Steps l more l')
    (hm' : l'.Mirrors writer') (hadded : Line.enqueued more = [])
    (hended : .runEnded ∈ more → isOver = true) : Works l isOver more l' := by
  obtain rfl := hm.writer_eq
  obtain rfl := hm'.writer_eq
  exact ⟨hsteps, hm', Line.attached_eq_of_step hstep, hadded, hended⟩

/-- **What a studio does for a writer a line does**, whether or not the writer heeds the end of its
run; if it does and the run is over, it learns so and stops. -/
theorem writerStep?_works {heeds : Bool} (hm : l.Mirrors t.writer)
    (h : w.writerStep? heeds t link = some w') :
    ∃ more l', Works l t.phase.isOver more l' ∧ w.Carries t link.stdin more l' w'
      ∧ (heeds = true → t.phase.isOver = true → .learned ∈ more ∧ Line.fed more = []) := by
  unfold writerStep? at h
  dsimp only at h
  split at h
  · exact absurd h (by simp)
  · rename_i hopen
    have hopen : t.writer.isOpen = true := by simpa using hopen
    split at h
    · rename_i hover
      have hover : t.phase.isOver = true := (Bool.and_eq_true_iff.mp hover).2
      obtain rfl := Option.some.inj h
      obtain ⟨l', hsteps, hm'⟩ := hm.learn hopen
      exact ⟨_, l', works_of_step hm (.stop hopen (.inl hover)) hsteps hm' rfl fun _ => hover,
        carries_release hm'.writer_eq rfl rfl, fun _ _ => ⟨by simp, rfl⟩⟩
    · rename_i hgoes
      have hgoes {more : List Line.Act} (hheeds : heeds = true) (hover : t.phase.isOver = true) :
          .learned ∈ more ∧ Line.fed more = [] := absurd (by simp [hheeds, hover]) hgoes
      split at h
      · rename_i writer _ hcomplete
        obtain rfl := Option.some.inj h
        obtain ⟨l', hsteps, hm'⟩ := hm.complete hcomplete
        exact ⟨_, l', works_of_step hm (.complete hcomplete) hsteps hm' rfl (by simp),
          carries_aside hm'.writer_eq, hgoes⟩
      · rename_i writer _ hbegin
        obtain rfl := Option.some.inj h
        obtain ⟨l', hsteps, hm'⟩ := hm.begin hbegin
        exact ⟨_, l', works_of_step hm (.begin hbegin) hsteps hm' rfl (by simp),
          carries_aside hm'.writer_eq, hgoes⟩
      · split at h
        · rename_i c hcurrent
          split at h
          · rename_i n machine htaken
            obtain rfl := Option.some.inj h
            obtain ⟨l', hsteps, hm'⟩ := hm.advance hopen hcurrent n
            have hle := Machine.le_of_writePipe htaken
            obtain ⟨hpiped, hwrites⟩ := Machine.writePipe_eq_taken htaken
            refine ⟨_, l', works_of_step hm (.advance n c hopen hcurrent hle) hsteps hm' rfl
              (by simp), ⟨by rw [hm'.writer_eq], ?_, ?_⟩, hgoes⟩
            · simp [hpiped, Line.fed, Line.Act.taken]
            · simp [hwrites, Line.Act.halts]
          · obtain rfl := Option.some.inj h
            obtain ⟨l', hsteps, hm'⟩ := hm.refuse hopen hcurrent
            exact ⟨_, l', works_of_step hm (.refuse c hopen hcurrent) hsteps hm' rfl (by simp),
              carries_release hm'.writer_eq rfl rfl, hgoes⟩
          · exact absurd h (by simp)
        · split at h
          · rename_i hend
            obtain rfl := Option.some.inj h
            obtain ⟨l', hsteps, hm'⟩ := hm.finish hend
            exact ⟨_, l', works_of_step hm (.stop hopen (.inr hend)) hsteps hm' rfl (by simp),
              carries_release hm'.writer_eq rfl rfl, hgoes⟩
          · exact absurd h (by simp)

/-- The writer of a run is where some line has come to, and if the run is over, the line knows. -/
theorem exists_line_of_task {settings : RunSettings} {acts : List Bridge.Act}
    (hruns : Bridge.Runs settings acts w.bridge) (ht : t ∈ w.bridge.tasks) :
    ∃ log l, Line.History log l ∧ l.Mirrors t.writer
      ∧ (t.phase.isOver = true → .runEnded ∈ log) := by
  obtain ⟨log, l, h, hm⟩ := Bridge.exists_line hruns ht
  cases ho : t.phase.isOver with
  | false => exact ⟨log, l, h, hm, fun hover => absurd hover (by simp)⟩
  | true =>
    have hended : { l with isOver := true }.Mirrors t.writer := ⟨hm.writer_eq, hm.halted_eq⟩
    exact ⟨_, _, h.next .runEnds, hended, fun _ => by simp⟩

/-! ## 3. The input of a run -/

/-- **The input of a run takes the writes in the order in which they were added.**  Whoever comes,
gives up or ends the input between any two steps of the writer, and whatever the pipe does:

1. the pipe has taken some of the writes and a part of the next one;
2. a write that was acknowledged was taken in full;
3. the end of the input is sent when nobody can add a write any more and all were taken;
4. a writer that has stopped has sent it, unless a write has failed or the run is over;
5. nothing more is written after a write has failed, the end of the input was sent, or the writer
   has learned that the run is over;
6. what is still written is the beginning of what is left and of what is added, in this order;
7. the end of the run alone stops nothing: until the writer learns of it, which it may do at any
   time, each beginning of what is left may still be written.

All this is about lines.  The writer of each run of a studio is where some line has come to, one
that knows if the run is over, and what it does next is what that line does; if it heeds the end of
a run that is over, it learns of it there and then. -/
theorem inputs_in_order {log : List Line.Act} (h : Line.History log l) :
    ((∃ d done, d ≤ (Line.enqueued log).length
        ∧ Line.fed log = ((Line.enqueued log).take d).flatten ++ done
        ∧ done <+: (Line.enqueued log)[d]?.getD [])
      ∧ (∀ n, (n, true) ∈ l.writer.acknowledged → n < (Line.enqueued log).length
        ∧ ((Line.enqueued log).take (n + 1)).flatten <+: Line.fed log)
      ∧ (.inputEnded ∈ log → Line.fed log = (Line.enqueued log).flatten ∧ l.IsLeft)
      ∧ (l.halted = true → .refused ∉ log → .runEnded ∉ log → .inputEnded ∈ log)
      ∧ ((∃ act ∈ log, act.halts = true) → ∀ more l', Line.Steps l more l' → Line.fed more = [])
      ∧ (∀ more l', Line.Steps l more l' →
        Line.fed more <+: l.left ++ (Line.enqueued more).flatten)
      ∧ (.runEnded ∈ log → l.halted = false →
        (∃ l', Line.Step l .learned l')
          ∧ ∀ bytes, bytes <+: l.left →
            ∃ more l', Line.Steps l more l' ∧ Line.fed more = bytes ∧ Line.enqueued more = []))
    ∧ ∀ settings acts (w : Studio), Bridge.Runs settings acts w.bridge → ∀ t ∈ w.bridge.tasks,
      ∃ log l, Line.History log l ∧ l.writer = t.writer
        ∧ (t.phase.isOver = true → .runEnded ∈ log)
        ∧ ∀ heeds link w', w.writerStep? heeds t link = some w' →
          ∃ more l', Line.Steps l more l' ∧ w.Carries t link.stdin more l' w'
            ∧ (heeds = true → t.phase.isOver = true → .learned ∈ more ∧ Line.fed more = []) := by
  constructor
  · refine ⟨h.accounted.progress.cut, h.accounted.accepted, h.all_of_inputEnded, ?_, ?_, ?_, ?_⟩
    · intro hhalted hrefused hended
      rcases h.halted_cases hhalted with hsent | hfailed | hover
      · exact hsent
      · exact absurd hfailed hrefused
      · exact absurd hover hended
    · intro hhalts more l' hmore
      exact hmore.fed_of_halted (h.halted_iff.mpr hhalts)
    · intro more l' hmore
      exact hmore.fed_isPrefix
    · intro hended hrun
      refine ⟨⟨_, .learn hrun (h.isOver_iff.mpr hended)⟩, fun bytes hb => ?_⟩
      exact Line.exists_steps_fed (Line.History.goes h hrun) hb
  · intro settings acts w hruns t ht
    obtain ⟨log, l, h, hm, hended⟩ := exists_line_of_task hruns ht
    refine ⟨log, l, h, hm.writer_eq, hended, fun heeds link w' hstep => ?_⟩
    obtain ⟨more, l', hworks, hcarries, hheeds⟩ := writerStep?_works hm hstep
    exact ⟨more, l', hworks.steps, hcarries, hheeds⟩

/-- **The end of a run is not the end of what is written.**  A caller has added a write when the run
ends, and the writer turns to the write before it learns of the end. -/
theorem not_silent_after_end :
    ¬ ∀ log l more l', Line.History log l → .runEnded ∈ log → Line.Steps l more l' →
      Line.fed more = [] := by
  intro hall
  have halone {c : Caller} : [c] = [] ++ c :: [] := rfl
  have h := Line.Steps.begin (l := {})
    |>.next (.write [0x78] rfl)
    |>.next (.add halone rfl)
    |>.next .runEnds
  obtain ⟨more, l', hmore, hfed, -⟩ :=
    Line.exists_steps_fed (Line.History.goes h rfl) List.prefix_rfl
  have hnone := hall _ _ more l' h (by simp) hmore
  exact absurd (hfed.symm.trans hnone) (by decide)

/-- Two callers write, and the pipe takes half of the second write and refuses the rest. -/
def cutLog : List Line.Act :=
  [.came 0, .added [0x61, 0x62], .came 1, .added [0x63, 0x64], .aside, .passed [0x61, 0x62], .aside,
    .aside, .answered 0 true, .aside, .aside, .passed [0x63], .refused]

/-- The line after this.  The second caller has waited long enough, and is about to leave. -/
def cutLine : Line where
  writer := { added := 2, acknowledged := [(1, false), (0, true)], callers := 1 }
  callers := [⟨1, .leaving true⟩]
  came := 2
  halted := true

/-- The cut write is a history of a line: both callers come and add before the writer begins, the
first has its answer, and the second gives up waiting when half of its write was taken. -/
theorem cut_history : Line.History cutLog cutLine := by
  have halone {c : Caller} : [c] = [] ++ c :: [] := rfl
  have hfirst {c c' : Caller} : [c, c'] = [] ++ c :: [c'] := rfl
  have hsecond {c c' : Caller} : [c, c'] = [c] ++ c' :: [] := rfl
  have h := Line.Steps.begin (l := {})
    |>.next (.write [0x61, 0x62] rfl)
    |>.next (.add halone rfl)
    |>.next (.write [0x63, 0x64] rfl)
    |>.next (.add hsecond rfl)
    |>.next (.begin rfl rfl)
    |>.next (.pass 2 rfl rfl)
    |>.next (.complete rfl rfl)
    |>.next (.hear hfirst rfl)
    |>.next (.leave hfirst)
    |>.next (.timeUp halone)
    |>.next (.begin rfl rfl)
    |>.next (.pass 1 rfl rfl)
    |>.next (.refuse rfl rfl)
  exact h

/-- What the pipe has taken are the first write, which was acknowledged, and half of the second one,
and it takes nothing more. -/
theorem second_write_cut :
    Line.enqueued cutLog = [[0x61, 0x62], [0x63, 0x64]] ∧ Line.fed cutLog = [0x61, 0x62, 0x63]
      ∧ ([0x61, 0x62] : Bytes) <+: Line.fed cutLog
      ∧ ∀ more l', Line.Steps cutLine more l' → Line.fed more = [] := by
  obtain ⟨⟨-, hacknowledged, -, -, hnothing, -⟩, -⟩ := inputs_in_order cut_history
  exact ⟨rfl, rfl, (hacknowledged 0 (by decide)).2, hnothing ⟨.refused, by decide, rfl⟩⟩

end Studio
end Scriptorium
