import Scriptorium.Proofs.Bridge.Sole
import Scriptorium.Proofs.Studio.Input
import Scriptorium.Proofs.Terminal.Lines
import Scriptorium.Proofs.Terminal.Printing

/-!
# What is typed reaches the script

A terminal hands the lines of its local input to the session one by one, and ends the input of the
run when there are none left.  Meanwhile the writer of the run works through its queue, and the run
may come to its end.  `Terminal.Sitting` is any stretch of all this, in any order; it lists what the
writer has put into the pipe of the script.

The input of the run is a line in the sense of `Run.Line`.  What was added to it are the lines of
the local input that were read, and nobody takes it from the session before the last of them was
added, unless the run is over (`Feeds`).  So what holds of all lines says what is in the pipe: some
of what is typed, from the beginning on and in order; and all of it, if the pipe was closed although
no write had failed and the run was not over (`Call.types_in_order`).

What is typed is not always all of the local input.  A line that is no text ends it, and that line
and those behind it never reach the script, whatever it does (`Call.garbled_cut`).  So all lines of
an input reach the script exactly if the input is text (`Call.lines_arrive`).
-/
namespace Scriptorium

open Run

/-- What was put into a pipe on the way from one studio to another. -/
def Studio.putInto (w w' : Studio) (pipe : Nat) : Bytes :=
  (w'.machine.piped pipe).drop (w.machine.piped pipe).length

namespace Terminal

/-! ## 1. Sittings -/

/-- From the terminal `t₀` and the studio `w₀`, moves of the terminal and steps of its run have led
to `t` and `w`; meanwhile the writer of the run has put these bytes into the pipe of the script. -/
inductive Sitting (t₀ : Terminal) (w₀ : Studio) : Bytes → Terminal → Studio → Prop
  | begin : Sitting t₀ w₀ [] t₀ w₀
  | next {put : Bytes} {t t' : Terminal} {w w' : Studio} {m : Move} :
      Sitting t₀ w₀ put t w → t.move? w m = some (t', w') → Sitting t₀ w₀ put t' w'
  | writes {put : Bytes} {t : Terminal} {w w' : Studio} {task : Task} {link : Machine.Spawned}
      {heeds : Bool} :
      Sitting t₀ w₀ put t w → task ∈ w.bridge.tasks → w.link? task.info.id = some link →
      w.writerStep? heeds task link = some w' →
      Sitting t₀ w₀ (put ++ w.putInto w' link.stdin) t w'
  | supervises {put : Bytes} {t : Terminal} {w w' : Studio} {task : Task} {s : Supervision}
      {link : Machine.Spawned} :
      Sitting t₀ w₀ put t w → task ∈ w.bridge.tasks → w.link? task.info.id = some link →
      task.phase = .supervised s → w.superviseStep? task s link = some w' → Sitting t₀ w₀ put t w'
  /-- Supervision is over, and the next phase follows. -/
  | retires {put : Bytes} {t : Terminal} {w : Studio} {task : Task} {b : Bridge} :
      Sitting t₀ w₀ put t w → task ∈ w.bridge.tasks → w.bridge.nextPhase? task = some b →
      Sitting t₀ w₀ put t { w with bridge := b }
  /-- The machine goes on, or time passes. -/
  | apart {put : Bytes} {t : Terminal} {w w' : Studio} :
      Sitting t₀ w₀ put t w → w'.bridge = w.bridge → w'.links = w.links → Sitting t₀ w₀ put t w'

variable {input put more : Bytes} {t₀ t t' : Terminal} {w₀ w w' : Studio} {m : Move}
variable {task task' : Task} {log : List Line.Act} {l l' : Line} {settings : RunSettings}

/-- Two stretches put together put into the pipe what the first does and then what the second does.
-/
theorem Sitting.append {t'' : Terminal} {w'' : Studio} (h : Sitting t₀ w₀ put t w)
    (h' : Sitting t w more t'' w'') : Sitting t₀ w₀ (put ++ more) t'' w'' := by
  induction h' with
  | begin => simpa using h
  | next _ hmove ih => exact ih.next hmove
  | writes _ ht hlink hstep ih =>
    rw [← List.append_assoc]
    exact ih.writes ht hlink hstep
  | supervises _ ht hlink hp hstep ih => exact ih.supervises ht hlink hp hstep
  | retires _ ht hb ih => exact ih.retires ht hb
  | apart _ hb hl ih => exact ih.apart hb hl

theorem sitting_of_step? (h : t.step? w = some (t', w')) : Sitting t w [] t' w' := by
  obtain ⟨m, -, hmove⟩ := move_of_step? h
  exact Sitting.begin.next hmove

/-- Whatever a run of the studio does next belongs to some sitting, be it its writer or its
supervision. -/
theorem sitting_of_taskStep? (ht : task ∈ w.bridge.tasks) (h : w.taskStep? task = some w') :
    ∃ put, Sitting t w put t w' := by
  unfold Studio.taskStep? at h
  split at h
  · exact absurd h (by simp)
  · rename_i link hlink
    rcases orElse_eq_some h with h | h
    · split at h
      · rename_i s hp
        exact ⟨[], Sitting.begin.supervises ht hlink hp h⟩
      · exact absurd h (by simp)
      · obtain ⟨b, hb, rfl⟩ := Option.map_eq_some_iff.mp h
        exact ⟨[], Sitting.begin.retires ht hb⟩
    · exact ⟨_, Sitting.begin.writes ht hlink h⟩

theorem sitting_of_studio_step? {limit : Option Nat} (h : w.step? limit = some w') :
    ∃ put, Sitting t w put t w' := by
  rcases Studio.step?_eq_some h with ⟨task, ht, hstep⟩ | ⟨hb, hl⟩
  · exact sitting_of_taskStep? ht hstep
  · exact ⟨[], Sitting.begin.apart hb hl⟩

/-- **What a terminal does while it waits is a sitting**, however long it waits. -/
theorem waitUpTo_sitting (fuel : Nat) (t : Terminal) (w : Studio) :
    ∃ put, Sitting t w put (waitUpTo fuel t w).1 (waitUpTo fuel t w).2 := by
  induction fuel generalizing t w with
  | zero => exact ⟨[], .begin⟩
  | succ fuel ih =>
    unfold waitUpTo
    split
    · exact ⟨[], .begin⟩
    · split
      · rename_i t' w' hstep
        obtain ⟨put, hlater⟩ := ih t' w'
        exact ⟨_, (sitting_of_step? hstep).append hlater⟩
      · split
        · rename_i w' hstep
          obtain ⟨put, hnext⟩ := sitting_of_studio_step? (t := t) hstep
          obtain ⟨later, hlater⟩ := ih t w'
          exact ⟨_, hnext.append hlater⟩
        · exact ⟨[], .begin⟩

/-! ## 2. Every moment of a sitting -/

/-- What was typed is where it belongs: `l` is the line that the input of the run is, and `log` what
has happened on it. -/
structure Feeds (input : Bytes) (log : List Line.Act) (l : Line) (task : Task) (t : Terminal)
    (w : Studio) : Prop where
  sole : w.bridge.Sole session task
  history : Line.History log l
  mirrors : l.Mirrors task.writer
  isOver_of_ended : .runEnded ∈ log → task.phase.isOver = true
  /-- What was added and what is still to be typed. -/
  typed_eq : t.typing ≠ .over → Line.enqueued log ++ typed t.input = typed input
  front : Line.enqueued log <+: typed input
  /-- The session lets go of the input when everything was typed or the run is over. -/
  letGo : task.writer.attached = false →
    task.phase.isOver = true ∨ t.typing = .over ∧ Line.enqueued log = typed input

/-- From a moment at which the line was `l`, with the history `log`, it has come to `t` and `w`, and
`put` is what was put into the pipe meanwhile. -/
def Leads (input : Bytes) (log : List Line.Act) (l : Line) (put : Bytes) (t : Terminal)
    (w : Studio) : Prop :=
  ∃ more l' task, Line.Steps l more l' ∧ Line.fed more = put ∧ Feeds input (log ++ more) l' task t w

/-- One thing after another. -/
theorem Leads.next (h : Leads input log l put t w)
    (hnext : ∀ {log l task}, Feeds input log l task t w → Leads input log l more t' w') :
    Leads input log l (put ++ more) t' w' := by
  obtain ⟨acts, l₁, task₁, hsteps, rfl, hfeeds⟩ := h
  obtain ⟨acts', l₂, task₂, hsteps', rfl, hfeeds'⟩ := hnext hfeeds
  refine ⟨acts ++ acts', l₂, task₂, hsteps.append hsteps', Line.fed_append _ _, ?_⟩
  rwa [← List.append_assoc]

theorem Leads.quietly (h : Leads input log l put t w)
    (hnext : ∀ {log l task}, Feeds input log l task t w → Leads input log l [] t' w') :
    Leads input log l put t' w' := by
  have hleads := h.next hnext
  rwa [List.append_nil] at hleads

namespace Feeds

/-- Nothing is added, and if the session lets go of the input it may do so. -/
theorem quiet (h : Feeds input log l task t w) {more : List Line.Act}
    (hsteps : Line.Steps l more l') (hm : l'.Mirrors task'.writer)
    (hadded : Line.enqueued more = []) (hsole : w'.bridge.Sole session task')
    (hended : .runEnded ∈ more → task.phase.isOver = true)
    (hover : task.phase.isOver = true → task'.phase.isOver = true)
    (htyping : t'.typing ≠ .over → t.typing ≠ .over ∧ t'.input = t.input)
    (hlet : task'.writer.attached = false → task.writer.attached = false
      ∨ task'.phase.isOver = true ∨ t'.typing = .over ∧ Line.enqueued log = typed input) :
    Leads input log l (Line.fed more) t' w' := by
  have hsame : Line.enqueued (log ++ more) = Line.enqueued log := by
    rw [Line.enqueued_append, hadded, List.append_nil]
  refine ⟨more, l', task', hsteps, rfl, hsole, Line.Steps.append h.history hsteps, hm, ?_, ?_,
    hsame ▸ h.front, ?_⟩
  · intro hin
    rcases List.mem_append.mp hin with hin | hin
    · exact hover (h.isOver_of_ended hin)
    · exact hover (hended hin)
  · intro hne
    obtain ⟨hbefore, hinput⟩ := htyping hne
    rw [hsame, hinput]
    exact h.typed_eq hbefore
  · intro hfree
    rw [hsame]
    rcases hlet hfree with hbefore | hmay
    · rcases h.letGo hbefore with hdone | ⟨hstopped, hall⟩
      · exact .inl (hover hdone)
      · refine .inr ⟨?_, hall⟩
        by_contra hne
        exact (htyping hne).1 hstopped
    · exact hmay

/-- The run goes on, and nobody is concerned with its input. -/
theorem keeps (h : Feeds input log l task t w) (hsole : w'.bridge.Sole session task')
    (hkeeps : task.Keeps task')
    (htyping : t'.typing ≠ .over → t.typing ≠ .over ∧ t'.input = t.input) :
    Leads input log l [] t' w' := by
  rcases hkeeps.writer with hw | ⟨hdone, hw⟩
  · refine h.quiet .begin ?_ rfl hsole (by simp) hkeeps.isOver htyping ?_
    · rw [hw]
      exact h.mirrors
    · rw [hw]
      exact .inl
  · obtain ⟨l', hsteps, hm⟩ := h.mirrors.detach
    exact h.quiet hsteps (hw ▸ hm) rfl hsole (by simp) hkeeps.isOver htyping
      fun _ => .inr (.inl hdone)

/-- The caller of a write no longer waits. -/
theorem releases (h : Feeds input log l task t w) (run : Id)
    (hb : w'.bridge = w.bridge.release run)
    (htyping : t'.typing ≠ .over → t.typing ≠ .over ∧ t'.input = t.input) :
    Leads input log l [] t' w' := by
  rcases h.sole.release run with hsole | hsole
  · exact h.keeps (hb ▸ hsole) (.of_eq rfl id) htyping
  · obtain ⟨more, l', hsteps, haside, hm⟩ := h.mirrors.release h.history.callers_eq
    have hfed : Line.fed more = [] :=
      List.flatMap_eq_nil_iff.mpr fun act hact => haside act hact ▸ rfl
    have hadded : Line.enqueued more = [] :=
      List.filterMap_eq_nil_iff.mpr fun act hact => haside act hact ▸ rfl
    rw [← hb] at hsole
    have hleads : Leads input log l (Line.fed more) t' w' :=
      h.quiet hsteps hm hadded hsole (fun hin => absurd (haside _ hin) (by simp)) id htyping .inl
    rwa [hfed] at hleads

/-- The next line is handed to the session. -/
theorem offers (h : Feeds input log l task t w) {line rest : Bytes} {run : Id} {n : Nat}
    {b : Bridge} (hready : t.typing = .ready) (hnext : nextLine t.input = .line line rest)
    (ho : w.bridge.offer session (line ++ [newline]) = (b, some (run, n))) (hb : w'.bridge = b)
    (p : PendingWrite) :
    Leads input log l [] { t with input := rest, typing := .handed p } w' := by
  obtain ⟨writer, hattached, hadd, hsole⟩ := h.sole.offer ho
  obtain ⟨l', hsteps, hm⟩ := h.mirrors.offer hattached hadd
  obtain ⟨-, -, rfl⟩ := Line.add_eq_some hadd
  have hadded : Line.enqueued (log ++ [.came l.came, .added (line ++ [newline])])
      = Line.enqueued log ++ [line ++ [newline]] := Line.enqueued_append _ _
  have hall : (Line.enqueued log ++ [line ++ [newline]]) ++ typed rest = typed input := by
    rw [← h.typed_eq (by simp [hready]), typed_of_line hnext]
    simp
  refine ⟨_, l', _, hsteps, rfl, hb ▸ hsole, Line.Steps.append h.history hsteps, hm, ?_, ?_, ?_, ?_⟩
  · intro hin
    exact h.isOver_of_ended (by simpa using hin)
  · intro _
    rw [hadded]
    exact hall
  · rw [hadded, ← hall]
    exact List.prefix_append _ _
  · intro hfree
    exact absurd (hattached.symm.trans hfree) (by simp)

/-- There are no lines left, and the input of the run is ended. -/
theorem ends (h : Feeds input log l task t w) (hready : t.typing = .ready)
    (hnone : ∀ line rest, nextLine t.input ≠ .line line rest) :
    Leads input log l [] (t.endTyping w).1 (t.endTyping w).2 := by
  have hall : Line.enqueued log = typed input := by
    rw [← h.typed_eq (by simp [hready]), typed_eq_nil hnone, List.append_nil]
  rcases h.sole.endInput with hsole | hsole
  · exact h.keeps hsole (.of_eq rfl id) fun hne => absurd rfl hne
  · obtain ⟨l', hsteps, hm⟩ := h.mirrors.detach
    exact h.quiet hsteps hm rfl hsole (by simp) id (fun hne => absurd rfl hne)
      fun _ => .inr (.inr ⟨rfl, hall⟩)

/-- Typing goes on. -/
theorem types (h : Feeds input log l task t w) (htype : t.type? w = some (t', w')) :
    Leads input log l [] t' w' := by
  unfold type? at htype
  split at htype
  · rename_i hready
    split at htype
    · rename_i line rest hnext
      unfold Studio.offerInput at htype
      cases ho : w.bridge.offer session (line ++ [newline]) with
      | mk b answer =>
        rw [ho] at htype
        cases answer with
        | none =>
          obtain ⟨rfl, rfl⟩ := Prod.mk.inj (Option.some.inj htype)
          exact h.keeps h.sole (.of_eq rfl id) fun hne => absurd rfl hne
        | some number =>
          obtain ⟨run, n⟩ := number
          obtain ⟨rfl, rfl⟩ := Prod.mk.inj (Option.some.inj htype)
          exact h.offers hready hnext ho rfl _
    · rename_i hnext
      have hends := h.ends hready (by simp [hnext])
      rwa [Option.some.inj htype] at hends
    · rename_i hnext
      have hends := h.ends hready (by simp [hnext])
      rwa [Option.some.inj htype] at hends
  · rename_i p hhanded
    obtain ⟨taken, -, htype⟩ := Option.bind_eq_some_iff.mp htype
    obtain ⟨rfl, rfl⟩ := Prod.mk.inj (Option.some.inj htype)
    exact h.releases p.run rfl fun _ => ⟨by simp [hhanded], rfl⟩
  · exact absurd htype (by simp)

/-- **Each move keeps what was typed where it belongs**, and puts nothing into the pipe. -/
theorem moves (h : Feeds input log l task t w) (hmove : t.move? w m = some (t', w')) :
    Leads input log l [] t' w' := by
  cases m with
  | print works =>
    obtain ⟨-, hprint⟩ := Option.ite_none_right_eq_some.mp hmove
    unfold print? at hprint
    dsimp only at hprint
    split at hprint
    · split at hprint
      all_goals
        obtain ⟨rfl, rfl⟩ := Prod.mk.inj (Option.some.inj hprint)
        exact h.keeps (h.sole.of_eq rfl rfl) (.of_eq rfl id) fun hne => ⟨hne, rfl⟩
    · obtain ⟨-, hprint⟩ := Option.ite_none_right_eq_some.mp hprint
      obtain ⟨rfl, rfl⟩ := Prod.mk.inj (Option.some.inj hprint)
      exact h.keeps h.sole (.of_eq rfl id) fun hne => ⟨hne, rfl⟩
  | type => exact h.types hmove
  | interrupt =>
    obtain ⟨-, hcancel⟩ := Option.ite_none_right_eq_some.mp hmove
    obtain ⟨rfl, rfl⟩ := Prod.mk.inj (Option.some.inj hcancel)
    obtain ⟨task', hsole, hkeeps⟩ := h.sole.cancel
    exact h.keeps hsole hkeeps fun hne => ⟨hne, rfl⟩
  | conclude =>
    obtain ⟨-, hconclude⟩ := Option.ite_none_right_eq_some.mp hmove
    obtain ⟨r, -, hconclude⟩ := Option.bind_eq_some_iff.mp hconclude
    obtain ⟨rfl, rfl⟩ := Prod.mk.inj (Option.some.inj hconclude)
    cases htyping : t.typing with
    | handed p =>
      have hreleases : Leads input log l [] t (w.giveUp p) :=
        h.releases p.run rfl fun hne => ⟨hne, rfl⟩
      exact hreleases.quietly fun hlater =>
        hlater.keeps (hlater.sole.of_eq rfl rfl) (.of_eq rfl id) fun hne => absurd rfl hne
    | _ => exact h.keeps (h.sole.of_eq rfl rfl) (.of_eq rfl id) fun hne => absurd rfl hne

/-- **Each step of the writer keeps what was typed where it belongs**, and what it puts into the
pipe is what the line says. -/
theorem writes (h : Feeds input log l task t w) {link : Machine.Spawned} {heeds : Bool}
    (hstep : w.writerStep? heeds task link = some w') :
    Leads input log l (w.putInto w' link.stdin) t w' := by
  obtain ⟨more, l', hworks, hcarries, -⟩ := Studio.writerStep?_works h.mirrors hstep
  have hput : w.putInto w' link.stdin = Line.fed more := by
    rw [Studio.putInto, hcarries.piped, List.drop_left]
  have hsole : w'.bridge.Sole session { task with writer := l'.writer } := by
    rw [hcarries.bridge]
    refine h.sole.updateTask _ rfl fun ha => ?_
    rw [← h.mirrors.writer_eq, ← hworks.attached_eq] at ha
    exact ha
  rw [hput]
  refine h.quiet hworks.steps hworks.mirrors hworks.enqueued_eq hsole hworks.isOver_of_ended id
    (fun hne => ⟨hne, rfl⟩) fun hfree => .inl ?_
  rw [← h.mirrors.writer_eq, ← hworks.attached_eq]
  exact hfree

/-- The supervision of the run goes on or is over. -/
theorem supervises (h : Feeds input log l task t w) {s : Supervision} {link : Machine.Spawned}
    (hp : task.phase = .supervised s) (hstep : w.superviseStep? task s link = some w') :
    Leads input log l [] t w' := by
  rcases Studio.superviseStep?_cases hstep with ⟨s', r, -, hb⟩ | ⟨-, hb⟩
  · obtain ⟨task', hsole, hkeeps⟩ := h.sole.react hp (s', r)
    exact h.keeps (hb ▸ hsole) hkeeps fun hne => ⟨hne, rfl⟩
  · obtain ⟨task', hsole, hkeeps⟩ := h.sole.conclude s w.now
    exact h.keeps (hb ▸ hsole) hkeeps fun hne => ⟨hne, rfl⟩

/-- A new terminal. -/
theorem start {id : Id} {script : Path} (hb : w₀.bridge = { settings })
    (h : Terminal.start id script input w₀ = .ok (t, w)) : ∃ task, Feeds input [] {} task t w := by
  unfold Terminal.start at h
  rw [hb] at h
  obtain ⟨⟨w₁, info⟩, hstart, hout⟩ := bind_eq_ok.mp h
  obtain ⟨rfl, rfl⟩ := Prod.mk.inj (Except.ok.inj hout)
  obtain ⟨-, hsession, hstep⟩ := Studio.start_step (fun t ht => absurd ht List.not_mem_nil) hstart
  cases hstep with
  | start _ hs =>
    obtain ⟨found, -, -, -, -, hregister⟩ := Bridge.start_eq_ok hs
    have hsole := Bridge.sole_register (b := (Bridge.subscribe { settings } session).1) info rfl rfl
    rw [hsession] at hsole
    have hsole : w₁.bridge.Sole session _ := hregister ▸ hsole
    exact ⟨_, hsole, .begin, ⟨rfl, rfl⟩, by simp, fun _ => rfl, List.nil_prefix, by simp⟩

end Feeds

/-- **At every moment of a sitting, what was typed is where it belongs.**  The lines that were read
are what was added to the line of the run, and the pipe has got some of them, from the front. -/
theorem Sitting.leads (h : Sitting t₀ w₀ put t w) (h₀ : Feeds input log l task t₀ w₀) :
    Leads input log l put t w := by
  induction h with
  | begin => exact ⟨[], l, task, .begin, rfl, by rwa [List.append_nil]⟩
  | next _ hmove ih => exact ih.quietly fun hfeeds => hfeeds.moves hmove
  | writes _ ht _ hstep ih =>
    refine ih.next fun hfeeds => ?_
    obtain rfl := hfeeds.sole.eq_of_mem ht
    exact hfeeds.writes hstep
  | supervises _ ht _ hp hstep ih =>
    refine ih.quietly fun hfeeds => ?_
    obtain rfl := hfeeds.sole.eq_of_mem ht
    exact hfeeds.supervises hp hstep
  | retires _ ht hb ih =>
    refine ih.quietly fun hfeeds => ?_
    obtain rfl := hfeeds.sole.eq_of_mem ht
    obtain ⟨task', hsole, hkeeps⟩ := hfeeds.sole.nextPhase? hb
    exact hfeeds.keeps hsole hkeeps fun hne => ⟨hne, rfl⟩
  | apart _ hb _ ih =>
    refine ih.quietly fun hfeeds => ?_
    exact hfeeds.keeps (hb ▸ hfeeds.sole) (.of_eq rfl id) fun hne => ⟨hne, rfl⟩

/-- What is in the pipe is what is typed, from the beginning on. -/
theorem Feeds.put_prefix (h : Feeds input log l task t w) :
    Line.fed log <+: (typed input).flatten := by
  obtain ⟨later, hlater⟩ := h.front
  rw [← hlater, List.flatten_append]
  exact h.history.accounted.progress.cut.isPrefix.trans (List.prefix_append _ _)

/-- A pipe that was closed although no write had failed and the run was not over has got all. -/
theorem Feeds.put_eq (h : Feeds input log l task t w) (hclosed : task.writer.isOpen = false)
    (hgoes : task.phase.isOver = false) (hfailed : ∀ n, (n, false) ∉ task.writer.acknowledged) :
    Line.fed log = (typed input).flatten := by
  have hhalted : l.halted = true := by rw [h.mirrors.halted_eq, hclosed, Bool.not_false]
  have hover : ¬ task.phase.isOver = true := by simp [hgoes]
  rcases h.history.halted_cases hhalted with hended | hrefused | hlost
  · obtain ⟨hall, -, hleft⟩ := h.history.all_of_inputEnded hended
    rw [h.mirrors.writer_eq] at hleft
    rcases h.letGo hleft with hdone | ⟨-, htyped⟩
    · exact absurd hdone hover
    · rw [hall, htyped]
  · obtain ⟨n, hn⟩ := h.history.failed_of_refused hrefused
    rw [h.mirrors.writer_eq] at hn
    exact absurd hn (hfailed n)
  · exact absurd (h.isOver_of_ended hlost) hover

/-- Nothing more is put into a pipe that was closed. -/
theorem Feeds.put_eq_nil (h : Feeds input log l task t w) (hclosed : task.writer.isOpen = false)
    (hmore : Sitting t w more t' w') : more = [] := by
  obtain ⟨acts, l', task', hsteps, rfl, -⟩ := hmore.leads h
  refine hsteps.fed_of_halted ?_
  rw [h.mirrors.halted_eq, hclosed, Bool.not_false]

end Terminal

/-! ## 3. The input of a call -/

namespace Call

variable {c : Call} {fresh : Id} {t₀ t : Terminal} {w₀ w : Studio} {put : Bytes} {task : Task}

/-- What is typed reaches the script in order and from the beginning on.  Whatever the typist, the
user, the run and the machine do: the writer has put some of what is typed into the pipe of the
script.  When the pipe is closed nothing more is put into it; and if no write has failed and the run
is not over, all of it was. -/
theorem types_in_order (hbegin : c.begin fresh = .running t₀ w₀)
    (h : Terminal.Sitting t₀ w₀ put t w) :
    put <+: (Terminal.typed c.input).flatten
      ∧ ∀ task ∈ w.bridge.tasks, task.writer.isOpen = false →
        (∀ more t' w', Terminal.Sitting t w more t' w' → more = [])
          ∧ (task.phase.isOver = false → (∀ n, (n, false) ∉ task.writer.acknowledged) →
            put = (Terminal.typed c.input).flatten) := by
  obtain ⟨settings, script, w', hb, hstart⟩ := c.start_of_begin hbegin
  obtain ⟨task₀, h₀⟩ := Terminal.Feeds.start hb hstart
  obtain ⟨log, l, task, -, rfl, hfeeds⟩ := h.leads h₀
  rw [List.nil_append] at hfeeds
  refine ⟨hfeeds.put_prefix, fun task' ht hclosed => ?_⟩
  obtain rfl := hfeeds.sole.eq_of_mem ht
  exact ⟨fun more t' w' hmore => hfeeds.put_eq_nil hclosed hmore, hfeeds.put_eq hclosed⟩

/-- **The lines of an input reach the script up to the first one that is no text.**  Whatever the
typist, the user, the run and the machine do, and in whatever order, what was put into the pipe of
the script is some of these lines, in order, each with a newline, whatever its ending was.  When the
pipe is closed nothing more is put into it, so it is closed once.  If no write has failed and the
run is not over, all of them were put into it; and these are all lines of the input exactly if the
input is text from end to end. -/
theorem lines_arrive {lines : List Bytes} (hbegin : c.begin fresh = .running t₀ w₀)
    (hlines : Terminal.Spells c.input lines) (h : Terminal.Sitting t₀ w₀ put t w) :
    put <+: ((lines.takeWhile Text.Utf8.isText).map (· ++ [Terminal.newline])).flatten
      ∧ ∀ task ∈ w.bridge.tasks, task.writer.isOpen = false →
        (∀ more t' w', Terminal.Sitting t w more t' w' → more = [])
          ∧ (task.phase.isOver = false → (∀ n, (n, false) ∉ task.writer.acknowledged) →
            put = ((lines.takeWhile Text.Utf8.isText).map (· ++ [Terminal.newline])).flatten
              ∧ (put = (lines.map (· ++ [Terminal.newline])).flatten
                ↔ Text.Utf8.isText c.input = true)) := by
  obtain ⟨hput, hclosed⟩ := types_in_order hbegin h
  rw [← hlines.typed_eq]
  refine ⟨hput, fun task ht hopen => ?_⟩
  obtain ⟨hnothing, hall⟩ := hclosed task ht hopen
  refine ⟨hnothing, fun hgoes hfailed => ?_⟩
  obtain rfl := hall hgoes hfailed
  exact ⟨rfl, hlines.typed_all_iff⟩

/-- A call whose script goes on for ever, with its input open. -/
def lasting (input : Bytes) : Call where
  words := ["run", "--interpreter", "/b/c", "/s"]
  environment := []
  machine := { files := ⟨[([[0x62]], .directory),
    ([[0x62], [0x63]], .file (Machine.imageOf "yes") true), ([[0x73]], .file [] false)]⟩ }
  cwd := []
  input

/-- The writer of a call and whether its run is over, when its terminal has come so far. -/
def writerAfter (c : Call) (fresh : Id) (fuel : Nat) : Option (Writer × Bool) :=
  (c.begin fresh).terminal?.bind fun x =>
    (x.1.waitUpTo fuel x.2).2.bridge.tasks.head?.map fun task => (task.writer, task.phase.isOver)

/-- What the terminal and the studio have come to in so many steps is a sitting, so what holds of
all sittings holds there. -/
theorem sitting_of_writerAfter {fuel : Nat} {writer : Writer} {isOver : Bool}
    (h : c.writerAfter fresh fuel = some (writer, isOver)) :
    ∃ t₀ w₀ put t w task, c.begin fresh = .running t₀ w₀ ∧ Terminal.Sitting t₀ w₀ put t w
      ∧ task ∈ w.bridge.tasks ∧ task.writer = writer ∧ task.phase.isOver = isOver := by
  obtain ⟨⟨t₀, w₀⟩, hterminal, hhead⟩ := Option.bind_eq_some_iff.mp h
  obtain ⟨task, hhead, htask⟩ := Option.map_eq_some_iff.mp hhead
  obtain ⟨hwriter, hover⟩ := Prod.mk.inj htask
  obtain ⟨put, hsitting⟩ := Terminal.waitUpTo_sitting fuel t₀ w₀
  exact ⟨t₀, w₀, put, _, _, task, Begun.eq_of_terminal? hterminal, hsitting,
    List.mem_of_head? hhead, hwriter, hover⟩

/-- **A line that is no text ends what is typed.**  Of three lines the first one is taken, the input
is ended, and although no write has failed and the script goes on, the other two lines never reach
it. -/
theorem garbled_cut :
    ∃ t₀ w₀ t w task,
      (lasting [0x61, 0x0A, 0xFF, 0x0A, 0x62, 0x0A]).begin (.ofNat 7) = .running t₀ w₀
      ∧ Terminal.Spells [0x61, 0x0A, 0xFF, 0x0A, 0x62, 0x0A] [[0x61], [0xFF], [0x62]]
      ∧ Terminal.Sitting t₀ w₀ [0x61, 0x0A] t w
      ∧ task ∈ w.bridge.tasks ∧ task.phase.isOver = false
      ∧ (∀ n, (n, false) ∉ task.writer.acknowledged)
      ∧ ∀ more t' w', Terminal.Sitting t w more t' w' → more = [] := by
  have hrun : (lasting [0x61, 0x0A, 0xFF, 0x0A, 0x62, 0x0A]).writerAfter (.ofNat 7) 7
      = some ({ added := 1, acknowledged := [(0, true)], attached := false, isOpen := false },
        false) := by
    cbv
  obtain ⟨t₀, w₀, put, t, w, task, hbegin, h, ht, hwriter, hgoes⟩ := sitting_of_writerAfter hrun
  obtain ⟨hnothing, hall⟩ := (types_in_order hbegin h).2 task ht (by rw [hwriter])
  have hfailed : ∀ n, (n, false) ∉ task.writer.acknowledged := by simp [hwriter]
  have hspells : Terminal.Spells [0x61, 0x0A, 0xFF, 0x0A, 0x62, 0x0A] [[0x61], [0xFF], [0x62]] := by
    have hlast : Terminal.Spells ([0x62] ++ [0x0A]) [[0x62]] :=
      .ended (by decide) (by decide) .nothing
    have hsecond : Terminal.Spells ([0xFF] ++ [0x0A, 0x62, 0x0A]) [[0xFF], [0x62]] :=
      .ended (by decide) (by decide) hlast
    have hfirst : Terminal.Spells ([0x61] ++ [0x0A, 0xFF, 0x0A, 0x62, 0x0A])
        [[0x61], [0xFF], [0x62]] := .ended (by decide) (by decide) hsecond
    exact hfirst
  have hput : put = [0x61, 0x0A] := by
    rw [hall hgoes hfailed]
    decide +kernel
  exact ⟨t₀, w₀, t, w, task, hbegin, hspells, hput ▸ h, ht, hgoes, hfailed, hnothing⟩

/-- A carriage return goes and a last newline comes: both lines of a text reach the script. -/
theorem text_heard :
    ∃ t₀ w₀ t w, (lasting [0x61, 0x0D, 0x0A, 0x62]).begin (.ofNat 7) = .running t₀ w₀
      ∧ Terminal.Spells [0x61, 0x0D, 0x0A, 0x62] [[0x61], [0x62]]
      ∧ Terminal.Sitting t₀ w₀ [0x61, 0x0A, 0x62, 0x0A] t w
      ∧ ∀ more t' w', Terminal.Sitting t w more t' w' → more = [] := by
  have hrun : (lasting [0x61, 0x0D, 0x0A, 0x62]).writerAfter (.ofNat 7) 12
      = some ({
          added := 2, acknowledged := [(1, true), (0, true)], attached := false, isOpen := false
        }, false) := by
    cbv
  obtain ⟨t₀, w₀, put, t, w, task, hbegin, h, ht, hwriter, hgoes⟩ := sitting_of_writerAfter hrun
  have hspells : Terminal.Spells [0x61, 0x0D, 0x0A, 0x62] [[0x61], [0x62]] := by
    have hlast : Terminal.Spells [0x62] [[0x62]] := .last (by decide) (by decide)
    have hfirst : Terminal.Spells ([0x61] ++ [0x0D, 0x0A, 0x62]) [[0x61], [0x62]] :=
      .returned (by decide) hlast
    exact hfirst
  obtain ⟨-, hclosed⟩ := lines_arrive hbegin hspells h
  obtain ⟨hnothing, hall⟩ := hclosed task ht (by rw [hwriter])
  obtain ⟨-, htext⟩ := hall hgoes (by simp [hwriter])
  have hput : put = [0x61, 0x0A, 0x62, 0x0A] := htext.mpr (by decide +kernel)
  exact ⟨t₀, w₀, t, w, hbegin, hspells, hput ▸ h, hnothing⟩

end Call
end Scriptorium
