import Scriptorium.Proofs.Bridge.Independence
import Scriptorium.Proofs.Bridge.Launch
import Scriptorium.Proofs.Run.Line

/-!
# The inputs of runs are lines

A bridge does a whole errand at once: a session that offers a write takes hold of the input and adds
the write in one step, and a writer that stops closes its queue with that.  A line takes all of this
apart and lets others go on in between.  So what can happen to the input of a run in a bridge can
happen on a line, part by part, and what holds of all lines holds of the inputs of all runs
(`exists_line`).

That callers only come while the session can reach the input is kept in two places, the registry and
the writer.  `Handles` says what one step of a bridge does to both, and from it the two are shown to
agree (`Handles.reaches`).
-/
namespace Scriptorium

namespace Run.Line

variable {log more more' : List Act} {l l' l'' : Line} {w w' : Writer} {c : Write}

/-! ## 1. Writers that do a step at a time -/

/-- The line is at the same point as the writer, which closes its queue when it stops. -/
structure Mirrors (l : Line) (w : Writer) : Prop where
  writer_eq : l.writer = w
  halted_eq : l.halted = !w.isOpen

/-- A writer does not take its input from the session. -/
theorem attached_eq_of_step {isOver : Bool} (h : Writer.Step isOver w w') :
    w'.attached = w.attached := by
  cases h with
  | complete hb =>
    obtain ⟨-, n, -, rfl⟩ := complete?_eq_some hb
    rfl
  | begin hb =>
    obtain ⟨-, next, rest, -, -, rfl⟩ := begin?_eq_some hb
    rfl
  | advance n c _ _ _ => rfl
  | refuse c _ hc => simp [Writer.refuse, hc]
  | stop _ _ => rfl

namespace Mirrors

theorem halted_of_open (h : l.Mirrors w) (ho : w.isOpen = true) : l.halted = false := by
  rw [h.halted_eq, ho]
  rfl

theorem begin (h : l.Mirrors w) (hb : w.begin? = some w') :
    ∃ l', Steps l [.aside] l' ∧ l'.Mirrors w' := by
  obtain ⟨ho, next, rest, -, -, rfl⟩ := begin?_eq_some hb
  have hrun := h.halted_of_open ho
  obtain ⟨rfl, -⟩ := h
  refine ⟨_, Steps.begin.next (.begin hrun hb), ?_⟩
  constructor
  · rfl
  · simp [hrun, ho]

theorem complete (h : l.Mirrors w) (hb : w.complete? = some w') :
    ∃ l', Steps l [.aside] l' ∧ l'.Mirrors w' := by
  obtain ⟨ho, n, -, rfl⟩ := complete?_eq_some hb
  have hrun := h.halted_of_open ho
  obtain ⟨rfl, -⟩ := h
  refine ⟨_, Steps.begin.next (.complete hrun hb), ?_⟩
  constructor
  · rfl
  · simp [hrun, ho]

theorem advance (h : l.Mirrors w) (ho : w.isOpen = true) (hc : w.current = some c) (n : Nat) :
    ∃ l', Steps l [.passed (c.data.take n)] l' ∧ l'.Mirrors (w.advance n) := by
  have hrun := h.halted_of_open ho
  obtain ⟨rfl, -⟩ := h
  refine ⟨_, Steps.begin.next (.pass n hrun hc), ?_⟩
  constructor
  · rfl
  · simp [hrun, Writer.advance, ho]

theorem refuse (h : l.Mirrors w) (ho : w.isOpen = true) (hc : w.current = some c) :
    ∃ l', Steps l [.refused, .aside] l' ∧ l'.Mirrors w.refuse := by
  have hrun := h.halted_of_open ho
  obtain ⟨rfl, -⟩ := h
  refine ⟨_, (Steps.begin.next (.refuse hrun hc)).next (.close rfl), ?_⟩
  constructor
  · simp [Writer.refuse, Writer.stop, hc]
  · simp [Writer.refuse, hc]

/-- The writer of a run that is over stops. -/
theorem learn (h : l.Mirrors w) (ho : w.isOpen = true) :
    ∃ l', Steps l [.runEnded, .learned, .aside] l' ∧ l'.Mirrors w.stop := by
  have hrun := h.halted_of_open ho
  obtain ⟨rfl, -⟩ := h
  refine ⟨_, ((Steps.begin.next .runEnds).next (.learn hrun rfl)).next (.close rfl), ?_⟩
  constructor
  · rfl
  · rfl

theorem finish (h : l.Mirrors w) (he : w.atEnd = true) :
    ∃ l', Steps l [.inputEnded, .aside] l' ∧ l'.Mirrors w.stop := by
  have hrun := h.halted_of_open (atEnd_iff.mp he).1
  obtain ⟨rfl, -⟩ := h
  refine ⟨_, (Steps.begin.next (.finish hrun he)).next (.close rfl), ?_⟩
  constructor
  · rfl
  · rfl

/-- What a writer does in one step a line can do. -/
theorem work (h : l.Mirrors w) {isOver : Bool} (hstep : Writer.Step isOver w w') :
    ∃ more l', Steps l more l' ∧ l'.Mirrors w' := by
  cases hstep with
  | complete hb => exact ⟨_, h.complete hb⟩
  | begin hb => exact ⟨_, h.begin hb⟩
  | advance n c ho hc _ => exact ⟨_, h.advance ho hc n⟩
  | refuse c ho hc => exact ⟨_, h.refuse ho hc⟩
  | stop ho hwhy =>
    rcases hwhy with - | he
    · exact ⟨_, h.learn ho⟩
    · exact ⟨_, h.finish he⟩

/-- A session adds a write and waits. -/
theorem offer (h : l.Mirrors w) (ha : w.attached = true) {data : Bytes} {n : Nat}
    (hadd : w.add data = (w', some n)) :
    ∃ l', Steps l [.came l.came, .added data] l'
      ∧ l'.Mirrors { w' with callers := w'.callers + 1 } := by
  obtain ⟨ho, rfl, rfl⟩ := add_eq_some hadd
  have hrun := h.halted_of_open ho
  obtain ⟨rfl, -⟩ := h
  have hheld : (l.hold (.adding data)).writer.add data
      = ({ l.writer with
            waiting := l.writer.waiting ++ [⟨l.writer.added, data⟩]
            added := l.writer.added + 1
            callers := l.writer.callers + 1 }, some l.writer.added) := by
    simp [hold, Writer.add, ho]
  refine ⟨_, (Steps.begin.next (.write data ha)).next (.add rfl hheld), ?_⟩
  constructor
  · rfl
  · simp [hold, hrun, ho]

/-- A session no longer waits.  On the line this may be any of those who have hold of the input. -/
theorem release (h : l.Mirrors w) (hcallers : l.writer.callers = l.callers.length) :
    ∃ more l', Steps l more l' ∧ (∀ act ∈ more, act = .aside)
      ∧ l'.Mirrors { w with callers := w.callers - 1 } := by
  obtain ⟨rfl, hhalted⟩ := h
  cases hc : l.callers with
  | nil =>
    refine ⟨_, l, .begin, by simp, ?_, hhalted⟩
    rw [hc, List.length_nil] at hcallers
    rw [hcallers, Nat.zero_sub, ← hcallers]
  | cons first rest =>
    have hsplit : l.callers = [] ++ first :: rest := hc
    exact ⟨_, _, Steps.begin.next (.abandon hsplit), by simp, rfl, hhalted⟩

/-- The session can no longer reach the input. -/
theorem detach (h : l.Mirrors w) :
    ∃ l', Steps l [.aside] l' ∧ l'.Mirrors { w with attached := false } := by
  obtain ⟨rfl, hhalted⟩ := h
  exact ⟨_, Steps.begin.next .detach, rfl, hhalted⟩

end Mirrors
end Run.Line

namespace Bridge

open Run

variable {settings : RunSettings} {log : List Act} {b b' : Bridge} {act : Act} {t : Task}
variable {session : SessionId} {run : Id} {w w' : Writer}

/-! ## 2. What a step does to the inputs -/

/-- The inputs of the runs that were started, oldest first. -/
def inputs (b : Bridge) : List (Id × Writer) := b.tasks.map fun t => (t.info.id, t.writer)

/-- The runs whose inputs can be reached through some registrations. -/
def reachedBy (registry : List Registration) : List Id :=
  (registry.filter (·.attached)).map (·.run)

/-- The input of one run changes. -/
def onInput (run : Id) (f : Writer → Writer) (inputs : List (Id × Writer)) : List (Id × Writer) :=
  inputs.map fun e => if e.1 = run then (e.1, f e.2) else e

/-- What may happen to an input that its session can reach or not. -/
inductive Changes (isReached : Prop) (w : Writer) : Writer → Prop
  | offered {data : Bytes} {w' : Writer} {n : Nat} : isReached → w.add data = (w', some n) →
      Changes isReached w { w' with callers := w'.callers + 1 }
  | released : Changes isReached w { w with callers := w.callers - 1 }
  | worked {isOver : Bool} {w' : Writer} : Writer.Step isOver w w' → Changes isReached w w'

/-- What may happen to the inputs of all runs, and to those of them that can be reached. -/
inductive Handles (inputs : List (Id × Writer)) (reached : List Id) :
    List (Id × Writer) → List Id → Prop
  | nothing {reached' : List Id} : (∀ r ∈ reached', r ∈ reached) →
      Handles inputs reached inputs reached'
  | turned {run : Id} {f : Writer → Writer} :
      (∀ w, (run, w) ∈ inputs → Changes (run ∈ reached) w (f w)) →
      Handles inputs reached (onInput run f inputs) reached
  /-- The input of a run can no longer be reached. -/
  | detached {run : Id} {reached' : List Id} : (∀ r ∈ reached', r ∈ reached ∧ r ≠ run) →
      Handles inputs reached (onInput run (fun w => { w with attached := false }) inputs) reached'
  /-- A run starts, after something else has happened. -/
  | began {run : Id} {inputs' : List (Id × Writer)} {reached' : List Id} :
      Handles inputs reached inputs' reached' → (∀ w, (run, w) ∉ inputs') →
      Handles inputs reached (inputs' ++ [(run, ({} : Writer))])
        (run :: reached')

/-- After something was done to the input of one run, the inputs of all others are those that they
had before. -/
theorem mem_onInput {f : Writer → Writer} {inputs : List (Id × Writer)} {r : Id} :
    (r, w) ∈ onInput run f inputs ↔ ∃ w₀, (r, w₀) ∈ inputs ∧ w = if r = run then f w₀ else w₀ := by
  simp only [onInput, List.mem_map, Prod.exists]
  constructor
  · rintro ⟨r', w₀, hin, he⟩
    by_cases hr : r' = run
    · rw [if_pos hr] at he
      obtain ⟨rfl, rfl⟩ := Prod.mk.inj he
      exact ⟨w₀, hin, (if_pos hr).symm⟩
    · rw [if_neg hr] at he
      obtain ⟨rfl, rfl⟩ := Prod.mk.inj he
      exact ⟨w₀, hin, (if_neg hr).symm⟩
  · rintro ⟨w₀, hin, rfl⟩
    refine ⟨r, w₀, hin, ?_⟩
    split <;> rfl

theorem mem_reachedBy {registry : List Registration} {r : Id} :
    r ∈ reachedBy registry ↔ ∃ e ∈ registry, e.attached = true ∧ e.run = r := by
  simp [reachedBy, and_assoc]

theorem inputs_updateTask {f : Task → Task} {g : Writer → Writer}
    (hf : ∀ t, (f t).info = t.info ∧ (f t).writer = g t.writer) :
    (b.updateTask run f).inputs = onInput run g b.inputs := by
  simp only [inputs, onInput, updateTask, List.map_map]
  refine List.map_congr_left fun t _ => ?_
  simp only [Function.comp_apply]
  split
  · rw [(hf t).1, (hf t).2]
  · rfl

/-- The inputs stay as they are. -/
theorem inputs_updateTask_self {f : Task → Task}
    (hf : ∀ t, (f t).info = t.info ∧ (f t).writer = t.writer) :
    (b.updateTask run f).inputs = b.inputs := by
  have hi : (b.updateTask run f).inputs = onInput run (fun w => w) b.inputs := inputs_updateTask hf
  simpa [onInput] using hi

theorem inputs_detach (b : Bridge) (run : Id) :
    (b.detach run).inputs = onInput run (fun w => { w with attached := false }) b.inputs :=
  inputs_updateTask fun _ => ⟨rfl, rfl⟩

theorem Handles.of_eq (hi : b'.inputs = b.inputs) (hr : b'.registry = b.registry) :
    Handles b.inputs (reachedBy b.registry) b'.inputs (reachedBy b'.registry) := by
  rw [hi, hr]
  exact .nothing fun _ hm => hm

/-- A run has one input. -/
theorem Consistent.input_unique (hc : Consistent settings log b) (ht : t ∈ b.tasks)
    (hin : (t.info.id, w) ∈ b.inputs) : w = t.writer := by
  obtain ⟨u, hu, he⟩ := List.mem_map.mp hin
  obtain ⟨hid, rfl⟩ := Prod.mk.inj he
  rw [eq_of_id_eq hc.nodup ht hu hid]

/-- The run that is registered for a session is registered for no other one. -/
theorem Consistent.reached_others (hc : Consistent settings log b) (hh : b.Holds session run) :
    ∀ r ∈ reachedBy (b.otherRuns session), r ∈ reachedBy b.registry ∧ r ≠ run := by
  intro r hr
  obtain ⟨e, he, ha, rfl⟩ := mem_reachedBy.mp hr
  obtain ⟨hmem, hne⟩ := List.mem_filter.mp he
  refine ⟨mem_reachedBy.mpr ⟨e, hmem, ha, rfl⟩, ?_⟩
  rintro rfl
  have hheld : (e.session, e.run) ∈ b.held := List.mem_map.mpr ⟨e, hmem, rfl⟩
  obtain ⟨info, hin, hs, hid⟩ := mem_startedFor.mp ((hc.holds_iff_latest _ _).mp hh).1.mem
  have howner := hc.owner hin (hid ▸ ((hc.held_iff _ _).mp hheld).1)
  exact absurd (howner.trans hs) (by simpa using hne)

theorem mem_of_writable? (h : b.writable? session = some run) : run ∈ reachedBy b.registry := by
  unfold writable? at h
  split at h
  · rename_i hl
    obtain rfl := Option.some.inj h
    exact mem_reachedBy.mpr ⟨_, List.mem_of_find?_eq_some hl, rfl, rfl⟩
  · exact absurd h (by simp)

/-- A write is added to the input of the run that the session can reach, and to no other one. -/
theorem Consistent.handles_offer (hc : Consistent settings log b) (session : SessionId)
    (data : Bytes) : Handles b.inputs (reachedBy b.registry) (b.offer session data).1.inputs
      (reachedBy (b.offer session data).1.registry) := by
  unfold offer
  split
  · exact .of_eq rfl rfl
  · rename_i run hw
    split
    · exact .of_eq rfl rfl
    · rename_i t ht
      split
      · exact .of_eq rfl rfl
      · rename_i w number hadd
        obtain ⟨hmem, rfl⟩ := mem_of_task? ht
        have hi : (b.updateTask t.info.id fun u =>
              { u with writer := { w with callers := w.callers + 1 } }).inputs
            = onInput t.info.id (fun _ => { w with callers := w.callers + 1 }) b.inputs :=
          inputs_updateTask fun _ => ⟨rfl, rfl⟩
        rw [hi]
        refine .turned fun w₀ hw₀ => ?_
        rw [hc.input_unique hmem hw₀]
        exact .offered (mem_of_writable? hw) hadd

/-- Who ends the input of its session's run takes it out of reach, for the session and with that for
everybody, since no other session has this run. -/
theorem Consistent.handles_endInput (hc : Consistent settings log b) (session : SessionId) :
    Handles b.inputs (reachedBy b.registry) (b.endInput session).1.inputs
      (reachedBy (b.endInput session).1.registry) := by
  unfold endInput
  split
  · exact .of_eq rfl rfl
  · rename_i run hw
    have hi : Bridge.inputs { b.detach run with
        registry := b.registry.map fun r =>
          if r.session == session then { r with attached := false } else r }
        = onInput run (fun w => { w with attached := false }) b.inputs := inputs_detach b run
    rw [hi]
    refine .detached fun r hr => hc.reached_others (holds_of_writable? hw) r ?_
    -- what is still reached belongs to other sessions
    obtain ⟨e, he, ha, rfl⟩ := mem_reachedBy.mp hr
    obtain ⟨e', he', rfl⟩ := List.mem_map.mp he
    by_cases hs : e'.session = session
    · rw [if_pos (by simpa using hs)] at ha
      exact absurd ha (by simp)
    · rw [if_neg (by simpa using hs)] at ha ⊢
      exact mem_reachedBy.mpr ⟨e', List.mem_filter.mpr ⟨he', by simpa using hs⟩, ha, rfl⟩

/-- The input of the run that a session has is let go of, and the other sessions have theirs. -/
theorem Consistent.handles_displace (hc : Consistent settings log b) (session : SessionId) :
    Handles b.inputs (reachedBy b.registry) (b.displace session).inputs
      (reachedBy (b.otherRuns session)) := by
  unfold displace
  split
  · rename_i live hl
    have hi : (b.fireCancel live.run).inputs = b.inputs :=
      inputs_updateTask_self fun _ => ⟨rfl, rfl⟩
    rw [inputs_detach, hi]
    exact .detached (hc.reached_others (holds_of_liveRun? hl))
  · refine .nothing fun r hr => ?_
    obtain ⟨e, he, ha, rfl⟩ := mem_reachedBy.mp hr
    exact mem_reachedBy.mpr ⟨e, List.mem_of_mem_filter he, ha, rfl⟩

/-- A new run has an input of its own.  That of the run in whose place it is put can no longer be
reached, while all other sessions keep theirs. -/
theorem Consistent.handles_register (hc : Consistent settings log b) (info : RunInfo)
    (hfresh : ∀ t ∈ b.tasks, t.info.id ≠ info.id) :
    Handles b.inputs (reachedBy b.registry) (b.register info).inputs
      (reachedBy (b.register info).registry) := by
  have hi : (b.register info).inputs
      = (b.displace info.session).inputs ++ [(info.id, ({} : Writer))] := by
    simp only [inputs, register_tasks, List.map_append, List.map_cons, List.map_nil]
  have hr : reachedBy (b.register info).registry
      = info.id :: reachedBy (b.otherRuns info.session) := by
    simp only [register, otherRuns, registry_displace, reachedBy, List.filter_cons_of_pos,
      List.map_cons]
  rw [hi, hr]
  refine .began (hc.handles_displace info.session) fun w hw => ?_
  obtain ⟨t, ht, he⟩ := List.mem_map.mp hw
  rw [tasks_displace] at ht
  obtain ⟨u, hu, rfl⟩ := List.mem_map.mp ht
  have hid := (Prod.mk.inj he).1
  split at hid
  · exact hfresh u hu hid
  · exact hfresh u hu hid

/-- A run that is removed from the registry takes its input out of reach, if it was the one that is
registered there; a run that was replaced before changes nothing. -/
theorem Consistent.handles_deregister (hc : Consistent settings log b) (info : RunInfo) :
    Handles b.inputs (reachedBy b.registry) (b.deregister info).inputs
      (reachedBy (b.deregister info).registry) := by
  unfold deregister
  split
  · rename_i live hl
    split
    · rename_i hrun
      have hi : Bridge.inputs { b.detach info.id with registry := b.otherRuns info.session }
          = onInput info.id (fun w => { w with attached := false }) b.inputs :=
        inputs_detach b info.id
      rw [hi]
      exact .detached (hc.reached_others (hrun ▸ holds_of_liveRun? hl))
    · exact .of_eq rfl rfl
  · exact .of_eq rfl rfl

theorem registry_deliver (b : Bridge) (info : RunInfo) (r : Reaction) :
    (b.deliver info r).registry = b.registry := by
  unfold deliver
  split <;> rfl

theorem handles_cancel (b : Bridge) (session : SessionId) :
    Handles b.inputs (reachedBy b.registry) (b.cancel session).1.inputs
      (reachedBy (b.cancel session).1.registry) := by
  unfold cancel
  split
  · exact .of_eq (inputs_updateTask_self fun _ => ⟨rfl, rfl⟩) rfl
  · exact .of_eq rfl rfl

/-- On its way to its result a run touches inputs only once, when it is removed from the registry.
-/
theorem Consistent.handles_nextPhase? (hc : Consistent settings log b)
    (h : b.nextPhase? t = some b') :
    Handles b.inputs (reachedBy b.registry) b'.inputs (reachedBy b'.registry) := by
  unfold nextPhase? at h
  split at h
  · rename_i r _
    obtain rfl := Option.some.inj h
    have hi : ((b.deregister t.info).updateTask t.info.id fun t =>
        { t with phase := .removed r }).inputs = (b.deregister t.info).inputs :=
      inputs_updateTask_self fun _ => ⟨rfl, rfl⟩
    rw [hi]
    exact hc.handles_deregister t.info
  · obtain rfl := Option.some.inj h
    exact .of_eq (inputs_updateTask_self fun _ => ⟨rfl, rfl⟩) rfl
  · obtain rfl := Option.some.inj h
    exact .of_eq (inputs_updateTask_self fun _ => ⟨rfl, rfl⟩) rfl
  · exact absurd h (by simp)

/-- **What a step does to the inputs**: one of them changes, or cannot be reached any more, or there
is a new one. -/
theorem Step.handles (hc : Consistent settings log b) (h : Step b act b') :
    Handles b.inputs (reachedBy b.registry) b'.inputs (reachedBy b'.registry) := by
  cases h with
  | start hfresh hs =>
    obtain ⟨script, -, -, -, rfl, rfl⟩ := start_eq_ok hs
    exact hc.handles_register _ hfresh
  | refuse _ => exact .of_eq rfl rfl
  | offer session data => exact hc.handles_offer session data
  | release run =>
    have hi : (b.release run).inputs
        = onInput run (fun w => { w with callers := w.callers - 1 }) b.inputs :=
      inputs_updateTask fun _ => ⟨rfl, rfl⟩
    rw [hi]
    exact .turned fun w _ => .released
  | endInput session => exact hc.handles_endInput session
  | cancel session => exact handles_cancel b session
  | close session => exact handles_cancel (b.unsubscribe session).1 session
  | subscribe session => exact .of_eq rfl rfl
  | unsubscribe session => exact .of_eq rfl rfl
  | takeAll _ => exact .of_eq rfl rfl
  | takeNext _ => exact .of_eq rfl rfl
  | hangUp i => exact .of_eq rfl rfl
  | @supervise t s s' r now _ _ _ =>
    have hi : (b.react t.info (s', r)).inputs = b.inputs := by
      simp only [inputs, tasks_react]
      exact inputs_updateTask_self fun _ => ⟨rfl, rfl⟩
    exact .of_eq hi (registry_deliver _ _ _)
  | conclude now _ _ _ => exact .of_eq (inputs_updateTask_self fun _ => ⟨rfl, rfl⟩) rfl
  | @write t w ht hw =>
    have hi : (b.updateTask t.info.id fun u => { u with writer := w }).inputs
        = onInput t.info.id (fun _ => w) b.inputs := inputs_updateTask fun _ => ⟨rfl, rfl⟩
    rw [hi]
    refine .turned fun w₀ hw₀ => ?_
    rw [hc.input_unique ht hw₀]
    exact .worked hw
  | deregister _ _ hn => exact hc.handles_nextPhase? hn
  | settle _ _ hn => exact hc.handles_nextPhase? hn

/-! ## 3. Inputs that are lines -/

/-- An input that can be reached through the registry is one that can be written to. -/
def Reaches (inputs : List (Id × Writer)) (reached : List Id) : Prop :=
  ∀ r ∈ reached, ∀ w, (r, w) ∈ inputs → w.attached = true

/-- The writer is where some line may have come to. -/
def IsLine (w : Writer) : Prop := ∃ log l, Line.History log l ∧ l.Mirrors w

theorem Changes.attached_eq {isReached : Prop} (h : Changes isReached w w') :
    w'.attached = w.attached := by
  cases h with
  | offered _ hadd =>
    obtain ⟨-, -, rfl⟩ := Line.add_eq_some hadd
    rfl
  | released => rfl
  | worked hstep => exact Line.attached_eq_of_step hstep

theorem IsLine.start : IsLine {} := ⟨[], {}, .begin, rfl, rfl⟩

theorem IsLine.detach (h : IsLine w) : IsLine { w with attached := false } := by
  obtain ⟨log, l, hhistory, hm⟩ := h
  obtain ⟨l', hmore, hm'⟩ := hm.detach
  exact ⟨_, l', hhistory.append hmore, hm'⟩

/-- What may happen to the input of a run a line can do as well, part by part: an offer is a caller
who comes and adds, a release one who leaves, and the rest is the work of the writer. -/
theorem Changes.isLine {isReached : Prop} (h : Changes isReached w w')
    (ha : isReached → w.attached = true) (hl : IsLine w) : IsLine w' := by
  obtain ⟨log, l, hhistory, hm⟩ := hl
  have hnext : ∃ more l', Line.Steps l more l' ∧ l'.Mirrors w' := by
    cases h with
    | offered hr hadd => exact ⟨_, hm.offer (ha hr) hadd⟩
    | released =>
      obtain ⟨more, l', hmore, -, hm'⟩ := hm.release hhistory.callers_eq
      exact ⟨more, l', hmore, hm'⟩
    | worked hstep => exact hm.work hstep
  obtain ⟨more, l', hmore, hm'⟩ := hnext
  exact ⟨log ++ more, l', hhistory.append hmore, hm'⟩

/-- Inputs that are let go of are not those that can still be reached. -/
theorem Handles.reaches {inputs inputs' : List (Id × Writer)} {reached reached' : List Id}
    (h : Handles inputs reached inputs' reached') (hr : Reaches inputs reached) :
    Reaches inputs' reached' := by
  induction h with
  | nothing hsub =>
    intro r hm w hw
    exact hr r (hsub r hm) w hw
  | turned hf =>
    intro r hm w hw
    obtain ⟨w₀, hw₀, rfl⟩ := mem_onInput.mp hw
    have ha := hr r hm w₀ hw₀
    split
    · rename_i he
      subst he
      rw [(hf w₀ hw₀).attached_eq, ha]
    · exact ha
  | detached hsub =>
    intro r hm w hw
    obtain ⟨hreached, hne⟩ := hsub r hm
    obtain ⟨w₀, hw₀, rfl⟩ := mem_onInput.mp hw
    rw [if_neg hne]
    exact hr r hreached w₀ hw₀
  | @began run inputs' reached' _ hfresh ih =>
    intro r hm w hw
    rcases List.mem_append.mp hw with hold | hnew
    · rcases List.mem_cons.mp hm with rfl | hm
      · exact absurd hold (hfresh w)
      · exact ih r hm w hold
    · obtain ⟨-, rfl⟩ := Prod.mk.inj (List.mem_singleton.mp hnew)
      rfl

/-- If all inputs were lines before a step, they are lines after it; a run that starts has an input
to which nothing has happened yet. -/
theorem Handles.isLine {inputs inputs' : List (Id × Writer)} {reached reached' : List Id}
    (h : Handles inputs reached inputs' reached') (hr : Reaches inputs reached)
    (hall : ∀ e ∈ inputs, IsLine e.2) : ∀ e ∈ inputs', IsLine e.2 := by
  induction h with
  | nothing _ => exact hall
  | turned hf =>
    rintro ⟨r, w⟩ hw
    obtain ⟨w₀, hw₀, rfl⟩ := mem_onInput.mp hw
    have hl : IsLine w₀ := hall _ hw₀
    dsimp only
    split
    · rename_i he
      subst he
      exact (hf w₀ hw₀).isLine (fun hm => hr r hm w₀ hw₀) hl
    · exact hl
  | detached _ =>
    rintro ⟨r, w⟩ hw
    obtain ⟨w₀, hw₀, rfl⟩ := mem_onInput.mp hw
    have hl : IsLine w₀ := hall _ hw₀
    dsimp only
    split
    · exact hl.detach
    · exact hl
  | began _ _ ih =>
    intro e he
    rcases List.mem_append.mp he with hold | hnew
    · exact ih e hold
    · rw [List.mem_singleton.mp hnew]
      exact .start

/-- **What can happen to the input of a run can happen on a line.**  So what was shown of callers
and a writer that take turns in any order holds of each run of each bridge. -/
theorem exists_line (h : Runs settings log b) (ht : t ∈ b.tasks) : IsLine t.writer := by
  have hkept : Reaches b.inputs (reachedBy b.registry) ∧ ∀ e ∈ b.inputs, IsLine e.2 := by
    clear ht
    induction h with
    | begin =>
      constructor
      · intro r hr
        exact absurd hr (by simp [reachedBy])
      · intro e he
        exact absurd he (by simp [inputs])
    | next hbefore hstep ih =>
      have hh := hstep.handles (.of_runs hbefore)
      exact ⟨hh.reaches ih.1, hh.isLine ih.1 ih.2⟩
  exact hkept.2 (t.info.id, t.writer) (List.mem_map_of_mem ht)

end Bridge
end Scriptorium
