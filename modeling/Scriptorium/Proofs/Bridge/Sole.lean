import Scriptorium.Proofs.Bridge.Lines

/-!
# A bridge with one run

A terminal has a bridge to itself and starts one run on it.  Then no run has to be looked for, and
what a bridge does is a change of this one run.  `Sole` says so, and that the registry can reach the
input of the run only as long as the run lets it; the lemmas say what becomes of the run.

Most of what happens leaves its input alone, or lets go of it when the run is over anyway
(`Task.Keeps`).
-/
namespace Scriptorium

open Run

/-- The run goes on, and its input stays as it is; when the run is over, the session may let go of
it. -/
structure Task.Keeps (task task' : Task) : Prop where
  writer : task'.writer = task.writer
    ∨ task'.phase.isOver = true ∧ task'.writer = { task.writer with attached := false }
  isOver : task.phase.isOver = true → task'.phase.isOver = true

theorem Task.Keeps.of_eq {task task' : Task} (hw : task'.writer = task.writer)
    (hp : task.phase.isOver = true → task'.phase.isOver = true) : task.Keeps task' :=
  ⟨.inl hw, hp⟩

namespace Bridge

variable {b b' : Bridge} {session : SessionId} {task t : Task} {run : Id} {n : Nat} {data : Bytes}

/-- There is one run, that of the session, and its input can be reached through the registry only if
it is attached. -/
structure Sole (b : Bridge) (session : SessionId) (task : Task) : Prop where
  tasks_eq : b.tasks = [task]
  owner : task.info.session = session
  reach : ∀ e ∈ b.registry, e.session = session ∧ (e.attached = true → task.writer.attached = true)

namespace Sole

theorem of_eq (h : b.Sole session task) (ht : b'.tasks = b.tasks) (hr : b'.registry = b.registry) :
    b'.Sole session task :=
  ⟨ht.trans h.tasks_eq, h.owner, fun e he => h.reach e (hr ▸ he)⟩

theorem eq_of_mem (h : b.Sole session task) (ht : t ∈ b.tasks) : t = task := by
  rw [h.tasks_eq] at ht
  exact List.mem_singleton.mp ht

/-- The run changes. -/
theorem updateTask (h : b.Sole session task) (f : Task → Task) (hinfo : (f task).info = task.info)
    (ha : task.writer.attached = true → (f task).writer.attached = true) :
    (b.updateTask task.info.id f).Sole session (f task) where
  tasks_eq := by simp [Bridge.updateTask, h.tasks_eq]
  owner := by rw [hinfo, h.owner]
  reach e he := ⟨(h.reach e he).1, fun hatt => ha ((h.reach e he).2 hatt)⟩

/-- Another run would change. -/
theorem updateTask_of_ne (h : b.Sole session task) (f : Task → Task) (hne : task.info.id ≠ run) :
    (b.updateTask run f).Sole session task :=
  h.of_eq (by simp [Bridge.updateTask, h.tasks_eq, hne]) rfl

/-- With one run of one session, a write that is taken was added to the input of this run, which had
not been taken from the session yet. -/
theorem offer (h : b.Sole session task) (ho : b.offer session data = (b', some (run, n))) :
    ∃ writer, task.writer.attached = true ∧ task.writer.add data = (writer, some n)
      ∧ b'.Sole session { task with writer := { writer with callers := writer.callers + 1 } } := by
  unfold Bridge.offer at ho
  split at ho
  · exact absurd ho (by simp)
  · rename_i live hlive
    split at ho
    · exact absurd ho (by simp)
    · rename_i t ht
      split at ho
      · exact absurd ho (by simp)
      · rename_i writer number hadd
        obtain ⟨hb, hnumber⟩ := Prod.mk.inj ho
        obtain ⟨rfl, rfl⟩ := Prod.mk.inj (Option.some.inj hnumber)
        obtain ⟨hmem, rfl⟩ := mem_of_task? ht
        obtain rfl := h.eq_of_mem hmem
        obtain ⟨e, he, ha, -⟩ := mem_reachedBy.mp (mem_of_writable? hlive)
        have hattached := (h.reach e he).2 ha
        obtain ⟨-, -, rfl⟩ := Line.add_eq_some hadd
        refine ⟨_, hattached, hadd, hb ▸ h.updateTask _ rfl fun _ => hattached⟩

theorem release (h : b.Sole session task) (run : Id) :
    (b.release run).Sole session task ∨ (b.release run).Sole session
      { task with writer := { task.writer with callers := task.writer.callers - 1 } } := by
  by_cases hrun : task.info.id = run
  · subst hrun
    exact .inr (h.updateTask _ rfl fun ha => ha)
  · exact .inl (h.updateTask_of_ne _ hrun)

/-- The session lets go of an input. -/
theorem letGo (h : b.Sole session task) (run : Id) {registry : List Registration}
    (hr : ∀ e ∈ registry, e.session = session ∧ e.attached = false) :
    Sole { b.detach run with registry } session task
      ∨ Sole { b.detach run with registry } session
        { task with writer := { task.writer with attached := false } } := by
  have hnone : ∀ p : Prop, ∀ e ∈ registry, e.session = session ∧ (e.attached = true → p) := by
    intro p e he
    obtain ⟨howner, hfree⟩ := hr e he
    exact ⟨howner, fun ha => absurd (hfree.symm.trans ha) (by simp)⟩
  have htasks : (b.detach run).tasks = [if task.info.id = run
      then { task with writer := { task.writer with attached := false } } else task] := by
    simp [detach, Bridge.updateTask, h.tasks_eq]
  by_cases hrun : task.info.id = run
  · rw [if_pos hrun] at htasks
    exact .inr ⟨htasks, h.owner, hnone _⟩
  · rw [if_neg hrun] at htasks
    exact .inl ⟨htasks, h.owner, hnone _⟩

/-- With one run of one session, ending the input takes that of this run from the session, or
changes nothing because it is gone already. -/
theorem endInput (h : b.Sole session task) :
    (b.endInput session).1.Sole session task ∨ (b.endInput session).1.Sole session
      { task with writer := { task.writer with attached := false } } := by
  unfold Bridge.endInput
  split
  · exact .inl h
  · rename_i run _
    refine h.letGo run fun e he => ?_
    obtain ⟨r, hr, rfl⟩ := List.mem_map.mp he
    simp [(h.reach r hr).1]

/-- With one run of one session, removing it from the registry takes its input away and changes
nothing else of it. -/
theorem deregister (h : b.Sole session task) :
    (b.deregister task.info).Sole session task ∨ (b.deregister task.info).Sole session
      { task with writer := { task.writer with attached := false } } := by
  unfold Bridge.deregister
  split
  · split
    · refine h.letGo task.info.id fun e he => ?_
      -- the registrations that are left would be of other sessions
      obtain ⟨hmem, hne⟩ := List.mem_filter.mp he
      exact absurd ((h.reach e hmem).1.trans h.owner.symm) (by simpa using hne)
    · exact .inl h
  · exact .inl h

/-- With one run of one session, a request to cancel reaches it or nobody, and does not touch its
input. -/
theorem cancel (h : b.Sole session task) :
    ∃ task', (b.cancel session).1.Sole session task' ∧ task.Keeps task' := by
  unfold Bridge.cancel
  split
  · rename_i live _
    by_cases hrun : task.info.id = live.run
    · rw [fireCancel, ← hrun]
      exact ⟨_, h.updateTask _ rfl fun ha => ha, .of_eq rfl id⟩
    · exact ⟨task, h.updateTask_of_ne _ hrun, .of_eq rfl id⟩
  · exact ⟨task, h, .of_eq rfl id⟩

/-- The supervision goes on. -/
theorem react (h : b.Sole session task) {s : Supervision} (hp : task.phase = .supervised s)
    (next : Supervision × Reaction) :
    ∃ task', (b.react task.info next).Sole session task' ∧ task.Keeps task' := by
  have hset : (b.setSupervision task.info.id next.1).Sole session
      { task with phase := .supervised next.1 } := h.updateTask _ rfl fun ha => ha
  refine ⟨{ task with phase := .supervised next.1 }, ?_,
    .of_eq rfl fun hover => absurd hover (by simp [hp, Phase.isOver])⟩
  unfold Bridge.react deliver
  split
  · exact hset.of_eq rfl rfl
  · exact hset

/-- The supervision is over. -/
theorem conclude (h : b.Sole session task) (s : Supervision) (now : Nat) :
    ∃ task', (b.conclude task.info s now).Sole session task' ∧ task.Keeps task' :=
  ⟨_, h.updateTask _ rfl fun ha => ha, .of_eq rfl fun _ => rfl⟩

/-- A run that is over goes on to the next phase. -/
theorem nextPhase? (h : b.Sole session task) (hb : b.nextPhase? task = some b') :
    ∃ task', b'.Sole session task' ∧ task.Keeps task' := by
  unfold Bridge.nextPhase? at hb
  split at hb
  · rename_i r _
    obtain rfl := Option.some.inj hb
    rcases h.deregister with hkept | hfree
    · exact ⟨_, hkept.updateTask _ rfl fun ha => ha, .of_eq rfl fun _ => rfl⟩
    · have hsole := hfree.updateTask (fun t => { t with phase := .removed r }) rfl fun ha => ha
      exact ⟨_, hsole, .inr ⟨rfl, rfl⟩, fun _ => rfl⟩
  · obtain rfl := Option.some.inj hb
    exact ⟨_, h.updateTask _ rfl fun ha => ha, .of_eq rfl fun _ => rfl⟩
  · obtain rfl := Option.some.inj hb
    exact ⟨_, h.updateTask _ rfl fun ha => ha, .of_eq rfl fun _ => rfl⟩
  · exact absurd hb (by simp)

end Sole

/-- A bridge that had no runs has the one that is started. -/
theorem sole_register (info : RunInfo) (ht : b.tasks = []) (hr : b.registry = []) :
    (b.register info).Sole info.session
      ⟨info, false, {}, firstPhase b.settings info.started⟩ where
  tasks_eq := by simp [register, displace, liveRun?, ht, hr]
  owner := rfl
  reach e he := by
    simp only [register, displace, liveRun?, hr, otherRuns, List.find?_nil, List.filter_nil,
      List.mem_singleton] at he
    exact ⟨he ▸ rfl, fun _ => rfl⟩

end Bridge
end Scriptorium
