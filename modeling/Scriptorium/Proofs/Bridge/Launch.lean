import Mathlib.Algebra.Order.BigOperators.Group.List
import Mathlib.Algebra.Order.Group.Nat
import Scriptorium.Bridge.Launch
import Scriptorium.Proofs.Bridge.Cancellation

/-!
# A start comes about as a whole or not at all

A launch can fail at five places, before, between and after the check of the session and the start
of the interpreter.  `Launches` says what it comes to in each case, in the order in which they are
decided: a script that is not there, a session that is busy, an interpreter that cannot be started,
and a process whose output cannot be read.

Whatever the case, a launch that fails leaves the bridge as it was, and no process that it has
started; one that succeeds changes nothing but what belongs to the session (`Replaced`), and tells
the run that was registered before, if there was one, to stop (`launch_all_or_nothing`).
-/
namespace Scriptorium

open Run

/-- A run that is told to stop, and whose input its session cannot write to any more. -/
def Task.displaced (t : Task) : Task :=
  { t with cancelled := true, writer := { t.writer with attached := false } }

namespace Bridge

variable {σ α : Type} {host : Host σ α} {b b' : Bridge} {system system' : σ} {id : Id} {now : Nat}
variable {session : SessionId} {requested : Path} {info : RunInfo} {child : α}

/-! ## 1. What a launch comes to -/

/-- The regular file that a path leads to. -/
def Host.script? (host : Host σ α) (system : σ) (requested : Path) : Option Path :=
  match host.canonicalize system requested with
  | .error _ => none
  | .ok script =>
    match host.isFile system script with
    | .ok true => some script
    | _ => none

/-- A script is found if its path can be resolved and leads to a file; every other failure on the
way is told as one and the same error. -/
theorem Host.script?_eq_some {script : Path} :
    host.script? system requested = some script
      ↔ host.canonicalize system requested = .ok script ∧ host.isFile system script = .ok true := by
  unfold script?
  constructor
  · intro h
    split at h
    · exact absurd h (by simp)
    · rename_i real hc
      split at h
      · rename_i hf
        obtain rfl := Option.some.inj h
        exact ⟨hc, hf⟩
      · exact absurd h (by simp)
  · rintro ⟨hc, hf⟩
    simp only [hc, hf]

/-- A session that has a run which it may not replace. -/
def Busy (b : Bridge) (session : SessionId) : Prop :=
  b.settings.concurrentRuns = .reject ∧ (b.liveRun? session).isSome = true

theorem permit_of_busy (h : b.Busy session) : b.permit session = .error (.alreadyRunning session) :=
  if_pos h

theorem permit_of_not_busy (h : ¬ b.Busy session) : b.permit session = .ok () := if_neg h

/-- What a launch comes to. -/
inductive Launches (host : Host σ α) (b : Bridge) (system : σ) (id : Id) (now : Nat)
    (session : SessionId) (requested : Path) :
    EStateM.Result Run.Error (Bridge × σ) (RunInfo × α) → Prop
  | notFound : host.script? system requested = none →
      Launches host b system id now session requested
        (.error (.scriptNotFound requested) (b, system))
  | busy {script : Path} : host.script? system requested = some script → b.Busy session →
      Launches host b system id now session requested (.error (.alreadyRunning session) (b, system))
  | notSpawned {script : Path} {cause : OsError} : host.script? system requested = some script →
      ¬ b.Busy session → host.spawn system script (directoryOf script) = .error cause →
      Launches host b system id now session requested
        (.error (.spawn b.settings.interpreter cause) (b, system))
  | notPiped {script : Path} {child : α} {system' : σ} :
      host.script? system requested = some script → ¬ b.Busy session →
      host.spawn system script (directoryOf script) = .ok (system', child) →
      host.isPiped child = false →
      Launches host b system id now session requested
        (.error (.execution "interpreter pipes unavailable") (b, host.kill system' child))
  | started {script : Path} {child : α} {system' : σ} :
      host.script? system requested = some script → ¬ b.Busy session →
      host.spawn system script (directoryOf script) = .ok (system', child) →
      host.isPiped child = true →
      Launches host b system id now session requested
        (.ok (⟨id, session, script, directoryOf script, now⟩, child)
          (b.register ⟨id, session, script, directoryOf script, now⟩, system'))

/-- Looking for the script leaves the bridge and the system as they were, so a start that fails here
has done nothing. -/
theorem run_resolveScript (host : Host σ α) (b : Bridge) (system : σ) (requested : Path) :
    (resolveScript host requested).run (b, system) = match host.script? system requested with
      | some script => .ok script (b, system)
      | none => .error (.scriptNotFound requested) (b, system) := by
  unfold resolveScript Host.script?
  simp only [EStateM.run_bind, EStateM.run_get]
  cases hc : host.canonicalize system requested with
  | error cause => rfl
  | ok script =>
    cases hf : host.isFile system script with
    | error cause =>
      simp only [hf]
      rfl
    | ok isFile =>
      simp only [hf]
      cases isFile <;> rfl

theorem run_grant (b : Bridge) (system : σ) (session : SessionId) :
    (grant session).run (b, system) = match b.permit session with
      | .ok () => .ok () (b, system)
      | .error e => .error e (b, system) := by
  unfold grant
  simp only [EStateM.run_bind, EStateM.run_get]
  cases b.permit session <;> rfl

/-- A process is only kept if all of its pipes are there.  Otherwise it is killed again, and the
bridge has not been touched. -/
theorem run_spawnPiped (host : Host σ α) (b : Bridge) (system : σ) (script dir : Path) :
    (spawnPiped host script dir).run (b, system) = match host.spawn system script dir with
      | .error cause => .error (.spawn b.settings.interpreter cause) (b, system)
      | .ok (system', child) =>
        if host.isPiped child then .ok child (b, system')
        else .error (.execution "interpreter pipes unavailable") (b, host.kill system' child) := by
  unfold spawnPiped
  simp only [EStateM.run_bind, EStateM.run_get]
  cases host.spawn system script dir with
  | error cause => rfl
  | ok spawned =>
    by_cases h : host.isPiped spawned.2 = true
    · simp only [if_pos h]
      rfl
    · simp only [if_neg h]
      rfl

/-- **What a launch comes to**, with the failures in the order in which they are decided.  The
script is looked for first, then the policy is asked, then the process is started, and only a run
that has its process is registered. -/
theorem launches (host : Host σ α) (b : Bridge) (system : σ) (id : Id) (now : Nat)
    (session : SessionId) (requested : Path) :
    Launches host b system id now session requested
      ((launch host id now session requested).run (b, system)) := by
  unfold launch
  rw [EStateM.run_bind, run_resolveScript]
  cases hs : host.script? system requested with
  | none => exact .notFound hs
  | some script =>
    simp only [EStateM.run_bind, run_grant]
    by_cases hb : b.Busy session
    · rw [permit_of_busy hb]
      exact .busy hs hb
    · rw [permit_of_not_busy hb]
      simp only [run_spawnPiped]
      cases hc : host.spawn system script (directoryOf script) with
      | error cause => exact .notSpawned hs hb hc
      | ok spawned =>
        obtain ⟨system', child⟩ := spawned
        by_cases hp : host.isPiped child = true
        · simp only [if_pos hp]
          exact .started hs hb hc hp
        · simp only [if_neg hp]
          exact .notPiped hs hb hc (Bool.eq_false_iff.mpr hp)

/-- The cases exclude each other. -/
theorem Launches.unique {r r' : EStateM.Result Run.Error (Bridge × σ) (RunInfo × α)}
    (h : Launches host b system id now session requested r)
    (h' : Launches host b system id now session requested r') : r = r' := by
  cases h <;> cases h' <;> simp_all

/-- A launch that succeeds is a start. -/
theorem start_of_launch {system' : σ}
    (h : (launch host id now session requested).run (b, system)
      = .ok (info, child) (b', system')) :
    b.start id now session requested (host.script? system requested) (host.spawn system)
      = .ok (b', info, system', child) := by
  have hl := launches host b system id now session requested
  rw [h] at hl
  cases hl with
  | started hs hb hc hp =>
    simp only [start, hs, permit_of_not_busy hb, hc]
    rfl

/-! ## 2. What a run that starts changes -/

/-- Letting go of a session's run tells that run to stop and takes its input away; the runs of all
other sessions stay as they were. -/
theorem tasks_displace (b : Bridge) (session : SessionId) :
    (b.displace session).tasks
      = b.tasks.map fun t => if b.Holds session t.info.id then t.displaced else t := by
  unfold displace
  split
  · rename_i live hl
    simp only [detach, fireCancel, updateTask, List.map_map]
    refine List.map_congr_left fun t _ => ?_
    have hiff : b.Holds session t.info.id ↔ t.info.id = live.run := by
      simp [Holds, hl, eq_comm]
    by_cases h : b.Holds session t.info.id
    · have hid := hiff.mp h
      rw [if_pos h]
      simp only [Function.comp_apply, if_pos hid]
      rfl
    · have hid := mt hiff.mpr h
      rw [if_neg h]
      simp only [Function.comp_apply, if_neg hid]
  · rename_i hl
    have hno (t : Task) : ¬ b.Holds session t.info.id := by simp [Holds, hl]
    simp [hno]

theorem registry_displace (b : Bridge) (session : SessionId) :
    (b.displace session).registry = b.registry := by
  unfold displace
  split <;> rfl

/-- After a start the session has the new run, and the other sessions have the runs they had. -/
theorem liveRun?_register (b : Bridge) (info : RunInfo) (session : SessionId) :
    (b.register info).liveRun? session
      = if session = info.session then some ⟨info.session, info.id, true⟩
        else b.liveRun? session := by
  simp only [liveRun?, register, otherRuns, registry_displace, List.find?_cons]
  by_cases h : session = info.session
  · simp [h]
  · have hne : (info.session == session) = false := by
      simpa using fun e : info.session = session => h e.symm
    rw [hne, if_neg h, List.find?_filter]
    refine congrArg (fun p => List.find? p b.registry) (funext fun r => ?_)
    by_cases hr : r.session = session
    · simp [hr, h]
    · simp [hr]

/-- A run has started in place of the one that its session had: nothing has changed but what belongs
to the session. -/
structure Replaced (b b' : Bridge) (info : RunInfo) : Prop where
  /-- The new run is the live run of the session. -/
  entry : b'.liveRun? info.session = some ⟨info.session, info.id, true⟩
  others : ∀ session, session ≠ info.session → b'.liveRun? session = b.liveRun? session
  shown : b'.activeRun? info.session = some info
  running : b'.state? info.id = some .running
  router : b'.router = b.router
  settings : b'.settings = b.settings
  /-- A run that was there goes on; it was told to stop before, or is if it was registered. -/
  earlier : ∀ t ∈ b.tasks, ∃ t' ∈ b'.tasks, t'.info = t.info ∧ t'.phase = t.phase
    ∧ (t'.cancelled = true ↔ t.cancelled = true ∨ b.Holds info.session t.info.id)
  /-- Runs other than the one that was registered are as they were, with their input. -/
  kept : ∀ t ∈ b.tasks, ¬ b.Holds info.session t.info.id → t ∈ b'.tasks

/-- The run that has just started is found by its identifier. -/
theorem task?_register (hfresh : ∀ t ∈ b.tasks, t.info.id ≠ info.id) :
    (b.register info).task? info.id
      = some ⟨info, false, {}, firstPhase b.settings info.started⟩ := by
  have hold : (b.displace info.session).tasks.find? (·.info.id == info.id) = none := by
    rw [List.find?_eq_none]
    intro t ht
    obtain ⟨u, hu, hi, -⟩ := samePhases_displace b info.session t ht
    simpa [hi] using hfresh u hu
  rw [task?, register_tasks, List.find?_append, hold]
  simp

/-- **A run that is registered takes the place of the session's live run and of no other.**  The
identifier is new, so nothing that is known of an earlier run is lost. -/
theorem replaced_register (hfresh : ∀ t ∈ b.tasks, t.info.id ≠ info.id) :
    Replaced b (b.register info) info where
  entry := by rw [liveRun?_register, if_pos rfl]
  others session h := by rw [liveRun?_register, if_neg h]
  shown := by
    rw [activeRun?, liveRun?_register, if_pos rfl]
    simp [task?_register hfresh]
  running := by
    rw [state?, task?_register hfresh, Option.map_some]
    unfold firstPhase
    split <;> rfl
  router := router_register b info
  settings := (sameView_displace b info.session).settings
  earlier t ht := by
    refine ⟨if b.Holds info.session t.info.id then t.displaced else t, ?_, ?_⟩
    · rw [register_tasks, tasks_displace]
      exact List.mem_append_left _ (List.mem_map_of_mem ht)
    · by_cases h : b.Holds info.session t.info.id <;> simp [h, Task.displaced]
  kept t ht h := by
    rw [register_tasks, tasks_displace]
    refine List.mem_append_left _ (List.mem_map.mpr ⟨t, ht, if_neg h⟩)

/-! ## 3. All or nothing -/

/-- Which processes of a system run: one that is started did not run before, one that is killed
runs no longer, and neither has to do with the others. -/
structure Host.Lawful (host : Host σ α) (alive : σ → α → Prop) : Prop where
  spawned : ∀ system script workingDir child system',
    host.spawn system script workingDir = .ok (system', child) →
      ¬ alive system child ∧ ∀ c, alive system' c ↔ c = child ∨ alive system c
  killed : ∀ system child c, alive (host.kill system child) c ↔ alive system c ∧ c ≠ child

/-- A process that is killed as soon as it was started leaves nothing behind. -/
theorem Host.Lawful.spawn_kill {alive : σ → α → Prop} (h : host.Lawful alive)
    {script workingDir : Path}
    (hspawn : host.spawn system script workingDir = .ok (system', child)) (c : α) :
    alive (host.kill system' child) c ↔ alive system c := by
  obtain ⟨hnew, hothers⟩ := h.spawned _ _ _ _ _ hspawn
  rw [h.killed, hothers]
  constructor
  · rintro ⟨rfl | hc, hne⟩
    · exact absurd rfl hne
    · exact hc
  · intro hc
    refine ⟨.inr hc, ?_⟩
    rintro rfl
    exact hnew hc

/-- **A launch that fails has changed nothing.**  Neither is a run registered or replaced, nor is a
process left behind that nobody looks after. -/
theorem unchanged_of_launch_error {alive : σ → α → Prop} (hlawful : host.Lawful alive)
    {e : Run.Error} (h : (launch host id now session requested).run (b, system)
      = .error e (b', system')) : b' = b ∧ ∀ c, alive system' c ↔ alive system c := by
  have hl := launches host b system id now session requested
  rw [h] at hl
  cases hl with
  | notFound hs => exact ⟨rfl, fun _ => Iff.rfl⟩
  | busy hs hb => exact ⟨rfl, fun _ => Iff.rfl⟩
  | notSpawned hs hb hc => exact ⟨rfl, fun _ => Iff.rfl⟩
  | notPiped hs hb hc hp => exact ⟨rfl, hlawful.spawn_kill hc⟩

/-- **A start happens as a whole or not at all.**  On any bridge, and whatever the system finds and
does: a script that is not there is noticed before the session is asked whether it is busy, and a
busy session before anything is started; a launch that fails, for whatever reason, leaves the bridge
as it was and no process behind; one that succeeds has started one process, on the regular file that
the path leads to and in its directory, and has changed nothing but the entry of its session, whose
earlier run was told to stop if there was one; and it succeeds unless one of the four reasons to
fail is there. -/
theorem launch_all_or_nothing {alive : σ → α → Prop} (hlawful : host.Lawful alive)
    (hfresh : ∀ t ∈ b.tasks, t.info.id ≠ id) :
    (host.script? system requested = none →
        (launch host id now session requested).run (b, system)
          = .error (.scriptNotFound requested) (b, system))
      ∧ (∀ script, host.script? system requested = some script → b.Busy session →
          (launch host id now session requested).run (b, system)
            = .error (.alreadyRunning session) (b, system))
      ∧ (∀ e b' system', (launch host id now session requested).run (b, system)
            = .error e (b', system') → b' = b ∧ ∀ c, alive system' c ↔ alive system c)
      ∧ (∀ info child b' system', (launch host id now session requested).run (b, system)
            = .ok (info, child) (b', system') →
          host.canonicalize system requested = .ok info.script
            ∧ host.isFile system info.script = .ok true
            ∧ (∀ dir, info.script.parent? = some dir → info.workingDir = dir)
            ∧ info.id = id ∧ info.session = session ∧ Replaced b b' info
            ∧ ∀ c, alive system' c ↔ c = child ∨ alive system c)
      ∧ (∀ script child system', host.script? system requested = some script → ¬ b.Busy session →
          host.spawn system script (directoryOf script) = .ok (system', child) →
          host.isPiped child = true →
          ∃ info b', (launch host id now session requested).run (b, system)
            = .ok (info, child) (b', system')) := by
  have hl := launches host b system id now session requested
  refine ⟨fun hs => hl.unique (.notFound hs), fun script hs hb => hl.unique (.busy hs hb),
    fun e b' system' h => ?_, fun info child b' system' h => ?_,
    fun script child system' hs hb hc hp => ⟨_, _, hl.unique (.started hs hb hc hp)⟩⟩
  · exact unchanged_of_launch_error hlawful h
  · rw [h] at hl
    cases hl with
    | @started script _ _ hs hb hc hp =>
      obtain ⟨hreal, hfile⟩ := Host.script?_eq_some.mp hs
      refine ⟨hreal, hfile, fun dir hdir => ?_, rfl, rfl, replaced_register hfresh, ?_⟩
      · simp [directoryOf, hdir]
      · exact (hlawful.spawned _ _ _ _ _ hc).2

/-- A system that knows its processes by numbers, and that cannot give any of them pipes. -/
def Host.pipeless : Host (List Nat) Nat where
  canonicalize _ p := .ok p
  isFile _ _ := .ok true
  spawn pids _ _ := .ok ((pids.sum + 1) :: pids, pids.sum + 1)
  isPiped _ := false
  kill pids pid := pids.filter (· != pid)

theorem Host.pipeless_lawful : pipeless.Lawful fun pids pid => pid ∈ pids where
  spawned pids _ _ child pids' h := by
    obtain ⟨rfl, rfl⟩ := Prod.mk.inj (Except.ok.inj h)
    refine ⟨fun hm => ?_, fun c => List.mem_cons⟩
    have := List.le_sum_of_mem hm
    omega
  killed pids child c := by simp [pipeless]

/-- A run is to be replaced, but its successor has no pipes: the successor is gone again, and the
run is still there and goes on. -/
theorem failed_successor_leaves_run :
    ∃ b b' : Bridge, ∃ e pids, b.Holds "w1" (.ofNat 1)
      ∧ (launch Host.pipeless (.ofNat 2) 5 "w1" ⟨[]⟩).run (b, [3]) = .error e (b', pids)
      ∧ b' = b ∧ ∀ pid, pid ∈ pids ↔ pid ∈ [3] := by
  let b : Bridge := register { settings := { concurrentRuns := .replace } }
    ⟨.ofNat 1, "w1", ⟨[]⟩, ⟨[]⟩, 0⟩
  have hfresh : ∀ t ∈ b.tasks, t.info.id ≠ .ofNat 2 := by decide
  have hheld : b.Holds "w1" (.ofNat 1) := by decide
  have hfails : (launch Host.pipeless (.ofNat 2) 5 "w1" ⟨[]⟩).run (b, [3])
      = .error (.execution "interpreter pipes unavailable") (b, [3]) := rfl
  obtain ⟨-, -, failed, -⟩ := launch_all_or_nothing Host.pipeless_lawful hfresh
  exact ⟨b, _, _, _, hheld, hfails, failed _ _ _ hfails⟩

end Bridge
end Scriptorium
