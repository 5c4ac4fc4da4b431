import Scriptorium.Proofs.Bridge.Launch
import Scriptorium.Studio.Basic

/-!
# What a studio does is a history of its bridge

A studio decides which of its runs goes on, at what time, and what the machine brings; all of it
are steps that a bridge can do (`taskStep?_step`).  So whatever somebody asks of a studio, and
however long it goes on, its bridge has a history (`waitUpTo_continues`, `Continues.runs`), and
what holds in every history of a bridge holds in a studio.
-/
namespace Scriptorium

open Run

/-- A run does it by itself. -/
def Bridge.Act.isOwn : Bridge.Act → Bool
  | .worked _ | .deregistered _ => true
  | _ => false

namespace Machine

variable {m m' : Machine} {pipe n : Nat} {data bytes : Bytes}

/-- Reading from a pipe gives something, and no more than was asked for; so a chunk is never empty.
-/
theorem length_of_readPipe (h : m.readPipe pipe n = .data bytes m') (hn : 0 < n) :
    bytes ≠ [] ∧ bytes.length ≤ n := by
  unfold readPipe at h
  split at h
  · exact absurd h (by simp)
  · split at h
    · split at h <;> exact absurd h (by simp)
    · rename_i hb
      obtain ⟨rfl, -⟩ := Reading.data.inj h
      exact ⟨by simp [hb, Nat.ne_of_gt hn], by simp⟩

/-- A pipe takes no more than it is given. -/
theorem le_of_writePipe (h : m.writePipe pipe data = .taken n m') : n ≤ data.length := by
  unfold writePipe at h
  split at h
  · exact absurd h (by simp)
  · split at h
    · exact absurd h (by simp)
    · dsimp only at h
      split at h
      · exact absurd h (by simp)
      · obtain ⟨rfl, -⟩ := Writing.taken.inj h
        simp

end Machine

namespace Studio

variable {w w' : Studio} {t : Task} {s : Supervision} {link : Machine.Spawned}
variable {settings : RunSettings} {log : List Bridge.Act}

/-! ## 1. One step of a run -/

/-- What the time brings is looked for. -/
theorem due?_eq_some {now : Nat} {e : Event} {cancelled : Bool} (h : s.due? now = some e) :
    s.supervisor.allows e = true ∧ s.Brings now cancelled e := by
  unfold Supervision.due? at h
  split at h
  · rename_i hc
    obtain rfl := Option.some.inj h
    obtain ⟨hs, hd⟩ := Bool.and_eq_true_iff.mp hc
    obtain ⟨t, ht, hle⟩ := (Option.any_eq_true _ _).mp hd
    exact ⟨hs, t, ht, by simpa using hle⟩
  · split at h
    · rename_i hd
      obtain rfl := Option.some.inj h
      obtain ⟨t, ht, hle⟩ := (Option.any_eq_true _ _).mp hd
      exact ⟨by simp [Supervisor.allows, ht], t, ht, by simpa using hle⟩
    · exact absurd h (by simp)

/-- A pump makes the supervision go on. -/
theorem pumpStep?_reacts {stream : Stream} {pipe : Nat}
    (h : superviseStep?.pumpStep? w t s stream pipe = some w') :
    ∃ s' r, (0 < s.terms.chunkSize → Supervision.Step w.now t.cancelled s s' r)
      ∧ w'.bridge = w.bridge.react t.info (s', r) := by
  unfold superviseStep?.pumpStep? at h
  split at h
  · exact absurd h (by simp)
  · rename_i hread
    have hread : s.canRead stream = true := by simpa using hread
    split at h
    · exact absurd h (by simp)
    · rename_i bytes machine hdata
      obtain rfl := Option.some.inj h
      refine ⟨s.read stream bytes, {}, fun hc => ?_, rfl⟩
      obtain ⟨hne, hle⟩ := Machine.length_of_readPipe hdata hc
      exact .read stream bytes hread hne hle
    · obtain rfl := Option.some.inj h
      exact ⟨s.readEnd stream, {}, fun _ => .readEnd stream hread, rfl⟩

/-- **What a supervisor does**: the supervision goes on, or it is over. -/
theorem superviseStep?_cases (h : w.superviseStep? t s link = some w') :
    (∃ s' r, (0 < s.terms.chunkSize → Supervision.Step w.now t.cancelled s s' r)
        ∧ w'.bridge = w.bridge.react t.info (s', r))
      ∨ s.supervisor.isActive = false ∧ w'.bridge = w.bridge.conclude t.info s w.now := by
  unfold superviseStep? at h
  dsimp only at h
  split at h
  · rename_i hdone
    obtain rfl := Option.some.inj h
    exact .inr ⟨by simpa using hdone, rfl⟩
  · rename_i hactive
    have hactive : s.supervisor.isActive = true := by simpa using hactive
    left
    split at h
    · rename_i hcancel
      obtain rfl := Option.some.inj h
      obtain ⟨hcancelled, hallow⟩ := Bool.and_eq_true_iff.mp hcancel
      exact ⟨_, _, fun _ => .learn .cancelled hactive hallow hcancelled, rfl⟩
    · split at h
      · rename_i e hdue
        obtain rfl := Option.some.inj h
        obtain ⟨hallow, hbrings⟩ := due?_eq_some hdue
        exact ⟨_, _, fun _ => .learn e hactive hallow hbrings, rfl⟩
      · split at h
        · rename_i ending hexit _
          obtain rfl := Option.some.inj h
          have hallow : s.supervisor.allows (.exited ending.exitCode) = true := by
            simp [Supervisor.allows, hexit]
          exact ⟨_, _, fun _ => .learn (.exited ending.exitCode) hactive hallow trivial, rfl⟩
        · split at h
          · rename_i next reaction htake
            obtain rfl := Option.some.inj h
            exact ⟨_, _, fun _ => .take hactive htake, rfl⟩
          · rcases orElse_eq_some h with h | h
            · exact pumpStep?_reacts h
            · exact pumpStep?_reacts h

theorem superviseStep?_step (ht : t ∈ w.bridge.tasks) (hp : t.phase = .supervised s)
    (hc : 0 < s.terms.chunkSize) (h : w.superviseStep? t s link = some w') :
    Bridge.Step w.bridge (.worked t.info.id) w'.bridge := by
  rcases superviseStep?_cases h with ⟨s', r, hstep, hb⟩ | ⟨hdone, hb⟩
  · rw [hb]
    exact .supervise w.now ht hp (hstep hc)
  · rw [hb]
    exact .conclude w.now ht hp hdone

/-- Whether or not it heeds the end of its run, a writer does a step of its own. -/
theorem writerStep?_step {heeds : Bool} (ht : t ∈ w.bridge.tasks)
    (h : w.writerStep? heeds t link = some w') :
    Bridge.Step w.bridge (.worked t.info.id) w'.bridge := by
  unfold writerStep? at h
  dsimp only at h
  split at h
  · exact absurd h (by simp)
  · rename_i hopen
    have hopen : t.writer.isOpen = true := by simpa using hopen
    split at h
    · rename_i hover
      obtain rfl := Option.some.inj h
      exact .write ht (.stop hopen (.inl (Bool.and_eq_true_iff.mp hover).2))
    · split at h
      · rename_i writer hcomplete
        obtain rfl := Option.some.inj h
        exact .write ht (.complete hcomplete)
      · rename_i writer _ hbegin
        obtain rfl := Option.some.inj h
        exact .write ht (.begin hbegin)
      · split at h
        · rename_i c hcurrent
          split at h
          · rename_i n machine htaken
            obtain rfl := Option.some.inj h
            exact .write ht (.advance n c hopen hcurrent (Machine.le_of_writePipe htaken))
          · obtain rfl := Option.some.inj h
            exact .write ht (.refuse c hopen hcurrent)
          · exact absurd h (by simp)
        · split at h
          · rename_i hend
            obtain rfl := Option.some.inj h
            exact .write ht (.stop hopen (.inr hend))
          · exact absurd h (by simp)

/-- **A step of a run in a studio is a step of its bridge.**  A studio adds the processes and the
clock, but decides nothing that a bridge could not. -/
theorem taskStep?_step (hruns : Bridge.Runs settings log w.bridge) (ht : t ∈ w.bridge.tasks)
    (h : w.taskStep? t = some w') :
    ∃ act, act.isOwn = true ∧ Bridge.Step w.bridge act w'.bridge := by
  unfold taskStep? at h
  split at h
  · exact absurd h (by simp)
  · rename_i link _
    rcases orElse_eq_some h with h | h
    · split at h
      · rename_i s hp
        have hc := Bridge.chunkSize_pos_of_runs hruns ht hp
        exact ⟨_, rfl, superviseStep?_step ht hp hc h⟩
      · exact absurd h (by simp)
      · obtain ⟨bridge, hb, rfl⟩ := Option.map_eq_some_iff.mp h
        by_cases hr : ∃ r, t.phase = .ended r
        · obtain ⟨r, hr⟩ := hr
          exact ⟨_, rfl, .deregister ht hr hb⟩
        · exact ⟨_, rfl, .settle ht (fun r he => hr ⟨r, he⟩) hb⟩
    · exact ⟨_, rfl, writerStep?_step ht h⟩

/-! ## 2. Histories -/

/-- The bridge of `w'` has come from that of `w`. -/
def Continues (w w' : Studio) : Prop := ∃ log, Bridge.Steps w.bridge log w'.bridge

theorem Continues.refl (w : Studio) : Continues w w := ⟨[], .begin⟩

theorem Continues.trans {w'' : Studio} (h : Continues w w') (h' : Continues w' w'') :
    Continues w w'' := by
  obtain ⟨log, h⟩ := h
  obtain ⟨more, h'⟩ := h'
  exact ⟨log ++ more, h.append h'⟩

theorem continues_of_step {act : Bridge.Act} (h : Bridge.Step w.bridge act w'.bridge) :
    Continues w w' := ⟨[act], Bridge.Steps.begin.next h⟩

theorem Continues.runs (h : Continues w w') (hruns : Bridge.Runs settings log w.bridge) :
    ∃ log, Bridge.Runs settings log w'.bridge := by
  obtain ⟨more, h⟩ := h
  exact ⟨log ++ more, Bridge.Steps.append hruns h⟩

/-- What happens next is a step of a run, or the machine goes on by itself. -/
theorem step?_eq_some {limit : Option Nat} (h : w.step? limit = some w') :
    (∃ t ∈ w.bridge.tasks, w.taskStep? t = some w')
      ∨ w'.bridge = w.bridge ∧ w'.links = w.links := by
  unfold step? at h
  rcases orElse_eq_some h with h | h
  · exact .inl (List.exists_of_findSome?_eq_some h)
  · rcases orElse_eq_some h with h | h
    · obtain ⟨machine, -, rfl⟩ := Option.map_eq_some_iff.mp h
      exact .inr ⟨rfl, rfl⟩
    · unfold timeStep? at h
      obtain ⟨time, -, rfl⟩ := Option.map_eq_some_iff.mp h
      exact .inr ⟨rfl, rfl⟩

/-- Whatever happens next on a machine, a run does a step by itself or the bridge stays. -/
theorem step?_cases {limit : Option Nat} (hruns : Bridge.Runs settings log w.bridge)
    (h : w.step? limit = some w') :
    w'.bridge = w.bridge ∨ ∃ act, act.isOwn = true ∧ Bridge.Step w.bridge act w'.bridge := by
  rcases step?_eq_some h with ⟨t, ht, hstep⟩ | ⟨hb, -⟩
  · exact .inr (taskStep?_step hruns ht hstep)
  · exact .inl hb

theorem step?_continues {limit : Option Nat} (hruns : Bridge.Runs settings log w.bridge)
    (h : w.step? limit = some w') : Continues w w' := by
  rcases step?_cases hruns h with hb | ⟨act, -, hstep⟩
  · exact ⟨[], hb ▸ .begin⟩
  · exact continues_of_step hstep

/-- **However long a studio goes on, the history of its bridge goes on.**  Whatever was shown of all
histories of a bridge holds at each moment of a studio that is let go on. -/
theorem waitUpTo_continues {α : Type} (limit : Option Nat) (done? : Studio → Option α)
    (fuel : Nat) (hruns : Bridge.Runs settings log w.bridge) :
    Continues w (waitUpTo limit done? fuel w).1 := by
  induction fuel generalizing w log with
  | zero => exact .refl w
  | succ fuel ih =>
    unfold waitUpTo
    split
    · exact .refl w
    · split
      · exact .refl w
      · split
        · rename_i w' hstep
          have hnext := step?_continues hruns hstep
          obtain ⟨log', hruns'⟩ := hnext.runs hruns
          exact hnext.trans (ih hruns')
        · exact .refl w

/-- Starting a run with an identifier that was not used before. -/
theorem start_step {id : Id} {session : SessionId} {p : Path} {info : RunInfo}
    (hfresh : ∀ t ∈ w.bridge.tasks, t.info.id ≠ id) (h : w.start id session p = .ok (w', info)) :
    info.id = id ∧ info.session = session
      ∧ Bridge.Step w.bridge (.started info) w'.bridge := by
  unfold start at h
  split at h
  · exact absurd h (by simp)
  · rename_i _ link bridge machine hl
    obtain ⟨rfl, rfl⟩ := Prod.mk.inj (Except.ok.inj h)
    have hs := Bridge.start_of_launch hl
    obtain ⟨script, -, -, -, rfl, -⟩ := Bridge.start_eq_ok hs
    exact ⟨rfl, rfl, .start hfresh hs⟩

end Studio
end Scriptorium
