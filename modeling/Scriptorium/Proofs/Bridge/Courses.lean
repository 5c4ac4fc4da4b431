import Scriptorium.Proofs.Bridge.Phases
import Scriptorium.Proofs.Run.Transcript

/-!
# The runs of a bridge take their courses

What is shown of the course of a run holds of every run of a bridge, whatever else happens there:
a run that is looked after is where a course has led it (`course_of_runs`), its result is the one
that its course has come to (`result_of_runs`), and what `relayed` speaks of is what the router of
the bridge is given (`deliver_eq`).
-/
namespace Scriptorium.Bridge

open Run

variable {settings : RunSettings} {log : List Act} {b : Bridge} {t : Task}

/-- The router is given what a reaction passes on, for the session of the run. -/
theorem deliver_eq (b : Bridge) (info : RunInfo) (r : Reaction) :
    b.deliver info r = match r.event? info.id with
      | some e => { b with router := (b.router.emit info.session e).1 }
      | none => b := by
  unfold deliver Reaction.event?
  cases r.emitted <;> rfl

/-- A course has led a run to its phase. -/
def Coursed (settings : RunSettings) (info : RunInfo) : Phase → Prop
  | .supervised s => Terms.ofSettings? settings info.started = some s.terms
      ∧ ∃ log, Course (.start s.terms) log s
  | .ended r | .removed r | .settled r | .reported r =>
      ∃ log s terms now, Terms.ofSettings? settings info.started = some terms
        ∧ Course (.start terms) log s ∧ s.supervisor.isActive = false
        ∧ r = s.supervisor.outcome terms.ceiling info.id (now - info.started)
  | .lost => Terms.ofSettings? settings info.started = none

theorem coursed_firstPhase (settings : RunSettings) (info : RunInfo) :
    Coursed settings info (firstPhase settings info.started) := by
  unfold firstPhase
  split
  · rename_i terms h
    exact ⟨h, [], .begin⟩
  · rename_i h
    exact h

/-- The course that led a run to its phase is still there behind its next phase: a supervised run
takes one more turn of it, and a run that is over keeps the course that it ended with. -/
theorem Coursed.moves {info : RunInfo} {p p' : Phase} (h : Coursed settings info p)
    (hm : p.Moves info p') : Coursed settings info p' := by
  cases hm with
  | stays => exact h
  | goesOn hs =>
    obtain ⟨hterms, log, hc⟩ := h
    obtain ⟨deed, hd⟩ := Supervision.step_iff_does.mp hs
    have hnext := hc.next _ _ hd
    have hsame := hnext.watch.1
    exact ⟨hsame ▸ hterms, _, hsame ▸ hnext⟩
  | ends now ha =>
    obtain ⟨hterms, log, hc⟩ := h
    exact ⟨log, _, _, now, hterms, hc, ha, rfl⟩
  | removes r => exact h
  | settles r => exact h
  | reports r => exact h

/-- **A run that is looked after is where a course has led it.**  So whatever holds at every moment
of every course holds of every run of every bridge, with all its sessions, at any time. -/
theorem course_of_runs (h : Runs settings log b) (ht : t ∈ b.tasks) :
    Coursed settings t.info t.phase :=
  phases_of_runs (coursed_firstPhase settings) (fun _ _ _ hc hm => hc.moves hm) h t ht

/-- **The result of a run is the one that its course has come to.**  The way from there, out of the
registry and into the result, takes nothing away and adds nothing. -/
theorem result_of_runs (h : Runs settings log b) (ht : t ∈ b.tasks) {r : RunResult}
    (hr : t.phase = .reported r) :
    ∃ done s terms ms, terms.ceiling = settings.ceiling ∧ terms.chunkSize = settings.chunkSize
      ∧ Course (.start terms) done s ∧ s.supervisor.isActive = false
      ∧ r = s.supervisor.outcome settings.ceiling t.info.id ms := by
  have hc := course_of_runs h ht
  rw [hr] at hc
  obtain ⟨done, s, terms, now, hterms, hc, hdone, rfl⟩ := hc
  obtain ⟨hceiling, hsize⟩ := Terms.of_settings hterms
  exact ⟨done, s, terms, _, hceiling, hsize, hc, hdone, by rw [hceiling]⟩

end Scriptorium.Bridge
