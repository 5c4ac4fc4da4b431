import Scriptorium.Bridge.Operations

/-!
# How runs go on

The steps that a run takes by itself, as changes of the whole bridge: its supervisor learns of an
event, its pumps read, its supervision ends, and the phases after that follow one another.
-/
namespace Scriptorium.Bridge

open Run

/-- The supervision of a run, while it goes on. -/
def supervision? (b : Bridge) (id : Id) : Option Supervision :=
  match b.task? id with
  | some ⟨_, _, _, .supervised s⟩ => some s
  | _ => none

/-- Changes the supervision of a run. -/
def setSupervision (b : Bridge) (id : Id) (s : Supervision) : Bridge :=
  b.updateTask id fun t => { t with phase := .supervised s }

/-- Delivers what a reaction delivers. -/
def deliver (b : Bridge) (info : RunInfo) (reaction : Reaction) : Bridge :=
  match reaction.emitted with
  | some (stream, payload) =>
    { b with router := (b.router.emit info.session ⟨info.id, stream, payload⟩).1 }
  | none => b

/-- A step of the supervisor has led to a state and a reaction. -/
def react (b : Bridge) (info : RunInfo) (outcome : Supervision × Reaction) : Bridge :=
  (b.setSupervision info.id outcome.1).deliver info outcome.2

/-- Supervision is over, after so many milliseconds. -/
def conclude (b : Bridge) (info : RunInfo) (s : Supervision) (now : Nat) : Bridge :=
  b.updateTask info.id fun t =>
    { t with phase := .ended (s.supervisor.outcome s.terms.ceiling info.id (now - info.started)) }

/-- Removes the entry of a run from the registry, unless the session has another run by now. -/
def deregister (b : Bridge) (info : RunInfo) : Bridge :=
  match b.liveRun? info.session with
  | some live =>
    if live.run = info.id then
      { b.detach info.id with registry := b.otherRuns info.session }
    else b
  | none => b

/-- The phase after one in which supervision is over, with its effect on the registry. -/
def nextPhase? (b : Bridge) (t : Task) : Option Bridge :=
  match t.phase with
  | .ended r => some ((b.deregister t.info).updateTask t.info.id fun t => { t with phase := .removed r })
  | .removed r => some (b.updateTask t.info.id fun t => { t with phase := .settled r })
  | .settled r => some (b.updateTask t.info.id fun t => { t with phase := .reported r })
  | _ => none

end Scriptorium.Bridge
