import Scriptorium.Bridge.Launch
import Scriptorium.Bridge.Progress
import Scriptorium.Machine.Step

/-!
# The studio on its machine

A studio is a bridge together with the machine that its scripts run on: each run is linked to the
process that was started for it and to the pipes of that process.  Whatever a session asks for
happens at once; runs and processes go on only while somebody waits (`waitFor`).

The clock of the bridge may be ahead of that of the machine.
-/
namespace Scriptorium

open Run

/-- A bridge on a machine. -/
structure Studio where
  machine : Machine
  bridge : Bridge
  /-- The process of each run. -/
  links : List (Id × Machine.Spawned) := []
  /-- How far the clock of the bridge is ahead, in milliseconds. -/
  ahead : Nat := 0
  /-- The directory that the studio runs in. -/
  cwd : Location

/-- A write to the input of a run whose fate somebody waits for. -/
structure PendingWrite where
  run : Id
  number : Nat
  /-- When the wait is given up, by the clock of the machine. -/
  deadline : Nat
  deriving DecidableEq, Repr

namespace Studio

/-- The time by the clock of the bridge. -/
def now (w : Studio) : Nat := w.machine.now + w.ahead

/-- The files of the machine. -/
def files (w : Studio) : FileSystem := w.machine.files

/-- The studio with other files on its machine. -/
def withFiles (w : Studio) (files : FileSystem) : Studio :=
  { w with machine := { w.machine with files } }

/-- The process of a run. -/
def link? (w : Studio) (run : Id) : Option Machine.Spawned := w.links.lookup run

/-! ## 1. Requests -/

/-- Lets go of the pipes that the output of a process comes through. -/
def releaseOutput (m : Machine) (link : Machine.Spawned) : Machine :=
  (m.release link.stdout).release link.stderr

/-- Kills the process of a run. -/
def killLinked (m : Machine) (link : Machine.Spawned) : Machine :=
  (m.kill link.pid Machine.killSignal).1

/-- The machine as a system that scripts are run on.  The processes that it starts have pipes. -/
def host (w : Studio) : Bridge.Host Machine Machine.Spawned where
  canonicalize m p := m.files.canonicalize w.cwd p
  isFile m p := (m.files.find w.cwd true p).map fun found => found.2 matches .file _ _
  spawn m script dir := m.spawn w.bridge.settings.interpreter [script.bytes] dir
  isPiped _ := true
  kill := killLinked

/-- Starts a run for a session, with an identifier that was not used before.  A run that cannot be
supervised loses its process at once. -/
def start (w : Studio) (id : Id) (session : SessionId) (requested : Path) :
    Except Run.Error (Studio × RunInfo) :=
  match (Bridge.launch w.host id w.now session requested).run (w.bridge, w.machine) with
  | .error e _ => .error e
  | .ok (info, link) (bridge, machine) =>
    let machine := match Bridge.firstPhase w.bridge.settings w.now with
      | .lost => releaseOutput (killLinked machine link) link
      | _ => machine
    .ok ({ w with machine, bridge, links := (id, link) :: w.links }, info)

/-- Moves the clock of the bridge ahead. -/
def moveAhead (w : Studio) (ms : Nat) : Studio := { w with ahead := w.ahead + ms }

/-! ## 2. Steps of the bridge -/

/-- The supervision of a run does its next step, if there is one. -/
def superviseStep? (w : Studio) (t : Task) (s : Supervision) (link : Machine.Spawned) :
    Option Studio :=
  let learn (e : Event) : Studio :=
    let (s', reaction) := s.learn w.now e
    { w with
      bridge := w.bridge.react t.info (s', reaction)
      machine := if reaction.kill then killLinked w.machine link else w.machine }
  if !s.supervisor.isActive then
    some { w with
      bridge := w.bridge.conclude t.info s w.now
      machine := releaseOutput (killLinked w.machine link) link }
  else if t.cancelled && s.supervisor.allows .cancelled then some (learn .cancelled)
  else match s.due? w.now with
    | some e => some (learn e)
    | none =>
      match s.supervisor.exit, w.machine.endingOf? link.pid with
      | none, some ending => some (learn (.exited ending.exitCode))
      | _, _ =>
        match s.take? w.now with
        | some (s', reaction) =>
          some { w with
            bridge := w.bridge.react t.info (s', reaction)
            machine := if reaction.kill then killLinked w.machine link else w.machine }
        | none => pumpStep? .stdout link.stdout <|> pumpStep? .stderr link.stderr
where
  /-- A pump does its next step, if there is one. -/
  pumpStep? (stream : Stream) (pipe : Nat) : Option Studio :=
    if !s.canRead stream then none
    else match w.machine.readPipe pipe s.terms.chunkSize with
      | .blocked => none
      | .data bytes machine =>
        some { w with machine, bridge := w.bridge.setSupervision t.info.id (s.read stream bytes) }
      | .atEnd =>
        some { w with
          machine := w.machine.release pipe
          bridge := w.bridge.setSupervision t.info.id (s.readEnd stream) }

/-- The writer of a run does its next step, if there is one.  It always waits for the end of the run
as well, and when that has come but there is something to write too, it may take either: only a
writer that heeds the end stops, and any other goes on as if the run were not over. -/
def writerStep? (w : Studio) (heeds : Bool) (t : Task) (link : Machine.Spawned) : Option Studio :=
  let update (machine : Machine) (writer : Writer) : Studio :=
    { w with machine, bridge := w.bridge.updateTask t.info.id fun t => { t with writer } }
  if !t.writer.isOpen then none
  else if heeds && t.phase.isOver then some (update (w.machine.release link.stdin) t.writer.stop)
  else match t.writer.complete?, t.writer.begin? with
    | some writer, _ => some (update w.machine writer)
    | none, some writer => some (update w.machine writer)
    | none, none =>
      match t.writer.current with
      | some c =>
        match w.machine.writePipe link.stdin c.data with
        | .taken n machine => some (update machine (t.writer.advance n))
        | .broken => some (update (w.machine.release link.stdin) t.writer.refuse)
        | .blocked => none
      | none =>
        if t.writer.atEnd then some (update (w.machine.release link.stdin) t.writer.stop) else none

/-- A run does its next step, if there is one.  Its writer is one that heeds the end. -/
def taskStep? (w : Studio) (t : Task) : Option Studio :=
  match w.link? t.info.id with
  | none => none
  | some link =>
    let supervised := match t.phase with
      | .supervised s => superviseStep? w t s link
      | .lost => none
      | _ => (w.bridge.nextPhase? t).map fun bridge => { w with bridge }
    supervised <|> writerStep? w true t link

/-- The bridge does its next step, if there is one. -/
def bridgeStep? (w : Studio) : Option Studio := w.bridge.tasks.findSome? (taskStep? w)

/-! ## 3. Time -/

/-- When the next thing happens that only the time brings, by the clock of the machine. -/
def nextTime? (w : Studio) : Option Nat :=
  (w.machine.nextWake?.toList ++ w.bridge.tasks.filterMap fun t =>
    match t.phase with
    | .supervised s => s.nextTime?.map (· - w.ahead)
    | _ => none).min?

/-- Lets time pass up to the next thing that it brings, but not beyond a limit. -/
def timeStep? (w : Studio) (limit : Option Nat) : Option Studio :=
  let target := match w.nextTime?, limit with
    | some t, some l => some (min t l)
    | some t, none => some t
    | none, l => l
  target.map fun t => { w with machine := { w.machine with now := max t (w.machine.now + 1) } }

/-- What happens next: a step of the bridge, else one of a process, else time passes. -/
def step? (w : Studio) (limit : Option Nat) : Option Studio :=
  w.bridgeStep? <|> (w.machine.step.map fun machine => { w with machine }) <|> w.timeStep? limit

/-- Goes on until something holds, a limit of time is reached, or nothing can happen any more. -/
def waitUpTo {α : Type} (limit : Option Nat) (done? : Studio → Option α) :
    Nat → Studio → Studio × Option α
  | 0, w => (w, none)
  | fuel + 1, w =>
    match done? w with
    | some a => (w, some a)
    | none =>
      if limit.any (decide <| · ≤ w.machine.now) then (w, none)
      else match w.step? limit with
        | some w => waitUpTo limit done? fuel w
        | none => (w, none)

/-- More steps than anybody waits for. -/
def patience : Nat := 1000000000

/-- Waits until something holds. -/
def waitFor {α : Type} (w : Studio) (done? : Studio → Option α) : Studio × Option α :=
  waitUpTo none done? patience w

/-- Waits for some milliseconds, or until something holds. -/
def waitAtMost {α : Type} (w : Studio) (ms : Nat) (done? : Studio → Option α) :
    Studio × Option α :=
  waitUpTo (some (w.machine.now + ms)) done? patience w

/-- Waits for some milliseconds. -/
def pause (w : Studio) (ms : Nat) : Studio := (w.waitAtMost ms fun _ => (none : Option Unit)).1

/-- What came of a write that somebody waits for, once that can be said.  A write that is not
decided in time counts as accepted. -/
def verdict? (w : Studio) (p : PendingWrite) : Option Bool :=
  match w.bridge.fate? p.run p.number with
  | some accepted => some accepted
  | none => if p.deadline ≤ w.machine.now then some true else none

/-- Nobody waits for a write any more. -/
def giveUp (w : Studio) (p : PendingWrite) : Studio := { w with bridge := w.bridge.release p.run }

/-- Begins to write to the input of a session's run, if it can be written to. -/
def offerInput (w : Studio) (session : SessionId) (data : Bytes) : Studio × Option PendingWrite :=
  match w.bridge.offer session data with
  | (_, none) => (w, none)
  | (bridge, some (run, number)) =>
    ({ w with bridge }, some ⟨run, number, w.machine.now + acknowledgeWait⟩)

/-- Writes to the input of a session's run.  A write that is not decided in time counts as
accepted. -/
def writeInput (w : Studio) (session : SessionId) (data : Bytes) : Studio × Bool :=
  match w.offerInput session data with
  | (w, none) => (w, false)
  | (w, some p) =>
    let (w, fate) := w.waitAtMost acknowledgeWait fun w => w.bridge.fate? p.run p.number
    (w.giveUp p, fate.getD true)

end Studio
end Scriptorium
