import Scriptorium.Bridge.Basic

/-!
# What sessions can do with their runs

Requests may come late: a session can ask for the run it has just seen end.  So all of them but
`start` answer with yes or no and never fail.

`start` refuses a script that is not there, then a session that is busy, then an interpreter that
cannot be started, in this order; when it refuses, nothing has changed.  If a session may replace
its run, the old run is told to stop only after the new one has started.
-/
namespace Scriptorium.Bridge

open Run

/-! ## 1. Starting -/

/-- Makes sure that a session may start a run. -/
def permit (b : Bridge) (session : SessionId) : Except Run.Error Unit :=
  if b.settings.concurrentRuns = .reject ∧ (b.liveRun? session).isSome then
    .error (.alreadyRunning session)
  else .ok ()

/-- The first phase of a run that is started now. -/
def firstPhase (settings : RunSettings) (now : Nat) : Phase :=
  match Terms.ofSettings? settings now with
  | some terms => .supervised (.start terms)
  | none => .lost

/-- Stops the run that a session has, and lets its input go. -/
def displace (b : Bridge) (session : SessionId) : Bridge :=
  match b.liveRun? session with
  | some live => (b.fireCancel live.run).detach live.run
  | none => b

/-- Registers a run that has started, in place of the one that its session has. -/
def register (b : Bridge) (info : RunInfo) : Bridge :=
  let b := b.displace info.session
  { b with
    registry := ⟨info.session, info.id, true⟩ :: b.otherRuns info.session
    tasks := b.tasks ++ [⟨info, false, {}, firstPhase b.settings info.started⟩] }

/-- The directory that a script is run in. -/
def directoryOf (script : Path) : Path := script.parent?.getD ⟨[Path.dot]⟩

/-- Starts a run.  `found` is the regular file that the requested path leads to, if there is one,
and `spawn` what comes of starting the interpreter on it. -/
def start {α : Type} (b : Bridge) (id : Id) (now : Nat) (session : SessionId) (requested : Path)
    (found : Option Path) (spawn : Path → Path → Except OsError α) :
    Except Run.Error (Bridge × RunInfo × α) := do
  match found with
  | none => .error (.scriptNotFound requested)
  | some script =>
    let workingDir := directoryOf script
    b.permit session
    match spawn script workingDir with
    | .error cause => .error (.spawn b.settings.interpreter cause)
    | .ok a =>
      let info : RunInfo := ⟨id, session, script, workingDir, now⟩
      .ok (b.register info, info, a)

/-! ## 2. Input -/

/-- The run whose input a session can write to. -/
def writable? (b : Bridge) (session : SessionId) : Option Id :=
  match b.liveRun? session with
  | some ⟨_, run, true⟩ => some run
  | _ => none

/-- Adds a write for the input of a session's run.  The answer is the run and the number of the
write; until `release`, the caller counts as one who may write. -/
def offer (b : Bridge) (session : SessionId) (data : Bytes) : Bridge × Option (Id × Nat) :=
  match b.writable? session with
  | none => (b, none)
  | some run =>
    match b.task? run with
    | none => (b, none)
    | some t =>
      match t.writer.add data with
      | (_, none) => (b, none)
      | (w, some number) =>
        (b.updateTask run fun t => { t with writer := { w with callers := w.callers + 1 } },
          some (run, number))

/-- The fate of a write, if it is known. -/
def fate? (b : Bridge) (run : Id) (number : Nat) : Option Bool :=
  (b.task? run).bind (·.writer.fate? number)

/-- The caller of a write no longer waits. -/
def release (b : Bridge) (run : Id) : Bridge :=
  b.updateTask run fun t => { t with writer := { t.writer with callers := t.writer.callers - 1 } }

/-- Ends the input of a session's run; the answer is whether it was still open. -/
def endInput (b : Bridge) (session : SessionId) : Bridge × Bool :=
  match b.writable? session with
  | none => (b, false)
  | some run =>
    let isOpen := (b.task? run).any (·.writer.isOpen)
    ({ b.detach run with
        registry := b.registry.map fun r =>
          if r.session == session then { r with attached := false } else r }, isOpen)

/-! ## 3. Stopping -/

/-- Stops the run of a session; the answer is whether it has one. -/
def cancel (b : Bridge) (session : SessionId) : Bridge × Bool :=
  match b.liveRun? session with
  | some live => (b.fireCancel live.run, true)
  | none => (b, false)

/-- Opens a channel for the output of a session's runs. -/
def subscribe (b : Bridge) (session : SessionId) : Bridge × Nat :=
  let (router, i) := b.router.subscribe session
  ({ b with router }, i)

/-- Gives up the channel of a session. -/
def unsubscribe (b : Bridge) (session : SessionId) : Bridge × Bool :=
  let (router, had) := b.router.unsubscribe session
  ({ b with router }, had)

/-- Lets go of everything that a session has. -/
def closeSession (b : Bridge) (session : SessionId) : Bridge :=
  ((b.unsubscribe session).1.cancel session).1

/-! ## 4. Looking -/

/-- The live run of a session. -/
def activeRun? (b : Bridge) (session : SessionId) : Option RunInfo :=
  (b.liveRun? session).bind fun live => (b.task? live.run).map (·.info)

/-- The live runs, oldest first. -/
def activeRuns (b : Bridge) : List RunInfo :=
  (b.tasks.filter fun t => b.registry.any (·.run == t.info.id)).map (·.info)

/-- The number of live runs. -/
def activeCount (b : Bridge) : Nat := b.registry.length

/-- What can be seen of a run. -/
def state? (b : Bridge) (id : Id) : Option RunState := (b.task? id).map (·.phase.state)

/-- What a run has come to, once it can be had. -/
def result? (b : Bridge) (id : Id) : Option RunResult := (b.task? id).bind (·.phase.result?)

end Scriptorium.Bridge
