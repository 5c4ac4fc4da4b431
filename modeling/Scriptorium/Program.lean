import Scriptorium.CommandLine.Parse
import Scriptorium.Settings.Load
import Scriptorium.Terminal.Basic
import Scriptorium.Terminal.Report
import Scriptorium.Web.Address

/-!
# The program

A call of the program goes through three stages: the command line is read, the settings are
loaded, and the command is begun.  Each stage can bring the call to its end.  A call that is not at
its end then goes on serving, or running a script in the terminal.
-/
namespace Scriptorium

/-- What the program is called with. -/
structure Call where
  /-- The words behind the name of the program. -/
  words : List String
  /-- The variables of the environment. -/
  environment : List (String × String)
  /-- The machine that the program runs on. -/
  machine : Machine
  /-- The directory that the program runs in. -/
  cwd : Location
  /-- The local input. -/
  input : Bytes

/-- What a call comes to. -/
structure Ending where
  status : Int := 0
  output : String := ""
  errors : String := ""
  deriving DecidableEq, Repr

/-- How far a call has come once its command has been begun. -/
inductive Begun where
  | ended (e : Ending)
  /-- The program serves at an address until it is told to stop. -/
  | serving (settings : Settings) (address : Web.Address)
  | running (t : Terminal) (w : Studio)

namespace Ending

def ofRefusal (r : CommandLine.Refusal) : Ending :=
  if r.isAnswer then { status := r.status, output := r.text }
  else { status := r.status, errors := r.text }

/-- The end of a call that failed. -/
def ofReport (r : Terminal.Report) : Ending := { status := 1, errors := r.text }

def guide : Ending := { output := CommandLine.Topic.program.helpText ++ "\n" }

/-- The exit status of a script that was stopped or killed. -/
def interrupted : Int := 130

/-- The end of a call whose script has come to a result; what has been printed before is kept. -/
def ofResult (printed errors : String) : RunResult → Ending
  | .ok o =>
    match o.termination with
    | .exited => { status := o.exitCode.getD interrupted, output := printed, errors }
    | .cancelled => { status := interrupted, output := printed, errors }
    | .timedOut =>
      { status := interrupted, output := printed
        errors := errors ++ s!"\nScript timed out after {o.durationMs} ms\n" }
  | .error e =>
    let report : Terminal.Report := ⟨"Script run failed", Terminal.causesOf e⟩
    { status := 1, output := printed, errors := errors ++ report.text }

end Ending

namespace Call

/-- The settings of a run: what is said on the command line counts more. -/
def runSettings (settings : RunSettings) (args : CommandLine.RunArguments) : RunSettings :=
  { settings with
    interpreter := args.interpreter.getD settings.interpreter
    runTimeoutSecs := args.timeout.getD settings.runTimeoutSecs }

def prepared (c : Call) : Machine :=
  let bytes (s : String) := Shell.octets (Text.Utf8.encode s)
  { c.machine with inherited := c.environment.map fun (name, text) => (bytes name, bytes text) }

/-- Begins to run a script in the terminal. -/
def beginRun (c : Call) (fresh : Id) (settings : Settings) (args : CommandLine.RunArguments) :
    Begun :=
  let w : Studio := {
    machine := c.prepared, cwd := c.cwd
    bridge := { settings := runSettings settings.bridge args } }
  let script := Path.ofString args.script
  match Terminal.start fresh script c.input w with
  | .ok (t, w) => .running t w
  | .error e => .ended (.ofReport ⟨s!"Failed to run {script.display}", Terminal.causesOf e⟩)

/-- Begins to serve. -/
def beginServing (settings : Settings) : Begun :=
  match Web.Address.ofSettings? settings.server with
  | some address => .serving settings address
  | none => .ended (.ofReport ⟨"Invalid server address", ["invalid socket address syntax"]⟩)

/-- Goes through the stages of a call.  A run that it starts gets the identifier `fresh`. -/
def begin (c : Call) (fresh : Id) : Begun :=
  match CommandLine.parse c.words with
  | .error r => .ended (.ofRefusal r)
  | .ok command =>
    match Settings.load c.environment c.machine.files c.cwd with
    | .error e => .ended (.ofReport ⟨e.message, [e.cause]⟩)
    | .ok settings =>
      match command with
      | none => .ended .guide
      | some .serve => beginServing settings
      | some (.run args) => c.beginRun fresh settings args

end Call

/-- The end of a call, if it comes to one by itself. -/
def Begun.finish : Begun → Option Ending
  | .ended e => some e
  | .serving _ _ => none
  | .running t w =>
    let (t, _) := t.finish w
    t.done?.map (.ofResult (t.text .stdout) (t.text .stderr))

end Scriptorium
