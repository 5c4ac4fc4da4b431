import Scriptorium.FileSystem.Operations
import Scriptorium.Shell.Expand

/-!
# A machine as a value

A machine has a file system, a clock, processes, and pipes between them.  The program itself is
not one of the processes: it is at the other end of the pipes that its scripts were given, and
signals can be sent to it.

A process works off a stack of `Frame`s, each a piece of work that is still to be done; the shell
and the few other programs of the machine are only different first frames.
-/
namespace Scriptorium.Machine

open Shell

/-- What a descriptor of a process stands for. -/
inductive Handle where
  /-- The end of a pipe that is read from. -/
  | source (pipe : Nat)
  /-- The end of a pipe that is written to. -/
  | sink (pipe : Nat)
  /-- An open file. -/
  | file (number : Nat)
  /-- The device that holds nothing and keeps nothing. -/
  | device
  deriving DecidableEq, Repr

/-- How much is copied. -/
inductive Limit where
  | all
  | bytes (n : Nat)
  | lines (n : Nat)
  deriving DecidableEq, Repr

/-- A piece of work. -/
inductive Frame where
  /-- Run a command. -/
  | run (c : Command)
  /-- Run a command if the last one has succeeded, or if it has failed. -/
  | after (success : Bool) (c : Command)
  /-- Turn success into failure and failure into success. -/
  | negate
  /-- Decide whether to go round again. -/
  | decide (whileFails : Bool) (test body : Command)
  /-- Go round again, unless the loop was left. -/
  | again (whileFails : Bool) (test body : Command)
  | choose (yes no : Command)
  | each (name : Octets) (items : List Octets) (body : Command)
  /-- Give descriptors back what they stood for. -/
  | restore (fds : List (Nat × Option Handle))
  /-- Wait for a process and take over how it ended. -/
  | await (pid : Nat)
  | awaitAll
  /-- Write to a descriptor. -/
  | emit (fd : Nat) (data : Bytes)
  /-- Write to a descriptor again and again. -/
  | repeating (fd : Nat) (data : Bytes)
  /-- Read a line into variables, given what was read of it in reverse. -/
  | readLine (raw : Bool) (names : List Octets) (done : Octets)
  /-- Copy a descriptor to the output, and close it if it was opened for that. -/
  | copy (fd : Nat) (close : Bool) (limit : Limit)
  /-- Open a file and copy it to the output. -/
  | copyFile (path : Octets) (limit : Limit)
  | sleep (wake : Nat)
  | setStatus (status : Nat)
  /-- Gather what a process writes to a pipe, and then run a command with it. -/
  | gather (pipe : Nat) (pid : Nat) (done : Bytes) (c : Command)
  /-- Take over the last status as that of the process, and end. -/
  | exit
  deriving Repr

/-- How a process ended. -/
inductive Ending where
  | code (n : Nat)
  | signal (n : Nat)
  deriving DecidableEq, Repr

/-- The status by which a process sees another end. -/
def Ending.status : Ending → Nat
  | .code n => n
  | .signal n => 128 + n

/-- The exit code, if there is one. -/
def Ending.exitCode : Ending → Option Int
  | .code n => some n
  | .signal _ => none

/-- A process. -/
structure Process where
  pid : Nat
  parent : Nat
  frames : List Frame
  fds : List (Nat × Handle)
  cwd : Location
  name : Octets := []
  params : List Octets := []
  vars : List (Octets × Octets) := []
  status : Nat := 0
  /-- What is done about signals: a command, which does nothing if it is empty.  The end of the
  process counts as signal zero. -/
  traps : List (Nat × Octets) := []
  /-- Signals whose command is still to be run. -/
  caught : List Nat := []
  /-- The commands that run in the background, oldest first. -/
  background : List Nat := []
  ended : Option Ending := none
  stopped : Bool := false

/-- A pipe. -/
structure Pipe where
  buffer : Bytes := []
  /-- Whether the program is at the end that is read from. -/
  weRead : Bool := false
  /-- Whether the program is at the end that is written to. -/
  weWrite : Bool := false
  deriving DecidableEq, Repr

/-- An open file. -/
structure OpenFile where
  loc : Location
  offset : Nat
  append : Bool
  deriving DecidableEq, Repr

end Machine

open Machine in
/-- A machine.  Times are in milliseconds. -/
structure Machine where
  files : FileSystem
  processes : List Process := []
  pipes : List Pipe := []
  openFiles : List OpenFile := []
  nextPid : Nat := 100
  /-- Steps since the clock last moved. -/
  ticks : Nat := 0
  now : Nat := 86400000
  /-- The variables that a program is started with, besides the search path. -/
  inherited : List (Shell.Octets × Shell.Octets) := []
  /-- The signals that were sent to the program. -/
  signals : List Nat := []

namespace Machine

/-- The number by which processes know the program. -/
def ourPid : Nat := 1

def pipeCapacity : Nat := 65536

def atomicWrite : Nat := 4096

/-- The process with a number. -/
def process? (m : Machine) (pid : Nat) : Option Process := m.processes.find? (·.pid == pid)

/-- Changes the process with a number. -/
def setProcess (m : Machine) (p : Process) : Machine :=
  { m with processes := m.processes.map fun q => if q.pid = p.pid then p else q }

/-- Whether a process has ended. -/
def hasEnded (m : Machine) (pid : Nat) : Bool := (m.process? pid).all (·.ended.isSome)

/-! ## Pipes -/

/-- Makes a pipe. -/
def addPipe (m : Machine) (p : Pipe) : Machine × Nat :=
  ({ m with pipes := m.pipes ++ [p] }, m.pipes.length)

/-- Whether a piece of work keeps something to give it back to a descriptor. -/
def Frame.keeps (h : Handle) : Frame → Bool
  | .restore fds => fds.any fun e => e.2 = some h
  | _ => false

def isHeld (m : Machine) (h : Handle) : Bool :=
  m.processes.any fun p =>
    p.ended.isNone && (p.fds.any (fun e => e.2 = h) || p.frames.any (Frame.keeps h))

def hasReader (m : Machine) (pipe : Nat) : Bool :=
  m.pipes[pipe]?.any (·.weRead) || m.isHeld (.source pipe)

def hasWriter (m : Machine) (pipe : Nat) : Bool :=
  m.pipes[pipe]?.any (·.weWrite) || m.isHeld (.sink pipe)

/-- What comes of reading. -/
inductive Reading where
  | data (bytes : Bytes) (m : Machine)
  | atEnd
  | blocked

/-- Reads at most `n` bytes from a pipe. -/
def readPipe (m : Machine) (pipe n : Nat) : Reading :=
  match m.pipes[pipe]? with
  | none => .atEnd
  | some p =>
    if p.buffer = [] then if m.hasWriter pipe then .blocked else .atEnd
    else .data (p.buffer.take n)
      { m with pipes := m.pipes.set pipe { p with buffer := p.buffer.drop n } }

/-- What comes of writing. -/
inductive Writing where
  | taken (n : Nat) (m : Machine)
  | broken
  | blocked

/-- Writes to a pipe as much as it takes. -/
def writePipe (m : Machine) (pipe : Nat) (data : Bytes) : Writing :=
  match m.pipes[pipe]? with
  | none => .broken
  | some p =>
    if !m.hasReader pipe then .broken
    else
      let room := pipeCapacity - p.buffer.length
      if room = 0 || (data.length ≤ atomicWrite && room < data.length) then .blocked
      else
        let part := data.take room
        .taken part.length { m with pipes := m.pipes.set pipe { p with buffer := p.buffer ++ part } }

/-- The program lets go of its end of a pipe. -/
def release (m : Machine) (pipe : Nat) : Machine :=
  match m.pipes[pipe]? with
  | some p => { m with pipes := m.pipes.set pipe { p with weRead := false, weWrite := false } }
  | none => m

/-! ## Ends of processes and signals -/

/-- A process ends. -/
def endProcess (m : Machine) (p : Process) (e : Ending) : Machine :=
  m.setProcess { p with ended := some e, frames := [], fds := [] }

/-- The names of signals and their numbers. -/
def signalNames : List (String × Nat) := [
  ("EXIT", 0), ("HUP", 1), ("INT", 2), ("QUIT", 3), ("ILL", 4), ("TRAP", 5), ("ABRT", 6), ("BUS", 7),
  ("FPE", 8), ("KILL", 9), ("USR1", 10), ("SEGV", 11), ("USR2", 12), ("PIPE", 13), ("ALRM", 14),
  ("TERM", 15), ("STKFLT", 16), ("CHLD", 17), ("CONT", 18), ("STOP", 19), ("TSTP", 20),
  ("TTIN", 21), ("TTOU", 22), ("URG", 23), ("XCPU", 24), ("XFSZ", 25), ("VTALRM", 26),
  ("PROF", 27), ("WINCH", 28), ("IO", 29), ("PWR", 30), ("SYS", 31)]

/-- The signal that a process cannot do anything about. -/
def killSignal : Nat := 9

/-- The signal for writing to a pipe that nobody reads from. -/
def pipeSignal : Nat := 13

/-- The signals that do nothing to a process that does nothing about them. -/
def harmless : List Nat := [17, 18, 23, 28]

/-- The signals that stop a process that does nothing about them. -/
def stopping : List Nat := [19, 20, 21, 22]

/-- A process gets a signal. -/
def deliver (m : Machine) (p : Process) (signal : Nat) : Machine :=
  if p.ended.isSome || signal = 0 then m
  else if signal = killSignal then m.endProcess p (.signal signal)
  else match p.traps.lookup signal with
    | some [] => m
    | some _ => m.setProcess { p with caught := p.caught ++ [signal] }
    | none =>
      if signal = 18 then m.setProcess { p with stopped := false }
      else if harmless.contains signal then m
      else if stopping.contains signal then m.setProcess { p with stopped := true }
      else m.endProcess p (.signal signal)

/-- Sends a signal to a process, or to the program; the answer is whether there is one. -/
def kill (m : Machine) (pid signal : Nat) : Machine × Bool :=
  if pid = ourPid then
    ({ m with signals := if signal = 0 then m.signals else m.signals ++ [signal] }, true)
  else match m.process? pid with
    | some p => (m.deliver p signal, p.ended.isNone)
    | none => (m, false)

end Machine
end Scriptorium
