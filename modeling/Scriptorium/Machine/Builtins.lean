import Scriptorium.Machine.Programs

/-!
# The commands that the shell runs itself

A builtin command is a change of the process that runs it.  One that has more to do than that, such
as writing or waiting, leaves this as work.
-/
namespace Scriptorium.Machine

open Shell

namespace Process

/-- What words of the process are expanded with. -/
def environment (p : Process) : Environment where
  name := p.name
  params := p.params
  vars := p.vars
  status := p.status
  self := p.pid
  parent := p.parent
  background := p.background.getLast?

/-- Gives a variable a value. -/
def assign (p : Process) (name value : Octets) : Process :=
  { p with vars := (name, value) :: p.vars.filter fun e => e.1 != name }

/-- Puts work before all other work. -/
def before (p : Process) (frames : List Frame) : Process := p.withFrames (frames ++ p.frames)

/-- Work that does nothing but end with a status. -/
def ending (p : Process) (status : Nat) : Process := { p with status }

/-- What the shell puts before what it says about a command. -/
def saying (p : Process) (line : Nat) (s : Octets) : Frame :=
  complain (p.name ++ ": ".toList ++ decimal line ++ ": ".toList ++ s)

end Process

/-! ## Loops -/

def Frame.isLoop : Frame → Bool
  | .again _ _ _ | .decide _ _ _ | .each _ _ _ => true
  | _ => false

/-- The work behind the `n`-th loop from inside, but for descriptors that have to be given back.
If the loop goes on, its own work stays. -/
def unwind (goOn : Bool) : Nat → List Frame → List Frame
  | 0, frames => frames
  | n + 1, frames =>
    let inside := frames.takeWhile fun f => !f.isLoop
    let kept := inside.filter fun f => match f with
      | .restore _ => true
      | _ => false
    match frames.drop inside.length with
    | [] => frames
    | loop :: rest =>
      if n = 0 then kept ++ (if goOn then loop :: rest else rest)
      else kept ++ unwind goOn n rest

/-! ## Tests -/

def leadsTo (m : Machine) (p : Process) (path : Octets) (kind : FileSystem.Object → Bool) : Bool :=
  match m.files.find p.cwd true ⟨bytesOf path⟩ with
  | .ok (_, o) => kind o
  | .error _ => false

/-- Whether a test holds. -/
def holds (m : Machine) (p : Process) : List Octets → Bool
  | [] => false
  | ['!'] :: rest@(_ :: _) => !holds m p rest
  | [s] => s ≠ []
  | [op, s] =>
    match String.ofList op with
    | "-n" => s ≠ []
    | "-z" => s = []
    | "-e" => leadsTo m p s fun _ => true
    | "-f" => leadsTo m p s fun o => match o with
      | .file _ _ => true
      | _ => false
    | "-d" => leadsTo m p s (·.isDirectory)
    | "-s" => leadsTo m p s fun o => match o with
      | .file content _ => content ≠ []
      | _ => false
    | "-r" | "-w" => leadsTo m p s fun _ => true
    | "-x" => leadsTo m p s fun o => match o with
      | .file _ x => x
      | .directory => true
      | _ => false
    | _ => false
  | [a, op, b] =>
    let compare (f : Int → Int → Bool) := f ((int? a).getD 0) ((int? b).getD 0)
    match String.ofList op with
    | "=" | "==" => a = b
    | "!=" => a ≠ b
    | "-eq" => compare (· == ·)
    | "-ne" => compare (· != ·)
    | "-lt" => compare (decide <| · < ·)
    | "-le" => compare (decide <| · ≤ ·)
    | "-gt" => compare (decide <| · > ·)
    | "-ge" => compare (decide <| · ≥ ·)
    | _ => false
  | _ => false

/-! ## Signals -/

def signalOf? (s : Octets) : Option Nat :=
  if s ≠ [] ∧ s.all Char.isDigit then some (numberOf s)
  else
    let name := s.map Char.toUpper
    let name := if "SIG".toList.isPrefixOf name then name.drop 3 else name
    signalNames.lookup (String.ofList name)

def killArguments : List Octets → Option Nat × List Octets
  | ['-', 's'] :: name :: rest => (signalOf? name, rest)
  | ('-' :: '-' :: []) :: rest => (some 15, rest)
  | ('-' :: name) :: rest => (signalOf? name, rest)
  | rest => (some 15, rest)

/-- Sends a signal to each of some processes; the answer is whether all of them were there. -/
def killEach (m : Machine) (signal : Nat) : List Octets → Machine × Bool
  | [] => (m, true)
  | pid :: rest =>
    let (m, found) := match int? pid with
      | some (.ofNat n) => m.kill n signal
      | _ => (m, false)
    let (m, all) := killEach m signal rest
    (m, found && all)

def setTraps (p : Process) (action : Option Octets) (names : List Octets) : Process :=
  let numbers := names.filterMap signalOf?
  let others := p.traps.filter fun e => !numbers.contains e.1
  { p with traps := match action with
    | some a => numbers.map (fun n => (n, a)) ++ others
    | none => others }

/-! ## The commands -/

def exitStatus (p : Process) (args : List Octets) : Nat :=
  match args with
  | s :: _ => numberOf (s.takeWhile Char.isDigit) % 256
  | [] => p.status

/-- The names of the commands that the shell runs itself, apart from `exec`. -/
def builtinNames : List String :=
  [":", "true", "false", "echo", "printf", "exit", "read", "cd", "pwd", "test", "[", "kill", "trap",
    "wait", "break", "continue", "shift", "set", "unset", "export", "eval", "umask"]

/-- Runs a command of the shell itself. -/
def builtin (m : Machine) (p : Process) (line : Nat) (name : Octets) (args : List Octets) :
    Machine × Process :=
  let write (s : Octets) := (m, { p.before [.emit 1 (bytesOf s)] with status := 0 })
  match String.ofList name with
  | "false" => (m, p.ending 1)
  | "echo" => write (echoed args)
  | "printf" => write (formatted (args.head?.getD []) (args.length + 1) args.tail)
  | "exit" => (m, { p with status := exitStatus p args, frames := [] })
  | "read" =>
    match args with
    | ['-', 'r'] :: names => (m, p.before [.readLine true names []])
    | names => (m, p.before [.readLine false names []])
  | "cd" =>
    let target := args.head?.getD ['/']
    match m.files.find p.cwd true ⟨bytesOf target⟩ with
    | .ok (loc, .directory) => (m, { p with cwd := loc, status := 0 })
    | _ => (m, { p.before [p.saying line ("cd: can't cd to ".toList ++ target)] with status := 2 })
  | "pwd" => write (octets (FileSystem.pathOf p.cwd).bytes ++ ['\n'])
  | "test" => (m, p.ending (if holds m p args then 0 else 1))
  | "[" => (m, p.ending (if holds m p args.dropLast then 0 else 1))
  | "kill" =>
    match killArguments args with
    | (some signal, pids) =>
      let m := m.setProcess { p with status := 0 }
      let (m, found) := killEach m signal pids
      let p := (m.process? p.pid).getD p
      if found then (m, p)
      else (m, if p.ended.isSome then p
        else { p.before [p.saying line "kill: No such process\n".toList] with status := 1 })
    | (none, _) => (m, p.ending 2)
  | "trap" =>
    match args with
    | [] => (m, p.ending 0)
    | ['-'] :: names => (m, (setTraps p none names).ending 0)
    | action :: names => (m, (setTraps p (some action) names).ending 0)
  | "wait" =>
    match args.filterMap int? with
    | [] => (m, { p.before [.awaitAll] with status := 0 })
    | pids => (m, p.before (pids.map fun n => .await n.toNat))
  | "break" => (m, { p.withFrames (unwind false (args.head?.elim 1 numberOf) p.frames) with
      status := 0 })
  | "continue" => (m, { p.withFrames (unwind true (args.head?.elim 1 numberOf) p.frames) with
      status := 0 })
  | "shift" => (m, { p with params := p.params.drop (args.head?.elim 1 numberOf), status := 0 })
  | "set" =>
    match args with
    | ['-', '-'] :: rest => (m, { p with params := rest, status := 0 })
    | _ => (m, p.ending 0)
  | "unset" => (m, { p with vars := p.vars.filter fun e => !args.contains e.1, status := 0 })
  | "export" =>
    (m, (args.foldl (fun p a =>
      match a.dropWhile (· != '=') with
      | _ :: value => p.assign (a.takeWhile (· != '=')) value
      | [] => p) p).ending 0)
  | "eval" =>
    match parse? (joined [' '] args) with
    | some c => (m, p.before [.run c])
    | none => (m, p.ending 2)
  | _ => (m, p.ending 0)

end Scriptorium.Machine
