import Scriptorium.Machine.Files
import Scriptorium.Shell.Parser
import Scriptorium.Shell.Printf

/-!
# The programs of the machine

A program is a file with an image in it, or a file whose first line names the program that is to
read it.  `load` finds the image that a name stands for and the arguments that it gets; `enter`
gives a process the first work of an image.
-/
namespace Scriptorium.Machine

open Shell

/-- What an image begins with. -/
def imageMark : Octets := "\x7fELF".toList

/-- The content of a program file. -/
def imageOf (name : String) : Bytes := bytesOf (imageMark ++ name.toList)

def programNames : List String :=
  ["sh", "dash", "cat", "echo", "sleep", "true", "false", "printf", "pwd", "seq", "yes", "head", "rm",
    "touch", "mkdir"]

def searchPath : List String :=
  ["/usr/local/sbin", "/usr/local/bin", "/usr/sbin", "/usr/bin", "/sbin", "/bin"]

def firstLine (s : Octets) : Octets := s.takeWhile (· != '\n')

def trimmed (s : Octets) : Octets :=
  let isBlank (c : Char) : Bool := c = ' ' || c = '\t'
  ((s.dropWhile isBlank).reverse.dropWhile isBlank).reverse

/-- The image that a file stands for, and the arguments that it gets before `args`. -/
def loadFile (m : Machine) (cwd : Location) :
    Nat → Octets → List Octets → Except OsError (Octets × List Octets)
  | 0, _, _ => .error .tooManyLinks
  | fuel + 1, path, args => do
    match ← m.files.find cwd true ⟨bytesOf path⟩ with
    | (_, .file content executable) =>
      if !executable then .error .accessDenied
      else
        let text := octets content
        if imageMark.isPrefixOf text then .ok (text.drop imageMark.length, path :: args)
        else match text with
          | '#' :: '!' :: rest =>
            let line := trimmed (firstLine rest)
            let program := line.takeWhile fun c => c != ' ' && c != '\t'
            let argument := trimmed (line.drop program.length)
            let before := if argument = [] then [] else [argument]
            if program = [] then .error .badFormat
            else loadFile m cwd fuel program (before ++ path :: args)
          | _ => .error .badFormat
    | _ => .error .accessDenied

/-- The image that a name stands for, and its arguments, the name itself being the first. -/
def load (m : Machine) (cwd : Location) (name : Octets) (args : List Octets) :
    Except OsError (Octets × List Octets) :=
  if name.contains '\x00' then .error .zeroInArgument
  else if name = [] then .error .noEntry
  else if name.contains '/' then m.loadFile cwd 8 name args
  else
    let tried := searchPath.map fun dir => m.loadFile cwd 8 (dir.toList ++ '/' :: name) args
    match tried.find? Except.isOk with
    | some found => found
    | none =>
      if tried.any (fun r => match r with
        | .error e => e = .accessDenied
        | .ok _ => false) then .error .accessDenied
      else .error .noEntry

/-! ## First work -/

/-- Says something on the error stream. -/
def complain (s : Octets) : Frame := .emit 2 (bytesOf (s ++ ['\n']))

def duration (s : Octets) : Nat :=
  let whole := s.takeWhile Char.isDigit
  let rest := s.drop whole.length
  let (fraction, unit) := match rest with
    | '.' :: rest => (rest.takeWhile Char.isDigit, rest.dropWhile Char.isDigit)
    | _ => ([], rest)
  let ms := numberOf whole * 1000 + numberOf ((fraction ++ ['0', '0', '0']).take 3)
  match unit with
  | ['m'] => ms * 60
  | ['h'] => ms * 3600
  | ['d'] => ms * 86400
  | _ => ms

def sequenceLines (first last : Int) : Octets :=
  (List.range (last - first + 1).toNat).flatMap fun (i : Nat) => decimalInt (first + i) ++ ['\n']

def copies (args : List Octets) (limit : Limit) : List Frame :=
  match args with
  | [] => [.copy 0 false limit]
  | _ => args.map fun a => if a = ['-'] then .copy 0 false limit else .copyFile a limit

def headLimit : List Octets → Limit × List Octets
  | ['-', 'c'] :: n :: rest => (.bytes (numberOf n), rest)
  | ['-', 'n'] :: n :: rest => (.lines (numberOf n), rest)
  | ('-' :: 'c' :: n) :: rest => (.bytes (numberOf n), rest)
  | ('-' :: 'n' :: n) :: rest => (.lines (numberOf n), rest)
  | ('-' :: n) :: rest => (.lines (numberOf n), rest)
  | rest => (.lines 10, rest)

def changeEach (m : Machine) (what : String) (f : FileSystem → Path → Except OsError FileSystem) :
    List Octets → Machine × List Frame
  | [] => (m, [])
  | a :: rest =>
    match f m.files ⟨bytesOf a⟩ with
    | .ok files => changeEach { m with files } what f rest
    | .error cause =>
      let why := match cause with
        | .code n => OsError.wording n
        | other => other.message
      let (m, frames) := changeEach m what f rest
      (m, complain (what.toList ++ " '".toList ++ a ++ "': ".toList ++ why.toList)
        :: .setStatus 1 :: frames)

def touched (cwd : Location) (fs : FileSystem) (p : Path) : Except OsError FileSystem :=
  match fs.find cwd true p with
  | .ok _ => .ok fs
  | .error _ => fs.writeFile cwd p []

def madeDirectory (cwd : Location) (fs : FileSystem) (p : Path) : Except OsError FileSystem :=
  match fs.find cwd false p with
  | .ok _ => .error .alreadyExists
  | .error _ =>
    match fs.find cwd true (p.parent?.getD ⟨[Path.dot]⟩) with
    | .ok _ => .ok (fs.makeDirectories cwd p)
    | .error e => .error e

def scriptFrames (name : Octets) (source : Octets) : List Frame :=
  match parse? source with
  | some c => [.run c, .exit]
  | none => [complain (name ++ ": 1: Syntax error: Unterminated quoted string".toList),
      .setStatus 2, .exit]

def enterShell (m : Machine) (p : Process) (zero : Octets) : List Octets → Process
  | ['-', 'c'] :: source :: rest =>
    { p with
      name := rest.head?.getD zero
      params := rest.tail
      frames := scriptFrames zero source }
  | file :: rest =>
    let p := { p with name := file, params := rest }
    match m.files.readFile p.cwd ⟨bytesOf file⟩ with
    | .ok content => p.withFrames (scriptFrames file (octets content))
    | .error _ => p.withFrames
        [complain (zero ++ ": 0: cannot open ".toList ++ file ++ ": No such file".toList),
          .setStatus 2, .exit]
  | [] => { p with name := zero, params := [], frames := [.exit] }

/-- Gives a process the first work of an image. -/
def enter (m : Machine) (p : Process) (image : Octets) (args : List Octets) : Machine × Process :=
  let zero := args.head?.getD []
  let rest := args.tail
  let p := { p with status := 0, background := [], traps := p.traps.filter (·.2 = []) }
  let withWork (frames : List Frame) := p.withFrames (frames ++ [.exit])
  let say (s : Octets) := (m, withWork [.emit 1 (bytesOf s)])
  match String.ofList image with
  | "sh" | "dash" => (m, enterShell m p zero rest)
  | "cat" => (m, withWork (copies rest .all))
  | "head" =>
    let (limit, files) := headLimit rest
    (m, withWork (copies files limit))
  | "echo" =>
    match rest with
    | ['-', 'n'] :: rest => say (joined [' '] rest)
    | _ => say (joined [' '] rest ++ ['\n'])
  | "printf" => say (formatted (rest.head?.getD []) (rest.length + 1) rest.tail)
  | "pwd" => say (octets (FileSystem.pathOf p.cwd).bytes ++ ['\n'])
  | "true" => (m, withWork [])
  | "false" => (m, withWork [.setStatus 1])
  | "sleep" => (m, withWork [.sleep (m.now + rest.foldl (fun n a => n + duration a) 0)])
  | "seq" =>
    match rest.map fun a => (int? a).getD 0 with
    | [last] => say (sequenceLines 1 last)
    | [first, last] => say (sequenceLines first last)
    | _ => (m, withWork [.setStatus 1])
  | "yes" =>
    let line := if rest = [] then ['y'] else joined [' '] rest
    (m, withWork [.repeating 1 (bytesOf (line ++ ['\n']))])
  | "rm" =>
    let (m, frames) := changeEach m "rm: cannot remove" (fun fs f => fs.unlink p.cwd f)
      (rest.filter fun a => a.head? ≠ some '-')
    (m, withWork frames)
  | "touch" =>
    let (m, frames) := changeEach m "touch: cannot touch" (touched p.cwd) rest
    (m, withWork frames)
  | "mkdir" =>
    match rest with
    | ['-', 'p'] :: rest =>
      let (m, frames) := changeEach m "mkdir: cannot create directory"
        (fun fs f => .ok (fs.makeDirectories p.cwd f)) rest
      (m, withWork frames)
    | _ =>
      let (m, frames) := changeEach m "mkdir: cannot create directory" (madeDirectory p.cwd) rest
      (m, withWork frames)
  | _ => (m, withWork [.setStatus 127])

/-! ## Starting a program for ourselves -/

/-- A program that was started with pipes to and from it. -/
structure Spawned where
  pid : Nat
  stdin : Nat
  stdout : Nat
  stderr : Nat
  deriving DecidableEq, Repr

def locationOf (p : Path) : Location :=
  p.components.filterMap fun c => match c with
    | .name n => some n
    | _ => none

/-- Starts a program in a directory, with pipes for its input and output. -/
def spawn (m : Machine) (program : String) (args : List Bytes) (workingDir : Path) :
    Except OsError (Machine × Spawned) := do
  let cwd := locationOf workingDir
  if args.any (·.contains 0) then .error .zeroInArgument
  else
    let name := octets (Text.Utf8.encode program)
    let (image, args) ← m.load cwd name (args.map octets)
    let (m, stdin) := m.addPipe { weWrite := true }
    let (m, stdout) := m.addPipe { weRead := true }
    let (m, stderr) := m.addPipe { weRead := true }
    let p : Process := {
      pid := m.nextPid, parent := ourPid, frames := [], cwd
      fds := [(0, .source stdin), (1, .sink stdout), (2, .sink stderr)]
      vars := ("PATH".toList, joined [':'] (searchPath.map String.toList)) :: m.inherited }
    let (m, p) := m.enter p image (if image = "sh".toList then "sh".toList :: args.tail else args)
    .ok ({ m with processes := m.processes ++ [p], nextPid := m.nextPid + 1 },
      ⟨p.pid, stdin, stdout, stderr⟩)

/-! ## The files that every machine has -/

/-- A file system with nothing but the programs and a few files of the system. -/
def bareFiles : FileSystem :=
  let path (s : String) := Path.ofString s
  let dirs := ["/usr/bin", "/bin", "/etc", "/dev", "/tmp"].foldl
    (fun fs d => fs.makeDirectories [] (path d)) FileSystem.empty
  let programs := programNames.foldl (fun fs n =>
    ["/bin/", "/usr/bin/"].foldl (fun fs d =>
      fs.put (locationOf (path (d ++ n))) (.file (imageOf n) true)) fs) dirs
  (programs.put (locationOf (path "/dev/null")) .device).put (locationOf (path "/etc/passwd"))
    (.file (Text.Utf8.encode "root:x:0:0:root:/root:/bin/sh\n") false)

end Scriptorium.Machine
