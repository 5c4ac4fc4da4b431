import Scriptorium.Machine.Builtins

/-!
# How processes go on

`advance` lets a process do its next piece of work, if it can: a process that reads from an empty
pipe, writes to a full one, sleeps, or waits for another process has to wait until that changes.
`step` lets the first process that can go on do so.
-/
namespace Scriptorium.Machine

open Shell

/-! ## 1. New processes -/

/-- The descriptors from here on are for gathering output, and are not handed on. -/
def privateFd : Nat := 1000

def childOf (m : Machine) (p : Process) (frames : List Frame) : Process :=
  { p with
    pid := m.nextPid
    parent := p.pid
    frames
    fds := p.fds.filter fun e => e.1 < privateFd
    traps := p.traps.filter (·.2 = [])
    caught := []
    background := [] }

/-- Adds a process to the machine. -/
def launch (m : Machine) (p : Process) : Machine :=
  { m with processes := m.processes ++ [p], nextPid := m.nextPid + 1 }

/-! ## 2. Running commands -/

/-- What the shell says about a program that cannot be started, and the status of the command. -/
def notStarted (name : Octets) (cause : OsError) : Octets × Nat :=
  match cause with
  | .accessDenied => (name ++ ": Permission denied".toList, 126)
  | .badFormat => (name ++ ": Exec format error".toList, 126)
  | _ => (name ++ ": not found".toList, 127)

def become (m : Machine) (p : Process) (line : Nat) (name : Octets) (args : List Octets) :
    Machine × Process :=
  match m.load p.cwd name args with
  | .ok (image, argv) =>
    m.enter p image (if image = "sh".toList then "sh".toList :: argv.tail else argv)
  | .error cause =>
    let (message, status) := notStarted name cause
    (m, p.withFrames [p.saying line message, .setStatus status, .exit])

/-- The descriptors that redirections change, with what they stand for. -/
def saved (p : Process) (rs : List Redirect) : List (Nat × Option Handle) :=
  rs.map fun r => (r.fd, p.handle? r.fd)

def hasValue (w : Word) : Bool :=
  w.any fun part => match part.piece with
    | .value _ => true
    | _ => false

/-- Runs a simple command, none of its words holding a command substitution. -/
def runSimple (m : Machine) (p : Process) (line : Nat) (assignments : List (Octets × Word))
    (words : List Word) (redirects : List Redirect) : Machine :=
  let env := p.environment
  let values := assignments.map fun (name, w) => (name, wholeOf env w)
  let assigned (p : Process) := values.foldl (fun p (name, v) => p.assign name v) p
  let refused (message : Octets) :=
    m.setProcess { p.before [p.saying line message] with status := 2 }
  match words.flatMap (fieldsOf env) with
  | [] =>
    match redirect env m p redirects with
    | .error message => refused message
    | .ok (m, _) =>
      let p := assigned p
      m.setProcess (if assignments.any (fun a => hasValue a.2) then p else p.ending 0)
  | name :: args =>
    if name = "exec".toList then
      match redirect env m p redirects with
      | .error message => m.setProcess (p.withFrames [p.saying line message, .setStatus 2, .exit])
      | .ok (m, p) =>
        match args with
        | [] => m.setProcess (p.ending 0)
        | program :: args =>
          let (m, p) := become m p line program args
          m.setProcess p
    else if builtinNames.contains (String.ofList name) then
      match redirect env m p redirects with
      | .error message => refused message
      | .ok (m, redirected) =>
        let kept := p.vars
        let p := assigned (redirected.before
          (if redirects.isEmpty then [] else [.restore (saved p redirects)]))
        let (m, p) := builtin m p line name args
        if values.isEmpty || p.ended.isSome then m.setProcess p
        else if name = "read".toList then
          m.setProcess p
        else m.setProcess { p with vars := kept }
    else
      let child := assigned (childOf m p [])
      let parent := p.before [.await child.pid]
      match redirect env m child redirects with
      | .error message => refused message
      | .ok (m, child) =>
        let (m, child) := become m child line name args
        (m.setProcess parent).launch child

def runApart (m : Machine) (p : Process) (c : Command) (adjust : Process → Process) :
    Machine × Nat :=
  let child := adjust (childOf m p [.run c, .exit])
  (m.launch child, child.pid)

/-- Runs a command.  The work of running it is no longer among that of the process. -/
def runCommand (m : Machine) (p : Process) (c : Command) : Machine :=
  match c.pending? with
  | some source =>
    match parse? source with
    | none => m.setProcess (p.withFrames [.setStatus 2, .exit])
    | some inner =>
      let (m, pipe) := m.addPipe {}
      let (m, pid) := runApart m p inner fun q => q.setHandle 1 (some (.sink pipe))
      m.setProcess ((p.setHandle (privateFd + pipe) (some (.source pipe))).before
        [.gather pipe pid [] c])
  | none =>
    let go (frames : List Frame) := m.setProcess (p.before frames)
    match c with
    | .nothing => m.setProcess (p.ending 0)
    | .simple line assignments words redirects => runSimple m p line assignments words redirects
    | .sequence a b => go [.run a, .run b]
    | .both a b => go [.run a, .after true b]
    | .either a b => go [.run a, .after false b]
    | .negated a => go [.run a, .negate]
    | .background a =>
      let (m, pid) := runApart m p a fun q => q.setHandle 0 (some .device)
      m.setProcess { p with background := p.background ++ [pid], status := 0 }
    | .pipe a b =>
      let (m, pipe) := m.addPipe {}
      let (m, left) := runApart m p a fun q => q.setHandle 1 (some (.sink pipe))
      let (m, right) := runApart m p b fun q => q.setHandle 0 (some (.source pipe))
      m.setProcess (p.before [.await left, .await right])
    | .loop whileFails test body => go [.run test, .decide whileFails test body]
    | .branch test yes no => go [.run test, .choose yes no]
    | .forEach name words body => go [.each name (words.flatMap (fieldsOf p.environment)) body]
    | .group body redirects =>
      match redirect p.environment m p redirects with
      | .error message => m.setProcess { p.before [p.saying 1 message] with status := 2 }
      | .ok (m, q) => m.setProcess (q.before [.run body, .restore (saved p redirects)])
    | .subshell body redirects =>
      let child := childOf m p [.run body, .exit]
      match redirect p.environment m child redirects with
      | .error message => m.setProcess { p.before [p.saying 1 message] with status := 2 }
      | .ok (m, child) => (m.setProcess (p.before [.await child.pid])).launch child

/-! ## 3. Reading lines -/

def isBlankSeparator (ifs : Octets) (c : Char) : Bool :=
  ifs.contains c && (c = ' ' || c = '\t' || c = '\n')

def trimEnd (ifs : Octets) (s : Octets) : Octets :=
  (s.reverse.dropWhile (isBlankSeparator ifs)).reverse

/-- Gives a line to variables field by field; the last of them gets all that is left. -/
def assignFields (ifs : Octets) (p : Process) : List Octets → Octets → Process
  | [], _ => p
  | [name], s => p.assign name (trimEnd ifs (s.dropWhile (isBlankSeparator ifs)))
  | name :: rest, s =>
    let s := s.dropWhile (isBlankSeparator ifs)
    let field := s.takeWhile fun c => !ifs.contains c
    let behind := (s.drop field.length).dropWhile (isBlankSeparator ifs)
    let behind := match behind with
      | c :: more => if ifs.contains c then more else behind
      | [] => []
    assignFields ifs (p.assign name field) rest behind

def unquoteLine : Octets → Octets
  | '\\' :: c :: rest => c :: unquoteLine rest
  | c :: rest => c :: unquoteLine rest
  | [] => []

def finishLine (p : Process) (raw : Bool) (names : List Octets) (done : Octets) (status : Nat) :
    Process :=
  let line := if raw then done.reverse else unquoteLine done.reverse
  let names := if names = [] then ["REPLY".toList] else names
  (assignFields p.environment.ifs p names line).ending status

def readCharacter (m : Machine) (p : Process) (raw : Bool) (names : List Octets) (done : Octets) :
    Option Machine :=
  match m.readFrom p 0 1 with
  | .blocked => none
  | .atEnd | .failed _ => some (m.setProcess (finishLine p raw names done 1))
  | .data bytes m =>
    match octets bytes with
    | '\n' :: _ =>
      if !raw && (done.takeWhile (· = '\\')).length % 2 = 1 then
        some (m.setProcess (p.before [.readLine raw names done.tail]))
      else some (m.setProcess (finishLine p raw names done 0))
    | c :: _ =>
      some (m.setProcess (p.before [.readLine raw names (if c = '\x00' then done else c :: done)]))
    | [] => none

/-! ## 4. Copying -/

def copyBlock : Nat := 131072

def Limit.apply (limit : Limit) (bytes : Bytes) : Bytes × Limit :=
  match limit with
  | .all => (bytes, .all)
  | .bytes n => (bytes.take n, .bytes (n - bytes.length))
  | .lines n => goLines n [] bytes
where
  /-- Takes whole lines. -/
  goLines : Nat → Bytes → Bytes → Bytes × Limit
    | 0, done, _ => (done.reverse, .lines 0)
    | n + 1, done, [] => (done.reverse, .lines (n + 1))
    | n + 1, done, b :: rest =>
      if b = 10 then goLines n (b :: done) rest else goLines (n + 1) (b :: done) rest

def Limit.isReached : Limit → Bool
  | .all => false
  | .bytes n | .lines n => n = 0

/-- Goes on copying a descriptor. -/
def continueCopy (m : Machine) (p : Process) (fd : Nat) (close : Bool) (limit : Limit) :
    Option Machine :=
  let finished (p : Process) := if close then p.setHandle fd none else p
  if limit.isReached then some (m.setProcess (finished p))
  else match m.readFrom p fd copyBlock with
    | .blocked => none
    | .atEnd => some (m.setProcess (finished p))
    | .failed cause =>
      let why := match cause with
        | .code n => OsError.wording n
        | other => other.message
      some (m.setProcess { (finished p).before
        [complain ("cat: -: ".toList ++ why.toList)] with status := 1 })
    | .data bytes m =>
      let (part, limit) := limit.apply bytes
      some (m.setProcess (p.before [.emit 1 part, .copy fd close limit]))

def copyFd : Nat := 10

/-- Opens a file to be copied. -/
def startCopy (m : Machine) (p : Process) (path : Octets) (limit : Limit) : Machine :=
  let failed (cause : OsError) :=
    let why := match cause with
      | .code n => OsError.wording n
      | other => other.message
    m.setProcess { p.before [complain ("cat: ".toList ++ path ++ ": ".toList ++ why.toList)] with
      status := 1 }
  match m.openAt p.cwd .read path with
  | .error cause => failed cause
  | .ok (m', .file number) =>
    match m'.openFiles[number]?.map m'.restOf with
    | some (.error cause) => failed cause
    | _ => m'.setProcess ((p.setHandle copyFd (some (.file number))).before
        [.copy copyFd true limit])
  | .ok (m', h) =>
    m'.setProcess ((p.setHandle copyFd (some h)).before [.copy copyFd true limit])

/-! ## 5. Steps -/

/-- Writes to a descriptor; `left` is the work for what is not taken. -/
def write (m : Machine) (p : Process) (fd : Nat) (data : Bytes) (left : Bytes → List Frame) :
    Option Machine :=
  if data = [] then some (m.setProcess (p.before (left [])))
  else match p.handle? fd with
    | none | some (.source _) => some (m.setProcess { p with status := 1 })
    | some .device => some (m.setProcess (p.before (left [])))
    | some (.file number) => some ((m.writeOpen number data).setProcess (p.before (left [])))
    | some (.sink pipe) =>
      match m.writePipe pipe data with
      | .taken n m => some (m.setProcess (p.before (left (data.drop n))))
      | .blocked => none
      | .broken => some ((m.setProcess { p with status := 1 }).deliver { p with status := 1 } pipeSignal)

/-- The commands in the background that have not ended. -/
def running (m : Machine) (p : Process) : List Nat := p.background.filter fun pid => !m.hasEnded pid

/-- Does a piece of work, which is no longer among that of the process. -/
def work (m : Machine) (p : Process) : Frame → Option Machine
  | .run c => some (runCommand m p c)
  | .after success c =>
    some (m.setProcess (if success = (p.status == 0) then p.before [.run c] else p))
  | .negate => some (m.setProcess { p with status := if p.status = 0 then 1 else 0 })
  | .decide whileFails test body =>
    some (m.setProcess (if whileFails = (p.status == 0) then p.ending 0
      else p.before [.run body, .again whileFails test body]))
  | .again whileFails test body =>
    some (m.setProcess (p.before [.run test, .decide whileFails test body]))
  | .choose yes no =>
    some (m.setProcess (if p.status = 0 then p.before [.run yes]
      else (p.ending 0).before [.run no]))
  | .each _ [] _ => some (m.setProcess p)
  | .each name (item :: rest) body =>
    some (m.setProcess ((p.assign name item).before [.run body, .each name rest body]))
  | .restore fds => some (m.setProcess (fds.reverse.foldl (fun p (fd, h) => p.setHandle fd h) p))
  | .await pid =>
    match m.process? pid with
    | none => some (m.setProcess (p.ending 127))
    | some q => q.ended.map fun e => m.setProcess (p.ending e.status)
  | .awaitAll =>
    if running m p = [] then some (m.setProcess { p with background := [], status := 0 }) else none
  | .emit fd data => write m p fd data fun left => if left = [] then [] else [.emit fd left]
  | .repeating fd data => write m p fd data fun left =>
      if left = [] then [.repeating fd data] else [.emit fd left, .repeating fd data]
  | .readLine raw names done => readCharacter m p raw names done
  | .copy fd close limit => continueCopy m p fd close limit
  | .copyFile path limit => some (startCopy m p path limit)
  | .sleep wake => if wake ≤ m.now then some (m.setProcess (p.ending 0)) else none
  | .setStatus status => some (m.setProcess (p.ending status))
  | .gather pipe pid done c =>
    match m.readPipe pipe copyBlock with
    | .blocked => none
    | .data bytes m => some (m.setProcess (p.before [.gather pipe pid (done ++ bytes) c]))
    | .atEnd =>
      match m.process? pid with
      | some ⟨_, _, _, _, _, _, _, _, _, _, _, _, some e, _⟩ =>
        let output := octets done
        let output := (output.reverse.dropWhile (· = '\n')).reverse
        let p := p.setHandle (privateFd + pipe) none
        some (m.setProcess ((p.ending e.status).before [.run (c.fill output)]))
      | _ => none
  | .exit => some (m.setProcess (p.withFrames []))

/-- Whether a signal that was caught interrupts a piece of work before it is begun. -/
def Frame.isInterruptible : Frame → Bool
  | .run _ | .awaitAll | .exit | .decide _ _ _ | .again _ _ _ => true
  | _ => false

def commandOf (source : Octets) : Command := (parse? source).getD .nothing

/-- Lets a process do its next piece of work, if it can. -/
def advance (m : Machine) (p : Process) : Option Machine :=
  if p.ended.isSome || p.stopped then none
  else match p.caught, p.frames with
    | signal :: caught, frame :: rest =>
      if frame.isInterruptible then
        let action := commandOf ((p.traps.lookup signal).getD [])
        let rest := match frame with
          | .awaitAll => rest
          | _ => frame :: rest
        some (m.setProcess { p with caught, frames := .run action :: .setStatus p.status :: rest })
      else work m (p.withFrames rest) frame
    | _, frame :: rest => work m (p.withFrames rest) frame
    | _, [] =>
      match p.traps.lookup 0 with
      | some (c :: action) =>
        some (m.setProcess { p with
          traps := p.traps.filter fun e => e.1 != 0
          frames := [.run (commandOf (c :: action)), .setStatus p.status] })
      | _ => some (m.endProcess p (.code (p.status % 256)))

def stepsPerMillisecond : Nat := 256

/-- The machine after a step of one of its processes. -/
def tick (m : Machine) : Machine :=
  if m.ticks + 1 < stepsPerMillisecond then { m with ticks := m.ticks + 1 }
  else { m with ticks := 0, now := m.now + 1 }

/-- Lets a process go on that can, the one that has waited longest; none if all have to wait. -/
def step (m : Machine) : Option Machine :=
  (m.processes.findSome? fun p => (advance m p).map fun m' => (m', p.pid)).map fun (m', pid) =>
    let moved := m'.processes.filter fun q => q.pid == pid
    let others := m'.processes.filter fun q => q.pid != pid
    tick { m' with processes := others ++ moved }

/-- When a process wakes next. -/
def nextWake? (m : Machine) : Option Nat :=
  (m.processes.filterMap fun p =>
    match p.ended, p.frames with
    | none, .sleep wake :: _ => some wake
    | _, _ => none).min?

/-- How a process ended, if it has. -/
def endingOf? (m : Machine) (pid : Nat) : Option Ending := (m.process? pid).bind (·.ended)

end Scriptorium.Machine
