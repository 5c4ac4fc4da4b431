import Scriptorium.Machine.Basic

/-!
# What processes do with files and descriptors

Opening files, reading and writing through descriptors, and redirections.
-/
namespace Scriptorium.Machine

open Shell

/-- What a descriptor of a process stands for. -/
def Process.handle? (p : Process) (fd : Nat) : Option Handle := p.fds.lookup fd

/-- The process with a descriptor that stands for something else, or for nothing. -/
def Process.setHandle (p : Process) (fd : Nat) (h : Option Handle) : Process :=
  let others := p.fds.filter fun e => e.1 != fd
  { p with fds := match h with
    | some h => (fd, h) :: others
    | none => others }

/-- Replaces the work of a process. -/
def Process.withFrames (p : Process) (frames : List Frame) : Process := { p with frames }

/-- Opens what is at a path. -/
def openAt (m : Machine) (cwd : Location) (kind : RedirectKind) (path : Octets) :
    Except OsError (Machine × Handle) := do
  let p : Path := ⟨bytesOf path⟩
  let files ← match kind with
    | .write => m.files.writeFile cwd p []
    | .append =>
      match m.files.find cwd true p with
      | .ok (_, .directory) => .error .isDirectory
      | .ok _ => .ok m.files
      | .error _ => m.files.writeFile cwd p []
    | _ => .ok m.files
  match ← files.find cwd true p with
  | (_, .device) => .ok ({ m with files }, .device)
  | (loc, _) =>
    .ok ({ m with files, openFiles := m.openFiles ++ [⟨loc, 0, kind = .append⟩] },
      .file m.openFiles.length)

/-- The bytes of an open file from where it is read next. -/
def restOf (m : Machine) (f : OpenFile) : Except OsError Bytes :=
  match m.files.object? f.loc with
  | some (.file content _) => .ok (content.drop f.offset)
  | some .directory => .error .isDirectory
  | _ => .ok []

/-- What comes of reading from a descriptor. -/
inductive DescriptorReading where
  | data (bytes : Bytes) (m : Machine)
  | atEnd
  | blocked
  | failed (cause : OsError)

def badDescriptor : OsError := .code 9

/-- Reads at most `n` bytes from a descriptor. -/
def readFrom (m : Machine) (p : Process) (fd n : Nat) : DescriptorReading :=
  match p.handle? fd with
  | none | some (.sink _) => .failed badDescriptor
  | some .device => .atEnd
  | some (.source pipe) =>
    match m.readPipe pipe n with
    | .data bytes m => .data bytes m
    | .atEnd => .atEnd
    | .blocked => .blocked
  | some (.file number) =>
    match m.openFiles[number]? with
    | none => .atEnd
    | some f =>
      match m.restOf f with
      | .error cause => .failed cause
      | .ok [] => .atEnd
      | .ok bytes =>
        let part := bytes.take n
        .data part { m with
          openFiles := m.openFiles.set number { f with offset := f.offset + part.length } }

/-- Writes to an open file. -/
def writeOpen (m : Machine) (number : Nat) (data : Bytes) : Machine :=
  match m.openFiles[number]? with
  | none => m
  | some f =>
    match m.files.object? f.loc with
    | some (.file content x) =>
      let offset := if f.append then content.length else f.offset
      let before := content.take offset ++ List.replicate (offset - content.length) 0
      { m with
        files := m.files.put f.loc (.file (before ++ data ++ content.drop (offset + data.length)) x)
        openFiles := m.openFiles.set number { f with offset := offset + data.length } }
    | _ => m

/-- Opens and closes descriptors as redirections ask for; on failure, what is to be said. -/
def redirect (env : Environment) (m : Machine) (p : Process) :
    List Redirect → Except Octets (Machine × Process)
  | [] => .ok (m, p)
  | r :: rest =>
    let target := wholeOf env r.target
    match r.kind with
    | .duplicate =>
      if target = ['-'] then redirect env m (p.setHandle r.fd none) rest
      else match p.handle? (numberOf target) with
        | some h => redirect env m (p.setHandle r.fd (some h)) rest
        | none => .error (target ++ ": Bad file descriptor".toList)
    | kind =>
      match m.openAt p.cwd kind target with
      | .ok (m, h) => redirect env m (p.setHandle r.fd (some h)) rest
      | .error cause =>
        let verb := if kind = RedirectKind.read then "cannot open " else "cannot create "
        let why := match cause with
          | .noEntry => if kind = RedirectKind.read then "No such file" else "Directory nonexistent"
          | .code n => OsError.wording n
          | other => other.message
        .error (verb.toList ++ target ++ ": ".toList ++ why.toList)

end Scriptorium.Machine
