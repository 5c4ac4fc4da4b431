import Scriptorium.Connection.Basic
import Scriptorium.Workspace.Requests

/-!
# What a client's messages bring about

Each message of a client is worked off at once, and leads to exactly one answer: a message that can
be sent, a run that has started, or a write whose fate is not known yet.

A file request is answered with the identifier that it came with.
-/
namespace Scriptorium

open Run

/-- What comes of a message. -/
inductive Handling where
  | answered (m : ServerMessage)
  | started (info : RunInfo)
  /-- Something is being written to the input of a run. -/
  | writing (p : PendingWrite)

namespace ServerMessage

/-- What is said of a message that cannot be read. -/
def unreadable (fault : Json.Fault) : ServerMessage :=
  .error s!"Invalid message format: {fault.message}" (some "INVALID_MESSAGE") none

/-- The answer to a file request that failed. -/
def ofFileError (requestId : Option String) (e : Workspace.Error) : ServerMessage :=
  .error e.message (some e.code) requestId

/-- The answer to a file request with a result, which may not be fit to be written. -/
def ofFileResult (requestId : Option String) : Option Json.Value → ServerMessage
  | some result => .fileResult requestId result
  | none => .error s!"Failed to encode result: {Workspace.notTextMessage}" (some "INTERNAL") requestId

/-- The answer to a file request. -/
def ofFileAnswer {α : Type} (requestId : Option String) (write? : α → Option Json.Value) :
    Except Workspace.Error α → ServerMessage
  | .ok a => ofFileResult requestId (write? a)
  | .error e => ofFileError requestId e

/-- What is said of a run that did not start because of its file. -/
def ofScriptError (e : Workspace.Error) : ServerMessage := .runFailed none e.message e.code

end ServerMessage

/-- The levels of directories that a tree shows unless another number is asked for. -/
def defaultTreeDepth : Nat := 2

namespace Studio

/-! ## 1. File requests -/

/-- Answers a request that only looks at files. -/
def look {α : Type} (w : Studio) (requestId : Option String) (write? : α → Option Json.Value)
    (found : Except Workspace.Error α) : Studio × Handling :=
  (w, .answered (.ofFileAnswer requestId write? found))

/-- Answers a request that changes files. -/
def change (w : Studio) (requestId : Option String) (changed : Except Workspace.Error FileSystem) :
    Studio × Handling :=
  match changed with
  | .ok files => (w.withFiles files, .answered (.fileResult requestId .null))
  | .error e => (w, .answered (.ofFileError requestId e))

/-- Deletes what is at a path. -/
def deletePath (w : Studio) (ws : Workspace) (requestId : Option String) (p : Path) :
    Studio × Handling :=
  let (files, verdict) := ws.delete w.files w.cwd p
  (w.withFiles files, .answered (.ofFileAnswer requestId (fun _ => some .null) verdict))

/-! ## 2. Runs -/

/-- Saves a script before it is run, if there is something to save. -/
def saveScript (w : Studio) (ws : Workspace) (p : Path) (content : Option String) :
    Except Workspace.Error Studio :=
  match content with
  | none => .ok w
  | some text => (ws.write w.files w.cwd p text).map w.withFiles

/-- Runs a script, after saving it.  A script that cannot be saved is not run. -/
def runScript (w : Studio) (ws : Workspace) (fresh : Id) (session : SessionId) (p : Path)
    (content : Option String) : Studio × Handling :=
  match w.saveScript ws p content with
  | .error e => (w, .answered (.ofScriptError e))
  | .ok w =>
    match ws.resolve w.files w.cwd p with
    | .error e => (w, .answered (.ofScriptError e))
    | .ok script =>
      match w.start fresh session script with
      | .error e => (w, .answered (.ofRunError none e))
      | .ok (w, info) => (w, .started info)

/-- Begins to write to the input of a session's run. -/
def beginWrite (w : Studio) (session : SessionId) (data : String) : Studio × Handling :=
  match w.offerInput session (Text.Utf8.encode data) with
  | (w, some p) => (w, .writing p)
  | (w, none) => (w, .answered (.stdinResult false))

/-! ## 3. Messages -/

/-- Works off a message of a session.  A run that it starts gets the identifier `fresh`. -/
def handle (w : Studio) (ws : Workspace) (fresh : Id) (session : SessionId) :
    ClientMessage → Studio × Handling
  | .run path content => w.runScript ws fresh session (.ofString path) content
  | .stdin data => w.beginWrite session data
  | .endStdin =>
    let (bridge, was) := w.bridge.endInput session
    ({ w with bridge }, .answered (.stdinResult was))
  | .cancel =>
    let (bridge, had) := w.bridge.cancel session
    ({ w with bridge }, .answered (.cancelResult had))
  | .listDirectory path id =>
    w.look id Workspace.entriesToJson? (ws.list w.files w.cwd (.ofString path))
  | .tree path depth id =>
    w.look id (fun nodes => (Workspace.nodesToJson? nodes).map .array)
      (ws.tree w.files w.cwd (.ofString path) (depth.getD defaultTreeDepth))
  | .readFile path id =>
    w.look id (fun text => some (.string text)) (ws.read w.files w.cwd (.ofString path))
  | .writeFile path content id => w.change id (ws.write w.files w.cwd (.ofString path) content)
  | .createFile path id => w.change id (ws.create w.files w.cwd (.ofString path))
  | .deletePath path id => w.deletePath ws id (.ofString path)
  | .renamePath source target id =>
    w.change id (ws.rename w.files w.cwd (.ofString source) (.ofString target))
  | .ping => (w, .answered .pong)

end Studio
end Scriptorium
