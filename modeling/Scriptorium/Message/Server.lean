import Scriptorium.Run.Error

/-!
# What the server says

The server answers each message of a client and reports what the client's runs do.  A message is
written as a JSON object: its type first, then its fields, a missing one as `null`.
-/
namespace Scriptorium

/-- A message to a client. -/
inductive ServerMessage where
  /-- The connection is open. -/
  | connected (session : Id)
  | runStarted (run : Id) (path : String)
  /-- A piece of what a script wrote. -/
  | output (run : Id) (stream : Run.Stream) (data : String)
  /-- A run has ended with an outcome. -/
  | runFinished (outcome : Run.Outcome)
  /-- A run did not start, or has ended without an outcome. -/
  | runFailed (run : Option Id) (message code : String)
  | stdinResult (accepted : Bool)
  | cancelResult (cancelled : Bool)
  /-- A file request has succeeded. -/
  | fileResult (requestId : Option String) (result : Json.Value)
  | error (message : String) (code requestId : Option String)
  /-- The sign of life that was asked for. -/
  | pong
  deriving Repr

namespace ServerMessage

open Json

/-- The word that names the kind of a message. -/
def word : ServerMessage → String
  | .connected _ => "connected"
  | .runStarted _ _ => "run_started"
  | .output _ _ _ => "output"
  | .runFinished _ => "run_finished"
  | .runFailed _ _ _ => "run_failed"
  | .stdinResult _ => "stdin_result"
  | .cancelResult _ => "cancel_result"
  | .fileResult _ _ => "file_result"
  | .error _ _ _ => "error"
  | .pong => "pong"

/-- The members that the fields of a message are written as. -/
def members : ServerMessage → List (String × Value)
  | .connected session => [("session_id", .string session.text)]
  | .runStarted run path => [("run_id", .string run.text), ("path", .string path)]
  | .output run stream data =>
    [("run_id", .string run.text), ("stream", .string stream.word), ("data", .string data)]
  | .runFinished outcome => outcome.members
  | .runFailed run message code =>
    [("run_id", .optional (run.map Id.text)), ("message", .string message), ("code", .string code)]
  | .stdinResult accepted => [("accepted", .bool accepted)]
  | .cancelResult cancelled => [("cancelled", .bool cancelled)]
  | .fileResult requestId result => [("request_id", .optional requestId), ("result", result.sorted)]
  | .error message code requestId =>
    [("message", .string message), ("code", .optional code), ("request_id", .optional requestId)]
  | .pong => []

/-- A message as a JSON object. -/
def toJson (m : ServerMessage) : Value := .object (("type", .string m.word) :: m.members)

/-- The text of a message. -/
def text (m : ServerMessage) : String := m.toJson.render

/-- The end of a run that did not start or has no outcome. -/
def ofRunError (run : Option Id) (e : Run.Error) : ServerMessage :=
  .runFailed run e.message e.code

end ServerMessage
end Scriptorium
