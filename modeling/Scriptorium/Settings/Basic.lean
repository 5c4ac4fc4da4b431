import Scriptorium.Json.Value

/-!
# Settings

The settings of the program, in four sections.  Every setting has a default, so an empty set of
settings is complete; `Settings.toJson` writes all of them out.

A time limit of no seconds means that there is none, and a read takes at least one byte at a time.
-/
namespace Scriptorium

/-- What to do when a session starts a script while one of its scripts is running. -/
inductive RunPolicy where
  /-- Refuse the new run. -/
  | reject
  /-- Cancel the old run. -/
  | replace
  deriving DecidableEq, Repr, Inhabited

/-- Where and for whom the program listens. -/
structure ServerSettings where
  host : String := "127.0.0.1"
  port : UInt16 := 8790
  /-- The directory of the user interface, if it is served. -/
  webUiDir : Option String := none
  /-- Who may open a session; nobody named means the server's own pages. -/
  allowedOrigins : List String := []
  /-- What a client must know to open a session. -/
  accessToken : Option String := none
  deriving DecidableEq, Repr, Inhabited

/-- How scripts are run. -/
structure RunSettings where
  interpreter : String := "daad"
  /-- The most bytes a script may write to one stream. -/
  maxBufferBytes : UInt64 := 10485760
  /-- The seconds a script may take; zero for any number. -/
  runTimeoutSecs : UInt64 := 0
  concurrentRuns : RunPolicy := .reject
  /-- The most bytes taken from a stream at a time. -/
  readChunkBytes : UInt64 := 8192
  deriving DecidableEq, Repr, Inhabited

/-- The directory that file requests are confined to. -/
structure WorkspaceSettings where
  root : Option String := none
  deriving DecidableEq, Repr, Inhabited

/-- Where a log is kept. -/
structure LoggingSettings where
  directory : Option String := none
  deriving DecidableEq, Repr, Inhabited

/-- All settings. -/
structure Settings where
  server : ServerSettings := {}
  bridge : RunSettings := {}
  workspace : WorkspaceSettings := {}
  logging : LoggingSettings := {}
  deriving DecidableEq, Repr, Inhabited

namespace RunSettings

/-- The seconds a script may take, if they are limited. -/
def runTimeout (s : RunSettings) : Option Nat :=
  if s.runTimeoutSecs = 0 then none else some s.runTimeoutSecs.toNat

/-- The most bytes taken from a stream at a time. -/
def chunkSize (s : RunSettings) : Nat := max s.readChunkBytes.toNat 1

/-- The most bytes a script may write to one stream. -/
def ceiling (s : RunSettings) : Nat := s.maxBufferBytes.toNat

theorem chunkSize_pos (s : RunSettings) : 0 < s.chunkSize := by unfold chunkSize; omega

end RunSettings

/-! ## Words and JSON -/

/-- The word for a policy. -/
def RunPolicy.word : RunPolicy → String
  | .reject => "reject"
  | .replace => "replace"

/-- The policy that a word names. -/
def RunPolicy.ofWord? : String → Option RunPolicy
  | "reject" => some .reject
  | "replace" => some .replace
  | _ => none

open Json in
def ServerSettings.toJson (s : ServerSettings) : Value :=
  .object [("host", .string s.host), ("port", .whole s.port.toNat),
    ("web_ui_dir", .optional s.webUiDir),
    ("allowed_origins", .array (s.allowedOrigins.map .string)),
    ("access_token", .optional s.accessToken)]

open Json in
def RunSettings.toJson (s : RunSettings) : Value :=
  .object [("interpreter", .string s.interpreter),
    ("max_buffer_bytes", .whole s.maxBufferBytes.toNat),
    ("run_timeout_secs", .whole s.runTimeoutSecs.toNat),
    ("concurrent_runs", .string s.concurrentRuns.word),
    ("read_chunk_bytes", .whole s.readChunkBytes.toNat)]

open Json in
/-- All settings as an object of four objects. -/
def Settings.toJson (s : Settings) : Value :=
  .object [("server", s.server.toJson), ("bridge", s.bridge.toJson),
    ("workspace", .object [("root", .optional s.workspace.root)]),
    ("logging", .object [("directory", .optional s.logging.directory)])]

end Scriptorium
