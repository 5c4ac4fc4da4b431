import Scriptorium.Json.Expect
import Scriptorium.Settings.Basic

/-!
# Reading settings from JSON

Settings are read section by section and field by field, each starting from its default, so any
part of them may be left out.
-/
namespace Scriptorium

open Json Json.Reader

/-- The largest values of the whole numbers that settings hold. -/
def maxPort : Nat := 0xFFFF

/-- A field that holds a string. -/
def stringField {σ : Type} (name : String) (set : String → σ → σ) : RecordField σ :=
  ⟨name, fun _ s => do return set (← string "a string") s⟩

/-- A field that holds a string or nothing. -/
def optionalField {σ : Type} (name : String) (set : Option String → σ → σ) : RecordField σ :=
  ⟨name, fun _ s => do return set (← optional (string "a string")) s⟩

/-- A field that holds a whole number. -/
def naturalField {σ : Type} (name : String) (bound : Nat) (expected : String)
    (set : Nat → σ → σ) : RecordField σ :=
  ⟨name, fun _ s => do return set (← natural bound expected) s⟩

namespace ServerSettings

def fields : List (RecordField ServerSettings) := [
  stringField "host" fun v s => { s with host := v },
  naturalField "port" maxPort "u16" fun v s => { s with port := v.toUInt16 },
  optionalField "web_ui_dir" fun v s => { s with webUiDir := v },
  ⟨"allowed_origins", fun depth s => do
    return { s with allowedOrigins := (← list (string "a string") depth) }⟩,
  optionalField "access_token" fun v s => { s with accessToken := v }]

end ServerSettings

namespace RunSettings

def fields : List (RecordField RunSettings) := [
  stringField "interpreter" fun v s => { s with interpreter := v },
  naturalField "max_buffer_bytes" maxWhole "usize" fun v s =>
    { s with maxBufferBytes := v.toUInt64 },
  naturalField "run_timeout_secs" maxWhole "u64" fun v s =>
    { s with runTimeoutSecs := v.toUInt64 },
  ⟨"concurrent_runs", fun depth s => do
    return { s with concurrentRuns :=
      (← tagged "variant identifier" ["reject", "replace"] RunPolicy.ofWord? depth) }⟩,
  naturalField "read_chunk_bytes" maxWhole "usize" fun v s =>
    { s with readChunkBytes := v.toUInt64 }]

end RunSettings

namespace Settings

def workspaceFields : List (RecordField WorkspaceSettings) := [
  optionalField "root" fun v s => { s with root := v }]

def loggingFields : List (RecordField LoggingSettings) := [
  optionalField "directory" fun v s => { s with directory := v }]

def fields : List (RecordField Settings) := [
  ⟨"server", fun depth s => do
    return { s with server := (← record "ServerConfig" ServerSettings.fields {} depth) }⟩,
  ⟨"bridge", fun depth s => do
    return { s with bridge := (← record "BridgeConfig" RunSettings.fields {} depth) }⟩,
  ⟨"workspace", fun depth s => do
    return { s with workspace := (← record "WorkspaceConfig" workspaceFields {} depth) }⟩,
  ⟨"logging", fun depth s => do
    return { s with logging := (← record "LoggingConfig" loggingFields {} depth) }⟩]

/-- Reads settings from a JSON text. -/
def ofJsonText (text : String) : Except Fault Settings :=
  readAll (do
    let s ← record "AppConfig" fields {} maxDepth
    endOfText
    return s) text

end Settings
end Scriptorium
