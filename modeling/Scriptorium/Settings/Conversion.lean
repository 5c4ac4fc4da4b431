import Scriptorium.Decimal.Nearest
import Scriptorium.Settings.Basic
import Scriptorium.Settings.Given

/-!
# From what was given to settings

A setting takes whatever can sensibly be read as it.  A text is taken from a number or a truth
value as well, and a whole number from a text, a truth value or a floating point number, which is
rounded.  What cannot be read is refused with a message that names the key and the place it was
given at.

A section may be a table of its settings, or a list of them in their order.  A setting that is not
given keeps its default.
-/
namespace Scriptorium.Settings

/-! ## 1. Refusals -/

/-- Why what was given cannot be read as settings. -/
inductive Unsuitable where
  /-- The value of a key is of the wrong kind. -/
  | mismatch (found expected : String) (key : List Step) (origin : Origin)
  /-- A section or a list is given by something else. -/
  | noSection (found expected : String)
  | unknownPolicy (word : String)
  | noPolicy
  deriving DecidableEq, Repr

def keyText : List Step → String
  | [] => ""
  | [.name n] => n
  | .name n :: .name m :: rest => n ++ "." ++ keyText (.name m :: rest)
  | .name n :: rest => n ++ keyText rest
  | .index i :: .name m :: rest => s!"[{i}]." ++ keyText (.name m :: rest)
  | .index i :: rest => s!"[{i}]" ++ keyText rest

/-- Where a value was given, as the end of a message. -/
def Origin.ending : Origin → String
  | .unstated => ""
  | .environment => " in the environment"
  | .file name => s!" in {name}"

namespace Unsuitable

/-- The text of a refusal. -/
def message : Unsuitable → String
  | mismatch found expected key origin =>
    let place := if key = [] then "" else s!" for key \x60{keyText key}\x60"
    s!"invalid type: {found}, expected {expected}{place}{origin.ending}"
  | noSection found expected => s!"invalid type: {found}, expected {expected}"
  | unknownPolicy word => s!"enum RunPolicy does not have variant constructor {word}"
  | noPolicy =>
    "value of enum RunPolicy should be represented by either string or table with exactly one key"

/-- The refusal of a whole for the refusal of its part. -/
def below (s : Step) : Unsuitable → Unsuitable
  | mismatch found expected key origin => mismatch found expected (s :: key) origin
  | u => u

end Unsuitable

/-- What can be read from what was given. -/
abbrev Conversion (α : Type) := Given → Except Unsuitable α

/-- Reads a part of a value. -/
def part {α : Type} (s : Step) (c : Conversion α) : Conversion α := fun g =>
  (c g).mapError (.below s)

def refuse {α : Type} (g : Given) (expected : String) (origin : Origin) : Except Unsuitable α :=
  .error (.mismatch (g.words .single) expected [] origin)

/-- Where a value was given. -/
def Given.origin : Given → Origin
  | .scalar o _ | .list o _ | .table o _ => o

/-! ## 2. Single values -/

/-- A text. -/
def text : Conversion String
  | .scalar _ (.text s) => .ok s
  | .scalar _ (.bool b) => .ok (if b then "true" else "false")
  | .scalar _ (.whole n) => .ok s!"{n}"
  | .scalar _ (.float bits) => .ok ((floatForm false).text bits)
  | g => refuse g "a string" g.origin

def naturalOfText? (s : String) : Option Nat :=
  match smallName s with
  | "true" | "on" | "yes" => some 1
  | "false" | "off" | "no" => some 0
  | _ =>
    if s.toList.head? = some '-' then none
    else (Decimal.whole? s.toList).bind fun n => if n ≤ Decimal.maxWord then some n.toNat else none

/-- A whole number of at most 64 binary digits. -/
def natural : Conversion Nat
  | .scalar o (.whole n) =>
    if n < 0 then refuse (.scalar o (.whole n)) "an unsigned 64 bit or less integer" o
    else .ok n.toNat
  | .scalar _ (.bool b) => .ok (if b then 1 else 0)
  | .scalar _ (.float bits) => .ok (Decimal.clamped Decimal.maxWord bits)
  | .scalar o (.text s) =>
    match naturalOfText? s with
    | some n => .ok n
    | none => refuse (.scalar o (.text s)) "an integer" o
  | g => refuse g "an integer" g.origin

/-- A whole number of at most 16 binary digits. -/
def shortNatural : Conversion Nat := fun g => do
  let n ← natural g
  if n < 0x10000 then .ok n
  else .error (.mismatch s!"64-bit unsigned integer \x60{n}\x60" "an unsigned 16 bit integer" []
    .unstated)

/-- A value that may be missing. -/
def optional {α : Type} (c : Conversion α) : Conversion (Option α)
  | .scalar _ .nothing => .ok none
  | g => (c g).map some

def itemsFrom {α : Type} (c : Conversion α) : Nat → List Given → Except Unsuitable (List α)
  | _, [] => .ok []
  | i, g :: rest => do return (← part (.index i) c g) :: (← itemsFrom c (i + 1) rest)

/-- A list. -/
def listOf {α : Type} (c : Conversion α) : Conversion (List α)
  | .list _ items => itemsFrom c 0 items
  | g => .error (.noSection (g.words .compound) "a sequence")

def policyOfWord (w : String) : Except Unsuitable RunPolicy :=
  match RunPolicy.ofWord? (smallName w) with
  | some p => .ok p
  | none => .error (.unknownPolicy w)

/-- A policy: a word, by itself or as the only name in a table. -/
def policy : Conversion RunPolicy
  | .scalar _ (.text w) => policyOfWord w
  | .table _ [(w, _)] => policyOfWord w
  | _ => .error .noPolicy

/-! ## 3. Sections -/

/-- A setting of a section: its name, and how it is read into the section. -/
structure Slot (σ : Type) where
  name : String
  read : Given → σ → Except Unsuitable σ

/-- The slot of a setting that is read by `c` and stored by `store`. -/
def slot {σ α : Type} (name : String) (c : Conversion α) (store : α → σ → σ) : Slot σ :=
  ⟨name, fun g s => (c g).map (store · s)⟩

/-- Reads the settings of a section that are members of a table. -/
def slotsByName {σ : Type} (g : Given) : List (Slot σ) → σ → Except Unsuitable σ
  | [], s => .ok s
  | f :: rest, s =>
    match g.member? f.name with
    | none => slotsByName g rest s
    | some v => do slotsByName g rest (← ((f.read v s).mapError (.below (.name f.name))))

def slotsInOrder {σ : Type} : Nat → List Given → List (Slot σ) → σ → Except Unsuitable σ
  | i, v :: values, f :: rest, s => do
    slotsInOrder (i + 1) values rest (← ((f.read v s).mapError (.below (.index i))))
  | _, _, _, s => .ok s

/-- Reads a section, starting from its defaults. -/
def sectionOf {σ : Type} (title : String) (slots : List (Slot σ)) (defaults : σ) : Conversion σ
  | .list _ items => slotsInOrder 0 items slots defaults
  | .table o members => slotsByName (.table o members) slots defaults
  | g => .error (.noSection (g.words .compound) s!"struct {title}")

def serverSlots : List (Slot ServerSettings) := [
  slot "host" text fun v s => { s with host := v },
  slot "port" shortNatural fun v s => { s with port := v.toUInt16 },
  slot "web_ui_dir" (optional text) fun v s => { s with webUiDir := v },
  slot "allowed_origins" (listOf text) fun v s => { s with allowedOrigins := v },
  slot "access_token" (optional text) fun v s => { s with accessToken := v }]

def runSlots : List (Slot RunSettings) := [
  slot "interpreter" text fun v s => { s with interpreter := v },
  slot "max_buffer_bytes" natural fun v s => { s with maxBufferBytes := v.toUInt64 },
  slot "run_timeout_secs" natural fun v s => { s with runTimeoutSecs := v.toUInt64 },
  slot "concurrent_runs" policy fun v s => { s with concurrentRuns := v },
  slot "read_chunk_bytes" natural fun v s => { s with readChunkBytes := v.toUInt64 }]

def workspaceSlots : List (Slot WorkspaceSettings) := [
  slot "root" (optional text) fun v s => { s with root := v }]

def loggingSlots : List (Slot LoggingSettings) := [
  slot "directory" (optional text) fun v s => { s with directory := v }]

def sectionSlots : List (Slot Settings) := [
  slot "server" (sectionOf "ServerConfig" serverSlots {}) fun v s => { s with server := v },
  slot "bridge" (sectionOf "BridgeConfig" runSlots {}) fun v s => { s with bridge := v },
  slot "workspace" (sectionOf "WorkspaceConfig" workspaceSlots {}) fun v s =>
    { s with workspace := v },
  slot "logging" (sectionOf "LoggingConfig" loggingSlots {}) fun v s => { s with logging := v }]

/-- Reads all settings. -/
def ofGiven : Conversion Settings := sectionOf "AppConfig" sectionSlots {}

end Scriptorium.Settings
