import Scriptorium.CommandLine.Refusal
import Scriptorium.CommandLine.Similar
import Scriptorium.Decimal.Nearest
import Scriptorium.Text.Cut

/-!
# Reading the command line

The first word that is no option names a command, and the words behind it belong to that command.
The command that runs a script takes one script and two options with values.

A value is not looked at before the next option or the end is reached.  So of two things that are
wrong the later one is reported if it cannot stand where it does, and else the earlier one.
-/
namespace Scriptorium.CommandLine

/-- What is said to the command that runs a script. -/
structure RunArguments where
  script : String
  /-- Takes the place of the interpreter in the settings. -/
  interpreter : Option String := none
  /-- Takes the place of the time limit in the settings, in seconds. -/
  timeout : Option UInt64 := none
  deriving DecidableEq, Repr

/-- A command. -/
inductive Command where
  | serve
  | run (args : RunArguments)
  deriving DecidableEq, Repr

/-! ## 1. Words -/

/-- What a word is, from the way it is written. -/
inductive Word where
  /-- Two dashes: all that follows is no option. -/
  | stop
  /-- A name behind two dashes, with what stands behind an equals sign. -/
  | long (name : String) (value : Option String)
  /-- A letter behind one dash. -/
  | short (letter : Char)
  | other (text : String)
  deriving DecidableEq, Repr

/-- Tells what a word is. -/
def Word.ofString (text : String) : Word :=
  match text.toList with
  | ['-', '-'] => .stop
  | '-' :: '-' :: rest =>
    match Text.upTo (· = '=') rest with
    | (name, []) => .long (String.ofList name) none
    | (name, _ :: value) => .long (String.ofList name) (some (String.ofList value))
  | '-' :: letter :: _ => .short letter
  | _ => .other text

def seconds (text : String) : Except NumberFault UInt64 :=
  if text = "" then .error .empty
  else if text.toList.head? = some '-' then .error .invalidDigit
  else match Decimal.whole? text.toList with
    | none => .error .invalidDigit
    | some n => if n ≤ Decimal.maxWord then .ok n.toNat.toUInt64 else .error .tooLarge

/-! ## 2. Refusals -/

/-- The hint that a command among the words to come takes an option like one that is unknown. -/
def tipOfCommands (name : String) : List String → List Tip
  | [] => []
  | w :: rest =>
    match (Topic.ofName? w).bind fun t => (similar name t.optionNames).getLast? with
    | some n => [.ofCommand w s!"--{n}"]
    | none => tipOfCommands name rest

/-- Refuses an unknown name behind two dashes; `rest` are the words to come.  A similar option is
taken for given. -/
def unknownLong (t : Topic) (given : Bool) (name : String) (rest : List String) : Refusal :=
  let arg := s!"--{name}"
  match (similar name t.optionNames).getLast? with
  | some n =>
    let given := given || (Argument.ofName? n).isSome
    .unknownArgument t arg [.argument s!"--{n}"] (some ⟨t.flags.find? (·.name = n), given⟩)
  | none =>
    let tips := match t with
      | .run => [.asValue arg]
      | .program => tipOfCommands name rest
      | _ => []
    .unknownArgument t arg tips (if given then some ⟨none, true⟩ else none)

def unknownShort (t : Topic) (letter : Char) : Refusal :=
  let arg := String.ofList ['-', letter]
  .unknownArgument t arg (if t = .run then [.asValue arg] else []) none

def answerTo (t : Topic) : Flag → Refusal
  | .help => .help t
  | .version => .version

def answerToLong (t : Topic) (name : String) (value : Option String) (rest : List String) :
    Refusal :=
  match t.flags.find? (·.name = name), value with
  | some f, none => answerTo t f
  | some f, some v => .unneededValue t f v false
  | none, _ => unknownLong t false name rest

def answerToShort (t : Topic) (letter : Char) : Refusal :=
  match t.flags.find? (·.letter = letter) with
  | some f => answerTo t f
  | none => unknownShort t letter

/-! ## 3. The arguments of a run -/

/-- What has been said so far. -/
structure Draft where
  script : Option String := none
  interpreter : Option String := none
  timeout : Option UInt64 := none
  /-- The arguments that have been looked at. -/
  seen : List Argument := []
  /-- The argument that has not been looked at yet, with its value if it has come. -/
  pending : Option (Argument × Option String) := none
  deriving DecidableEq, Repr

namespace Draft

def store (d : Draft) (v : String) : Argument → Except Refusal Draft
  | .script => if v = "" then .error (.missingValue .script) else .ok { d with script := some v }
  | .interpreter => .ok { d with interpreter := some v }
  | .timeout =>
    match seconds v with
    | .ok n => .ok { d with timeout := some n }
    | .error fault => .error (.badTimeout v fault)

def settle (d : Draft) : Except Refusal Draft :=
  match d.pending with
  | none => .ok d
  | some (a, none) => .error (.missingValue a)
  | some (a, some v) =>
    if a ∈ d.seen then .error (.repeated a)
    else store { d with seen := d.seen ++ [a], pending := none } v a

/-- Whether arguments have been looked at. -/
def given (d : Draft) : Bool := !d.seen.isEmpty

/-- Whether arguments have come, looked at or not. -/
def came (d : Draft) : Bool :=
  d.given || match d.pending with
    | some (_, some _) => true
    | _ => false

def hasScript (d : Draft) : Bool :=
  d.seen.contains .script || match d.pending with
    | some (.script, _) => true
    | _ => false

/-- Takes an option.  A value behind an equals sign is looked at right away. -/
def takeOption (d : Draft) (a : Argument) (value : Option String) : Except Refusal Draft := do
  let d := { ← d.settle with pending := some (a, value) }
  if value.isSome then d.settle else return d

def takeOther (d : Draft) (stopped : Bool) (w : String) : Except Refusal Draft :=
  match d.pending with
  | some (a, none) =>
    if stopped then positional d w else .ok { d with pending := some (a, some w) }
  | _ => positional d w
where
  /-- Takes a word as the script. -/
  positional (d : Draft) (w : String) : Except Refusal Draft := do
    if d.hasScript then .error (.unknownArgument .run w [] none)
    else return { ← d.settle with pending := some (.script, some w) }

/-- The arguments, once all words have been taken. -/
def finish (d : Draft) : Except Refusal RunArguments := do
  let d ← d.settle
  match d.script with
  | some script => .ok ⟨script, d.interpreter, d.timeout⟩
  | none => .error (.missingScript d.given)

end Draft

/-- Reads the words behind the command that runs a script. -/
def runWords (d : Draft) (stopped : Bool) : List String → Except Refusal RunArguments
  | [] => d.finish
  | w :: rest =>
    match if stopped then .other w else Word.ofString w with
    | .stop => runWords d true rest
    | .other w => do runWords (← d.takeOther stopped w) stopped rest
    | .short letter =>
      if letter = Flag.help.letter then do
        let _ ← d.settle
        .error (.help .run)
      else .error (unknownShort .run letter)
    | .long name value =>
      match Argument.ofName? name with
      | some a => do runWords (← d.takeOption a value) stopped rest
      | none =>
        match Topic.run.flags.find? (·.name = name), value with
        | some f, none => do
          let _ ← d.settle
          .error (answerTo .run f)
        | some f, some v => .error (.unneededValue .run f v d.given)
        | none, _ => .error (unknownLong .run d.came name rest)

/-! ## 4. Commands -/

def serveWords (stopped : Bool) : List String → Except Refusal Unit
  | [] => .ok ()
  | w :: rest =>
    match if stopped then .other w else Word.ofString w with
    | .stop => serveWords true rest
    | .other w => .error (.unknownArgument .serve w [] none)
    | .short letter => .error (answerToShort .serve letter)
    | .long name value => .error (answerToLong .serve name value rest)

def helpWords (t : Topic) : List String → Refusal
  | [] => .help t
  | w :: rest =>
    match if t = .program then Topic.ofName? w else none with
    | some t' => helpWords t' rest
    | none => .unknownCommand t w []

def noCommand (stopped : Bool) (w : String) : Refusal :=
  if stopped ∧ (Topic.ofName? w).isSome then .unknownArgument .program w [.command w] none
  else .unknownCommand .program w (similar w (Topic.commands.map Topic.name))

/-- Reads all words behind the name of the program. -/
def wordsFrom (stopped : Bool) : List String → Except Refusal (Option Command)
  | [] => .ok none
  | w :: rest =>
    match if stopped then none else Topic.ofName? w with
    | some .serve => do
      serveWords false rest
      return some .serve
    | some .run => do return some (.run (← runWords {} false rest))
    | some _ => .error (helpWords .program rest)
    | none =>
      match if stopped then .other w else Word.ofString w with
      | .stop => wordsFrom true rest
      | .other w => .error (noCommand stopped w)
      | .short letter => .error (answerToShort .program letter)
      | .long name value => .error (answerToLong .program name value rest)

/-- Reads the words behind the name of the program.  There need not be a command. -/
def parse (words : List String) : Except Refusal (Option Command) := wordsFrom false words

end Scriptorium.CommandLine
