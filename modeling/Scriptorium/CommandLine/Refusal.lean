import Scriptorium.CommandLine.Usage

/-!
# What is answered without running a command

A command line may ask for help or for the version, or it may not make sense.  Either way nothing
is run; a text is shown instead.
-/
namespace Scriptorium.CommandLine

/-- A hint at what may have been meant. -/
inductive Tip where
  /-- A known argument is similar. -/
  | argument (name : String)
  /-- A command takes an argument that is similar. -/
  | ofCommand (command name : String)
  /-- Behind two dashes it would be taken for a value. -/
  | asValue (arg : String)
  /-- It is a command, but it stands behind two dashes. -/
  | command (name : String)
  deriving DecidableEq, Repr

/-- The text of a hint. -/
def Tip.message : Tip → String
  | argument name => s!"a similar argument exists: '{name}'"
  | ofCommand c name => s!"'{c} {name}' exists"
  | asValue arg => s!"to pass '{arg}' as a value, use '-- {arg}'"
  | command name => s!"subcommand '{name}' exists; to use it, remove the '--' before it"

/-- Why a text is no number of seconds. -/
inductive NumberFault where
  | empty
  | invalidDigit
  | tooLarge
  deriving DecidableEq, Repr

/-- The words for it. -/
def NumberFault.message : NumberFault → String
  | empty => "cannot parse integer from empty string"
  | invalidDigit => "invalid digit found in string"
  | tooLarge => "number too large to fit in target type"

/-- What the call of a command is shown with. -/
structure Shown where
  flag : Option Flag
  /-- Whether arguments have been given. -/
  given : Bool
  deriving DecidableEq, Repr

/-- What is answered without running a command.  A call that is not shown with anything is shown
in general. -/
inductive Refusal where
  | help (t : Topic)
  | version
  | unknownArgument (t : Topic) (arg : String) (tips : List Tip) (shown : Option Shown)
  | unknownCommand (t : Topic) (name : String) (similar : List String)
  | missingScript (given : Bool)
  | missingValue (a : Argument)
  | badTimeout (value : String) (fault : NumberFault)
  | repeated (a : Argument)
  | unneededValue (t : Topic) (f : Flag) (value : String) (given : Bool)
  deriving DecidableEq, Repr

namespace Refusal

/-- What is wrong. -/
def message : Refusal → String
  | help t => t.helpText
  | version => s!"{programName} {CommandLine.version}\n"
  | unknownArgument _ arg _ _ => s!"unexpected argument '{arg}' found"
  | unknownCommand _ name _ => s!"unrecognized subcommand '{name}'"
  | missingScript _ => "the following required arguments were not provided:\n  <SCRIPT>"
  | missingValue a => s!"a value is required for '{a.shown}' but none was supplied"
  | badTimeout value fault => s!"invalid value '{value}' for '{Argument.timeout.shown}': {fault.message}"
  | repeated a => s!"the argument '{a.shown}' cannot be used multiple times"
  | unneededValue _ f value _ =>
    s!"unexpected value '{value}' for '--{f.name}' found; no more were expected"

/-- The hints. -/
def tips : Refusal → List String
  | unknownArgument _ _ tips _ => tips.map Tip.message
  | unknownCommand _ _ [one] => [s!"a similar subcommand exists: '{one}'"]
  | unknownCommand _ _ (one :: more) =>
    ["some similar subcommands exist: " ++
      ", ".intercalate ((one :: more).map fun n => s!"'{n}'")]
  | _ => []

def call? : Refusal → Option String
  | help _ | version | missingValue _ | badTimeout _ _ => none
  | unknownArgument t _ _ none | unknownCommand t _ _ => some t.call
  | unknownArgument t _ _ (some shown) => some (t.callWith shown.flag shown.given)
  | unneededValue t f _ given => some (t.callWith (some f) given)
  | missingScript given => some (Topic.run.callWith none given)
  | repeated _ => some Topic.run.call

/-- Whether the user asked for the text. -/
def isAnswer : Refusal → Bool
  | help _ | version => true
  | _ => false

def offersHelp : Refusal → Bool
  | unknownCommand t _ _ => t.flags.contains .help
  | _ => true

/-- The exit status. -/
def status (r : Refusal) : Nat := if r.isAnswer then 0 else 2

/-- The whole text. -/
def text (r : Refusal) : String :=
  if r.isAnswer then r.message
  else
    let tips := r.tips.map fun t => s!"\n  tip: {t}"
    let tips := if tips = [] then "" else "\n" ++ String.join tips
    let call := (r.call?.map fun c => s!"\n\nUsage: {c}").getD ""
    let more := if r.offersHelp then "\n\nFor more information, try '--help'." else ""
    s!"error: {r.message}{tips}{call}{more}\n"

end Refusal
end Scriptorium.CommandLine
