/-!
# Usage of the program

The commands of the program, what can be said to each, and the texts that tell the user so.
-/
namespace Scriptorium.CommandLine

/-- The name of the program. -/
def programName : String := "daad-studio"

/-- The version of the program. -/
def version : String := "0.1.0"

/-- What usage can be explained of. -/
inductive Topic where
  | program
  | serve
  | run
  | help
  deriving DecidableEq, Repr

/-- Something that can be said to the command that runs a script. -/
inductive Argument where
  | script
  | interpreter
  | timeout
  deriving DecidableEq, Repr

/-- The name of an option. -/
def Argument.name : Argument → String
  | .script => "script"
  | .interpreter => "interpreter"
  | .timeout => "timeout"

/-- How an argument is shown. -/
def Argument.shown : Argument → String
  | .script => "<SCRIPT>"
  | .interpreter => "--interpreter <INTERPRETER>"
  | .timeout => "--timeout <TIMEOUT>"

def Argument.anyShown : String :=
  "<" ++ "|".intercalate ["SCRIPT", interpreter.shown, timeout.shown] ++ ">"

/-- The option of a name. -/
def Argument.ofName? (n : String) : Option Argument :=
  [interpreter, timeout].find? fun a => a.name = n

/-- A flag: it takes no value, and is answered at once. -/
inductive Flag where
  | help
  | version
  deriving DecidableEq, Repr

/-- The name of a flag. -/
def Flag.name : Flag → String
  | .help => "help"
  | .version => "version"

/-- The letter of a flag. -/
def Flag.letter : Flag → Char
  | .help => 'h'
  | .version => 'V'

namespace Topic

/-- The name of a command. -/
def name : Topic → String
  | program => programName
  | serve => "serve"
  | run => "run"
  | help => "help"

/-- The commands, in the order in which they are listed. -/
def commands : List Topic := [serve, run, help]

/-- The command of a name. -/
def ofName? (n : String) : Option Topic := commands.find? fun t => t.name = n

def about : Topic → String
  | program => "Editor backend for the daad (ض) language"
  | serve => "Start the editor backend"
  | run => "Run a script in this terminal"
  | help => "Print this message or the help of the given subcommand(s)"

/-- The flags that can be set. -/
def flags : Topic → List Flag
  | program => [.help, .version]
  | serve | run => [.help]
  | help => []

/-- The names of the options and flags that can be set. -/
def optionNames : Topic → List String
  | run => ["interpreter", "timeout", "help"]
  | t => t.flags.map Flag.name

/-- How it is called. -/
def call : Topic → String
  | program => s!"{programName} [COMMAND]"
  | serve => s!"{programName} serve"
  | run => s!"{programName} run [OPTIONS] <SCRIPT>"
  | help => s!"{programName} help [COMMAND]..."

/-- How it is called with a flag or none, if arguments have been given to it or not. -/
def callWith (t : Topic) (flag : Option Flag) (given : Bool) : String :=
  let start := if t = program then programName else s!"{programName} {t.name}"
  let flag := flag.toList.map fun f => s!"--{f.name}"
  let arguments :=
    if t = run then [if given then Argument.anyShown else Argument.script.shown] else []
  " ".intercalate (start :: flag ++ arguments)

/-- The lists that its help shows. -/
def lists : Topic → List String
  | program => [
    "Commands:\n  serve  Start the editor backend\n  run    Run a script in this terminal\n  help   Print this message or the help of the given subcommand(s)\n",
    "Options:\n  -h, --help     Print help\n  -V, --version  Print version\n"]
  | serve => ["Options:\n  -h, --help  Print help\n"]
  | run => [
    "Arguments:\n  <SCRIPT>  Script to run\n",
    "Options:\n      --interpreter <INTERPRETER>  Interpreter executable (overrides configuration)\n      --timeout <TIMEOUT>          Kill the script after this many seconds\n  -h, --help                       Print help\n"]
  | help => ["Arguments:\n  [COMMAND]...  Print help for the subcommand(s)\n"]

/-- Its help. -/
def helpText (t : Topic) : String :=
  "\n".intercalate (s!"{t.about}\n" :: s!"Usage: {t.call}\n" :: t.lists)

end Topic
end Scriptorium.CommandLine
