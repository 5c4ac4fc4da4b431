import Scriptorium.Settings.Key

/-!
# Settings from the environment

A variable whose name begins with `DAAD_` gives a setting.  Behind that, two underscores part the
names of a key, so `DAAD_SERVER__PORT` gives `server.port`.  Names of variables do not tell capital
and small letters apart.

The text of a variable is taken for what it looks like: one of the words `true` and `false`, a
whole number of 64 bits, a floating point number, or else a text.
-/
namespace Scriptorium.Settings

def variableStart : List Char := "daad_".toList

def dotted : List Char → List Char
  | '_' :: '_' :: rest => '.' :: dotted rest
  | c :: rest => c :: dotted rest
  | [] => []

/-- The key that a variable gives, if it gives one. -/
def keyOfVariable? (v : String) : Option String :=
  (Text.dropStart? variableStart (Text.lowercase v.toList)).map fun cs =>
    String.ofList (dotted cs)

/-- The word for a truth value, in capital or small letters. -/
def truthOf? (text : String) : Option Bool :=
  match smallName text with
  | "true" => some true
  | "false" => some false
  | _ => none

/-- A whole number of 64 bits. -/
def wholeOf? (text : String) : Option Int :=
  (Decimal.whole? text.toList).filter Decimal.fitsWord

/-- What a text looks like. -/
def Scalar.ofText (text : String) : Scalar :=
  match truthOf? text, wholeOf? text, Decimal.Literal.read? text.toList with
  | some b, _, _ => .bool b
  | none, some n, _ => .whole n
  | none, none, some l => .float l.bits
  | none, none, none => .text text

/-- The layer that the variables of an environment make up. -/
def ofEnvironment (env : List (String × String)) : Layer :=
  env.filterMap fun (v, text) =>
    (keyOfVariable? v).map fun key =>
      (keySteps key, .scalar .environment (.ofText text))

end Scriptorium.Settings
