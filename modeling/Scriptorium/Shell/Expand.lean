import Scriptorium.Shell.Lexer

/-!
# Expanding words

A word of a command becomes any number of fields: parameters are replaced by their values, and
what is not between quotes is split at the characters of `IFS`.  Command substitutions have been
run before; a word that still holds one gives nothing for it.
-/
namespace Scriptorium.Shell

/-- What words are expanded with. -/
structure Environment where
  /-- The name of the script. -/
  name : Octets
  params : List Octets
  vars : List (Octets × Octets)
  status : Nat
  self : Nat
  parent : Nat
  /-- The last command that was run in the background. -/
  background : Option Nat

/-- How a number is written. -/
def decimal (n : Nat) : Octets := (toString n).toList

/-- How a number is written that may be negative. -/
def decimalInt (n : Int) : Octets := (toString n).toList

/-- The value of a variable. -/
def Environment.var? (env : Environment) (name : Octets) : Option Octets := env.vars.lookup name

/-- The characters that split fields. -/
def Environment.ifs (env : Environment) : Octets :=
  (env.var? "IFS".toList).getD [' ', '\t', '\n']

/-- Texts with a text between them. -/
def joined (between : Octets) : List Octets → Octets
  | [] => []
  | [s] => s
  | s :: rest => s ++ between ++ joined between rest

def Environment.value? (env : Environment) (name : Octets) : Option Octets :=
  match name with
  | ['#'] => some (decimal env.params.length)
  | ['?'] => some (decimal env.status)
  | ['$'] => some (decimal env.self)
  | ['!'] => env.background.map decimal
  | ['-'] => some []
  | ['@'] | ['*'] => if env.params = [] then none else some (joined [' '] env.params)
  | ['0'] => some env.name
  | _ =>
    if name.all Char.isDigit then env.params[numberOf name - 1]?
    else if name = "PPID".toList then some (decimal env.parent)
    else env.var? name

/-! ## 1. Arithmetic -/

/-- The whole number that a text writes. -/
def int? (s : Octets) : Option Int :=
  let s := (s.dropWhile (· = ' ')).reverse.dropWhile (· = ' ') |>.reverse
  match s with
  | '-' :: ds => if ds ≠ [] ∧ ds.all Char.isDigit then some (-(numberOf ds : Int)) else none
  | '+' :: ds => if ds ≠ [] ∧ ds.all Char.isDigit then some (numberOf ds : Int) else none
  | ds => if ds ≠ [] ∧ ds.all Char.isDigit then some (numberOf ds : Int) else none

def arithmeticLevels : List (List String) :=
  [["||"], ["&&"], ["==", "!="], ["<=", ">=", "<", ">"], ["+", "-"], ["*", "/", "%"]]

def truth (b : Bool) : Int := if b then 1 else 0

/-- What an operator makes of two numbers. -/
def applyOperator (op : String) (a b : Int) : Int :=
  match op with
  | "||" => truth (a ≠ 0 || b ≠ 0)
  | "&&" => truth (a ≠ 0 && b ≠ 0)
  | "==" => truth (a = b)
  | "!=" => truth (a ≠ b)
  | "<=" => truth (a ≤ b)
  | ">=" => truth (b ≤ a)
  | "<" => truth (a < b)
  | ">" => truth (b < a)
  | "+" => a + b
  | "-" => a - b
  | "*" => a * b
  | "/" => a.tdiv b
  | "%" => a.tmod b
  | _ => 0

def operatorOf? (ops : List String) (s : Octets) : Option (String × Octets) :=
  ops.findSome? fun op => if op.toList.isPrefixOf s then some (op, s.drop op.length) else none

def skipSpaces (s : Octets) : Octets := s.dropWhile fun c => c = ' ' || c = '\t' || c = '\n'

mutual

def arithmeticAt (env : Environment) : Nat → List (List String) → Octets → Int × Octets
  | 0, _, s => (0, s)
  | fuel + 1, [], s => arithmeticOperand env fuel s
  | fuel + 1, ops :: levels, s =>
    let (a, s) := arithmeticAt env fuel levels s
    arithmeticRest env fuel ops levels a s

def arithmeticRest (env : Environment) :
    Nat → List String → List (List String) → Int → Octets → Int × Octets
  | 0, _, _, a, s => (a, s)
  | fuel + 1, ops, levels, a, s =>
    match operatorOf? ops (skipSpaces s) with
    | none => (a, s)
    | some (op, s) =>
      let (b, s) := arithmeticAt env fuel levels s
      arithmeticRest env fuel ops levels (applyOperator op a b) s

/-- Evaluates one operand. -/
def arithmeticOperand (env : Environment) : Nat → Octets → Int × Octets
  | 0, s => (0, s)
  | fuel + 1, s =>
    match skipSpaces s with
    | '(' :: rest =>
      let (a, rest) := arithmeticAt env fuel arithmeticLevels rest
      (a, (skipSpaces rest).drop 1)
    | '-' :: rest => let (a, rest) := arithmeticOperand env fuel rest; (-a, rest)
    | '+' :: rest => arithmeticOperand env fuel rest
    | '!' :: rest => let (a, rest) := arithmeticOperand env fuel rest; (truth (a = 0), rest)
    | '$' :: rest => arithmeticOperand env fuel rest
    | c :: rest =>
      let word := (c :: rest).takeWhile isNameChar
      let behind := (c :: rest).drop word.length
      if c.isDigit then (numberOf (word.takeWhile Char.isDigit), behind)
      else if word = [] then (0, rest)
      else (((env.value? word).bind int?).getD 0, behind)
    | [] => (0, [])

end

def arithmetic (env : Environment) (s : Octets) : Int :=
  (arithmeticAt env (16 * s.length + 16) arithmeticLevels s).1

/-! ## 2. Fields -/

def textOf (env : Environment) : Piece → Octets
  | .text s | .value s => s
  | .length name => decimal ((env.value? name).getD []).length
  | .arithmetic s => decimalInt (arithmetic env s)
  | .command _ => []
  | .parameter name operator other =>
    let v := env.value? name
    let unset : Bool := match operator with
      | ':' :: _ => (v.getD []).isEmpty
      | _ => v.isNone
    match operator.getLast? with
    | some '-' | some '=' => if unset then other else v.getD []
    | some '+' => if unset then [] else other
    | _ => v.getD []

/-- Fields under way: those that are complete in reverse, and the last one, if it has begun. -/
structure Fields where
  done : List Octets := []
  last : Option Octets := none

/-- Puts text behind the last field. -/
def Fields.add (f : Fields) (s : Octets) : Fields := ⟨f.done, some (f.last.getD [] ++ s)⟩

/-- Ends the last field. -/
def Fields.cut (f : Fields) : Fields :=
  match f.last with
  | some s => ⟨s :: f.done, none⟩
  | none => f

/-- Puts text that is to be split behind the last field. -/
def Fields.split (ifs : Octets) (f : Fields) (s : Octets) : Fields :=
  s.foldl (fun f c => if ifs.contains c then f.cut else f.add [c]) f

/-- Puts what a part stands for behind the last field. -/
def Fields.part (env : Environment) (f : Fields) (p : Part) : Fields :=
  match p.piece, p.quoted with
  | .parameter ['@'] [] [], true =>
    match env.params with
    | [] => f
    | s :: rest => rest.foldl (fun f s => f.cut.add s) (f.add s)
  | .parameter ['*'] [] [], true => f.add (joined (env.ifs.take 1) env.params)
  | piece, true => f.add (textOf env piece)
  | .text s, false => f.add s
  | piece, false => f.split env.ifs (textOf env piece)

/-- The fields of a word. -/
def fieldsOf (env : Environment) (w : Word) : List Octets :=
  (w.foldl (Fields.part env) {}).cut.done.reverse

/-- The text of a word that is not split. -/
def wholeOf (env : Environment) (w : Word) : Octets := w.flatMap fun p => textOf env p.piece

/-! ## 3. Command substitutions -/

def pendingIn? (w : Word) : Option Octets :=
  w.findSome? fun p => match p.piece with
    | .command s => some s
    | _ => none

def fillWord (s : Octets) : Word → Word
  | [] => []
  | p :: rest =>
    match p.piece with
    | .command _ => ⟨.value s, p.quoted⟩ :: rest
    | _ => p :: fillWord s rest

def fillWords (s : Octets) : List Word → List Word
  | [] => []
  | w :: rest => if (pendingIn? w).isSome then fillWord s w :: rest else w :: fillWords s rest

/-- The first command substitution that has to be run before a command. -/
def Command.pending? : Command → Option Octets
  | .simple _ assignments words redirects =>
    (assignments.map (·.2) ++ words ++ redirects.map (·.target)).findSome? pendingIn?
  | .forEach _ words _ => words.findSome? pendingIn?
  | _ => none

/-- The command with what its first command substitution has given. -/
def Command.fill (s : Octets) : Command → Command
  | .simple line assignments words redirects =>
    let ws := fillWords s (assignments.map (·.2) ++ words ++ redirects.map (·.target))
    let n := assignments.length
    .simple line ((assignments.map (·.1)).zip (ws.take n)) ((ws.drop n).take words.length)
      (redirects.zipWith (fun r w => { r with target := w }) (ws.drop (n + words.length)))
  | .forEach name words body => .forEach name (fillWords s words) body
  | c => c

end Scriptorium.Shell
