import Scriptorium.Shell.Expand

/-!
# Formatted output of the shell

What `echo` and `printf` write: backslash escapes, and directives that are replaced by arguments.
A format is used again as long as it takes arguments and there are some left.
-/
namespace Scriptorium.Shell

def isOctal (c : Char) : Bool := '0' ≤ c && c ≤ '7'

def octal (ds : Octets) : Char := Char.ofNat ((ds.foldl (fun n d => n * 8 + (d.toNat - 48)) 0) % 256)

def escaped? (c : Char) : Option Char :=
  match c with
  | 'a' => some '\x07'
  | 'b' => some '\x08'
  | 'f' => some '\x0c'
  | 'n' => some '\n'
  | 'r' => some '\r'
  | 't' => some '\t'
  | 'v' => some '\x0b'
  | '\\' => some '\\'
  | _ => none

/-- Resolves the escapes of a text.  The second part of the answer is whether an escape asks for
nothing to follow.  An octal number begins with a zero if `zero` is set. -/
def unescape (zero : Bool) : Nat → Octets → Octets × Bool
  | 0, s => (s, false)
  | _, [] => ([], false)
  | fuel + 1, '\\' :: c :: rest =>
    let continued (x : Octets) (rest : Octets) :=
      let (out, stop) := unescape zero fuel rest
      (x ++ out, stop)
    if c = 'c' then ([], true)
    else match escaped? c with
      | some x => continued [x] rest
      | none =>
        if zero && c = '0' then
          let ds := (rest.take 3).takeWhile isOctal
          continued [octal ds] (rest.drop ds.length)
        else if !zero && isOctal c then
          let ds := ((c :: rest).take 3).takeWhile isOctal
          continued [octal ds] ((c :: rest).drop ds.length)
        else continued ['\\', c] rest
  | fuel + 1, c :: rest =>
    let (out, stop) := unescape zero fuel rest
    (c :: out, stop)

/-- What `echo` writes. -/
def echoed (args : List Octets) : Octets :=
  let (newline, args) := match args with
    | ['-', 'n'] :: rest => (false, rest)
    | _ => (true, args)
  let text := joined [' '] args
  let (out, stop) := unescape true (text.length + 1) text
  if newline && !stop then out ++ ['\n'] else out

def padded (left : Bool) (width : Nat) (s : Octets) : Octets :=
  let fill := List.replicate (width - s.length) ' '
  if left then s ++ fill else fill ++ s

def directive (c : Char) (left zero : Bool) (width : Nat) (precision : Option Nat) (arg : Octets) :
    Octets :=
  let number (s : Octets) :=
    if zero && !left then List.replicate (width - s.length) '0' ++ s else padded left width s
  match c with
  | 's' => padded left width (arg.take (precision.getD arg.length))
  | 'b' => (unescape true (arg.length + 1) arg).1
  | 'c' => padded left width (arg.take 1)
  | 'd' | 'i' | 'u' => number (decimalInt ((int? arg).getD 0))
  | 'x' => number (Nat.toDigits 16 ((int? arg).getD 0).toNat)
  | 'X' => number ((Nat.toDigits 16 ((int? arg).getD 0).toNat).map Char.toUpper)
  | 'o' => number (Nat.toDigits 8 ((int? arg).getD 0).toNat)
  | _ => []

/-- What a format makes of arguments, with the arguments that are left. -/
def formatOnce : Nat → Octets → List Octets → Octets × List Octets
  | 0, _, args => ([], args)
  | _, [], args => ([], args)
  | fuel + 1, '%' :: '%' :: rest, args =>
    let (out, args) := formatOnce fuel rest args
    ('%' :: out, args)
  | fuel + 1, '%' :: rest, args =>
    let flags := rest.takeWhile fun c => c = '-' || c = '0' || c = '+' || c = ' '
    let rest := rest.drop flags.length
    let width := rest.takeWhile Char.isDigit
    let rest := rest.drop width.length
    let (precision, rest) := match rest with
      | '.' :: rest => (some (numberOf (rest.takeWhile Char.isDigit)), rest.dropWhile Char.isDigit)
      | _ => (none, rest)
    match rest with
    | [] => ([], args)
    | c :: rest =>
      let s := directive c (flags.contains '-') (flags.contains '0') (numberOf width) precision
        (args.head?.getD [])
      let (out, args) := formatOnce fuel rest args.tail
      (s ++ out, args)
  | fuel + 1, '\\' :: c :: rest, args =>
    let ds := ((c :: rest).take 3).takeWhile isOctal
    let (x, rest) := match escaped? c, ds with
      | some x, _ => ([x], rest)
      | none, [] => (['\\', c], rest)
      | none, ds => ([octal ds], (c :: rest).drop ds.length)
    let (out, args) := formatOnce fuel rest args
    (x ++ out, args)
  | fuel + 1, c :: rest, args =>
    let (out, args) := formatOnce fuel rest args
    (c :: out, args)

/-- What `printf` writes. -/
def formatted (format : Octets) : Nat → List Octets → Octets
  | 0, _ => []
  | fuel + 1, args =>
    let (out, left) := formatOnce (format.length + 1) format args
    if left = [] || left.length = args.length then out else out ++ formatted format fuel left

end Scriptorium.Shell
