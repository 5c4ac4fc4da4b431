import Scriptorium.Decimal.Nearest
import Scriptorium.Settings.Basic
import Scriptorium.Text.Cut

/-!
# Addresses to listen at

An address is a number for the host and one for the port.  Names of hosts are no addresses.  The
number of a host is written in four decimal parts with dots between them, or in brackets in eight
hexadecimal parts with colons between them; there, two colons stand for as many zero parts as are
missing, and the last two parts may be written in the first way.
-/
namespace Scriptorium.Web

/-- The number of a host. -/
inductive Host where
  | short (parts : List Nat)
  | long (parts : List Nat) (scope : Nat)
  deriving DecidableEq, Repr

/-- An address to listen at. -/
structure Address where
  host : Host
  port : Nat
  deriving DecidableEq, Repr

namespace Address

/-! ## 1. Numbers -/

def decimal? (bound : Nat) (cs : List Char) : Option Nat :=
  let n := Decimal.Literal.valueOf cs
  if cs ≠ [] ∧ cs.all Char.isDigit ∧ n < bound then some n else none

/-- A part of a short number: no needless zero may stand in front. -/
def shortPart? (cs : List Char) : Option Nat :=
  if cs.head? = some '0' ∧ cs.length > 1 ∨ cs.length > 3 then none else decimal? 256 cs

def short? (cs : List Char) : Option (List Nat) := do
  let parts ← (Text.pieces '.' cs).mapM shortPart?
  if parts.length = 4 then some parts else none

def hexDigit? (c : Char) : Option Nat :=
  if c.isDigit then some (c.toNat - '0'.toNat)
  else if 'a' ≤ c.toLower ∧ c.toLower ≤ 'f' then some (c.toLower.toNat - 'a'.toNat + 10)
  else none

def longPart? (cs : List Char) : Option Nat := do
  let ds ← cs.mapM hexDigit?
  if ds = [] ∨ ds.length > 4 then none else some (ds.foldl (fun n d => 16 * n + d) 0)

/-- Parts of a long number, the last two of which may be written as a short one if `mixed`. -/
def longParts? (mixed : Bool) : List (List Char) → Option (List Nat)
  | [] => some []
  | [last] =>
    match if mixed then short? last else none with
    | some [a, b, c, d] => some [256 * a + b, 256 * c + d]
    | _ => (longPart? last).map ([·])
  | part :: rest => do return (← longPart? part) :: (← longParts? mixed rest)

/-- The parts between colons; an empty text has none. -/
def colonParts (cs : List Char) : List (List Char) := if cs = [] then [] else Text.pieces ':' cs

/-- What stands in front of the first two colons in a row, and what behind them. -/
def atGap (before : List Char) : List Char → Option (List Char × List Char)
  | ':' :: ':' :: rest => some (before.reverse, rest)
  | c :: rest => atGap (c :: before) rest
  | [] => none

def long? (cs : List Char) : Option (List Nat) :=
  match atGap [] cs with
  | none => do
    let parts ← longParts? true (colonParts cs)
    if parts.length = 8 then some parts else none
  | some (front, back) => do
    let front ← longParts? false (colonParts front)
    let back ← longParts? true (colonParts back)
    let missing := 8 - (front.length + back.length)
    if missing = 0 then none else some (front ++ List.replicate missing 0 ++ back)

/-! ## 2. Addresses -/

def ofText? (text : String) : Option Address := do
  match text.toList with
  | '[' :: rest =>
    match Text.upTo (· = ']') rest with
    | (inside, ']' :: ':' :: port) =>
      let port ← decimal? 0x10000 port
      match Text.upTo (· = '%') inside with
      | (number, []) => some ⟨.long (← long? number) 0, port⟩
      | (number, _ :: scope) => some ⟨.long (← long? number) (← decimal? 0x100000000 scope), port⟩
    | _ => none
  | cs =>
    match Text.upTo (· = ':') cs with
    | (host, ':' :: port) => some ⟨.short (← short? host), ← decimal? 0x10000 port⟩
    | _ => none

/-- The address that settings name. -/
def ofSettings? (server : ServerSettings) : Option Address :=
  ofText? s!"{server.host}:{server.port}"

end Address
end Scriptorium.Web
