import Scriptorium.Json.Reader
import Scriptorium.Text.Cut

/-!
# Identifiers of runs and connections

An identifier is a number of 128 bits.  It is written as 32 hexadecimal digits in five groups, and
read from that form, from the digits alone, from the form in braces and from that of a resource
name.
-/
namespace Scriptorium

/-- The number of identifiers. -/
def Id.count : Nat := 0x100000000000000000000000000000000

/-- An identifier of 128 bits. -/
structure Id where
  value : Nat
  bounded : value < Id.count := by decide
  deriving DecidableEq, Repr

namespace Id

/-- The identifier of nothing. -/
def nil : Id := ⟨0, by decide⟩

instance : Inhabited Id := ⟨nil⟩

/-- The identifier with the last 128 bits of a number. -/
def ofNat (n : Nat) : Id := ⟨n % count, Nat.mod_lt _ (by decide)⟩

/-- The lowest `n` hexadecimal digits of a number, most significant first, before `after`. -/
def hexDigits : Nat → Nat → List Char → List Char
  | 0, _, after => after
  | n + 1, value, after => hexDigits n (value / 16) (Nat.digitChar (value % 16) :: after)

/-- The text of an identifier. -/
def text (id : Id) : String :=
  let ds := hexDigits 32 id.value []
  String.ofList (ds.take 8 ++ '-' :: (ds.drop 8).take 4 ++ '-' :: (ds.drop 12).take 4
    ++ '-' :: (ds.drop 16).take 4 ++ '-' :: ds.drop 20)

/-- The number of 32 hexadecimal digits. -/
def ofDigits? (ds : List Char) : Option Id :=
  if ds.length = 32 then
    (ds.foldlM (fun n d => (Json.Reader.hexValue? d).map fun v => n * 16 + v) 0).map ofNat
  else none

/-- The digits of the form in five groups. -/
def ungroup? (cs : List Char) : Option (List Char) :=
  if cs.length = 36 ∧ [8, 13, 18, 23].all (fun i => cs[i]? = some '-') then
    some (cs.take 8 ++ (cs.drop 9).take 4 ++ (cs.drop 14).take 4 ++ (cs.drop 19).take 4
      ++ cs.drop 24)
  else none

/-- The identifier that a text writes, in any of its forms. -/
def ofText? (s : String) : Option Id :=
  let cs := s.toList
  let inner := match Text.dropStart? "urn:uuid:".toList cs with
    | some rest => rest
    | none =>
      if cs.head? = some '\x7b' ∧ cs.getLast? = some '\x7d' then (cs.drop 1).dropLast else cs
  match ungroup? inner with
  | some ds => ofDigits? ds
  | none => if inner.length = cs.length then ofDigits? cs else none

end Id
end Scriptorium
