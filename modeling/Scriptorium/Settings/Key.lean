import Scriptorium.Decimal.Nearest
import Scriptorium.Settings.Given
import Scriptorium.Text.Cut

/-!
# Keys

A key says where a value belongs: names with dots between them lead from table to table, and a
number in brackets behind a name leads to an item of a list.  A text that is no key is a single
name.
-/
namespace Scriptorium.Settings

/-- A character that a name in a key may hold. -/
def inKeyName (c : Char) : Bool := c.isAlphanum || c = '_' || c = '-' || c = ' '

/-- A name at the beginning of a text, and what is left. -/
def keyName? (cs : List Char) : Option (Step × List Char) :=
  let n := cs.takeWhile inKeyName
  if n = [] then none else some (.name (String.ofList n), cs.dropWhile inKeyName)

def keyPlace? (cs : List Char) : Option Int := do
  let digits := Text.trim (fun c => c = ' ' || c = '\t') cs
  let i ← if digits.head? = some '+' then none else Decimal.whole? digits
  if Decimal.fitsWord i then some i else none

def keyIndex? (cs : List Char) : Option (Step × List Char) :=
  match cs.dropWhile (· ≠ ']') with
  | [] => none
  | _ :: rest => (keyPlace? (cs.takeWhile (· ≠ ']'))).map fun i => (.index i, rest)

theorem keyName?_length {cs rest : List Char} {s : Step} (h : keyName? cs = some (s, rest)) :
    rest.length < cs.length := by
  unfold keyName? at h
  simp only [Option.ite_none_left_eq_some, Option.some.injEq, Prod.mk.injEq] at h
  obtain ⟨hn, _, rfl⟩ := h
  have := List.takeWhile_append_dropWhile (p := inKeyName) (l := cs)
  have hl := congrArg List.length this
  have : 0 < (cs.takeWhile inKeyName).length := List.length_pos_iff.2 hn
  simp only [List.length_append] at hl
  omega

theorem keyIndex?_length {cs rest : List Char} {s : Step} (h : keyIndex? cs = some (s, rest)) :
    rest.length < cs.length := by
  unfold keyIndex? at h
  split at h
  · exact absurd h nofun
  · next hd =>
    obtain ⟨_, _, h⟩ := Option.map_eq_some_iff.1 h
    obtain ⟨_, rfl⟩ := Prod.mk.injEq .. ▸ h
    have := (List.dropWhile_suffix (l := cs) (· ≠ ']')).length_le
    simp only [hd, List.length_cons] at this
    omega

/-- The steps that the rest of a key leads through, behind those in `done`, which stand in
reverse. -/
def stepsFrom? (done : List Step) (cs : List Char) : Option (List Step) :=
  match cs with
  | [] => some done.reverse
  | '.' :: rest =>
    match _h : keyName? rest with
    | some (s, rest') => stepsFrom? (s :: done) rest'
    | none => none
  | '[' :: rest =>
    match _h : keyIndex? rest with
    | some (s, rest') => stepsFrom? (s :: done) rest'
    | none => none
  | _ => none
termination_by cs.length
decreasing_by
  · have := keyName?_length _h
    simp only [List.length_cons]
    omega
  · have := keyIndex?_length _h
    simp only [List.length_cons]
    omega

/-- The steps that a key leads through. -/
def keySteps (key : String) : List Step :=
  let steps? := do
    let (s, rest) ← keyName? key.toList
    stepsFrom? [s] rest
  steps?.getD [.name key]

end Scriptorium.Settings
