import Scriptorium.Text.Utf8

/-!
# Paths

A path is a byte string whose parts are separated by slashes.  Most rules about paths look only
at the parts: `components` drops empty parts and every `.` that does not open a relative path, so
two spellings with the same components name the same thing, and containment and equality are
decided component by component (`startsWith`, `sameAs`).

`folded` removes `.` and `..` from a path by looking at its text alone: each `..` takes away the
name before it, and nothing at the root or at the start of a relative path.  Its result has no
`.` and no `..` (`foldComponents_plain`), and folding again changes nothing
(`foldComponents_idem`).
-/
namespace Scriptorium

/-- The name of a directory entry. -/
abbrev Name := Bytes

/-- A path, as it was spelled. -/
structure Path where
  bytes : Bytes
  deriving DecidableEq, Repr, Inhabited

namespace Path

/-- The byte between the parts of a path. -/
def slash : UInt8 := 0x2F

/-- The byte that `.` and `..` are made of. -/
def dot : UInt8 := 0x2E

/-- What a part of a path asks for. -/
inductive Component where
  /-- The root directory. -/
  | root
  /-- The directory that the path starts from. -/
  | here
  /-- The directory above. -/
  | up
  /-- An entry of a directory. -/
  | name (n : Name)
  deriving DecidableEq, Repr

/-! ## 1. The parts of a path -/

/-- The pieces of a byte string between slashes, `piece` being the one under way in reverse. -/
def splitFrom (piece : Bytes) (done : List Bytes) : Bytes → List Bytes
  | [] => (piece.reverse :: done).reverse
  | b :: rest =>
    if b = slash then splitFrom [] (piece.reverse :: done) rest else splitFrom (b :: piece) done rest

/-- The pieces between slashes, empty ones included. -/
def pieces (p : Path) : List Bytes := splitFrom [] [] p.bytes

/-- Whether the path starts at the root directory. -/
def isAbsolute (p : Path) : Bool := p.bytes.head? = some slash

/-- Whether the path ends in a slash, and so can only name a directory. -/
def endsInSlash (p : Path) : Bool := p.bytes.getLast? = some slash

/-- What one piece asks for; nothing if it is empty or `.`. -/
def Component.ofPiece? (piece : Bytes) : Option Component :=
  if piece = [] ∨ piece = [dot] then none
  else if piece = [dot, dot] then some .up
  else some (.name piece)

/-- The parts of a path that matter. -/
def components (p : Path) : List Component :=
  let opening :=
    if p.isAbsolute then [Component.root]
    else if p.pieces.head? = some [dot] then [.here]
    else []
  opening ++ p.pieces.filterMap Component.ofPiece?

/-- How a component is spelled. -/
def Component.spelling : Component → Bytes
  | .root => [slash]
  | .here => [dot]
  | .up => [dot, dot]
  | .name n => n

/-! ## 2. Putting paths together -/

/-- A path as typed. -/
def ofString (s : String) : Path := ⟨Text.Utf8.encode s⟩

/-- A path as shown to the user. -/
def display (p : Path) : String := Text.Utf8.lossyString p.bytes

/-- A path as text, if its bytes are text. -/
def text? (p : Path) : Option String := Text.Utf8.decodeString? p.bytes

/-- `q` seen from `p`: an absolute `q` stands for itself. -/
def join (p q : Path) : Path :=
  if q.isAbsolute ∨ p.bytes = [] then q
  else if p.endsInSlash then ⟨p.bytes ++ q.bytes⟩
  else ⟨p.bytes ++ slash :: q.bytes⟩

/-- The entry `n` of the directory `p`. -/
def entry (p : Path) (n : Name) : Path := p.join ⟨n⟩

/-- The plainest spelling of a list of components. -/
def ofComponents (cs : List Component) : Path :=
  cs.foldl (fun p c => p.join ⟨c.spelling⟩) ⟨[]⟩

/-- The plainest spelling of the path from the root through the given names. -/
def ofNames (names : List Name) : Path := ofComponents (.root :: names.map .name)

/-- Whether `base` is `p` or lies above it, component by component. -/
def startsWith (p base : Path) : Bool := base.components.isPrefixOf p.components

/-- Whether two spellings have the same components. -/
def sameAs (p q : Path) : Bool := p.components = q.components

/-- The last component, if it is a name, and the path before it. -/
def splitLast? (p : Path) : Option (Path × Name) :=
  match p.components.getLast? with
  | some (.name n) => some (ofComponents p.components.dropLast, n)
  | _ => none

/-- The directory that the path's last component is looked for in. -/
def parent? (p : Path) : Option Path :=
  match p.components.getLast? with
  | none | some .root => none
  | some _ => some (ofComponents p.components.dropLast)

/-! ## 3. Folding -/

/-- Takes the next component in, given those so far in reverse. -/
def foldStep (before : List Component) : Component → List Component
  | .here => before
  | .up =>
    match before with
    | .name _ :: rest => rest
    | _ => before
  | .root => [.root]
  | .name n => .name n :: before

/-- The components that remain when `.` and `..` are worked off from left to right. -/
def foldComponents (cs : List Component) : List Component := (cs.foldl foldStep []).reverse

/-- The path without `.` and `..`, by its text alone. -/
def folded (p : Path) : Path := ofComponents (foldComponents p.components)

/-- Components without `.` and `..`: names, behind the root directory or not. -/
def Plain (cs : List Component) : Prop :=
  ∃ names : List Name, cs = names.map .name ∨ cs = .root :: names.map .name

/-- The state of folding after plain components: names in reverse, and the root below them. -/
def PlainBefore (before : List Component) : Prop :=
  ∃ names : List Name, before = names.map .name ∨ before = names.map .name ++ [.root]

theorem foldStep_plainBefore {before : List Component} (h : PlainBefore before) (c : Component) :
    PlainBefore (foldStep before c) := by
  obtain ⟨names, rfl | rfl⟩ := h
  · cases c with
    | root => exact ⟨[], .inr rfl⟩
    | here => exact ⟨names, .inl rfl⟩
    | name n => exact ⟨n :: names, .inl rfl⟩
    | up =>
      cases names with
      | nil => exact ⟨[], .inl rfl⟩
      | cons n ns => exact ⟨ns, .inl rfl⟩
  · cases c with
    | root => exact ⟨[], .inr rfl⟩
    | here => exact ⟨names, .inr rfl⟩
    | name n => exact ⟨n :: names, .inr rfl⟩
    | up =>
      cases names with
      | nil => exact ⟨[], .inr rfl⟩
      | cons n ns => exact ⟨ns, .inr rfl⟩

/-- Folding leaves neither `.` nor `..`. -/
theorem foldComponents_plain (cs : List Component) : Plain (foldComponents cs) := by
  have h : ∀ before, PlainBefore before → PlainBefore (cs.foldl foldStep before) := by
    induction cs with
    | nil => exact fun _ h => h
    | cons c cs ih => exact fun before h => ih _ (foldStep_plainBefore h c)
  obtain ⟨names, hn | hn⟩ := h [] ⟨[], .inl rfl⟩
  · exact ⟨names.reverse, .inl (by simp [foldComponents, hn])⟩
  · exact ⟨names.reverse, .inr (by simp [foldComponents, hn])⟩

theorem foldl_foldStep_names (names : List Name) (before : List Component) :
    (names.map Component.name).foldl foldStep before
      = (names.map Component.name).reverse ++ before := by
  induction names generalizing before with
  | nil => rfl
  | cons n ns ih => simp [foldStep, ih]

/-- Plain components are as folded as can be. -/
theorem foldComponents_of_plain {cs : List Component} (h : Plain cs) : foldComponents cs = cs := by
  obtain ⟨names, rfl | rfl⟩ := h
  · simp [foldComponents, foldl_foldStep_names]
  · simp [foldComponents, foldStep, foldl_foldStep_names]

/-- Folding again changes nothing. -/
theorem foldComponents_idem (cs : List Component) :
    foldComponents (foldComponents cs) = foldComponents cs :=
  foldComponents_of_plain (foldComponents_plain cs)

end Path
end Scriptorium
