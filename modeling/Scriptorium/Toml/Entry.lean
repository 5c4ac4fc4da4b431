import Scriptorium.Toml.Scalar

/-!
# TOML keys and values

A key is a list of names with dots between them.  Lists and tables inside a value may be nested,
but not without bound, and neither may a key be without bound.
-/
namespace Scriptorium.Toml.Reader

/-! ## 1. Keys -/

def inName (c : Char) : Bool := c.isAlphanum || c = '_' || c = '-'

/-- Reads one name of a key, with the blanks around it. -/
def name : Reader String := do
  skipBlanks
  let n ← match ← peek with
    | some '"' | some '\'' => shortString
    | _ => do
      let c ← one inName
      pure (String.ofList (c :: (← many inName)))
  skipBlanks
  return n

/-- Reads what else belongs to a list behind the items in `done`, which stand in reverse. -/
def moreOf {α : Type} (separator : Char) (item : Reader α) : Nat → List α → Reader (List α)
  | 0, done => return done.reverse
  | fuel + 1, done => do
    match ← optional (do exactly [separator]; item) with
    | some a => moreOf separator item fuel (a :: done)
    | none => return done.reverse

def itemsOf {α : Type} (separator : Char) (item : Reader α) : Reader (List α) := do
  match ← optional item with
  | some a => moreOf separator item (← get).length [a]
  | none => return []

/-- The number of levels that a key, a list or a table may not have. -/
def maxDepth : Nat := 80

/-- Reads a key: the names on the way, and the last one. -/
def key : Reader (List String × String) :=
  checked
    (reading .key do
      let n ← name
      moreOf '.' name (← get).length [n])
    fun names =>
      if names.length < maxDepth then .ok (names.dropLast, names.getLastD "")
      else .error .tooDeep

/-- Takes the equals sign between a key and its value, and the blanks behind it. -/
def equals : Reader Unit := do
  instead ["\x60.\x60", "\x60=\x60"] (exactly ['='])
  skipBlanks

/-! ## 2. Values -/

def enter : Nat → Reader Nat
  | 0 | 1 => do throw { left := (← get).length, final := true, cause := some .tooDeep }
  | depth + 1 => return depth

def close (p : Part) (bracket : Char) : Reader Unit :=
  instead [s!"\x60{bracket}\x60"] (reading p (final (exactly [bracket])))

def membersOf (pairs : List ((List String × String) × Value)) : Except Cause Members :=
  (pairs.foldlM (fun m ((path, last), v) => Members.put? none v last [] path m) []).mapError .clash

/-- Reads a value, at most `depth` levels deep. -/
def valueWithin : Nat → Nat → Reader Value
  | 0, _ => failHere
  | fuel + 1, depth => do
    match ← peek with
    | some '"' | some '\'' => return .string (← string)
    | some '[' => do
      let depth ← enter depth
      exactly ['[']
      let items ← final do
        if (← peek) = some ']' then pure []
        else do
          let items ← itemsOf ',' do
            skipSpace
            let v ← valueWithin fuel depth
            skipSpace
            return v
          let _ ← optional (exactly [','])
          skipSpace
          pure items
      close .array ']'
      return .array items
    | some '\x7b' => do
      let depth ← enter depth
      exactly ['\x7b']
      let members ← final <| checked
        (do
          let pairs ← itemsOf ',' do
            let k ← key
            final do
              equals
              let v ← valueWithin fuel depth
              skipBlanks
              return (k, v)
          skipBlanks
          return pairs)
        membersOf
      close .inlineTable '\x7d'
      return .table (valuesOf members)
    | _ => single

/-- Reads a value. -/
def value : Reader Value := do valueWithin ((← get).length + 1) maxDepth

end Scriptorium.Toml.Reader
