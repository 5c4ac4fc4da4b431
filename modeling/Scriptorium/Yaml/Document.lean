import Scriptorium.Yaml.Tokens
import Scriptorium.Yaml.Value

/-!
# Reading a YAML text

A text holds documents, each of which is one node: a scalar, a list or a table.  Nodes are read by
recursive descent over the tokens.  A node that has an anchor can be referred to behind it; what is
referred to inside of itself is no value.

That a table has a key twice is a fault only of a text that has no other.
-/
namespace Scriptorium.Yaml

/-- How far the tokens of a text have been read. -/
structure Reading where
  scan : Scan
  /-- The next token, if it has been looked at. -/
  peeked : Option Placed := none
  /-- The numbers of the nodes that anchors were given to, the latest first. -/
  anchors : List (String × Nat) := []
  nextAnchor : Nat := 1
  /-- What handles stand for. -/
  handles : List (String × String) := []
  /-- The nodes that have been read, by their numbers. -/
  values : List (Nat × Value) := []
  /-- The first key that stands in a table twice. -/
  duplicate : Option Fault := none
  deriving Repr, Inhabited

abbrev Parser (α : Type) := StateT Reading (Except Fault) α

/-- A value, and where it ends or, if it is a scalar, begins. -/
abbrev Node := Mark × Value

/-- What may stand before a node. -/
structure Properties where
  anchor : Option Nat := none
  tag : Option (String × String) := none
  deriving DecidableEq, Repr, Inhabited

namespace Parser

/-! ## 1. Tokens -/

/-- The next token, left where it is. -/
def peek : Parser Placed := do
  let s ← get
  match s.peeked with
  | some t => return t
  | none =>
    let (t, scan) ← Scanner.next.run s.scan
    set { s with scan, peeked := some t }
    return t

/-- Takes the next token. -/
def take : Parser Placed := do
  let t ← peek
  modify ({ · with peeked := none })
  return t

/-- Fails at the next token. -/
def fail {α : Type} (t : Trouble) : Parser α := do throw ⟨t, (← peek).mark⟩

def absent : Parser Node := do return ((← peek).mark, .nothing)

def takeIf (p : Token → Bool) : Parser Bool := do
  if p (← peek).token then
    let _ ← take
    return true
  else return false

/-! ## 2. Properties -/

/-- What a tag stands for.  The handle of two exclamation marks stands for the tags of the
language, unless a directive says otherwise. -/
def resolveTag (m : Mark) (handle rest : String) : Parser (String × String) := do
  match (← get).handles.find? (·.1 = handle) with
  | some (_, meaning) => return (meaning, rest)
  | none =>
    if handle = "!!" then return (coreTag, rest)
    else if 2 ≤ handle.length && handle.startsWith "!" && handle.endsWith "!" then
      throw ⟨.unknownHandle, m⟩
    else return (handle, rest)

def newAnchor (name : String) : Parser Nat := do
  let s ← get
  set { s with anchors := (name, s.nextAnchor) :: s.anchors, nextAnchor := s.nextAnchor + 1 }
  return s.nextAnchor

/-- Takes an anchor and a tag, of which either may be missing, in either order. -/
def properties : Parser Properties := do
  match ← peek with
  | ⟨m, .anchor name⟩ =>
    let _ ← take
    let id ← newAnchor name
    match (← peek).token with
    | .tag handle rest =>
      let _ ← take
      return ⟨some id, some (← resolveTag m handle rest)⟩
    | _ => return ⟨some id, none⟩
  | ⟨m, .tag handle rest⟩ =>
    let _ ← take
    let tag ← resolveTag m handle rest
    match (← peek).token with
    | .anchor name =>
      let _ ← take
      return ⟨some (← newAnchor name), some tag⟩
    | _ => return ⟨none, some tag⟩
  | _ => return {}

/-- Keeps a node that has an anchor. -/
def keep (p : Properties) (n : Node) : Parser Node := do
  match p.anchor with
  | some id => modify fun s => { s with values := (id, n.2) :: s.values }
  | none => pure ()
  return n

def referredTo (m : Mark) (name : String) : Parser Node := do
  let s ← get
  match s.anchors.find? (·.1 = name) with
  | none => throw ⟨.unknownAnchor, m⟩
  | some (_, id) => return (m, ((s.values.find? (·.1 = id)).map (·.2)).getD .bad)

def scalarValue (p : Properties) (plain : Bool) (text : String) : Value :=
  match plain, p.tag with
  | false, _ => .string text
  | true, some (handle, rest) => .ofTagged handle rest text
  | true, none => .ofPlain text

/-- Adds a key or a value to a table. -/
def add (t : OpenTable) (n : Node) : Parser OpenTable := do
  let (t, twice) := t.add n.2
  match twice with
  | some k => modify fun s =>
    { s with duplicate := s.duplicate <|> some ⟨.duplicate k.shown, n.1⟩ }
  | none => pure ()
  return t

/-! ## 3. Nodes -/

/-- A token behind which, in a table on lines of its own, nothing is written of a key or value. -/
def endsBlockPart : Token → Bool
  | .key | .value | .blockEnd => true
  | _ => false

/-- A token behind which, in a list on the lines of a table, nothing is written of an item. -/
def endsBareItem : Token → Bool
  | .entry | .key | .value | .blockEnd => true
  | _ => false

/-- A token behind which, in a list on lines of its own, nothing is written of an item. -/
def endsItem : Token → Bool
  | .entry | .blockEnd => true
  | _ => false

/-- A token behind which, in a table in brackets, nothing is written of a key. -/
def endsFlowKey : Token → Bool
  | .value | .comma | .flowTableEnd => true
  | _ => false

/-- A token behind which, in a table in brackets, nothing is written of a value. -/
def endsFlowValue : Token → Bool
  | .comma | .flowTableEnd => true
  | _ => false

/-- A token behind which, in a pair without brackets of its own, nothing is written of a key. -/
def endsPairKey : Token → Bool
  | .value | .comma | .flowListEnd => true
  | _ => false

/-- A token behind which, in such a pair, nothing is written of a value. -/
def endsPairValue : Token → Bool
  | .comma | .flowListEnd => true
  | _ => false

mutual

/-- Reads a node.  `block` tells whether a list or table on lines of its own may begin here, and
`bare` whether one of the lines of a table around it may. -/
def node (block bare : Bool) : Nat → Parser Node
  | 0 => fail .textEnd
  | fuel + 1 => do
    match ← peek with
    | ⟨m, .reference name⟩ =>
      let _ ← take
      referredTo m name
    | _ =>
      let p ← properties
      let t ← peek
      match t.token, block, bare with
      | .entry, _, true => keep p (← bareList [] fuel)
      | .scalar plain text, _, _ =>
        let _ ← take
        keep p (t.mark, scalarValue p plain text)
      | .flowList, _, _ =>
        let _ ← take
        keep p (← flowList true [] fuel)
      | .flowTable, _, _ =>
        let _ ← take
        keep p (← flowTable true {} fuel)
      | .blockList, true, _ =>
        let _ ← take
        keep p (← blockList [] fuel)
      | .blockTable, true, _ =>
        let _ ← take
        keep p (← blockTable {} fuel)
      | _, _, _ =>
        if p = {} then fail .nodeExpected else keep p (t.mark, scalarValue p true "")

def nodeUnless (ends : Token → Bool) (block bare : Bool) : Nat → Parser Node
  | 0 => fail .textEnd
  | fuel + 1 => do
    if ends (← peek).token then absent else node block bare fuel

/-- Reads the rest of a table on lines of its own. -/
def blockTable (t : OpenTable) : Nat → Parser Node
  | 0 => fail .textEnd
  | fuel + 1 => do
    match ← peek with
    | ⟨m, .blockEnd⟩ =>
      let _ ← take
      return (m, t.value)
    | ⟨_, .key⟩ =>
      let _ ← take
      let t ← add t (← nodeUnless endsBlockPart true true fuel)
      blockTable (← add t (← blockValue fuel)) fuel
    | ⟨_, .value⟩ =>
      let t ← add t (← absent)
      blockTable (← add t (← blockValue fuel)) fuel
    | _ => fail .blockKeyExpected

def blockValue : Nat → Parser Node
  | 0 => fail .textEnd
  | fuel + 1 => do
    if ← takeIf (· = .value) then nodeUnless endsBlockPart true true fuel else absent

def blockList (items : List Value) : Nat → Parser Node
  | 0 => fail .textEnd
  | fuel + 1 => do
    match ← peek with
    | ⟨m, .blockEnd⟩ =>
      let _ ← take
      return (m, .list items.reverse)
    | ⟨_, .entry⟩ =>
      let _ ← take
      let n ← nodeUnless endsItem true false fuel
      blockList (n.2 :: items) fuel
    | _ => fail .blockEntryExpected

def bareList (items : List Value) : Nat → Parser Node
  | 0 => fail .textEnd
  | fuel + 1 => do
    let m := (← peek).mark
    if ← takeIf (· = .entry) then
      let n ← nodeUnless endsBareItem true false fuel
      bareList (n.2 :: items) fuel
    else return (m, .list items.reverse)

/-- Reads the rest of a table in brackets. -/
def flowTable (first : Bool) (t : OpenTable) : Nat → Parser Node
  | 0 => fail .textEnd
  | fuel + 1 => do
    let m := (← peek).mark
    if ← takeIf (· = .flowTableEnd) then return (m, t.value)
    unless first do
      unless ← takeIf (· = .comma) do fail .flowTableEnd
    match (← peek).token with
    | .flowTableEnd =>
      let _ ← take
      return (m, t.value)
    | .key =>
      let _ ← take
      let t ← add t (← nodeUnless endsFlowKey false false fuel)
      flowTable false (← add t (← flowValue fuel)) fuel
    | .value =>
      let t ← add t (← absent)
      flowTable false (← add t (← flowValue fuel)) fuel
    | _ =>
      let t ← add t (← node false false fuel)
      flowTable false (← add t (← absent)) fuel

def flowValue : Nat → Parser Node
  | 0 => fail .textEnd
  | fuel + 1 => do
    if ← takeIf (· = .value) then nodeUnless endsFlowValue false false fuel else absent

/-- Reads the rest of a list in brackets. -/
def flowList (first : Bool) (items : List Value) : Nat → Parser Node
  | 0 => fail .textEnd
  | fuel + 1 => do
    let m := (← peek).mark
    if ← takeIf (· = .flowListEnd) then return (m, .list items.reverse)
    unless first do
      unless ← takeIf (· = .comma) do fail .flowListEnd
    match (← peek).token with
    | .flowListEnd =>
      let _ ← take
      return (m, .list items.reverse)
    | .key =>
      let _ ← take
      let n ← pair fuel
      flowList false (n.2 :: items) fuel
    | _ =>
      let n ← node false false fuel
      flowList false (n.2 :: items) fuel

/-- Reads a pair without brackets of its own, which is a table. -/
def pair : Nat → Parser Node
  | 0 => fail .textEnd
  | fuel + 1 => do
    let k ← if endsPairKey (← peek).token then
        let k ← absent
        let _ ← take
        pure k
      else node false false fuel
    let t ← add {} k
    let v ← if ← takeIf (· = .value) then nodeUnless endsPairValue false false fuel else absent
    return (v.1, (← add t v).value)

end

/-! ## 4. Documents -/

/-- Takes the directives before a document.  Of those that say what a handle stands for only the
last one counts. -/
def directives (versions : Nat) : Nat → Parser Unit
  | 0 => return
  | fuel + 1 => do
    match ← peek with
    | ⟨m, .version⟩ =>
      if 0 < versions then throw ⟨.secondVersion, m⟩
      modify ({ · with handles := [] })
      let _ ← take
      directives (versions + 1) fuel
    | ⟨_, .handle name meaning⟩ =>
      modify ({ · with handles := [(name, meaning)] })
      let _ ← take
      directives versions fuel
    | _ => return

def skipEnds : Nat → Parser Unit
  | 0 => return
  | fuel + 1 => do if ← takeIf (· = .documentEnd) then skipEnds fuel

def endsDocument : Token → Bool
  | .version | .handle _ _ | .documentStart | .documentEnd | .textEnd => true
  | _ => false

/-- Reads a document.  `marked` tells whether a mark has to stand at its beginning. -/
def document (marked : Bool) (fuel : Nat) : Parser Value := do
  let isMarked := match (← peek).token with
    | .version | .handle _ _ | .documentStart => true
    | _ => marked
  modify ({ · with anchors := [] })
  let n ← if isMarked then do
      directives 0 fuel
      unless ← takeIf (· = .documentStart) do fail .documentStart
      nodeUnless endsDocument true false fuel
    else node true false fuel
  return n.2

/-- Reads the rest of the documents. -/
def documents (marked : Bool) (done : List Value) (nodeFuel : Nat) : Nat → Parser (List Value)
  | 0 => fail .textEnd
  | fuel + 1 => do
    skipEnds nodeFuel
    if (← peek).token = .textEnd then return done.reverse
    let v ← document marked nodeFuel
    modify ({ · with handles := [] })
    if ← takeIf (· = .documentEnd) then documents false (v :: done) nodeFuel fuel
    else
      match (← peek).token with
      | .version | .handle _ _ => fail .directiveInDocument
      | _ => documents true (v :: done) nodeFuel fuel

end Parser

/-- The documents of a text.  The text ends at the first character with the code zero. -/
def parse (text : String) : Except Fault (List Value) := do
  let cs := text.toList.takeWhile (· ≠ endChar)
  -- No character stands for more than four tokens, and no token for more than four nested steps.
  let fuel := 16 * cs.length + 64
  let read : Parser (List Value) := do
    let _ ← Parser.take
    Parser.documents false [] fuel fuel
  let (values, s) ← read.run { scan := { rest := cs } }
  match s.duplicate with
  | some f => .error f
  | none => return values

end Scriptorium.Yaml
