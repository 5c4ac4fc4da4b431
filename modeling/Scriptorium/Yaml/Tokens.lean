import Scriptorium.Yaml.Block
import Scriptorium.Yaml.Flowing
import Scriptorium.Yaml.Tag

/-!
# Parting a YAML text into tokens

`next` takes the next token.  It reads on until no key can begin before the first token of the
queue, but no farther, so what is wrong with a text shows only when that place is reached.
-/
namespace Scriptorium.Yaml.Scanner

/-! ## 1. The ends of the text -/

def textStart : Scanner Unit := do
  modify ({ · with started := true, keyAllowed := true, keys := [{}] })
  push .textStart (← here)

/-- Ends the text, on a line of its own. -/
def textEnd : Scanner Unit := do
  modify fun s =>
    if s.mark.column = 0 then s
    else { s with mark := { s.mark with line := s.mark.line + 1, column := 0 } }
  if (← get).keys.any fun k => k.required && k.possible then fail .keyExpected
  modify fun s => { s with keys := s.keys.map ({ · with possible := false }) }
  closeBlocks (-1)
  allowKey false
  push .textEnd (← here)

def documentMark (t : Token) : Scanner Unit := do
  closeBlocks (-1)
  dropKey
  allowKey false
  let start ← here
  pass 3
  push t start

/-- Reads the end of a document, behind which nothing is to come on its line. -/
def documentEnd : Scanner Unit := do
  documentMark .documentEnd
  let _ ← skipBlanks
  unless isLineEnd (← peek) do fail .documentTail

/-! ## 2. Brackets and commas -/

def closePair : Scanner Unit := do
  match (← get).pairs with
  | true :: outer =>
    modify ({ · with tableBegun := false, pairs := false :: outer })
    push .flowTableEnd (← here)
  | _ => return

def openFlow (t : Token) : Scanner Unit := do
  markKey
  indentByOne
  if 255 ≤ (← get).flowLevel then fail .tooDeep
  modify fun s => { s with keys := {} :: s.keys, flowLevel := s.flowLevel + 1, keyAllowed := true }
  let start ← here
  pass 1
  modify fun s =>
    if t = .flowTable then { s with tableBegun := true } else { s with pairs := false :: s.pairs }
  let _ ← skipBlanks
  push t start

def closeFlow (t : Token) : Scanner Unit := do
  dropKey
  modify fun s =>
    if s.flowLevel = 0 then s else { s with flowLevel := s.flowLevel - 1, keys := s.keys.tail }
  allowKey false
  if t = .flowListEnd then
    closePair
    modify fun s => { s with pairs := s.pairs.tail }
  let start ← here
  pass 1
  let _ ← skipBlanks
  modify fun s => if 0 < s.flowLevel then { s with adjacentAt := s.mark.index } else s
  push t start

/-- Reads a comma. -/
def comma : Scanner Unit := do
  dropKey
  allowKey true
  closePair
  let start ← here
  pass 1
  let _ ← skipBlanks
  push .comma start

/-! ## 3. Entries, keys and values -/

/-- Reads a dash. -/
def entry : Scanner Unit := do
  let s ← get
  if 0 < s.flowLevel then fail .entryInFlow
  unless s.keyAllowed do fail .entryHere
  match s.queue.getLast? with
  | some ⟨m, .anchor _⟩ | some ⟨m, .tag _ _⟩ =>
    if s.mark.column = 0 && m.column = 0 && -1 < s.indent then failAt .anchorIndentation m
  | _ => pure ()
  let start ← here
  pass 1
  openBlock start.column none .blockList start
  let blanks ← skipBlanks
  let c ← peek
  if blanks.tabs && c = '-' && isGap (← peekAt 1) then fail .entryBlank
  if isBreak c || isFlow c then indentByOne
  dropKey
  allowKey true
  push .entry (← here)

/-- Reads a question mark. -/
def key : Scanner Unit := do
  let s ← get
  let start := s.mark
  if s.flowLevel = 0 then
    unless s.keyAllowed do fail .keyHere
    openBlock start.column none .blockTable start
  else modify ({ · with tableBegun := true })
  dropKey
  allowKey (s.flowLevel = 0)
  pass 1
  skipKeySpace
  if (← peek) = '\t' then fail .tabHere
  push .key start

/-- Reads a colon behind what may be a key. -/
def value : Scanner Unit := do
  let s ← get
  let start := s.mark
  let k := s.keys.headD {}
  let isPair := s.pairs ≠ [] && !s.tableBegun
  if isPair then modify fun s => { s with pairs := true :: s.pairs.tail }
  pass 1
  if (← peek) = '\t' then
    let blanks ← skipBlanks
    if !blanks.spaces && isNameChar (← peek) then fail .valueBlank
  if k.possible then
    insert k.number .key k.mark
    if isPair then
      if k.mark.line < start.line then failAt .valueAcrossLines start
      insert k.number .flowTable k.mark
    openBlock k.mark.column (some k.number) .blockTable k.mark
    indentByOne
    modify fun s => { s with keys := { k with possible := false } :: s.keys.tail }
    allowKey false
  else
    if isPair then push .flowTable (← here)
    if s.flowLevel = 0 then
      unless s.keyAllowed do failAt .valueHere start
      openBlock start.column none .blockTable start
    indentByOne
    allowKey (s.flowLevel = 0)
  push .value start

/-! ## 4. Tokens -/

/-- Reads what begins with a character that no line of its own tells apart. -/
def readBy (c next : Char) (inFlow adjacent : Bool) : Scanner Unit :=
  match c with
  | '[' => openFlow .flowList
  | '{' => openFlow .flowTable
  | ']' => closeFlow .flowListEnd
  | '}' => closeFlow .flowTableEnd
  | ',' => comma
  | '-' => if isGap next then entry else plain
  | '?' => if isGap next then key else plain
  | ':' => if isGap next || (inFlow && (isFlow next || adjacent)) then value else plain
  | '*' => anchor .reference
  | '&' => anchor .anchor
  | '!' => tag
  | '|' => if inFlow then plain else block true
  | '>' => if inFlow then plain else block false
  | '\'' => quoted true
  | '"' => quoted false
  | '%' | '@' | '\x60' => fail (.unexpected c)
  | _ => plain

/-- Reads on by one token or more. -/
def read : Scanner Unit := do
  unless (← get).started do return ← textStart
  skipSpace
  dropStaleKeys
  closeBlocks (← here).column
  let s ← get
  let c ← peek
  if s.rest = [] then textEnd
  else if s.mark.column = 0 && c = '%' then directive
  else if s.mark.column = 0 && (← isMark '-') then documentMark .documentStart
  else if s.mark.column = 0 && (← isMark '.') then documentEnd
  else if s.mark.column < s.indent then fail .indentation
  else readBy c (← peekAt 1) (0 < s.flowLevel) (s.mark.index = s.adjacentAt)

def readOnFor : Nat → Scanner Unit
  | 0 => return
  | fuel + 1 => do
    unless (← get).queue = [] do
      dropStaleKeys
      let s ← get
      unless s.keys.any fun k => k.possible && k.number = s.taken do return
    read
    readOnFor fuel

/-- Takes the next token. -/
def next : Scanner Placed := do
  if (← get).ended then fail .textEnd
  readOnFor ((← get).rest.length + 3)
  let s ← get
  match s.queue with
  | [] => fail .textEnd
  | t :: rest =>
    set { s with queue := rest, taken := s.taken + 1, ended := t.token = Token.textEnd }
    return t

end Scriptorium.Yaml.Scanner
