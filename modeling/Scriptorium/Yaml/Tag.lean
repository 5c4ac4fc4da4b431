import Scriptorium.Yaml.Scan

/-!
# Tags, anchors and directives of YAML

A tag tells what a node is: by an address in angle brackets, or by a handle and the rest of an
address.  A directive says what a handle stands for.  An anchor names a node.
-/
namespace Scriptorium.Yaml.Scanner

/-! ## 1. Addresses -/

def octetCount? (b : Nat) : Option Nat :=
  if b < 0x80 then some 1
  else if 0xC0 ≤ b && b < 0xE0 then some 2
  else if 0xE0 ≤ b && b < 0xF0 then some 3
  else if 0xF0 ≤ b && b < 0xF8 then some 4
  else none

def uriOctet (start : Mark) : Scanner Nat := do
  match (← get).rest with
  | '%' :: high :: low :: _ =>
    unless isHex high && isHex low do failAt .uriEscape start
    pass 3
    return 16 * hexValue high + hexValue low
  | _ => failAt .uriEscape start

/-- Takes the octets of a character behind the first one.  They are put together as they are. -/
def uriFollow (start : Mark) (code : Nat) : Nat → Scanner Nat
  | 0 => return code
  | n + 1 => do
    let b ← uriOctet start
    unless 0x80 ≤ b && b < 0xC0 do failAt .uriFollow start
    uriFollow start (256 * code + b) n

def uriEscape (start : Mark) : Scanner Char := do
  let b ← uriOctet start
  match octetCount? b with
  | none => failAt .uriLead start
  | some n =>
    let code ← uriFollow start b (n - 1)
    unless code.isValidChar do failAt .uriCode start
    return Char.ofNat code

def uriFor (p : Char → Bool) (start : Mark) (done : List Char) : Nat → Scanner (List Char)
  | 0 => return done.reverse
  | fuel + 1 => do
    let c ← peek
    if !p c then return done.reverse
    else if c = '%' then uriFor p start ((← uriEscape start) :: done) fuel
    else
      pass 1
      uriFor p start (c :: done) fuel

/-- Takes the characters of an address that pass a test. -/
def uri (p : Char → Bool) (start : Mark) : Scanner (List Char) := do
  uriFor p start [] ((← get).rest.length + 1)

/-! ## 2. Tags and anchors -/

/-- Takes a handle: a name between exclamation marks, of which the second may be missing. -/
def tagHandle (inDirective : Bool) (start : Mark) : Scanner (List Char) := do
  unless (← peek) = '!' do failAt .tagHandle start
  pass 1
  let name ← takeWhile isNameChar
  if (← peek) = '!' then
    pass 1
    return '!' :: name ++ ['!']
  if inDirective && name ≠ [] then failAt .directiveHandle start
  return '!' :: name

/-- Takes the two parts of a tag. -/
def tagParts (start : Mark) : Scanner (List Char × List Char) := do
  if (← peekAt 1) = '<' then
    pass 2
    let address ← uri isUriChar start
    unless (← peek) = '>' do failAt .verbatimEnd start
    pass 1
    return ([], address)
  let handle ← tagHandle false start
  let rest ← uri isTagChar start
  if 2 ≤ handle.length && handle.getLast? = some '!' then
    if rest = [] then failAt .tagUri start
    return (handle, rest)
  match handle.drop 1 ++ rest with
  | [] => return ([], ['!'])
  | rest => return (['!'], rest)

/-- Reads a tag. -/
def tag : Scanner Unit := do
  markKey
  allowKey false
  let start ← here
  let (handle, rest) ← tagParts start
  let c ← peek
  unless isGap c || (0 < (← get).flowLevel && isFlow c) do failAt .tagEnd start
  push (.tag (String.ofList handle) (String.ofList rest)) start

/-- Reads an anchor, or the name of one. -/
def anchor (make : String → Token) : Scanner Unit := do
  markKey
  allowKey false
  let start ← here
  pass 1
  let name ← takeWhile isAnchorChar
  if name = [] then failAt .anchorName start
  push (make (String.ofList name)) start

/-! ## 3. Directives -/

def versionNumber (start : Mark) : Scanner Unit := do
  let ds ← takeWhile Char.isDigit
  if 9 < ds.length then failAt .versionLength start
  if ds = [] then failAt .versionNumber start

def versionDirective (start : Mark) : Scanner Token := do
  let _ ← blanksWhile isBlank
  versionNumber start
  unless (← peek) = '.' do failAt .versionDigit start
  pass 1
  versionNumber start
  return .version

def tagMeaning (start : Mark) : Scanner (List Char) := do
  let c ← peek
  if c = '!' then
    pass 1
    return '!' :: (← uri isUriChar start)
  unless isTagChar c do failAt .tagStart start
  uri isUriChar start

def tagDirective (start : Mark) : Scanner Token := do
  let _ ← blanksWhile isBlank
  let handle ← tagHandle true start
  let _ ← blanksWhile isBlank
  let meaning ← tagMeaning start
  unless isGap (← peek) do failAt .directiveBlank start
  return .handle (String.ofList handle) (String.ofList meaning)

def directiveName : Scanner String := do
  let start ← here
  let name ← takeWhile isNameChar
  if name = [] then failAt .directiveName start
  unless isGap (← peek) do failAt .directiveLetter start
  return String.ofList name

/-- Reads a directive.  One that is not known says nothing. -/
def directive : Scanner Unit := do
  closeBlocks (-1)
  dropKey
  allowKey false
  let start ← here
  pass 1
  let token ← match ← directiveName with
    | "YAML" => versionDirective start
    | "TAG" => tagDirective start
    | _ => do
      let _ ← takeLine
      pure (.handle "" "")
  let _ ← skipBlanks
  unless isLineEnd (← peek) do failAt .directiveEnd start
  let _ ← lineBreak
  push token start

end Scriptorium.Yaml.Scanner
