/-!
# What is wrong with a YAML text

A fault says what is wrong and where.  The place is counted in characters from the start of the
text, and in lines and columns.
-/
namespace Scriptorium.Yaml

/-- A place in a text.  Lines are counted from one, the rest from zero. -/
structure Mark where
  index : Nat := 0
  line : Nat := 1
  column : Nat := 0
  deriving DecidableEq, Repr, Inhabited

/-- What is wrong with a text. -/
inductive Trouble where
  -- Blanks and indentation.
  | tabInIndentation
  | tabHere
  | tabInQuoted
  | tabInPlain
  | noBlank
  | gluedComment
  | indentation
  | quotedIndentation
  | flowIndentation
  | anchorIndentation
  | tooDeep
  -- Keys, values and entries.
  | keyWithoutColon
  | keyExpected
  | keyHere
  | valueHere
  | valueAcrossLines
  | valueBlank
  | entryHere
  | entryInFlow
  | entryBlank
  | unexpected (c : Char)
  -- Directives.
  | directiveName
  | directiveLetter
  | directiveEnd
  | versionDigit
  | versionNumber
  | versionLength
  | directiveHandle
  | directiveBlank
  | tagStart
  -- Tags and anchors.
  | tagHandle
  | tagUri
  | tagEnd
  | verbatimEnd
  | uriEscape
  | uriLead
  | uriFollow
  | uriCode
  | anchorName
  -- Scalars.
  | blockZero
  | blockHeader
  | blockTab
  | blockIndentation
  | quotedDocument
  | quotedEnd
  | quotedEscape
  | quotedDigits
  | quotedCode
  | quotedTail
  | plainDash
  -- Documents and nodes.
  | textEnd
  | documentTail
  | documentStart
  | directiveInDocument
  | secondVersion
  | unknownHandle
  | unknownAnchor
  | nodeExpected
  | blockKeyExpected
  | blockEntryExpected
  | flowTableEnd
  | flowListEnd
  /-- A table has a key twice. -/
  | duplicate (key : String)
  deriving DecidableEq, Repr, Inhabited

/-- The words for what is wrong. -/
def Trouble.words : Trouble → String
  | tabInIndentation => "tabs disallowed within this context (block indentation)"
  | tabHere => "tabs disallowed in this context"
  | tabInQuoted => "tab cannot be used as indentation"
  | tabInPlain => "while scanning a plain scalar, found a tab"
  | noBlank => "expected whitespace"
  | gluedComment => "comments must be separated from other tokens by whitespace"
  | indentation => "invalid indentation"
  | quotedIndentation => "invalid indentation in quoted scalar"
  | flowIndentation => "invalid indentation in flow construct"
  | anchorIndentation => "invalid indentation for anchor"
  | tooDeep => "recursion limit exceeded"
  | keyWithoutColon => "simple key expect ':'"
  | keyExpected => "simple key expected"
  | keyHere => "mapping keys are not allowed in this context"
  | valueHere => "mapping values are not allowed in this context"
  | valueAcrossLines => "illegal placement of ':' indicator"
  | valueBlank => "':' must be followed by a valid YAML whitespace"
  | entryHere => "block sequence entries are not allowed in this context"
  | entryInFlow => "\"-\" is only valid inside a block"
  | entryBlank => "'-' must be followed by a valid YAML whitespace"
  | unexpected c => "unexpected character: \x60" ++ c.toString ++ "'"
  | directiveName => "while scanning a directive, could not find expected directive name"
  | directiveLetter => "while scanning a directive, found unexpected non-alphabetical character"
  | directiveEnd => "while scanning a directive, did not find expected comment or line break"
  | versionDigit =>
    "while scanning a YAML directive, did not find expected digit or '.' character"
  | versionNumber => "while scanning a YAML directive, did not find expected version number"
  | versionLength => "while scanning a YAML directive, found extremely long version number"
  | directiveHandle => "while parsing a tag directive, did not find expected '!'"
  | directiveBlank => "while scanning TAG, did not find expected whitespace or line break"
  | tagStart => "invalid global tag character"
  | tagHandle => "while scanning a tag, did not find expected '!'"
  | tagUri => "while parsing a tag, did not find expected tag URI"
  | tagEnd => "while scanning a tag, did not find expected whitespace or line break"
  | verbatimEnd => "while scanning a verbatim tag, did not find the expected '>'"
  | uriEscape => "while parsing a tag, found an invalid escape sequence"
  | uriLead => "while parsing a tag, found an incorrect leading UTF-8 byte"
  | uriFollow => "while parsing a tag, found an incorrect trailing UTF-8 byte"
  | uriCode => "while parsing a tag, found an invalid UTF-8 codepoint"
  | anchorName => "while scanning an anchor or alias, did not find expected alphabetic or "
      ++ "numeric character"
  | blockZero => "while scanning a block scalar, found an indentation indicator equal to 0"
  | blockHeader => "while scanning a block scalar, did not find expected comment or line break"
  | blockTab => "a block scalar content cannot start with a tab"
  | blockIndentation => "wrongly indented line in block scalar"
  | quotedDocument => "while scanning a quoted scalar, found unexpected document indicator"
  | quotedEnd => "while scanning a quoted scalar, found unexpected end of stream"
  | quotedEscape => "while parsing a quoted scalar, found unknown escape character"
  | quotedDigits => "while parsing a quoted scalar, did not find expected hexadecimal number"
  | quotedCode => "while parsing a quoted scalar, found invalid Unicode character escape code"
  | quotedTail => "invalid trailing content after double-quoted scalar"
  | plainDash => "plain scalar cannot start with '-' followed by ,[]\x7b\x7d"
  | textEnd => "unexpected eof"
  | documentTail => "invalid content after document end marker"
  | documentStart => "did not find expected <document start>"
  | directiveInDocument => "missing explicit document end marker before directive"
  | secondVersion => "duplicate version directive"
  | unknownHandle => "the handle wasn't declared"
  | unknownAnchor => "while parsing node, found unknown anchor"
  | nodeExpected => "while parsing a node, did not find expected node content"
  | blockKeyExpected => "while parsing a block mapping, did not find expected key"
  | blockEntryExpected =>
    "while parsing a block collection, did not find expected '-' indicator"
  | flowTableEnd => "while parsing a flow mapping, did not find expected ',' or '\x7d'"
  | flowListEnd => "while parsing a flow sequence, expected ',' or ']'"
  | duplicate key => key ++ ": duplicated key in mapping"

/-- Why a text is refused. -/
structure Fault where
  trouble : Trouble
  mark : Mark
  deriving DecidableEq, Repr, Inhabited

/-- The text of a fault. -/
def Fault.message (f : Fault) : String :=
  s!"{f.trouble.words} at byte {f.mark.index} line {f.mark.line} column {f.mark.column + 1}"

end Scriptorium.Yaml
