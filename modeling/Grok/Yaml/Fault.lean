namespace Grok.Yaml

/-!
# Faults of YAML texts

Why a text is no YAML, by cause, with the place where that shows and the construct it happened in.

* `Mark` is a place in a text.
* `Problem` and `Construct` are the causes and the constructs, with their wording.
* `Fault.message` words a fault with its places.
-/

/-- A place in a text: line and column, both counted from zero. -/
structure Mark where
  line : Nat := 0
  column : Nat := 0
  deriving DecidableEq, Repr, Inhabited

namespace Mark

/-- Is this the first place of a text? Messages leave that one out. -/
def isOrigin (m : Mark) : Bool := m.line == 0 && m.column == 0

/-- The place in a message, unless it is the first one. -/
def suffix (m : Mark) : String :=
  if m.isOrigin then ""
  else " at line " ++ toString (m.line + 1) ++ " column " ++ toString (m.column + 1)

end Mark

/-- What is wrong with a text. -/
inductive Problem where
  /-- a character begins nothing -/
  | noToken
  /-- a key that cannot end here has no colon -/
  | colonExpected
  /-- a dash where no sequence can begin -/
  | entryNotAllowed
  /-- a question mark where no mapping can begin -/
  | keyNotAllowed
  /-- a colon where no mapping can begin -/
  | valueNotAllowed
  /-- a directive has no name -/
  | directiveNameExpected
  /-- the name of a directive holds a strange character -/
  | directiveNameInvalid
  /-- a directive is neither of the two known ones -/
  | directiveUnknown
  /-- a line goes on behind its content -/
  | lineEndExpected
  /-- the two numbers of a version are not divided by a point -/
  | versionPointExpected
  /-- a number of a version is missing -/
  | versionNumberExpected
  /-- a number of a version has too many digits -/
  | versionNumberTooLong
  /-- no blank follows -/
  | blankExpected
  /-- neither a blank nor a line break follows -/
  | blankOrBreakExpected
  /-- the name of an anchor is missing or ends wrongly -/
  | nameExpected
  /-- an exclamation mark is missing -/
  | exclamationMarkExpected
  /-- a verbatim tag is not closed -/
  | angleExpected
  /-- a tag is empty -/
  | tagExpected
  /-- a percent sign is not followed by two hexadecimal digits -/
  | octetExpected
  /-- an escaped octet begins no character -/
  | leadingOctetInvalid
  /-- an escaped octet does not continue a character -/
  | trailingOctetInvalid
  /-- a block scalar is to be indented by nothing -/
  | indentationZero
  /-- a tab stands where a block scalar is indented -/
  | indentationByTab
  /-- a document ends within quotes -/
  | documentIndicator
  /-- the text ends within quotes -/
  | endOfText
  /-- a backslash is followed by a character that is no escape -/
  | escapeUnknown
  /-- a hexadecimal digit of an escape is missing -/
  | hexadecimalExpected
  /-- an escape denotes no character -/
  | characterInvalid
  /-- a colon within a plain scalar of a flow collection -/
  | colonUnexpected
  /-- a tab stands where a plain scalar is indented -/
  | tabUnexpected
  /-- a further document has no `---` -/
  | documentStartExpected
  /-- a document declares its version twice -/
  | versionRepeated
  /-- a document is of another version -/
  | versionUnsupported
  /-- a document declares a tag handle twice -/
  | handleRepeated
  /-- a tag handle is not declared -/
  | handleUndefined
  /-- there is no node -/
  | nodeExpected
  /-- a sequence goes on without a dash -/
  | dashExpected
  /-- a mapping goes on without a key -/
  | keyExpected
  /-- a flow sequence is neither continued nor closed -/
  | commaOrBracketExpected
  /-- a flow mapping is neither continued nor closed -/
  | commaOrBraceExpected
  deriving DecidableEq, Repr

namespace Problem

/-- The wording of a problem. -/
def text : Problem → String
  | noToken => "found character that cannot start any token"
  | colonExpected => "could not find expected ':'"
  | entryNotAllowed => "block sequence entries are not allowed in this context"
  | keyNotAllowed => "mapping keys are not allowed in this context"
  | valueNotAllowed => "mapping values are not allowed in this context"
  | directiveNameExpected => "could not find expected directive name"
  | directiveNameInvalid => "found unexpected non-alphabetical character"
  | directiveUnknown => "found unknown directive name"
  | lineEndExpected => "did not find expected comment or line break"
  | versionPointExpected => "did not find expected digit or '.' character"
  | versionNumberExpected => "did not find expected version number"
  | versionNumberTooLong => "found extremely long version number"
  | blankExpected => "did not find expected whitespace"
  | blankOrBreakExpected => "did not find expected whitespace or line break"
  | nameExpected => "did not find expected alphabetic or numeric character"
  | exclamationMarkExpected => "did not find expected '!'"
  | angleExpected => "did not find the expected '>'"
  | tagExpected => "did not find expected tag URI"
  | octetExpected => "did not find URI escaped octet"
  | leadingOctetInvalid => "found an incorrect leading UTF-8 octet"
  | trailingOctetInvalid => "found an incorrect trailing UTF-8 octet"
  | indentationZero => "found an indentation indicator equal to 0"
  | indentationByTab => "found a tab character where an indentation space is expected"
  | documentIndicator => "found unexpected document indicator"
  | endOfText => "found unexpected end of stream"
  | escapeUnknown => "found unknown escape character"
  | hexadecimalExpected => "did not find expected hexadecimal number"
  | characterInvalid => "found invalid Unicode character escape code"
  | colonUnexpected => "found unexpected ':'"
  | tabUnexpected => "found a tab character that violates indentation"
  | documentStartExpected => "did not find expected <document start>"
  | versionRepeated => "found duplicate %YAML directive"
  | versionUnsupported => "found incompatible YAML document"
  | handleRepeated => "found duplicate %TAG directive"
  | handleUndefined => "found undefined tag handle"
  | nodeExpected => "did not find expected node content"
  | dashExpected => "did not find expected '-' indicator"
  | keyExpected => "did not find expected key"
  | commaOrBracketExpected => "did not find expected ',' or ']'"
  | commaOrBraceExpected => "did not find expected ',' or '\x7d'"

end Problem

/-- What was being read when a problem showed. -/
inductive Construct where
  | token
  | simpleKey
  | directive
  | versionDirective
  | tagDirective
  /-- the handle that a directive declares, before its first character -/
  | handleStart
  /-- the handle that a directive declares, behind its first character -/
  | handleRest
  /-- the prefix that a directive declares -/
  | handleValue
  | anchor
  | reference
  | tag
  /-- the text of a tag behind its handle -/
  | tagSuffix
  | blockScalar
  | quotedScalar
  /-- an escape within quotes -/
  | escape
  | plainScalar
  | node
  | blockNode
  | flowNode
  | blockSequence
  | blockMapping
  | flowSequence
  | flowMapping
  deriving DecidableEq, Repr

namespace Construct

/-- The wording of a construct. -/
def text : Construct → String
  | token => "while scanning for the next token"
  | simpleKey => "while scanning a simple key"
  | directive => "while scanning a directive"
  | versionDirective => "while scanning a %YAML directive"
  | tagDirective => "while scanning a %TAG directive"
  | handleStart => "while scanning a tag directive"
  | handleRest => "while parsing a tag directive"
  | handleValue => "while parsing a %TAG directive"
  | anchor => "while scanning an anchor"
  | reference => "while scanning an alias"
  | tag => "while scanning a tag"
  | tagSuffix => "while parsing a tag"
  | blockScalar => "while scanning a block scalar"
  | quotedScalar => "while scanning a quoted scalar"
  | escape => "while parsing a quoted scalar"
  | plainScalar => "while scanning a plain scalar"
  | node => "while parsing a node"
  | blockNode => "while parsing a block node"
  | flowNode => "while parsing a flow node"
  | blockSequence => "while parsing a block collection"
  | blockMapping => "while parsing a block mapping"
  | flowSequence => "while parsing a flow sequence"
  | flowMapping => "while parsing a flow mapping"

end Construct

/-- Why a text is no YAML. -/
inductive Fault where
  /-- it holds a control character behind this number of bytes -/
  | control (offset : Nat)
  /-- it breaks a rule of the grammar at a place, within a construct that started at another -/
  | malformed (problem : Problem) (place : Mark) (within : Option (Construct × Mark))
  /-- it refers to an anchor that was not set -/
  | unknownAnchor (place : Mark)
  /-- it holds more than one document -/
  | severalDocuments
  deriving DecidableEq, Repr

namespace Fault

/-- The wording of a construct that a problem showed in, with its start where that adds something.
    -/
def withinText (place : Mark) : Option (Construct × Mark) → String
  | none => ""
  | some (c, start) => ", " ++ c.text ++ if start = place then "" else start.suffix

/-- The wording of a fault. -/
def message : Fault → String
  | .control offset =>
    "control characters are not allowed" ++
      if offset = 0 then "" else " at position " ++ toString offset
  | .malformed problem place within => problem.text ++ place.suffix ++ withinText place within
  | .unknownAnchor place => "unknown anchor" ++ place.suffix
  | .severalDocuments =>
    "deserializing from YAML containing more than one document is not supported"

end Fault

end Grok.Yaml
