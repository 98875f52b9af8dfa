import Grok.Text.Utf8
import Grok.Yaml.Token

namespace Grok.Yaml.Tag

/-!
# Tags, anchors and directives

The parts of a text that describe nodes and documents.

* `Tag.readAnchor` reads the name of an anchor or of an alias.
* `Tag.read` reads a tag: `!<verbatim>`, `!handle!suffix`, `!suffix`, or `!` alone.
* `Tag.readDirective` reads a line that declares a version or a tag handle.
-/

/-- The characters that may stand directly behind the name of an anchor, blanks apart. -/
def endsName (cs : List Char) : Bool :=
  blankAhead cs || cs.head?.any fun c => "?:,]\x7d%@`".toList.contains c

/-- Reads an anchor, or an alias, at its indicator. -/
def readAnchor (c : Cursor) : Except Fault (Token × Cursor) :=
  let isAlias := c.rest.head? = some '*'
  let (name, rest) := c.skip.span isNameChar
  if name = [] ∨ ¬ endsName rest.rest then
    rest.fault .nameExpected (some (if isAlias then .reference else .anchor, c.mark))
  else
    .ok (⟨if isAlias then .reference name else .anchor name, c.mark, rest.mark⟩, rest)

/-- The characters of tags; some of them only in verbatim ones. -/
def isTagChar (verbatim : Bool) (c : Char) : Bool :=
  isNameChar c || ";/?:@&=+$.%!~*'()".toList.contains c || (verbatim && ",[]".toList.contains c)

/-- The number of octets of the character that an octet begins. -/
def octets? (n : Nat) : Option Nat :=
  if n < 0x80 then some 1
  else if n / 0x20 = 6 then some 2
  else if n / 0x10 = 14 then some 3
  else if n / 0x08 = 30 then some 4
  else none

/-- The octet that begins a text, written as a percent sign and two hexadecimal digits. -/
def octet? : List Char → Option Nat
  | '%' :: a :: b :: _ => hexNumber? [a, b]
  | _ => none

/-- Reads the octets that continue a character. -/
def readTrailing (fault : Problem → Cursor → Fault) :
    Nat → Cursor → Except Fault (List UInt8 × Cursor)
  | 0, c => .ok ([], c)
  | n + 1, c =>
    match octet? c.rest with
    | none => .error (fault .octetExpected c)
    | some o =>
      if o / 0x40 = 2 then do
        let (os, c) ← readTrailing fault n (c.drop 3)
        .ok (UInt8.ofNat o :: os, c)
      else .error (fault .trailingOctetInvalid c)

/-- Reads a character that is written as escaped octets. -/
def readEscaped (fault : Problem → Cursor → Fault) (c : Cursor) :
    Except Fault (List Char × Cursor) :=
  match octet? c.rest with
  | none => .error (fault .octetExpected c)
  | some o =>
    match octets? o with
    | none => .error (fault .leadingOctetInvalid c)
    | some n => do
      let (os, c) ← readTrailing fault (n - 1) (c.drop 3)
      .ok (Utf8.decodeLossy (UInt8.ofNat o :: os), c)

/-- Reads the characters of a tag. The number bounds the characters that are left. -/
def readChars (verbatim : Bool) (fault : Problem → Cursor → Fault) :
    Nat → Cursor → Except Fault (List Char × Cursor)
  | 0, c => .ok ([], c)
  | n + 1, c =>
    match c.rest with
    | [] => .ok ([], c)
    | x :: _ =>
      if isTagChar verbatim x then do
        let (xs, c) ← if x = '%' then readEscaped fault c else .ok ([x], c.skip)
        let (ys, c) ← readChars verbatim fault n c
        .ok (xs ++ ys, c)
      else .ok ([], c)

/-- Reads the characters of a tag; there has to be one unless `optional`. -/
def readText (verbatim optional : Bool) (construct : Construct) (start : Mark) (c : Cursor) :
    Except Fault (List Char × Cursor) := do
  let (text, rest) ← readChars verbatim
    (fun problem c => .malformed problem c.mark (some (construct, start))) c.rest.length c
  if text = [] ∧ ¬ optional then rest.fault .tagExpected (some (construct, start))
  else .ok (text, rest)

/-- Reads an exclamation mark, a name, and a second exclamation mark if there is one. -/
def readHandle (c : Cursor) : List Char × Cursor :=
  let (name, rest) := c.skip.span isNameChar
  if rest.rest.head? = some '!' then ('!' :: name ++ ['!'], rest.skip) else ('!' :: name, rest)

/-- Is this a handle with a suffix to follow, and not the beginning of a suffix? -/
def isHandle (cs : List Char) : Bool := 1 < cs.length && cs.getLast? == some '!'

/-- Reads the two parts of a tag. -/
def readParts (c : Cursor) : Except Fault ((List Char × List Char) × Cursor) :=
  let start := c.mark
  if c.rest.tail.head? = some '<' then do
    let (text, c) ← readText true false .tagSuffix start (c.drop 2)
    if c.rest.head? = some '>' then .ok (([], text), c.skip)
    else c.fault .angleExpected (some (.tag, start))
  else
    let (handle, c) := readHandle c
    if isHandle handle then do
      let (suffix, c) ← readText false false .tagSuffix start c
      .ok ((handle, suffix), c)
    else do
      let (suffix, c) ← readText false true .tagSuffix start c
      let suffix := handle.tail ++ suffix
      .ok (if suffix = [] then ([], ['!']) else (['!'], suffix), c)

/-- Reads the tag at a cursor. -/
def read (inFlow : Bool) (c : Cursor) : Except Fault (Token × Cursor) := do
  let ((handle, suffix), rest) ← readParts c
  if blankAhead rest.rest ∨ (inFlow ∧ rest.rest.head? = some ',') then
    .ok (⟨.tag handle suffix, c.mark, rest.mark⟩, rest)
  else rest.fault .blankOrBreakExpected (some (.tag, c.mark))

/-- The largest number of digits in a version. -/
def longestNumber : Nat := 9

/-- Reads one of the two numbers of a version. -/
def readNumber (start : Mark) (c : Cursor) : Except Fault (Nat × Cursor) :=
  let (digits, rest) := c.span Char.isDigit
  if longestNumber < digits.length then
    (c.drop longestNumber).fault .versionNumberTooLong (some (.versionDirective, start))
  else if digits = [] then rest.fault .versionNumberExpected (some (.versionDirective, start))
  else .ok (digits.foldl (fun n d => 10 * n + (d.toNat - '0'.toNat)) 0, rest)

/-- Reads the version that a directive declares. -/
def readVersion (start : Mark) (c : Cursor) : Except Fault (TokenKind × Cursor) := do
  let (major, c) ← readNumber start (c.skipWhile isBlank)
  if c.rest.head? = some '.' then
    let (minor, c) ← readNumber start c.skip
    .ok (.versionDirective major minor, c)
  else c.fault .versionPointExpected (some (.versionDirective, start))

/-- Reads the handle that a directive declares, and the beginning of tags that it stands for. -/
def readHandleDeclaration (start : Mark) (c : Cursor) : Except Fault (TokenKind × Cursor) := do
  let c := c.skipWhile isBlank
  if c.rest.head? ≠ some '!' then c.fault .exclamationMarkExpected (some (.handleStart, start))
  else
    let (handle, c) := readHandle c
    if handle ≠ ['!'] ∧ ¬ isHandle handle then
      c.fault .exclamationMarkExpected (some (.handleRest, start))
    else if ¬ c.rest.head?.any isBlank then
      c.fault .blankExpected (some (.tagDirective, start))
    else
      let (value, c) ← readText true false .handleValue start (c.skipWhile isBlank)
      if blankAhead c.rest then .ok (.tagDirective handle value, c)
      else c.fault .blankOrBreakExpected (some (.tagDirective, start))

/-- Reads the name of a directive. -/
def readDirectiveName (start : Mark) (c : Cursor) : Except Fault (List Char × Cursor) :=
  let (name, c) := c.span isNameChar
  if name = [] then c.fault .directiveNameExpected (some (.directive, start))
  else if blankAhead c.rest then .ok (name, c)
  else c.fault .directiveNameInvalid (some (.directive, start))

/-- Reads the directive at a cursor, together with its line break. -/
def readDirective (c : Cursor) : Except Fault (Token × Cursor) := do
  let start := c.mark
  let (name, c) ← readDirectiveName start c.skip
  let (kind, c) ←
    if name = "YAML".toList then readVersion start c
    else if name = "TAG".toList then readHandleDeclaration start c
    else c.fault .directiveUnknown (some (.directive, start))
  let rest := c.skipToLineEnd
  if breakAhead rest.rest then .ok (⟨kind, start, c.mark⟩, rest.skipBreak)
  else rest.fault .lineEndExpected (some (.directive, start))

end Grok.Yaml.Tag
