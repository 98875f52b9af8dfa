import Grok.Unicode.Class
import Grok.Log
import Grok.Value

namespace Grok

/-!
# References

A grok expression refers to a definition as `%{NAME}`, `%{NAME:field}` or `%{NAME:field:type}`.

* `Occurrence` holds the parts as written, `Occurrence.text` writes them back.
* `Occurrence.split?` reads one at the head of a text.
* `Piece.scan` cuts a text into occurrences and the characters between them.
* `Reference` is what an occurrence means: the type is looked up by its name.
-/

/-- The parts of a reference as written. -/
structure Occurrence where
  name : String
  field : Option String
  typeName : Option String
  deriving DecidableEq, Repr

namespace Occurrence

/-- Is `c` a character of definition names? -/
def isNameChar (c : Char) : Bool := ('A' ≤ c && c ≤ 'Z') || c.isDigit || c == '_'

/-- Is `c` a character of field and type names: a word character, a hyphen or a joiner? -/
def isFieldChar (c : Char) : Bool :=
  Unicode.isWord c || c == '-' || c == '\u200C' || c == '\u200D'

/-- An optional `:` with a name behind it, and what follows. -/
def splitField (cs : List Char) : Option (List Char) × List Char :=
  match cs with
  | ':' :: rest =>
    match rest.takeWhile isFieldChar with
    | [] => (none, cs)
    | name => (some name, rest.dropWhile isFieldChar)
  | _ => (none, cs)

/-- The occurrence at the head of a text, and what follows it. -/
def split? : List Char → Option (Occurrence × List Char)
  | '%' :: '\x7b' :: cs =>
    let name := cs.takeWhile isNameChar
    let (field, rest) := splitField (cs.dropWhile isNameChar)
    let (typeName, rest) := splitField rest
    match name, rest with
    | [], _ => none
    | _, '\x7d' :: rest =>
      some (⟨String.ofList name, field.map String.ofList, typeName.map String.ofList⟩, rest)
    | _, _ => none
  | _ => none

/-- A part behind a colon, if there is one. -/
def partText : Option String → List Char
  | none => []
  | some s => ':' :: s.toList

/-- The occurrence as written. -/
def text (o : Occurrence) : List Char :=
  '%' :: '\x7b' :: o.name.toList ++ partText o.field ++ partText o.typeName ++ ['\x7d']

end Occurrence

/-- A character of an expression that belongs to no reference, or a reference. -/
inductive Piece where
  | char (c : Char)
  | reference (o : Occurrence)
  deriving DecidableEq, Repr

namespace Piece

/-- Cuts a text into pieces; the first `skip` characters belong to the occurrence reported last. -/
def scanFrom : Nat → List Char → List Piece
  | _, [] => []
  | skip + 1, _ :: cs => scanFrom skip cs
  | 0, c :: cs =>
    match Occurrence.split? (c :: cs) with
    | some (o, rest) => .reference o :: scanFrom (cs.length - rest.length) cs
    | none => .char c :: scanFrom 0 cs

/-- The pieces of a text from left to right: an occurrence where one starts, else a character. -/
def scan (cs : List Char) : List Piece := scanFrom 0 cs

/-- A piece as written. -/
def text : Piece → List Char
  | .char c => [c]
  | .reference o => o.text

/-- The occurrences among pieces. -/
def occurrences (ps : List Piece) : List Occurrence :=
  ps.filterMap fun
    | .reference o => some o
    | .char _ => none

end Piece

/-- A reference to the definition `name`, captured as `field` if that is given. -/
structure Reference where
  name : String
  field : Option String
  type : ValueType
  deriving DecidableEq, Repr

namespace Reference

/-- The reference with the parts of an occurrence; an unknown type name stands for `string`. -/
def ofOccurrence (o : Occurrence) : Reference where
  name := o.name
  field := o.field
  type := (o.typeName.bind ValueType.ofName?).getD .string

/-- The message about an unknown type name. -/
def warnings (o : Occurrence) : List Log.Entry :=
  match o.typeName with
  | none => []
  | some t =>
    if (ValueType.ofName? t).isSome then []
    else [⟨.warn, "Unknown grok type `" ++ t ++ "` for `" ++ o.name
      ++ "`, falling back to `string`"⟩]

/-- A reference in full: with its field and type, or by its name alone if it has no field. -/
def text (r : Reference) : String :=
  match r.field with
  | none => "%\x7b" ++ r.name ++ "\x7d"
  | some f => "%\x7b" ++ r.name ++ ":" ++ f ++ ":" ++ r.type.name ++ "\x7d"

end Reference

end Grok
