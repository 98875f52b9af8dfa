import Grok.Engine
import Grok.Expansion
import Grok.Text.Utf8

namespace Grok

/-!
# Matchers

A matcher is a compiled grok expression. It searches a text and gives the captured fields as typed
values.

* `CaptureGroup` describes a field: its name, the groups that carry it, and its type.
* `Matcher.ofProgram` derives the descriptors from what the engine reports.
* `Matcher.captureText` and `Matcher.captureBytes` match a record.
* `Captures` is the resulting map from field names to values.
-/

/-- A map from field names to values; each name occurs once. -/
abbrev Captures : Type := List (String × Value)

namespace Captures

/-- Sets a field, in place of an earlier value. -/
def set (name : String) (value : Value) : Captures → Captures
  | [] => [(name, value)]
  | m :: ms => if m.1 = name then (name, value) :: ms else m :: set name value ms

/-- The value of a field. -/
def get? (c : Captures) (name : String) : Option Value := c.lookup name

/-- Sets all fields of the second map. -/
def merge (c d : Captures) : Captures := d.foldl (fun c m => c.set m.1 m.2) c

/-- The fields as a JSON object. -/
def json (c : Captures) : Json.Object := c.map fun m => (m.1, m.2.json)

end Captures

/-- A field that an expression captures. -/
structure CaptureGroup where
  name : String
  /-- The groups that carry the name, ascending. -/
  indexes : List Nat
  type : ValueType
  deriving DecidableEq, Repr

namespace CaptureGroup

/-- The type of a name: the type of the first reference that captures it as a field, else of the
    first reference that names a definition so and captures it under another name. -/
def typeOf (references : List Reference) (name : String) : ValueType :=
  match references.find? fun r => r.field = some name with
  | some r => r.type
  | none =>
    match references.find? fun r => r.name = name ∧ r.field.isSome with
    | some r => r.type
    | none => .string

/-- The descriptor of a reported group. -/
def ofReport (references : List Reference) (report : String × List Nat) : CaptureGroup where
  name := report.1
  indexes := report.2.mergeSort
  type := typeOf references report.1

/-- The place of a descriptor among the others: its lowest index, zero if it has none. -/
def position (g : CaptureGroup) : Nat := g.indexes.headD 0

/-- The text of the group with the lowest index among those that took part. There is none if no
    group took part, or if the offsets do not cut the text between two characters in order. -/
def slice? (g : CaptureGroup) (text : List Char) (offsets : Offsets) : Option (List Char) :=
  (g.indexes.findSome? offsets.group?).bind fun (start, stop) => Utf8.slice? start stop text

/-- The value of the field, if it is present. -/
def extract (g : CaptureGroup) (text : List Char) (offsets : Offsets) :
    Except Error (Option Value) :=
  match g.slice? text offsets with
  | none => .ok none
  | some part =>
    let raw := String.ofList part
    match g.type.convert raw with
    | some v => .ok (some v)
    | none => .error (.typeConversion g.name raw g.type)

/-- Adds the fields that are present, in the order of the descriptors. The first one whose text is
    no literal of its type fails the whole. -/
def extractAll (text : List Char) (offsets : Offsets) (captures : Captures) :
    List CaptureGroup → Except Error Captures
  | [] => .ok captures
  | g :: gs =>
    match g.extract text offsets with
    | .error e => .error e
    | .ok none => extractAll text offsets captures gs
    | .ok (some v) => extractAll text offsets (captures.set g.name v) gs

end CaptureGroup

/-- A compiled grok expression. -/
structure Matcher where
  /-- The references of the expression in the order in which they were opened. -/
  references : List Reference
  /-- The expanded expression. -/
  expression : String
  /-- The fields, ordered by their lowest group. -/
  groups : List CaptureGroup
  /-- The search of the engine. -/
  search : String → Except Error (Option Offsets)

namespace Matcher

/-- The matcher of an expression that the engine has compiled. -/
def ofProgram (references : List Reference) (expression : String) (program : Engine.Program) :
    Matcher where
  references := references
  expression := expression
  groups := (program.namedGroups.map (CaptureGroup.ofReport references)).mergeSort
    fun a b => a.position ≤ b.position
  search := program.search

/-- Matches a text: the captured fields, or `none` if the expression does not match. -/
def captureText (m : Matcher) (text : String) : Except Error (Option Captures) :=
  match m.search text with
  | .error e => .error e
  | .ok none => .ok none
  | .ok (some offsets) => (CaptureGroup.extractAll text.toList offsets [] m.groups).map some

/-- Matches bytes: well-formed UTF-8 as the text that it is, else what is ill-formed is replaced
    first. -/
def captureBytes (m : Matcher) (bytes : List UInt8) : Except Error (Option Captures) :=
  match Utf8.decode? bytes with
  | some text => m.captureText (String.ofList text)
  | none => m.captureText (String.ofList (Utf8.decodeLossy bytes))

/-- The reference at a position. -/
def referenceAt? (m : Matcher) (i : Nat) : Option Reference := m.references[i]?

/-- A reference to the definition `name`: the first that captures a field, else the last. -/
def referenceNamed? (m : Matcher) (name : String) : Option Reference :=
  (m.references.filter fun r => r.name = name).foldl (fun found r =>
    match found with
    | some f => if f.field.isSome then some f else some r
    | none => some r) none

/-- The descriptor of a field. -/
def group? (m : Matcher) (name : String) : Option CaptureGroup :=
  m.groups.find? fun g => g.name = name

/-- The matcher in print: its references and its expression. -/
def text (m : Matcher) : String :=
  "Matcher\x7bpatterns=[" ++ String.intercalate ", " (m.references.map Reference.text) ++
    "], expression=" ++ m.expression ++ "\x7d"

end Matcher

end Grok
