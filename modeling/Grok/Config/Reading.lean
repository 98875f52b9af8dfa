import Grok.Config.Basic
import Grok.Yaml.Document
import Grok.Yaml.Scalar

namespace Grok

/-!
# Reading configurations

A configuration is written as a YAML mapping from settings to their values. Settings that are left
out keep their defaults, and nothing but settings may occur.

* `Config.Setting` are the settings.
* `Config.Misfit` is why a well-formed text is no configuration.
* `Config.ofYaml` reads a text.
-/

namespace Config

/-- What a configuration consists of. -/
inductive Setting where
  | pattern
  | patterns
  | directories
  | definitions
  | fieldsOnly
  | firstMatchOnly
  | retryLimit
  deriving DecidableEq, Repr

namespace Setting

/-- All settings. -/
def all : List Setting :=
  [pattern, patterns, directories, definitions, fieldsOnly, firstMatchOnly, retryLimit]

/-- The key of a setting. -/
def key : Setting → String
  | pattern => "pattern"
  | patterns => "patterns"
  | directories => "patterns_dir"
  | definitions => "pattern_definitions"
  | fieldsOnly => "named_captures_only"
  | firstMatchOnly => "break_on_first_match"
  | retryLimit => "retry_limit"

/-- The setting of a key. -/
def ofKey? (cs : List Char) : Option Setting := all.find? fun s => s.key.toList = cs

end Setting

/-- What a node has to be. -/
inductive Expectation where
  | config
  | setting
  | string
  | path
  | strings
  | map
  | boolean
  | count
  deriving DecidableEq, Repr

namespace Expectation

/-- The wording of an expectation. -/
def text : Expectation → String
  | config => "struct Config"
  | setting => "field identifier"
  | string => "a string"
  | path => "path string"
  | strings => "a sequence"
  | map => "a map"
  | boolean => "a boolean"
  | count => "u32"

end Expectation

/-- Why a node does not fit. -/
inductive Misfit where
  /-- it is of another type -/
  | type (found : Yaml.Shape) (expected : Expectation)
  /-- it is of the right type, but no value of it -/
  | value (found : Yaml.Shape) (expected : Expectation)
  /-- its text contradicts its tag -/
  | tagged (text : List Char) (tag : Yaml.CoreTag)
  /-- there is no setting of the name -/
  | unknownSetting (name : List Char)
  /-- the setting occurs twice -/
  | repeatedSetting (s : Setting)
  deriving DecidableEq

namespace Misfit

/-- The wording of a misfit. -/
def text : Misfit → String
  | type found expected => "invalid type: " ++ found.text ++ ", expected " ++ expected.text
  | value found expected => "invalid value: " ++ found.text ++ ", expected " ++ expected.text
  | tagged cs tag =>
    "invalid value: " ++ (Yaml.Shape.string cs).text ++ ", expected " ++ tag.expectation
  | unknownSetting name =>
    "unknown field `" ++ String.ofList name ++ "`, expected one of " ++
      String.intercalate ", " (Setting.all.map fun s => "`" ++ s.key ++ "`")
  | repeatedSetting s => "duplicate field `" ++ s.key ++ "`"

end Misfit

/-- Why a text is no configuration. -/
inductive Fault where
  /-- it is no YAML -/
  | yaml (f : Yaml.Fault)
  /-- a node does not fit; its path is empty for the whole text -/
  | misfit (m : Misfit) (path : String) (place : Yaml.Mark)
  deriving DecidableEq

namespace Fault

/-- The wording of a fault. -/
def message : Fault → String
  | yaml f => f.message
  | misfit m path place => (if path = "" then "" else path ++ ": ") ++ m.text ++ place.suffix

end Fault

/-- The items that are left of a document. -/
abbrev Items : Type := List Yaml.Item

namespace Reading

variable {α : Type}

/-- What a reader meets who asks for more items than there are: they end early only where the text
    has a fault. -/
def exhausted (d : Yaml.Document) : Except Fault α :=
  .error (.yaml (d.fault.getD .severalDocuments))

/-- A node that does not fit. -/
def fail (m : Misfit) (path : String) (place : Yaml.Mark) : Except Fault α :=
  .error (.misfit m path place)

/-- An item that is not what is expected. -/
def mismatch (expected : Expectation) (path : String) (i : Yaml.Item) : Except Fault α :=
  let found : Except Yaml.CoreTag Yaml.Shape :=
    match i.kind with
    | .scalar s => s.shape
    | .sequenceStart => .ok .sequence
    | .mappingStart => .ok .map
    | _ => .ok .unit
  match found, i.kind with
  | .ok shape, _ => fail (.type shape expected) path i.mark
  | .error tag, .scalar s => fail (.tagged s.text tag) path i.mark
  | .error tag, _ => fail (.tagged [] tag) path i.mark

/-- An item that was looked up. -/
structure Found where
  item : Yaml.Item
  /-- what follows the item -/
  inner : Items
  /-- what follows the alias that led to the item, if there was one -/
  resume : Option Items

/-- What is left behind a node that ends before `behind`. -/
def Found.rest (f : Found) (behind : Items) : Items := f.resume.getD behind

/-- What is left behind a single item. -/
def Found.after (f : Found) : Items := f.rest f.inner

/-- The next item, or the one that it is an alias of. -/
def next (d : Yaml.Document) : Items → Except Fault Found
  | [] => exhausted d
  | i :: is =>
    match i.kind with
    | .reference anchor =>
      match d.target anchor with
      | [] => exhausted d
      | j :: js => .ok ⟨j, js, some is⟩
    | _ => .ok ⟨i, is, none⟩

/-- Reads a text from a single item. -/
def text (d : Yaml.Document) (expected : Expectation) (path : String) (is : Items) :
    Except Fault (List Char × Items) := do
  let f ← next d is
  match f.item.kind with
  | .scalar s => .ok (s.text, f.after)
  | _ => mismatch expected path f.item

/-- Reads a truth value. -/
def boolean (d : Yaml.Document) (path : String) (is : Items) : Except Fault (Bool × Items) := do
  let f ← next d is
  match f.item.kind with
  | .scalar s =>
    match s.boolean? with
    | some b => .ok (b, f.after)
    | none => mismatch .boolean path f.item
  | _ => mismatch .boolean path f.item

/-- Reads a number of 32 bits. -/
def count (d : Yaml.Document) (path : String) (is : Items) : Except Fault (UInt32 × Items) := do
  let f ← next d is
  match f.item.kind with
  | .scalar s =>
    match s.unsigned? with
    | some n =>
      if n.toNat < Nat.pow 2 32 then .ok (n.toUInt32, f.after)
      else fail (.value (.integer n.toNat) .count) path f.item.mark
    | none => mismatch .count path f.item
  | _ => mismatch .count path f.item

/-- Reads a value that may be left out. A text that contradicts its tag is reported for the mapping
    at `outer` that the value belongs to. -/
def optional (d : Yaml.Document) (outer : Yaml.Mark)
    (read : Items → Except Fault (α × Items)) (is : Items) :
    Except Fault (Option α × Items) := do
  let f ← next d is
  let absent : Except Fault Bool :=
    match f.item.kind with
    | .scalar s =>
      match s.isAbsent with
      | .ok b => .ok b
      | .error tag => fail (.tagged s.text tag) "" outer
    | _ => .ok false
  if ← absent then .ok (none, f.after)
  else
    let (a, rest) ← read is
    .ok (some a, rest)

/-- Reads the texts of a sequence up to its end. -/
def textsFrom (d : Yaml.Document) (expected : Expectation) (path : String) (index : Nat) :
    Items → Except Fault (List String × Items)
  | [] => exhausted d
  | i :: is =>
    match i.kind with
    | .sequenceEnd => .ok ([], is)
    | _ => do
      let (cs, _) ← text d expected (path ++ "[" ++ toString index ++ "]") (i :: is)
      let (rest, after) ← textsFrom d expected path (index + 1) is
      .ok (String.ofList cs :: rest, after)

/-- Is there nothing where a collection is expected? That counts as an empty one. -/
def isEmptyNode (i : Yaml.Item) : Bool :=
  match i.kind with
  | .void => true
  | .scalar s => s.isEmpty
  | _ => false

/-- Reads a sequence of texts. -/
def texts (d : Yaml.Document) (expected : Expectation) (path : String) (is : Items) :
    Except Fault (List String × Items) := do
  let f ← next d is
  if f.item.kind = .sequenceStart then
    let (texts, behind) ← textsFrom d expected path 0 f.inner
    .ok (texts, f.rest behind)
  else if isEmptyNode f.item then .ok ([], f.after)
  else mismatch .strings path f.item

/-- The path of the value of a key. The key of an alias or of a collection does not show. -/
def valuePath (path : String) (i : Yaml.Item) : String :=
  let inner := match i.kind with
    | .scalar s => String.ofList s.text
    | _ => "?"
  if path = "" then inner else path ++ "." ++ inner

/-- Reads the definitions of a mapping up to its end. -/
def definitionsFrom (d : Yaml.Document) (path : String) (found : Library) :
    Items → Except Fault (Library × Items)
  | [] => exhausted d
  | [i] => do
    match i.kind with
    | .mappingEnd => .ok (found, [])
    | _ =>
      let _ ← text d .string path [i]
      exhausted d
  | i :: j :: is =>
    match i.kind with
    | .mappingEnd => .ok (found, j :: is)
    | _ => do
      let (name, _) ← text d .string path (i :: j :: is)
      let (body, _) ← text d .string (valuePath path i) (j :: is)
      definitionsFrom d path (found.insert ⟨String.ofList name, String.ofList body⟩) is

/-- Reads a mapping of definitions. -/
def definitions (d : Yaml.Document) (path : String) (is : Items) :
    Except Fault (Library × Items) := do
  let f ← next d is
  if f.item.kind = .mappingStart then
    let (found, behind) ← definitionsFrom d path .empty f.inner
    .ok (found, f.rest behind)
  else if isEmptyNode f.item then .ok (.empty, f.after)
  else mismatch .map path f.item

/-- Reads the value of a setting into a configuration. -/
def value (d : Yaml.Document) (outer : Yaml.Mark) (path : String) (c : Config) (s : Setting)
    (is : Items) : Except Fault (Config × Items) := do
  match s with
  | .pattern =>
    let (cs, is) ← optional d outer (text d .string path) is
    .ok ({ c with pattern := cs.map String.ofList }, is)
  | .patterns =>
    let (ss, is) ← texts d .string path is
    .ok ({ c with patterns := ss }, is)
  | .directories =>
    let (ss, is) ← texts d .path path is
    .ok ({ c with directories := ss }, is)
  | .definitions =>
    let (l, is) ← definitions d path is
    .ok ({ c with definitions := l }, is)
  | .fieldsOnly =>
    let (b, is) ← boolean d path is
    .ok ({ c with fieldsOnly := b }, is)
  | .firstMatchOnly =>
    let (b, is) ← boolean d path is
    .ok ({ c with firstMatchOnly := b }, is)
  | .retryLimit =>
    let (n, is) ← optional d outer (count d path) is
    .ok ({ c with retryLimit := n }, is)

/-- Reads the key of a setting. -/
def setting (d : Yaml.Document) (is : Items) : Except Fault (Setting × Items) := do
  let f ← next d is
  match f.item.kind with
  | .scalar s =>
    match Setting.ofKey? s.text with
    | some setting => .ok (setting, f.after)
    | none => fail (.unknownSetting s.text) "" f.item.mark
  | _ => mismatch .setting "" f.item

/-- Reads the settings of a mapping that started at `outer` up to its end; those of `seen` may not
    occur again. The number bounds the settings that are left. -/
def settingsFrom (d : Yaml.Document) (outer : Yaml.Mark) :
    Nat → List Setting → Config → Items → Except Fault Config
  | 0, _, _, _ => exhausted d
  | _, _, _, [] => exhausted d
  | fuel + 1, seen, c, i :: is =>
    match i.kind with
    | .mappingEnd => .ok c
    | _ => do
      let (s, rest) ← setting d (i :: is)
      if seen.contains s then fail (.repeatedSetting s) "" outer
      else
        let (c, rest) ← value d outer (valuePath "" i) c s rest
        settingsFrom d outer fuel (s :: seen) c rest

/-- Reads a whole document. -/
def config (d : Yaml.Document) : Except Fault Config := do
  let f ← next d d.items
  if f.item.kind = .mappingStart then
    settingsFrom d f.item.mark f.inner.length [] {} f.inner
  else if isEmptyNode f.item then .ok {}
  else mismatch .config "" f.item

end Reading

/-- Reads a configuration. Nodes that do not fit are reported before faults of the text behind
    them. -/
def read (cs : List Char) : Except Fault Config := do
  let d := Yaml.Document.ofText cs
  let c ← Reading.config d
  match d.trailingFault? with
  | some f => .error (.yaml f)
  | none => .ok c

/-- Reads a configuration from a YAML text. -/
def ofYaml (text : String) : Except Error Config :=
  (read text.toList).mapError fun f => .configuration f.message

end Config

end Grok
