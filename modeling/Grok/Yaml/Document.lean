import Grok.Yaml.Event

namespace Grok.Yaml

/-!
# Documents

A `Document` is the first document of a text: its nodes in order, as far as the text could be read.
A reader of nodes meets the fault of the text only when it asks for what lies behind.

* `Item` is a node that is a scalar or an alias, or an end of a collection.
* `Document.ofText` reads a text.
* `Document.target` are the items that an alias stands for.
-/

/-- What an item of a document is. -/
inductive ItemKind where
  /-- there is no document at all -/
  | void
  | scalar (s : Scalar)
  /-- an alias, by the number of its anchor -/
  | reference (anchor : Nat)
  | sequenceStart
  | sequenceEnd
  | mappingStart
  | mappingEnd
  deriving DecidableEq, Repr, Inhabited

/-- A part of a document and its place. -/
structure Item where
  kind : ItemKind
  mark : Mark
  deriving DecidableEq, Repr, Inhabited

/-- The first document of a text. -/
structure Document where
  items : List Item
  /-- The fault that ends the items. -/
  fault : Option Fault
  /-- The positions of the anchored items by the number of their anchor. -/
  anchors : List (Nat × Nat)
  /-- Does anything follow the document? -/
  continued : Bool
  deriving Repr

namespace Document

/-- What is known while a document is put together. -/
structure Builder where
  /-- the items so far, in reverse -/
  items : List Item := []
  /-- the anchors by name, with their numbers -/
  names : List (List Char × Nat) := []
  /-- the positions of the anchors, the latest first -/
  anchors : List (Nat × Nat) := []

namespace Builder

/-- The document with the items so far. -/
def finish (b : Builder) (fault : Option Fault) (continued : Bool) : Document :=
  ⟨b.items.reverse, fault, b.anchors, continued⟩

/-- Adds an item. -/
def add (b : Builder) (kind : ItemKind) (m : Mark) : Builder :=
  { b with items := ⟨kind, m⟩ :: b.items }

/-- Sets an anchor at the item that comes next. Its number is the number of names known before; the
    name may be known already and means the new item from then on. -/
def setAnchor (b : Builder) : Option (List Char) → Builder
  | none => b
  | some name =>
    let number := b.names.length
    { b with
      names := (name, number) :: b.names.filter fun e => e.1 ≠ name
      anchors := (number, b.items.length) :: b.anchors }

end Builder

/-- Is there an event other than the end of the text? -/
def goesOn (fault : Option Fault) : List Event → Bool
  | [] => fault.isSome
  | e :: _ => e.kind != .streamEnd

/-- Puts the first document together from events. -/
def ofEvents (fault : Option Fault) (b : Builder) : List Event → Document
  | [] => b.finish fault false
  | e :: es =>
    let add (kind : ItemKind) : Builder := (b.setAnchor e.anchor).add kind e.mark
    match e.kind with
    | .documentStart => ofEvents fault b es
    | .documentEnd => b.finish none (goesOn fault es)
    | .streamEnd => (b.add .void e.mark).finish none false
    | .reference name =>
      match b.names.lookup name with
      | some number => ofEvents fault (b.add (.reference number) e.mark) es
      | none => b.finish (some (.unknownAnchor e.mark)) true
    | .scalar s => ofEvents fault (add (.scalar s)) es
    | .sequenceStart => ofEvents fault (add .sequenceStart) es
    | .sequenceEnd => ofEvents fault (b.add .sequenceEnd e.mark) es
    | .mappingStart => ofEvents fault (add .mappingStart) es
    | .mappingEnd => ofEvents fault (b.add .mappingEnd e.mark) es

/-- The number of bytes in front of the first character that is not allowed. -/
def control? (offset : Nat) : List Char → Option Nat
  | [] => none
  | c :: cs => if isAllowed c then control? (offset + c.utf8Size) cs else some offset

/-- The first document of a text. -/
def ofText (cs : List Char) : Document :=
  match control? 0 cs with
  | some offset => ⟨[], some (.control offset), [], true⟩
  | none =>
    let (events, fault) := Event.ofText cs
    ofEvents fault {} events

/-- The items from the anchor of an alias on. -/
def target (d : Document) (anchor : Nat) : List Item :=
  match d.anchors.lookup anchor with
  | some position => d.items.drop position
  | none => []

/-- The fault that a reader meets who has read the whole document: the one of the text, or else that
    it goes on with another document. -/
def trailingFault? (d : Document) : Option Fault :=
  d.fault <|> if d.continued then some .severalDocuments else none

end Document

end Grok.Yaml
