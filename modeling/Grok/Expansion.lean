import Grok.Library.Basic
import Grok.Log
import Grok.Reference

namespace Grok

/-!
# Expansion

An expression is expanded by replacing every reference with the expansion of the definition it
names, wrapped in a named group where it is captured.

* `Expansion` holds the references that were opened, in order, and the text or the fault.
* `Progress` is what an expansion carries along.
* `Library.expandInto` expands a text from where an expansion stands, `Library.expand` an expression
  from the start.
-/

/-- The course of an expansion. -/
structure Expansion where
  /-- Every occurrence that was opened, each before the ones in its definition; with a fault, the
      last one is the occurrence at fault. -/
  opened : List Occurrence
  /-- The expanded text, or what went wrong. -/
  outcome : Except Error (List Char)

namespace Expansion

/-- A fragment as a group of the given name; the fragment is put in as it is. -/
def group (name : String) (fragment : List Char) : List Char :=
  "(?<".toList ++ name.toList ++ '>' :: fragment ++ [')']

/-- The fragment of a reference as it is put into the text: a group named for its field, else a
    group named for the definition, unless only fields are captured. -/
def wrap (fieldsOnly : Bool) (o : Occurrence) (fragment : List Char) : List Char :=
  match o.field with
  | some field => group field fragment
  | none => if fieldsOnly then fragment else group o.name fragment

/-- The references an expansion opened. -/
def references (e : Expansion) : List Reference := e.opened.map Reference.ofOccurrence

/-- The messages about the references an expansion opened. -/
def messages (e : Expansion) : List Log.Entry := e.opened.flatMap Reference.warnings

end Expansion

/-- Where an expansion stands. -/
structure Progress where
  /-- every occurrence opened so far, each before the ones in its definition -/
  opened : List Occurrence
  /-- the names of the definitions that are being expanded, the innermost first -/
  stack : List String

namespace Progress

/-- Nothing is expanded yet. -/
def start : Progress := ⟨[], []⟩

/-- One more occurrence is opened. -/
def opening (p : Progress) (o : Occurrence) : Progress := { p with opened := p.opened ++ [o] }

/-- The definition of a name is being expanded. -/
def push (p : Progress) (name : String) : Progress := { p with stack := name :: p.stack }

/-- The innermost definition is done. -/
def pop (p : Progress) : Progress := { p with stack := p.stack.tail }

/-- Expands pieces from left to right; `expand` is for one occurrence. The first fault ends it. -/
def expandPieces (fieldsOnly : Bool)
    (expand : Progress → Occurrence → Progress × Except Error (List Char)) :
    Progress → List Piece → Progress × Except Error (List Char)
  | p, [] => (p, .ok [])
  | p, .char c :: ps =>
    let (p, rest) := expandPieces fieldsOnly expand p ps
    (p, rest.map (c :: ·))
  | p, .reference o :: ps =>
    match expand p o with
    | (p, .error e) => (p, .error e)
    | (p, .ok fragment) =>
      let (p, rest) := expandPieces fieldsOnly expand p ps
      (p, rest.map (Expansion.wrap fieldsOnly o fragment ++ ·))

end Progress

namespace Library

/-- Expands a text from where an expansion stands. `depth` bounds how many more definitions can be
    opened; the definitions that are not on the stack are no more than that, so with none left every
    defined name is on the stack. -/
def expandInto (l : Library) (fieldsOnly : Bool) :
    Nat → Progress → List Char → Progress × Except Error (List Char)
  | depth, p, text =>
    Progress.expandPieces fieldsOnly
      (fun p o =>
        let p := p.opening o
        if o.name ∈ p.stack then (p, .error (.cyclicPattern o.name))
        else
          match l.get? o.name with
          | none => (p, .error (.unknownPattern o.name))
          | some body =>
            match depth with
            | 0 => (p, .error (.cyclicPattern o.name))
            | depth + 1 =>
              match l.expandInto fieldsOnly depth (p.push o.name) body.toList with
              | (p, .error e) => (p, .error e)
              | (p, .ok fragment) => (p.pop, .ok fragment))
      p (Piece.scan text)

/-- Expands an expression. -/
def expand (l : Library) (fieldsOnly : Bool) (expression : String) : Expansion :=
  let (p, outcome) := l.expandInto fieldsOnly l.size .start expression.toList
  ⟨p.opened, outcome⟩

end Library

end Grok
