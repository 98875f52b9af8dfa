import Grok.Yaml.Cursor

namespace Grok.Yaml

/-!
# Gaps between the words of a scalar

Plain and quoted scalars may go on over several lines. What stands between two words is a `Gap`:
blanks within a line stay as they are, and line breaks are folded.

* `Gap.text` is what a gap contributes to the scalar.
* `Gap.read` reads the gap at a cursor.
-/

/-- What stands between two words. -/
inductive Gap where
  /-- blanks within a line, in reverse -/
  | blanks (cs : List Char)
  /-- line breaks: the first one, unless that was escaped, and the further ones in reverse -/
  | breaks (first : Option Char) (further : List Char)
  deriving DecidableEq, Repr, Inhabited

namespace Gap

/-- Does the gap hold a line break? -/
def isBroken : Gap → Bool
  | blanks _ => false
  | breaks _ _ => true

/-- What a gap contributes: a single line feed becomes a space, of several the first one is
    dropped, and other breaks are kept. -/
def text : Gap → List Char
  | blanks cs => cs.reverse
  | breaks none further => further.reverse
  | breaks (some first) further =>
    if first = '\n' then
      if further = [] then [' '] else further.reverse
    else first :: further.reverse

/-- Adds a blank, which counts only if there was no line break before. -/
def addBlank (c : Char) : Gap → Gap
  | blanks cs => blanks (c :: cs)
  | g => g

/-- Adds a line break, which drops the blanks before. -/
def addBreak (c : Char) : Gap → Gap
  | blanks _ => breaks (some c) []
  | breaks first further => breaks first (c :: further)

/-- Reads blanks and line breaks, adding them to a gap. Behind a line break no tab may stand in the
    first `indent` columns; the place of such a tab is the error. -/
def readFrom (indent : Nat) (g : Gap) (m : Mark) : List Char → Except Mark (Gap × Cursor)
  | [] => .ok (g, ⟨[], m⟩)
  | c :: cs =>
    if isBreak c then readFrom indent (g.addBreak c) (m.after c) cs
    else if isBlank c then
      if g.isBroken ∧ m.column < indent ∧ c = '\t' then .error m
      else readFrom indent (g.addBlank c) (m.after c) cs
    else .ok (g, ⟨c :: cs, m⟩)

/-- Reads the gap at a cursor, which goes on with one that was begun before. -/
def read (indent : Nat) (g : Gap) (c : Cursor) : Except Mark (Gap × Cursor) :=
  readFrom indent g c.mark c.rest

end Gap

end Grok.Yaml
