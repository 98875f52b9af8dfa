import Grok.Yaml.Token
import Grok.Yaml.Token.Gap

namespace Grok.Yaml.Plain

/-!
# Plain scalars

A plain scalar is written without quotes. It ends at a colon that a blank follows, at a comment, at
a line that is not indented enough, and within flow collections at their indicators.

* `Plain.begins` tells whether a plain scalar can begin here.
* `Plain.read` reads the scalar at a cursor.
-/

/-- The characters that never begin a plain scalar, and those that do so only before some others. -/
def indicators : List Char := "-?:,[]{}#&*!|>'\"%@`".toList

/-- Can a plain scalar begin here? -/
def begins (inFlow : Bool) (cs : List Char) : Bool :=
  match cs with
  | [] => false
  | c :: rest =>
    (!(isBlank c || isBreak c) && !indicators.contains c) ||
      (c == '-' && !(rest.head?.any isBlank)) ||
      (!inFlow && (c == '?' || c == ':') && !blankAhead rest)

/-- The indicators of flow collections. -/
def isFlowIndicator (c : Char) : Bool :=
  c == ',' || c == '[' || c == ']' || c == '{' || c == '\x7d'

/-- Does a colon within a flow collection stand before one of its indicators? -/
def colonBeforeIndicator : List Char → Bool
  | ':' :: c :: _ => isFlowIndicator c || c == '?'
  | _ => false

/-- Does the scalar end here? -/
def endsAt (inFlow : Bool) : List Char → Bool
  | [] => true
  | c :: cs => (c == ':' && blankAhead cs) || (inFlow && isFlowIndicator c)

/-- Reads characters up to a gap or the end of the scalar, and adds them in reverse to those of
    `done`. A colon that may not stand here is the error. -/
def readWord (inFlow : Bool) (done : List Char) (m : Mark) :
    List Char → Except Mark (List Char × Cursor)
  | [] => .ok (done, ⟨[], m⟩)
  | c :: cs =>
    if blankAhead (c :: cs) then .ok (done, ⟨c :: cs, m⟩)
    else if inFlow && colonBeforeIndicator (c :: cs) then .error m
    else if endsAt inFlow (c :: cs) then .ok (done, ⟨c :: cs, m⟩)
    else readWord inFlow (c :: done) (m.after c) cs

/-- A plain scalar that was read. -/
structure Reading where
  /-- its characters, in reverse -/
  text : List Char
  /-- the place behind its last character -/
  stop : Mark
  /-- Does a line break lie between its last character and the cursor? -/
  broken : Bool
  cursor : Cursor

/-- Reads words and gaps up to the end of the scalar. `gap` stands between the characters read so
    far and the cursor; it counts only if more characters follow. The number bounds the words that
    are left. -/
def readWords (inFlow : Bool) (indent : Nat) (start : Mark) :
    Nat → List Char → Mark → Gap → Cursor → Except Fault Reading
  | 0, done, stop, gap, c => .ok ⟨done, stop, gap.isBroken, c⟩
  | words + 1, done, stop, gap, c =>
    if (c.mark.column = 0 ∧ indicatorAhead c.rest) ∨ c.rest.head? = some '#' then
      .ok ⟨done, stop, gap.isBroken, c⟩
    else
      match readWord inFlow [] c.mark c.rest with
      | .error m => .error (.malformed .colonUnexpected m (some (.plainScalar, start)))
      | .ok (word, c) =>
        let (done, stop, gap) :=
          if word = [] then (done, stop, gap)
          else (word ++ gap.text.reverse ++ done, c.mark, .blanks [])
        if c.rest = [] ∨ ¬ blankAhead c.rest then .ok ⟨done, stop, gap.isBroken, c⟩
        else
          match gap.read indent c with
          | .error m => .error (.malformed .tabUnexpected m (some (.plainScalar, start)))
          | .ok (gap, c) =>
            if ¬ inFlow ∧ c.mark.column < indent then .ok ⟨done, stop, gap.isBroken, c⟩
            else readWords inFlow indent start words done stop gap c

/-- Reads the plain scalar at a cursor. Lines that continue it have to be indented by `indent`
    columns, unless it stands in a flow collection. Also tells whether it ended behind a line
    break. -/
def read (inFlow : Bool) (indent : Nat) (c : Cursor) : Except Fault (Token × Bool × Cursor) := do
  let r ← readWords inFlow indent c.mark (c.rest.length + 1) [] c.mark (.blanks []) c
  .ok (⟨.scalar r.text.reverse .plain, c.mark, r.stop⟩, r.broken, r.cursor)

end Grok.Yaml.Plain
