import Grok.Yaml.Token

namespace Grok.Yaml.Block

/-!
# Block scalars

A block scalar consists of indented lines below an indicator: `|` keeps their line breaks, `>` folds
them. Behind the indicator may stand the number of columns it is indented by and what happens to the
line breaks at its end.

* `Block.Header` is what the line of the indicator says.
* `Block.read` reads the scalar at a cursor.
-/

/-- What happens to the line breaks at the end. -/
inductive Chomping where
  /-- all are dropped -/
  | strip
  /-- the first one is kept -/
  | clip
  /-- all are kept -/
  | keep
  deriving DecidableEq, Repr

/-- What the line of the indicator says. -/
structure Header where
  chomping : Chomping := .clip
  /-- The additional indentation, if it is given. -/
  increment : Option Nat := none
  deriving DecidableEq, Repr

/-- The chomping that a character asks for. -/
def chomping? (c : Char) : Option Chomping :=
  if c = '+' then some .keep else if c = '-' then some .strip else none

/-- Reads the chomping, if it comes next. -/
def readChomping (c : Cursor) : Option Chomping × Cursor :=
  match c.rest.head?.bind chomping? with
  | some x => (some x, c.skip)
  | none => (none, c)

/-- Reads the indentation, if it comes next. -/
def readIncrement (start : Mark) (c : Cursor) : Except Fault (Option Nat × Cursor) :=
  match c.rest.head? with
  | some d =>
    if d = '0' then c.fault .indentationZero (some (.blockScalar, start))
    else if d.isDigit then .ok (some (d.toNat - '0'.toNat), c.skip)
    else .ok (none, c)
  | none => .ok (none, c)

/-- Reads what stands behind the indicator, in either order, up to the end of the line. -/
def readHeader (start : Mark) (c : Cursor) : Except Fault (Header × Cursor) := do
  let (before, c) := readChomping c
  let (increment, c) ← readIncrement start c
  let (after, c) := if before.isNone ∧ increment.isSome then readChomping c else (none, c)
  let c := c.skipToLineEnd
  if breakAhead c.rest then
    .ok (⟨((before <|> after).getD .clip), increment⟩, c.skipBreak)
  else c.fault .lineEndExpected (some (.blockScalar, start))

/-- The empty lines in front of a line with content. -/
structure Breaks where
  /-- their line breaks, in reverse -/
  breaks : List Char
  /-- the largest column that was reached -/
  widest : Nat
  /-- the place behind the last of the line breaks -/
  stop : Mark
  cursor : Cursor

/-- Reads indentation and line breaks. Without an indentation given all spaces count; else they
    count only up to its column. The place of a tab within the indentation is the error. -/
def readBreaks (indent : Option Nat) (breaks : List Char) (widest : Nat) (stop : Mark) (m : Mark) :
    List Char → Except Mark Breaks
  | [] => .ok ⟨breaks, max widest m.column, stop, ⟨[], m⟩⟩
  | c :: cs =>
    let indenting := indent.all fun i => m.column < i
    if indenting ∧ c = ' ' then readBreaks indent breaks widest stop (m.after c) cs
    else if indenting ∧ c = '\t' then .error m
    else if isBreak c then
      readBreaks indent (c :: breaks) (max widest m.column) (m.after c) (m.after c) cs
    else .ok ⟨breaks, max widest m.column, stop, ⟨c :: cs, m⟩⟩

/-- Does a line break between two lines become a space? It does so where a folded scalar has text on
    both sides, and where no empty line follows, as then there are further line breaks. -/
def joint (folded : Bool) (first : Option Char) (further : List Char)
    (blankBefore blankBehind : Bool) : List Char :=
  if folded ∧ first = some '\n' ∧ ¬ blankBefore ∧ ¬ blankBehind then
    if further = [] then [' '] else further.reverse
  else first.toList ++ further.reverse

/-- The lines of a scalar that were read. -/
structure Lines where
  /-- the text up to the end of the last line, in reverse -/
  text : List Char
  /-- the line break that ends the last line -/
  first : Option Char
  /-- the line breaks behind that, in reverse -/
  further : List Char
  stop : Mark
  cursor : Cursor

/-- Reads the lines that are indented by `indent` columns. `l` holds what was read before, and
    `blankBefore` tells whether its last line began with a blank. The number bounds the lines that
    are left. -/
def readLines (folded : Bool) (indent : Nat) (start : Mark) :
    Nat → Bool → Lines → Except Fault Lines
  | 0, _, l => .ok l
  | lines + 1, blankBefore, l =>
    let c := l.cursor
    if c.mark.column = indent ∧ c.rest ≠ [] then
      let blank := c.rest.head?.any isBlank
      let (line, c) := c.span fun x => !isBreak x
      let text := line.reverse ++ (joint folded l.first l.further blankBefore blank).reverse ++ l.text
      let first := c.rest.head?
      let c := c.skipBreak
      match readBreaks (some indent) [] 0 c.mark c.mark c.rest with
      | .error m => .error (.malformed .indentationByTab m (some (.blockScalar, start)))
      | .ok b => readLines folded indent start lines blank ⟨text, first, b.breaks, b.stop, b.cursor⟩
    else .ok l

/-- The whole text of a scalar. -/
def Lines.value (l : Lines) : Chomping → List Char
  | .strip => l.text.reverse
  | .clip => l.text.reverse ++ l.first.toList
  | .keep => l.text.reverse ++ l.first.toList ++ l.further.reverse

/-- Reads the block scalar at a cursor, within a collection that is indented by `outer` columns. -/
def read (outer : Option Nat) (c : Cursor) : Except Fault (Token × Cursor) := do
  let start := c.mark
  let folded := c.rest.head? = some '>'
  let (header, c) ← readHeader start c.skip
  let given := header.increment.map fun n => outer.getD 0 + n
  match readBreaks given [] 0 c.mark c.mark c.rest with
  | .error m => .error (.malformed .indentationByTab m (some (.blockScalar, start)))
  | .ok b =>
    let least := (outer.map (· + 1)).getD 0
    let indent := given.getD (max b.widest (max least 1))
    let l ← readLines folded indent start (c.rest.length + 1) false
      ⟨[], none, b.breaks, b.stop, b.cursor⟩
    let style := if folded then .folded else .literal
    .ok (⟨.scalar (l.value header.chomping) style, start, l.stop⟩, l.cursor)

end Grok.Yaml.Block
