import Grok.Yaml.Token
import Grok.Yaml.Token.Gap

namespace Grok.Yaml.Quoted

/-!
# Quoted scalars

Between single quotes a quote is written twice and nothing else is special. Between double quotes a
backslash begins an escape, and one at the end of a line joins it to the next line.

* `Quoted.escaped?` and `Quoted.escapeDigits?` are the escapes.
* `Quoted.read` reads the scalar that begins at a cursor.
-/

/-- The character that an escape without digits stands for. -/
def escaped? (c : Char) : Option Char :=
  [('0', '\x00'), ('a', '\x07'), ('b', '\x08'), ('t', '\t'), ('\t', '\t'), ('n', '\n'),
    ('v', '\x0b'), ('f', '\x0c'), ('r', '\r'), ('e', '\x1b'), (' ', ' '), ('"', '"'), ('/', '/'),
    ('\\', '\\'), ('N', '\u0085'), ('_', '\u00a0'), ('L', '\u2028'), ('P', '\u2029')].lookup c

/-- The number of hexadecimal digits of an escape that has some. -/
def escapeDigits? (c : Char) : Option Nat := [('x', 2), ('u', 4), ('U', 8)].lookup c

/-- The character of a number, unless it is a surrogate or too large. -/
def charOf? (n : Nat) : Option Char := if n.isValidChar then some (Char.ofNat n) else none

/-- What ended a run of characters without a gap. -/
inductive Stop where
  /-- the closing quote, a blank, a line break or the end of the text -/
  | ordinary
  /-- an escaped line break -/
  | escapedBreak
  deriving DecidableEq, Repr

/-- The character of an escape, given what follows the backslash and the place of that, and the
    number of characters it takes. Faults show at the backslash for an unknown escape, and behind
    the letter for bad digits. -/
def readEscape (start place : Mark) : List Char → Except Fault (Char × Nat)
  | [] => .error (.malformed .escapeUnknown place (some (.escape, start)))
  | c :: cs =>
    match escaped? c, escapeDigits? c with
    | some x, _ => .ok (x, 1)
    | none, none => .error (.malformed .escapeUnknown place (some (.escape, start)))
    | none, some n =>
      let place : Mark := ⟨place.line, place.column + 2⟩
      match (if n ≤ cs.length then hexNumber? (cs.take n) else none) with
      | none => .error (.malformed .hexadecimalExpected place (some (.escape, start)))
      | some value =>
        match charOf? value with
        | none => .error (.malformed .characterInvalid place (some (.escape, start)))
        | some x => .ok (x, n + 1)

/-- Reads characters up to a gap or the closing quote, and adds them in reverse to those of `done`.
    The first number counts characters that belong to an escape read before. -/
def readWord (double : Bool) (start : Mark) (done : List Char) (m : Mark) :
    Nat → List Char → Except Fault (List Char × Stop × Cursor)
  | _, [] => .ok (done, .ordinary, ⟨[], m⟩)
  | n + 1, c :: cs => readWord double start done (m.after c) n cs
  | 0, c :: cs =>
    if blankAhead (c :: cs) then .ok (done, .ordinary, ⟨c :: cs, m⟩)
    else if double then
      if c = '"' then .ok (done, .ordinary, ⟨c :: cs, m⟩)
      else if c = '\\' then
        match cs.head? with
        | some b =>
          if isBreak b then .ok (done, .escapedBreak, (⟨c :: cs, m⟩ : Cursor).drop 2)
          else
            match readEscape start m cs with
            | .error f => .error f
            | .ok (x, n) => readWord double start (x :: done) (m.after c) n cs
        | none => .error (.malformed .escapeUnknown m (some (.escape, start)))
      else readWord double start (c :: done) (m.after c) 0 cs
    else if c = '\'' then
      if cs.head? = some '\'' then readWord double start (c :: done) (m.after c) 1 cs
      else .ok (done, .ordinary, ⟨c :: cs, m⟩)
    else readWord double start (c :: done) (m.after c) 0 cs

/-- Reads words and gaps up to the closing quote, which ends the scalar. `done` is the text so far
    in reverse, and the number bounds the words that are left. -/
def readWords (double : Bool) (start : Mark) (quote : Char) :
    Nat → List Char → Cursor → Except Fault (List Char × Cursor)
  | 0, _, c => c.fault .endOfText (some (.quotedScalar, start))
  | words + 1, done, c =>
    if c.mark.column = 0 ∧ indicatorAhead c.rest then
      c.fault .documentIndicator (some (.quotedScalar, start))
    else if c.rest = [] then c.fault .endOfText (some (.quotedScalar, start))
    else do
      let (done, stop, c) ← readWord double start done c.mark 0 c.rest
      if c.rest.head? = some quote then .ok (done.reverse, c.skip)
      else
        let gap : Gap := if stop = .escapedBreak then .breaks none [] else .blanks []
        match gap.read 0 c with
        | .error m => .error (.malformed .tabUnexpected m (some (.quotedScalar, start)))
        | .ok (gap, c) => readWords double start quote words (gap.text.reverse ++ done) c

/-- Reads the quoted scalar at a cursor. -/
def read (c : Cursor) : Except Fault (Token × Cursor) := do
  let double := c.rest.head? = some '"'
  let quote := if double then '"' else '\''
  let (text, rest) ← readWords double c.mark quote (c.rest.length + 1) [] c.skip
  let style := if double then .doubleQuoted else .singleQuoted
  .ok (⟨.scalar text style, c.mark, rest.mark⟩, rest)

end Grok.Yaml.Quoted
