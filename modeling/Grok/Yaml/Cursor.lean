import Grok.Yaml.Fault

namespace Grok.Yaml

/-!
# Reading a text with its places

A text is read character by character with the place of each. Line breaks are unified before, so a
break is always one character.

* `unifyBreaks` writes every line break as one line feed, except the two Unicode separators.
* `Cursor` is the rest of a text and its place; `Cursor.skip`, `Cursor.drop` and `Cursor.span` move
  it.
-/

/-- Is the character allowed in a text at all? -/
def isAllowed (c : Char) : Bool :=
  let n := c.toNat
  n == 0x09 || n == 0x0A || n == 0x0D || (0x20 ≤ n && n ≤ 0x7E) || n == 0x85 ||
    (0xA0 ≤ n && n ≤ 0xD7FF) || (0xE000 ≤ n && n ≤ 0xFFFD) || 0x10000 ≤ n

/-- The next-line character, an alternative line feed. -/
def nextLine : Char := '\u0085'

/-- The characters that break lines after `unifyBreaks`. -/
def isBreak (c : Char) : Bool := c == '\n' || c == '\u2028' || c == '\u2029'

/-- A space or a tab. -/
def isBlank (c : Char) : Bool := c == ' ' || c == '\t'

/-- Writes carriage returns, with or without a line feed, and next-line characters as line feeds. -/
def unifyBreaks : List Char → List Char
  | '\r' :: '\n' :: cs => '\n' :: unifyBreaks cs
  | c :: cs => (if c = '\r' ∨ c = nextLine then '\n' else c) :: unifyBreaks cs
  | [] => []

/-- Does a blank, a break or the end come first? -/
def blankAhead : List Char → Bool
  | [] => true
  | c :: _ => isBlank c || isBreak c

/-- Does a break or the end come first? -/
def breakAhead : List Char → Bool
  | [] => true
  | c :: _ => isBreak c

/-- Does a text begin with three times the same character and a blank behind? -/
def tripleAhead (mark : Char) : List Char → Bool
  | a :: b :: c :: cs => a == mark && b == mark && c == mark && blankAhead cs
  | _ => false

/-- Does a text begin with `---` or `...`? -/
def indicatorAhead (cs : List Char) : Bool := tripleAhead '-' cs || tripleAhead '.' cs

/-- The characters of names: ASCII letters, digits, `_` and `-`. -/
def isNameChar (c : Char) : Bool := c.isAlphanum || c == '_' || c == '-'

/-- The value of a hexadecimal digit. -/
def hexValue? (c : Char) : Option Nat :=
  if c.isDigit then some (c.toNat - '0'.toNat)
  else if 'a' ≤ c ∧ c ≤ 'f' then some (c.toNat - 'a'.toNat + 10)
  else if 'A' ≤ c ∧ c ≤ 'F' then some (c.toNat - 'A'.toNat + 10)
  else none

/-- The number that hexadecimal digits denote. -/
def hexNumber? (cs : List Char) : Option Nat :=
  cs.foldlM (fun n c => (hexValue? c).map (16 * n + ·)) 0

/-- The place behind a character. -/
def Mark.after (m : Mark) (c : Char) : Mark :=
  if isBreak c then ⟨m.line + 1, 0⟩ else ⟨m.line, m.column + 1⟩

/-- The rest of a text and its place. -/
structure Cursor where
  rest : List Char
  mark : Mark := {}
  deriving DecidableEq, Repr, Inhabited

namespace Cursor

/-- Moves behind the next character. -/
def skip : Cursor → Cursor
  | ⟨[], m⟩ => ⟨[], m⟩
  | ⟨c :: cs, m⟩ => ⟨cs, m.after c⟩

/-- Moves behind some characters. -/
def drop : Nat → Cursor → Cursor
  | 0, c => c
  | n + 1, c => drop n c.skip

/-- The leading characters of a list that pass a test, and the cursor behind them. -/
def spanFrom (p : Char → Bool) (m : Mark) : List Char → List Char × Cursor
  | [] => ([], ⟨[], m⟩)
  | c :: cs =>
    if p c then
      let (run, rest) := spanFrom p (m.after c) cs
      (c :: run, rest)
    else ([], ⟨c :: cs, m⟩)

/-- The leading characters that pass a test, and the cursor behind them. -/
def span (p : Char → Bool) (c : Cursor) : List Char × Cursor := spanFrom p c.mark c.rest

/-- Moves behind the leading characters that pass a test. -/
def skipWhile (p : Char → Bool) (c : Cursor) : Cursor := (c.span p).2

/-- Moves behind a comment, if one begins here. -/
def skipComment (c : Cursor) : Cursor :=
  if c.rest.head? = some '#' then c.skipWhile fun x => !isBreak x else c

/-- Moves behind blanks and a comment to the end of the line. -/
def skipToLineEnd (c : Cursor) : Cursor := (c.skipWhile isBlank).skipComment

/-- Moves behind a line break, if one comes next. -/
def skipBreak (c : Cursor) : Cursor := if breakAhead c.rest then c.skip else c

/-- A fault at this place. -/
def fault {α : Type} (c : Cursor) (problem : Problem) (within : Option (Construct × Mark)) :
    Except Fault α :=
  .error (.malformed problem c.mark within)

end Cursor

end Grok.Yaml
