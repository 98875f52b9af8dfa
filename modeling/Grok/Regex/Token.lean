import Grok.Regex.Escape
import Grok.Regex.Name
import Grok.Regex.Syntax

namespace Grok.Regex

/-!
# Tokens of expressions

`Token.next` reads the token at the head of an expression. What a token is depends on the modes, on
the groups opened so far and on their names.
-/

/-- How an expression is read. -/
structure Modes where
  /-- Is letter case disregarded? -/
  ignoreCase : Bool := false
  /-- Does `.` stand for line feeds too? -/
  dotAll : Bool := false
  /-- Are blanks and comments skipped? -/
  extended : Bool := false
  deriving DecidableEq, Repr

/-- The names of groups in the order in which they first appear, with the numbers of the groups that
    carry them. -/
abbrev GroupNames : Type := List (List Char × List Nat)

namespace GroupNames

/-- The groups that carry a name. -/
def groups (names : GroupNames) (name : List Char) : List Nat := (names.lookup name).getD []

/-- Gives a name to one more group. -/
def add (name : List Char) (group : Nat) : GroupNames → GroupNames
  | [] => [(name, [group])]
  | e :: es => if e.1 = name then (e.1, e.2 ++ [group]) :: es else e :: add name group es

end GroupNames

/-- A token of an expression outside of brackets. -/
inductive Token where
  | stop
  | alternative
  | openGroup
  | closeGroup
  | openBracket
  | any
  | quantifier (q : Quantifier) (possessive : Bool)
  | char (c : Char)
  /-- code points written as numbers -/
  | codes (ns : List Nat)
  /-- a byte written as a number -/
  | byte (n : Nat)
  /-- a character of a word, or any other -/
  | word (negated : Bool)
  | set (s : CharSet)
  | assertion (a : Assertion)
  | keep
  | lineBreak
  | cluster
  | backReference (r : GroupReference)
  | call (c : Callee)
  deriving DecidableEq, Repr

namespace Token

/-- The largest number of repetitions. -/
def maxRepeat : Nat := 100000

/-- The largest number that is read as a back-reference behind a backslash. -/
def maxBackReference : Nat := 1000

/-- What may follow a quantifier: a question mark makes it lazy, and, where `plus` allows it, a plus
    sign possessive. -/
def suffix (q : Quantifier) (plus : Bool) : List Char → Token × List Char
  | '?' :: rest => (quantifier { q with greedy := false } false, rest)
  | '+' :: rest => if plus then (quantifier q true, rest) else (quantifier q false, '+' :: rest)
  | rest => (quantifier q false, rest)

/-- Reads a number of repetitions. -/
def count (cs : List Char) : Except Fault (Option Nat × List Char) :=
  match Digits.split cs with
  | ([], rest) => .ok (none, rest)
  | (ds, rest) =>
    if maxRepeat < Digits.value ds then .error .repeatTooLarge else .ok (some (Digits.value ds), rest)

/-- Reads a quantifier behind its opening brace; `none` if the brace stands for itself. With the
    bounds in descending order it is possessive; neither then nor for a fixed number of times does a
    suffix belong to it. -/
def interval (cs : List Char) : Except Fault (Option (Token × List Char)) := do
  let (low, rest) ← count cs
  match low, rest with
  | _, ',' :: rest =>
    let (high, rest) ← count rest
    match low, high, rest with
    | none, none, _ => .ok none
    | low, high, '\x7d' :: rest =>
      let low := low.getD 0
      match high with
      | none => .ok (some (suffix ⟨low, none, true⟩ false rest))
      | some h =>
        if h < low then .ok (some (quantifier ⟨h, some low, true⟩ true, rest))
        else .ok (some (suffix ⟨low, some h, true⟩ false rest))
    | _, _, _ => .ok none
  | some n, '\x7d' :: rest => .ok (some (quantifier ⟨n, some n, true⟩ false, rest))
  | _, _ => .ok none

/-- The group that lies `n` groups from here. -/
def relative (groups : Nat) (n : Int) : Int := if 0 < n then groups + n else groups + 1 + n

/-- The groups that a name refers to. -/
def resolve (groups : Nat) (names : GroupNames) (name : Name) (level : Option Int) :
    Except Fault GroupReference :=
  match name with
  | .absolute n => if n = 0 then .error .invalidBackReference
    else .ok { groups := [n], byName := false, level := level }
  | .relative n =>
    let k := relative groups n
    if k ≤ 0 then .error .invalidBackReference
    else .ok { groups := [k.toNat], byName := false, level := level }
  | .word w =>
    match names.groups w with
    | [] => .error (.undefinedName w)
    | gs => .ok { groups := gs, byName := true, level := level }

/-- The group to call. -/
def callee (groups : Nat) (name : Name) (written : List Char) : Except Fault Callee :=
  match name with
  | .word w => .ok (.name w)
  | .absolute n => .ok (.number n written)
  | .relative n =>
    let k := relative groups n
    if k < 0 then .error (.undefinedGroup written) else .ok (.number k.toNat written)

/-- The token of a number behind a backslash. -/
def ofNumeric (letter : Char) : Escape.Numeric × List Char → Token × List Char
  | (.points ps, rest) => (codes (ps.filterMap fun
      | .code n => some n
      | .range => none), rest)
  | (.byte n, rest) => (byte n, rest)
  | (.letter, rest) => (char letter, rest)

/-- Reads a token behind a backslash. -/
def escaped (groups : Nat) (names : GroupNames) : List Char → Except Fault (Token × List Char)
  | [] => .error .endAtEscape
  | c :: rest =>
    match c, rest with
    | 'A', _ => .ok (assertion .textStart, rest)
    | 'Z', _ => .ok (assertion .lastLineEnd, rest)
    | 'z', _ => .ok (assertion .textEnd, rest)
    | 'G', _ => .ok (assertion .searchStart, rest)
    | 'b', _ => .ok (assertion (.wordBoundary false), rest)
    | 'B', _ => .ok (assertion (.wordBoundary true), rest)
    | 'y', _ => .ok (assertion (.clusterBoundary false), rest)
    | 'Y', _ => .ok (assertion (.clusterBoundary true), rest)
    | 'K', _ => .ok (keep, rest)
    | 'R', _ => .ok (lineBreak, rest)
    | 'X', _ => .ok (cluster, rest)
    | 'k', o :: inner =>
      if o = '<' ∨ o = '\'' then do
        let (name, level, _, rest) ← Name.reference (Name.closing o) inner
        .ok (backReference (← resolve groups names name level), rest)
      else .ok (char 'k', rest)
    | 'g', o :: inner =>
      if o = '<' ∨ o = '\'' then do
        let (name, written, rest) ← Name.callee (Name.closing o) inner
        .ok (call (← callee groups name written), rest)
      else .ok (char 'g', rest)
    | 'p', '\x7b' :: inner => (Escape.property false inner).map fun (s, rest) => (set s, rest)
    | 'P', '\x7b' :: inner => (Escape.property true inner).map fun (s, rest) => (set s, rest)
    | 'w', _ => .ok (word false, rest)
    | 'W', _ => .ok (word true, rest)
    | 'p', _ => .ok (char 'p', rest)
    | 'P', _ => .ok (char 'P', rest)
    | '0', _ => .ok (ofNumeric c (Escape.octal 2 rest))
    | _, _ =>
      match Escape.letterClass? c with
      | some s => .ok (set s, rest)
      | none =>
        if c = 'x' ∨ c = 'o' ∨ c = 'u' then (Escape.numeric c .outside rest).map (ofNumeric c)
        else if c.isDigit then
          let (ds, after) := Digits.split (c :: rest)
          let n := Digits.value ds
          if n ≤ maxBackReference ∧ (n ≤ groups ∨ n ≤ 9) then
            .ok (backReference { groups := [n], byName := false, level := none }, after)
          else if c = '8' ∨ c = '9' then .ok (char c, rest)
          else .ok (ofNumeric c (Escape.octal 3 (c :: rest)))
        else do
          let (n, after) ← Escape.controlled (c :: rest)
          if n = c.toNat then .ok (char c, rest) else .ok (codes [n], after)

/-- What follows a comment that is closed by a parenthesis. -/
def afterComment : List Char → Except Fault (List Char)
  | [] => .error .endInGroup
  | '\\' :: _ :: rest => afterComment rest
  | '\\' :: [] => .error .endInGroup
  | ')' :: rest => .ok rest
  | _ :: rest => afterComment rest

/-- Is `c` skipped in extended mode? -/
def isBlank (c : Char) : Bool := [' ', '\t', '\n', '\r', '\x0c'].contains c

/-- Reads the token at the head of an expression; gives it with what follows. At most `skips`
    comments and blanks are skipped before it. -/
def next (modes : Modes) (groups : Nat) (names : GroupNames) :
    (skips : Nat) → List Char → Except Fault (Token × List Char)
  | 0, _ => .ok (stop, [])
  | skips + 1, cs =>
    match cs with
    | [] => .ok (stop, [])
    | '\\' :: rest => escaped groups names rest
    | '.' :: rest => .ok (any, rest)
    | '*' :: rest => .ok (suffix ⟨0, none, true⟩ true rest)
    | '+' :: rest => .ok (suffix ⟨1, none, true⟩ true rest)
    | '?' :: rest => .ok (suffix ⟨0, some 1, true⟩ true rest)
    | '\x7b' :: rest => (interval rest).map fun t => t.getD (char '\x7b', rest)
    | '|' :: rest => .ok (alternative, rest)
    | '(' :: '?' :: '#' :: rest => do
      let rest ← afterComment rest
      next modes groups names skips rest
    | '(' :: rest => .ok (openGroup, rest)
    | ')' :: rest => .ok (closeGroup, rest)
    | '^' :: rest => .ok (assertion .lineStart, rest)
    | '$' :: rest => .ok (assertion .lineEnd, rest)
    | '[' :: rest => .ok (openBracket, rest)
    | c :: rest =>
      if modes.extended ∧ c = '#' then
        next modes groups names skips ((rest.dropWhile (· ≠ '\n')).drop 1)
      else if modes.extended ∧ isBlank c then next modes groups names skips rest
      else .ok (char c, rest)

end Token

end Grok.Regex
