import Grok.Regex.Letter
import Grok.Text.CharSet

namespace Grok.Regex

/-!
# Syntax of expressions

* `Node` is a regular expression as a tree.
* `Node.lineBreak` and `Node.cluster` are the expressions behind `\R` and `\X`.
* `Node.mapWithin` and `Node.map` replace every node of a tree from the leaves up, and `Node.fold`
  visits them all.
-/

/-- A condition on a place of the text. -/
inductive Assertion where
  /-- the start of the text, `\A` -/
  | textStart
  /-- the end of the text, `\z` -/
  | textEnd
  /-- the end of the text, or a line break that ends it, `\Z` -/
  | lastLineEnd
  /-- the start of a line, `^` -/
  | lineStart
  /-- the end of a line, `$` -/
  | lineEnd
  /-- where the search starts, `\G` -/
  | searchStart
  /-- between a word and what surrounds it, `\b`; negated, `\B` -/
  | wordBoundary (negated : Bool)
  /-- between two grapheme clusters, `\y`; negated, `\Y` -/
  | clusterBoundary (negated : Bool)
  deriving DecidableEq, Repr

/-- How often something is repeated. -/
structure Quantifier where
  lower : Nat
  /-- The largest number of times, `none` for no bound. -/
  upper : Option Nat
  /-- Are more repetitions tried before fewer? -/
  greedy : Bool
  deriving DecidableEq, Repr

/-- The groups that a back-reference or a condition refers to. -/
structure GroupReference where
  groups : List Nat
  /-- Is it written with a name? -/
  byName : Bool
  /-- The depth of calls, relative to the current one, at which the group was matched. -/
  level : Option Int
  /-- Does it stand inside of one of the groups? Known once the expression is resolved. -/
  inside : Bool := false
  deriving DecidableEq, Repr

/-- The group that a call runs. -/
inductive Callee where
  /-- as written: by its number -/
  | number (n : Nat) (written : List Char)
  /-- as written: by its name -/
  | name (written : List Char)
  /-- as found; the call is recursive if the group leads to a group that the call stands in -/
  | group (index : Nat) (recursive : Bool)
  deriving DecidableEq, Repr

/-- How letters are written, which tells whether letter case counts. -/
inductive Spelling where
  /-- letters that stand for themselves -/
  | plain
  /-- letters that are equal without regard to case -/
  | folded
  /-- letters that stand for themselves, in bytes written as numbers -/
  | bytes
  deriving DecidableEq, Repr

/-- What happens to the place in the text and to its end. Both are remembered in numbered slots. A
    new end outlasts all attempts to match differently, until it is changed again. -/
inductive Limit where
  /-- remembers the place -/
  | savePlace (slot : Nat)
  /-- remembers the end -/
  | saveEnd (slot : Nat)
  /-- goes to the place in the slot -/
  | goTo (slot : Nat)
  /-- lets the text end at the place in the slot; `open_` tells whether nothing ends that again -/
  | endAt (slot : Nat) (open_ : Bool)
  /-- lets the text end at the end in the slot -/
  | restore (slot : Nat)
  /-- lets the text end where it ends -/
  | clear
  deriving DecidableEq, Repr

/-- A regular expression. -/
inductive Node where
  /-- one after the other -/
  | sequence (ns : List Node)
  /-- the first that leads to a match -/
  | alternatives (ns : List Node)
  /-- letters one after the other -/
  | text (ls : List Letter) (spelling : Spelling)
  /-- any character, or any but a line feed -/
  | any (dotAll : Bool)
  /-- a character of a word, or any other -/
  | word (negated : Bool)
  /-- a character of a set -/
  | set (s : CharSet)
  /-- nothing, where a condition holds -/
  | assertion (a : Assertion)
  /-- nothing; the match starts here -/
  | keep
  /-- the text that a group matched -/
  | backReference (r : GroupReference) (folded : Bool)
  /-- nothing, if a group took part -/
  | matched (r : GroupReference)
  /-- what a group would match here -/
  | call (c : Callee)
  | quantified (q : Quantifier) (n : Node)
  /-- a group with modes of its own -/
  | group (n : Node)
  | capture (index : Nat) (named : Bool) (n : Node)
  /-- the first way to match and no other -/
  | atomic (n : Node)
  /-- nothing, where `n` matches, or does not match, ahead -/
  | lookAhead (negated : Bool) (n : Node)
  /-- nothing, where `n` matches, or does not match, from `back` characters before; their number is
      known once the expression is settled -/
  | lookBehind (negated : Bool) (back : Nat) (n : Node)
  /-- `yes` behind a match of the condition, else `no` -/
  | conditional (condition yes no : Node)
  /-- `yes` behind a match of the condition, else nothing -/
  | provided (condition yes : Node)
  /-- `n`; if that leads to no match then `last`, which is not given up with the other choices -/
  | fallback (n last : Node)
  /-- nothing; the place or the end of the text changes -/
  | limit (l : Limit)
  /-- no match -/
  | fail
  deriving Repr

namespace Node

/-- Nothing. -/
def empty : Node := text [] .plain

/-- A text of characters that stand for themselves. -/
def ofChars (cs : List Char) : Node := text (cs.map Letter.ofChar) .plain

/-- The line breaks of a single character. -/
def breaks : CharSet := ⟨[⟨0x0A, 0x0D⟩, ⟨0x85, 0x85⟩, ⟨0x2028, 0x2029⟩]⟩

/-- A line break: a carriage return and a line feed, or one of the others. -/
def lineBreak : Node := conditional (ofChars ['\r', '\n']) empty (set breaks)

/-- A grapheme cluster. -/
def cluster : Node :=
  atomic (sequence [any true, quantified ⟨0, none, true⟩
    (sequence [assertion (.clusterBoundary true), any true])])

/-- Nodes one after the other; a single one stands for itself. -/
def ofSequence : List Node → Node
  | [n] => n
  | ns => sequence ns

/-- Nodes to choose from; a single one stands for itself. -/
def ofAlternatives : List Node → Node
  | [n] => n
  | ns => alternatives ns

mutual

/-- Replaces every node, from the leaves up; `f` also gets the groups that the node stands in. -/
def mapWithin (f : List Nat → Node → Node) (groups : List Nat) : Node → Node
  | sequence ns => f groups (sequence (mapAllWithin f groups ns))
  | alternatives ns => f groups (alternatives (mapAllWithin f groups ns))
  | quantified q n => f groups (quantified q (mapWithin f groups n))
  | group n => f groups (group (mapWithin f groups n))
  | capture i named n => f groups (capture i named (mapWithin f (i :: groups) n))
  | atomic n => f groups (atomic (mapWithin f groups n))
  | lookAhead negated n => f groups (lookAhead negated (mapWithin f groups n))
  | lookBehind negated back n => f groups (lookBehind negated back (mapWithin f groups n))
  | conditional c y n =>
    f groups (conditional (mapWithin f groups c) (mapWithin f groups y) (mapWithin f groups n))
  | provided c y => f groups (provided (mapWithin f groups c) (mapWithin f groups y))
  | fallback n m => f groups (fallback (mapWithin f groups n) (mapWithin f groups m))
  | text ls spelling => f groups (text ls spelling)
  | any dotAll => f groups (any dotAll)
  | word negated => f groups (word negated)
  | set s => f groups (set s)
  | assertion a => f groups (assertion a)
  | keep => f groups keep
  | backReference r folded => f groups (backReference r folded)
  | matched r => f groups (matched r)
  | call c => f groups (call c)
  | limit l => f groups (limit l)
  | fail => f groups fail

/-- Replaces every node of every tree. -/
def mapAllWithin (f : List Nat → Node → Node) (groups : List Nat) : List Node → List Node
  | [] => []
  | n :: ns => mapWithin f groups n :: mapAllWithin f groups ns

end

/-- Replaces every node, from the leaves up. -/
def map (f : Node → Node) (n : Node) : Node := n.mapWithin (fun _ => f) []

mutual

/-- Visits every node from left to right, a node before its parts. -/
def fold {α : Type} (f : α → Node → α) (a : α) : Node → α
  | sequence ns => foldAll f (f a (sequence ns)) ns
  | alternatives ns => foldAll f (f a (alternatives ns)) ns
  | quantified q n => fold f (f a (quantified q n)) n
  | group n => fold f (f a (group n)) n
  | capture i named n => fold f (f a (capture i named n)) n
  | atomic n => fold f (f a (atomic n)) n
  | lookAhead negated n => fold f (f a (lookAhead negated n)) n
  | lookBehind negated back n => fold f (f a (lookBehind negated back n)) n
  | conditional c y n => fold f (fold f (fold f (f a (conditional c y n)) c) y) n
  | provided c y => fold f (fold f (f a (provided c y)) c) y
  | fallback n m => fold f (fold f (f a (fallback n m)) n) m
  | text ls spelling => f a (text ls spelling)
  | any dotAll => f a (any dotAll)
  | word negated => f a (word negated)
  | set s => f a (set s)
  | assertion b => f a (assertion b)
  | keep => f a keep
  | backReference r folded => f a (backReference r folded)
  | matched r => f a (matched r)
  | call c => f a (call c)
  | limit l => f a (limit l)
  | fail => f a fail

/-- Visits every node of every tree. -/
def foldAll {α : Type} (f : α → Node → α) (a : α) : List Node → α
  | [] => a
  | n :: ns => foldAll f (fold f a n) ns

end

/-- The groups that back-references and conditions refer to, as often as they do. -/
def referredGroups (n : Node) : List Nat :=
  n.fold (fun gs m => match m with
    | backReference r _ => r.groups ++ gs
    | matched r => r.groups ++ gs
    | _ => gs) []

/-- The number of nodes. -/
def size (n : Node) : Nat := n.fold (fun k _ => k + 1) 0

end Node

end Grok.Regex
