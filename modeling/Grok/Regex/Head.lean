import Grok.Regex.Syntax
import Grok.Regex.Word

namespace Grok.Regex

/-!
# Heads

What the matches of an expression start with. A repetition need not keep its choices where what
follows starts differently from what is repeated.

* `Node.head?` is the head of an expression, if there is a single one.
* `Head.excludes` tells whether two heads exclude each other.
* `Node.isSettled` tells whether a repetition never has to give anything back.
* `Guard` tells when a repetition may be left.
-/

/-- What a match starts with. -/
inductive Head where
  /-- a text -/
  | text (ls : List Letter)
  /-- a character of a word, or any other -/
  | word (negated : Bool)
  /-- a character of a set -/
  | set (s : CharSet)
  deriving DecidableEq, Repr

namespace Head

/-- Does the set hold ASCII characters only? -/
def isAscii (s : CharSet) : Bool := s.ranges.all fun r => r.last < 0x80

/-- Does the set hold the letter? -/
def holds (s : CharSet) (l : Letter) : Bool := l.char?.any s.contains

/-- Is the letter a character of words? -/
def isWordLetter (l : Letter) : Bool := l.char?.any isWord

/-- Does a text that starts with the one head never start with the other? Sets that both hold more
    than ASCII characters are not compared. -/
def excludes : Head → Head → Bool
  | text ls, text ms => !(ls.isPrefixOf ms || ms.isPrefixOf ls)
  | text ls, set s => !ls.head?.any (holds s)
  | set s, text ls => !ls.head?.any (holds s)
  | text ls, word negated => ls.head?.any isWordLetter == negated
  | word negated, text ls => ls.head?.any isWordLetter == negated
  | word a, word b => a != b
  | set s, word negated => isAscii s && (s.inter (wordSet negated)).ranges.isEmpty
  | word negated, set s => isAscii s && (s.inter (wordSet negated)).ranges.isEmpty
  | set s, set t => (isAscii s || isAscii t) && (s.inter t).ranges.isEmpty
where
  /-- The characters of words, or all others. -/
  wordSet (negated : Bool) : CharSet := Regex.word.negateIf negated

/-- The first byte of the text. -/
def lead? : Head → Option Nat
  | text (l :: _) => some l.lead
  | _ => none

end Head

namespace Node

mutual

/-- The head of an expression. A node that takes any character has none, and a condition decides
    what a conditional starts with. -/
def head? : Node → Option Head
  | sequence ns => headAll? ns
  | text ls _ => if ls.isEmpty then none else some (.text ls)
  | word negated => some (.word negated)
  | set s => some (.set s)
  | quantified q n => if q.lower = 0 then none else head? n
  | group n => head? n
  | capture _ _ n => head? n
  | atomic n => head? n
  | lookAhead false n => head? n
  | conditional c _ _ => head? c
  | provided c _ => head? c
  | _ => none

/-- The head of expressions one after the other. -/
def headAll? : List Node → Option Head
  | [] => none
  | n :: _ => head? n

end

/-- Does the node take any character, or any but a line feed? -/
def isAny : Node → Bool
  | any _ => true
  | _ => false

/-- Is it a text or a character of a set? -/
def isPlain : Node → Bool
  | text ls _ => !ls.isEmpty
  | any _ => true
  | word _ => true
  | set _ => true
  | _ => false

/-- Does a repetition of `body` never have to give anything back, as what follows starts
    differently? -/
def isSettled (q : Quantifier) (body : Node) (next : Option Node) : Bool :=
  q.greedy && q.upper.isNone && q.lower ≤ 1 && body.isPlain &&
    match body.head?, next.bind head? with
    | some h, some k => h.excludes k
    | _, _ => false

end Node

/-- When a greedy repetition may go on and may be left. -/
inductive Guard where
  /-- always -/
  | none
  /-- a lap starts with this byte: without it the repetition is left -/
  | inside (lead : Nat)
  /-- what follows starts with this byte: without it the repetition is not left -/
  | outside (lead : Nat)
  /-- a lap takes any character: only at the end of the text the repetition is left at once -/
  | untilEnd
  deriving DecidableEq, Repr

/-- The guard of a repetition of `body`, which may be empty or not, before `next`. -/
def Guard.of (q : Quantifier) (mayBeEmpty : Bool) (body : Node) (next : Option Node) : Guard :=
  if !q.greedy ∨ q.upper ≠ .none then .none
  else
    match if mayBeEmpty then .none else body.head?.bind Head.lead? with
    | some b => .inside b
    | .none =>
      match (next.bind Node.head?).bind Head.lead? with
      | some (b + 1) => .outside (b + 1)
      | _ => if body.isAny then .untilEnd else .none

end Grok.Regex
