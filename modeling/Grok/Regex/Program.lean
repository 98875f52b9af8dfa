import Grok.Regex.Head
import Grok.Regex.Settled

namespace Grok.Regex

/-!
# Programs

An expression is compiled to a program: instructions that are run one after the other, except where
they jump, choose or fail.

* `CharTest` is a set of characters that is tested fast.
* `Instruction` lists what a program can do.
* `Code` is a piece of a program together with its cost, by which repetitions are laid out.
* `Node.code` is the code of a tree.
* `Program.ofResolved` is the program of an expression.
-/

/-- A set of characters: a bit for each ASCII character, and ranges to search for the others. -/
structure CharTest where
  low : UInt64
  high : UInt64
  finder : CharSet.Finder

namespace CharTest

/-- The bits of the 64 code points from `first` on. -/
def bits (s : CharSet) (first : Nat) : UInt64 :=
  (List.range 64).foldl (fun b i =>
    if s.containsCode (first + i) then b ||| ((1 : UInt64) <<< UInt64.ofNat i) else b) 0

/-- The test for a set. -/
def ofSet (s : CharSet) : CharTest := ⟨bits s 0, bits s 64, s.finder⟩

/-- Is the character in the set? -/
@[inline] def contains (t : CharTest) (c : Char) : Bool :=
  if c.val < 64 then (t.low >>> c.val.toUInt64) &&& 1 == 1
  else if c.val < 128 then (t.high >>> (c.val.toUInt64 - 64)) &&& 1 == 1
  else t.finder.contains c

end CharTest

/-- An instruction. Places in the program are given by their distance from the instruction. -/
inductive Instruction where
  /-- takes a character -/
  | char (c : Char)
  /-- takes a character of a set -/
  | set (t : CharTest)
  /-- fails unless a condition holds -/
  | assertion (a : Assertion)
  /-- lets the match start here -/
  | keep
  /-- opens a group -/
  | openGroup (i : Nat)
  /-- closes a group -/
  | closeGroup (i : Nat)
  /-- goes on, and goes on at `other` if that fails -/
  | choose (other : Int)
  /-- goes on at `target`, and goes on here if that fails -/
  | prefer (target : Int)
  /-- goes on, and goes on at `other` if that fails; that choice stays when others are dropped -/
  | hold (other : Int)
  /-- goes on inside of a loop, and outside if that fails, as far as the guard lets it -/
  | enter (g : Guard) (outside : Int)
  | jump (target : Int)
  /-- runs a group and comes back -/
  | call (i : Nat)
  /-- comes back from a call -/
  | comeBack
  /-- remembers the place in the text and the choices that are left -/
  | mark
  /-- drops the choices since the mark -/
  | cut
  /-- drops the choices since the mark and goes back to its place in the text -/
  | rewind
  /-- drops the choices since the mark and fails -/
  | reject
  /-- forgets the mark -/
  | unmark
  /-- drops the last choice -/
  | drop
  /-- goes back by some characters -/
  | retreat (count : Nat)
  /-- takes the text of a group -/
  | backReference (r : GroupReference) (folded : Bool)
  /-- fails unless a group took part -/
  | matched (r : GroupReference)
  /-- starts to count repetitions; if none is needed, `exit` leads behind them -/
  | startLoop (lower : Nat) (greedy : Bool) (exit : Int)
  /-- counts a repetition and decides on one more -/
  | nextLap (q : Quantifier) (start : Int)
  /-- ends a loop -/
  | endLoop
  /-- starts a repetition that may be empty -/
  | startLap
  /-- ends a repetition; an empty one ends the loop and skips the next instruction, unless one of
      the `watched` groups has changed -/
  | endLap (watched : List Nat)
  /-- changes the place or the end of the text -/
  | limit (l : Limit)
  | fail
  /-- ends the match -/
  | accept

/-- A piece of a program, and what it costs: how repetitions are laid out depends on it. -/
structure Code where
  instructions : List Instruction
  cost : Nat

namespace Code

/-- No instruction. -/
def empty : Code := ⟨[], 0⟩

/-- Instructions that cost one each. -/
def ofList (is : List Instruction) : Code := ⟨is, is.length⟩

/-- One piece behind another. -/
def append (c d : Code) : Code := ⟨c.instructions ++ d.instructions, c.cost + d.cost⟩

instance : Append Code := ⟨append⟩

/-- The number of instructions. -/
def size (c : Code) : Nat := c.instructions.length

/-- A piece several times. -/
def times : Nat → Code → Code
  | 0, _ => empty
  | k + 1, c => c ++ times k c

/-- A piece at most so many times, as often as possible. -/
def upTo : Nat → Code → Code
  | 0, _ => empty
  | k + 1, c =>
    let rest := c ++ upTo k c
    ofList [.choose (rest.size + 1)] ++ rest

/-- A lap of a loop that ends if the lap is empty. -/
def lap (mayBeEmpty : Bool) (watched : List Nat) (c : Code) : Code :=
  if mayBeEmpty then ofList [.startLap] ++ c ++ ofList [.endLap watched] else c

/-- The largest cost of laps that are laid out one after the other instead of being counted. -/
def maxUnrolled : Nat := 10

/-- Laps without a bound. -/
def loop (greedy : Bool) (g : Guard) (c : Code) : Code :=
  if greedy then
    ofList [.enter g (c.size + 2)] ++ c ++ ofList [.jump (-(c.size + 1))]
  else ofList [.jump (c.size + 1)] ++ c ++ ofList [.choose (-c.size)]

/-- Laps of `c` that are counted. -/
def counted (q : Quantifier) (c : Code) : Code :=
  ofList [.startLoop q.lower q.greedy (c.size + 2)] ++ c ++
    ⟨[.nextLap q (-c.size), .endLoop], 1⟩

/-- A repetition of `c` that never gives anything back. -/
def settled (lower : Nat) (c : Code) : Code :=
  times lower c ++ ofList [.choose (c.size + 3)] ++ c ++ ofList [.drop, .jump (-(c.size + 2))]

/-- Pieces to choose from. -/
def choice : List Code → Code
  | [] => empty
  | [c] => c
  | c :: cs =>
    let rest := choice cs
    ofList [.choose (c.size + 2)] ++ c ++ ofList [.jump (rest.size + 1)] ++ rest

/-- Letters one after the other; it costs one for each run of letters of one width. -/
def letters (ls : List Letter) : Code :=
  ⟨ls.map fun l => match l.char? with
    | some c => .char c
    | none => .fail,
    runs none ls⟩
where
  /-- The number of runs behind a letter of the width `last`. -/
  runs (last : Option Nat) : List Letter → Nat
    | [] => 0
    | l :: ls => (if last = some l.width then 0 else 1) + runs (some l.width) ls

end Code

/-- What the code of a tree depends on. -/
structure CodeContext where
  /-- The groups that calls run. -/
  called : List Nat
  /-- The groups that back-references and conditions refer to, as often as they do. -/
  referred : List Nat
  emptyGroups : EmptyGroups

/-- The tests for any character, and for any but a line feed. -/
def anyTest : CharTest := .ofSet .full

/-- The test for any character but a line feed. -/
def lineTest : CharTest := .ofSet (CharSet.single 10).complement

/-- The test for characters of words. -/
def wordTest : CharTest := .ofSet word

/-- The test for all other characters. -/
def nonWordTest : CharTest := .ofSet word.complement

namespace Node

mutual

/-- The groups in a repetition that are not part of an inner one that may be empty. -/
def ownGroups (table : EmptyGroups) : Node → List Nat
  | capture i _ n => i :: ownGroups table n
  | quantified q n =>
    if q.upper = some 0 then ownGroups table n
    else if n.mayBeEmpty table then []
    else ownGroups table n
  | sequence ns => ownGroupsAll table ns
  | alternatives ns => ownGroupsAll table ns
  | group n => ownGroups table n
  | atomic n => ownGroups table n
  | conditional c y n => ownGroups table c ++ ownGroups table y ++ ownGroups table n
  | provided c y => ownGroups table c ++ ownGroups table y
  | fallback n m => ownGroups table n ++ ownGroups table m
  | _ => []

/-- The groups in parts of a repetition. -/
def ownGroupsAll (table : EmptyGroups) : List Node → List Nat
  | [] => []
  | n :: ns => ownGroups table n ++ ownGroupsAll table ns

end

/-- The groups of a repetition that are referred to from outside of it. -/
def watched (ctx : CodeContext) (body : Node) : List Nat :=
  if ctx.referred = [] then []
  else
    let inner := body.referredGroups
    (body.ownGroups ctx.emptyGroups).filter fun i => inner.count i < ctx.referred.count i

/-- Does a part of the tree hold a group that calls run? -/
def holdsCalled (ctx : CodeContext) (n : Node) : Bool :=
  ctx.called ≠ [] && (n.captures.map (·.1)).any ctx.called.contains

/-- The code of a repetition of `body` that is followed by `next`; `c` is the code of the body. -/
def repetitionCode (ctx : CodeContext) (q : Quantifier) (body : Node) (next : Option Node)
    (peek : Bool) (c : Code) : Code :=
  let mayBeEmpty := body.mayBeEmpty ctx.emptyGroups
  let lap := c.lap mayBeEmpty (if mayBeEmpty then body.watched ctx else [])
  if c.cost = 0 then .empty
  else if body.isSettled q next then c.settled q.lower
  else
    match q.upper with
    | none =>
      let guard := Guard.of q mayBeEmpty body (if peek then next else none)
      if q.lower = 1 ∧ Code.maxUnrolled < c.cost then
        .ofList [.jump 2] ++ lap.loop q.greedy guard
      else if q.lower ≤ 1 ∨ c.cost * q.lower ≤ Code.maxUnrolled then
        if q.greedy ∧ body.isAny then
          ⟨(c.times q.lower ++ lap.loop true guard).instructions, c.cost * q.lower + 1⟩
        else c.times q.lower ++ lap.loop q.greedy guard
      else lap.counted q
    | some 0 =>
      if body.holdsCalled ctx then .ofList [.jump (c.size + 1)] ++ c else .empty
    | some upper =>
      if q.greedy ∧ (upper = 1 ∨ (c.cost + 1) * upper ≤ Code.maxUnrolled) then
        c.times q.lower ++ c.upTo (upper - q.lower)
      else if q.lower = 0 ∧ upper = 1 then
        ⟨.prefer (c.size + 1) :: c.instructions, c.cost + 2⟩
      else lap.counted q

mutual

/-- The code of a tree that is followed by `next`, as far as that is known. A loop may look for the
    first byte of it if `peek` allows that. -/
def code (ctx : CodeContext) (next : Option Node) (peek : Bool) : Node → Code
  | sequence ns => codeAll ctx ns
  | alternatives ns => .choice (codesOf ctx ns)
  | text ls _ => .letters ls
  | any dotAll => .ofList [.set (if dotAll then anyTest else lineTest)]
  | word negated => .ofList [.set (if negated then nonWordTest else wordTest)]
  | set s => .ofList [.set (.ofSet s)]
  | assertion a => .ofList [.assertion a]
  | keep => .ofList [.keep]
  | backReference r folded => .ofList [.backReference r folded]
  | matched r => .ofList [.matched r]
  | call (.group i _) => .ofList [.call i]
  | call (.number _ _) => .empty
  | call (.name _) => .empty
  | quantified q n => repetitionCode ctx q n next peek (code ctx none true n)
  | group n => code ctx none true n
  | capture i _ n =>
    if ctx.called.contains i then
      let c := code ctx next false n
      .ofList [.call i, .jump (c.size + 4), .openGroup i] ++ c ++ .ofList [.closeGroup i, .comeBack]
    else .ofList [.openGroup i] ++ code ctx next peek n ++ .ofList [.closeGroup i]
  | atomic n => .ofList [.mark] ++ code ctx none true n ++ .ofList [.cut]
  | lookAhead false n => .ofList [.mark] ++ code ctx none true n ++ .ofList [.rewind]
  | lookAhead true n =>
    let c := code ctx none true n
    .ofList [.mark, .choose (c.size + 2)] ++ c ++ ⟨[.reject, .unmark], 3⟩
  | lookBehind false back n =>
    .ofList [.mark, .retreat back] ++ code ctx none true n ++ .ofList [.cut]
  | lookBehind true back n =>
    let c := code ctx none true n
    .ofList [.mark, .choose (c.size + 3), .retreat back] ++ c ++ ⟨[.reject, .unmark], 3⟩
  | conditional c y n =>
    conditionalCode (code ctx none true c) (code ctx none true y) (code ctx none true n)
  | provided c y => conditionalCode (code ctx none true c) (code ctx none true y) .empty
  | fallback n m =>
    let c := code ctx none true n
    let d := code ctx none true m
    .ofList [.hold (c.size + 2)] ++ c ++ .ofList [.jump (d.size + 1)] ++ d
  | limit l => .ofList [.limit l]
  | fail => .ofList [.fail]
where
  /-- The code of a conditional. -/
  conditionalCode (condition yes no : Code) : Code :=
    .ofList [.mark, .choose (condition.size + yes.size + 3)] ++ condition ++ .ofList [.cut] ++ yes ++
      .ofList [.jump (no.size + 2), .unmark] ++ no

/-- The code of trees one after the other. -/
def codeAll (ctx : CodeContext) : List Node → Code
  | [] => .empty
  | n :: ns => code ctx ns.head? true n ++ codeAll ctx ns

/-- The codes of trees to choose from. -/
def codesOf (ctx : CodeContext) : List Node → List Code
  | [] => []
  | n :: ns => code ctx none true n :: codesOf ctx ns

end

end Node

/-- A program. -/
structure Program where
  code : Array Instruction
  /-- Where the code of each group starts. -/
  entries : Array Nat
  /-- The number of groups. -/
  groups : Nat

namespace Program

/-- Where the code of each group starts. -/
def findEntries (groups : Nat) (code : List Instruction) : Array Nat :=
  (code.zipIdx.foldl (fun (es : Array Nat) (i, place) => match i with
    | .openGroup g => es.setIfInBounds g place
    | _ => es) (Array.replicate (groups + 1) 0))

/-- The program of a settled expression. -/
def ofResolved (r : Resolved) : Program :=
  let ctx : CodeContext := ⟨r.called, r.node.referredGroups, r.emptyGroups⟩
  let code := (r.node.code ctx none true).instructions
  let code :=
    if r.called.contains 0 then
      [.call 0, .accept, .openGroup 0] ++ code ++ [.closeGroup 0, .comeBack]
    else code ++ [.accept]
  ⟨code.toArray, findEntries r.groups code, r.groups⟩

end Program

end Grok.Regex
