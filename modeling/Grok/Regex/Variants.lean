import Grok.Regex.Syntax
import Grok.Unicode.CaseFolding

namespace Grok.Regex

/-!
# Letter case

A text that is compared without regard to case becomes a choice between the texts that are equal to
it. A single letter and several letters may be equal, as `ß` and `ss` are.

* `Node.variants` and `Node.singleVariants` are the nodes that a text becomes.
* `Node.ofFoldedSet` is the node of a set.
-/

namespace Node

/-- The text of some code points. -/
def ofCodes (ns : List Nat) : Node := text (ns.map Letter.ofCode) .plain

/-- Appends letters that stand for themselves to nodes in reverse order. -/
def appendLetters (ls : List Letter) : List Node → List Node
  | text ms .plain :: ns => text (ms ++ ls) .plain :: ns
  | ns => text ls .plain :: ns

/-- The folding of a code point that is part of a longer folding, unless it has a longer one. -/
def foldPart (n : Nat) : Nat :=
  match Unicode.foldCode n with
  | [m] => m
  | _ => n

/-- A text at the start of which `ls` stand, or what is equal to it: the code points `singles`, and
    the texts that fold to `folding`. -/
def choice (ls : List Letter) (singles folding : List Nat) : Node :=
  let written := ls.map Letter.code
  alternatives (text ls .plain :: ((singles.map fun n => [n]) ++ Unicode.textVariants folding).filterMap
    fun ns => if ns = written then none else some (ofCodes ns))

/-- Several letters at the start of a text that are together equal to a single one: their number,
    and the choice that they stand for. -/
def joint? (ls : List Letter) : Option (Nat × Node) :=
  attempt 3 <|> attempt 2
where
  /-- The first letters. -/
  attempt (count : Nat) : Option (Nat × Node) :=
    let part := ls.take count
    let folding := part.map fun l => foldPart l.code
    match if part.length = count then Unicode.unfold folding else [] with
    | [] => none
    | singles => some (count, choice part singles folding)

/-- What a letter stands for by itself: a set, a choice, or nothing but itself. -/
def alone? (l : Letter) : Option Node :=
  match Unicode.foldCode l.code with
  | [m] =>
    match Unicode.singleVariants m with
    | [_] => none
    | ns => some (set (.ofRanges (ns.map fun n => ⟨n, n⟩)))
  | ms => some (choice [l] (Unicode.unfold ms) ms)

/-- The nodes that a text of letters stands for, behind the nodes `done`, which come in reverse
    order. Each takes up at least one letter. -/
def variantsFrom : (fuel : Nat) → (done : List Node) → List Letter → List Node
  | 0, done, _ => done.reverse
  | _ + 1, done, [] => done.reverse
  | fuel + 1, done, l :: ls =>
    match joint? (l :: ls) with
    | some (count, n) => variantsFrom fuel (n :: done) ((l :: ls).drop count)
    | none =>
      match alone? l with
      | some n => variantsFrom fuel (n :: done) ls
      | none => variantsFrom fuel (appendLetters [l] done) ls

/-- What is equal to a text without regard to case. -/
def variants (ls : List Letter) : Node :=
  match variantsFrom ls.length [] ls with
  | [] => text ls .plain
  | ns => ofSequence ns

/-- The single characters that are equal to a letter: a set, if there are others. -/
def single? (l : Letter) : Option Node :=
  let ns := match Unicode.foldCode l.code with
    | [m] => Unicode.singleVariants m
    | ms => Unicode.unfold ms
  match ns with
  | [_] => none
  | ns => some (set (.ofRanges (ns.map fun n => ⟨n, n⟩)))

/-- What is equal to a text without regard to case, letter by letter. -/
def singleVariants (ls : List Letter) : Node :=
  match ls.foldl (fun done l => match single? l with
      | some n => n :: done
      | none => appendLetters [l] done) [] with
  | [] => text ls .plain
  | ns => ofSequence ns.reverse

/-- The text of a folding of several code points, each without regard to case. -/
def ofFolding (ms : List Nat) : Node :=
  ofSequence (ms.foldl (fun done m => match Unicode.singleVariants m with
    | [_] => appendLetters [.ofCode m] done
    | ns => set (.ofRanges (ns.map fun n => ⟨n, n⟩)) :: done) []).reverse

/-- The characters that are equal to one of a set, and the texts that are equal to one: those of two
    code points first. -/
def ofFoldedSet (s : CharSet) : Node :=
  let f := s.finder
  let texts := fun (length : Nat) => Unicode.unfoldingTable.flatMap fun (ms, ns) =>
    if ms.length = length then (ns.dropWhile fun n => !f.containsCode n).map fun _ => ofFolding ms
    else []
  ofAlternatives (set s.closure :: (texts 2 ++ texts 3))

/-- The node of a bracket. -/
def ofBracket (ignoreCase negated : Bool) (s : CharSet) : Node :=
  if !ignoreCase then set s
  else if negated then set s.complement.closure.complement
  else ofFoldedSet s

end Node

end Grok.Regex
