import Grok.Regex.Syntax

namespace Grok.Regex

/-!
# Repetitions

What becomes of a node that a quantifier applies to. A repetition of a repetition is simplified where
both are written with signs of their own, or where both are counts.

* `Quantifier.merge` is the table of the simplifications.
* `Node.nested` is the repetition of a repetition, `Node.repeated` the repetition of any node.
-/

namespace Quantifier

/-- The six quantifiers that have signs of their own, by number: `?`, `*`, `+`, and the lazy
    ones. -/
def simple? (q : Quantifier) : Option Nat :=
  match q.lower, q.upper with
  | 0, some 1 => some (if q.greedy then 0 else 3)
  | 0, none => some (if q.greedy then 1 else 4)
  | 1, none => some (if q.greedy then 2 else 5)
  | _, _ => none

/-- Is it a number of times? -/
def isCount (q : Quantifier) : Bool := q.upper == some q.lower

/-- The bound of all numbers of times. -/
def countBound : Nat := 2147483647

/-- The product of two numbers of times; the bound stands for all products that are too large. -/
def product (outer inner : Nat) : Nat :=
  if outer = 0 ∨ inner = 0 then 0
  else if outer < countBound / inner then outer * inner
  else countBound

/-- Is it a number of times that is too large? -/
def isTooLarge (q : Quantifier) : Bool := countBound ≤ q.lower

/-- What a repetition of a repetition becomes. -/
inductive Merged where
  /-- the inner one alone -/
  | inner
  /-- a single one -/
  | single (q : Quantifier)
  /-- both, with these quantifiers -/
  | both (inner outer : Quantifier)
  /-- both as they are -/
  | same

/-- What the repetition `outer` of the repetition `inner` becomes, both by number. -/
def merge (inner outer : Nat) : Merged :=
  let star : Merged := .single ⟨0, none, true⟩
  let lazyStar : Merged := .single ⟨0, none, false⟩
  let lazyOption : Merged := .single ⟨0, some 1, false⟩
  let optionalPlus : Merged := .both ⟨1, none, true⟩ ⟨0, some 1, false⟩
  let row : List Merged := match inner with
    | 0 => [.inner, star, star, lazyOption, lazyStar, .same]
    | 1 => [.inner, .inner, .inner, optionalPlus, optionalPlus, .inner]
    | 2 => [star, star, .inner, .same, optionalPlus, .inner]
    | 3 => [.inner, lazyStar, lazyStar, .inner, lazyStar, lazyStar]
    | 4 => [.inner, .inner, .inner, .inner, .inner, .inner]
    | _ => [.same, .same, .inner, lazyStar, lazyStar, .inner]
  row.getD outer .same

end Quantifier

namespace Node

/-- Is there nothing that could be repeated? -/
def isUnrepeatable : Node → Bool
  | assertion _ => true
  | keep => true
  | lookAhead _ _ => true
  | lookBehind _ _ _ => true
  | alternatives ns => anyUnrepeatable ns
  | _ => false
where
  /-- Is one of the alternatives unrepeatable? -/
  anyUnrepeatable : List Node → Bool
    | [] => false
    | n :: ns => isUnrepeatable n || anyUnrepeatable ns

/-- A repetition of a repetition. -/
def nested (outer inner : Quantifier) (body : Node) : Node :=
  match inner.simple?, outer.simple? with
  | some i, some o =>
    match Quantifier.merge i o with
    | .inner => quantified inner body
    | .single q => quantified q body
    | .both q r => quantified r (quantified q body)
    | .same => quantified outer (quantified inner body)
  | _, _ =>
    if inner.isCount ∧ outer.isCount then
      let k := Quantifier.product outer.lower inner.lower
      quantified ⟨k, some k, outer.greedy⟩ body
    else quantified outer (quantified inner body)

/-- A node that is repeated. Counts of a repetition without a bound are narrowed: one lap of it may
    take as much as several. -/
def repeated (q : Quantifier) (n : Node) : Node :=
  match n with
  | quantified inner body =>
    match inner.simple?, q.simple?, q.upper with
    | some i, none, some u =>
      if (i = 1 ∨ i = 2) ∧ 1 < u ∧ q.greedy then
        quantified { q with upper := some (max q.lower 1) } n
      else quantified q n
    | _, _, _ => nested q inner body
  | n => quantified q n

/-- Is it a repetition with too large a number of times? -/
def isTooOften : Node → Bool
  | quantified q _ => q.isTooLarge
  | _ => false

end Node

end Grok.Regex
