import Grok.Regex.Syntax

namespace Grok.Regex

/-!
# Texts without a match

`(?~a)` takes a text that holds no match of `a`, and `(?~|a|e)` takes what `e` takes of such a text.
Both are made of simpler nodes: before every step the text is cut off where a match of `a` would end.

* `Node.without` is the text that holds no match of a node.
* `Node.cutOff` cuts the text off, `Node.uncut` undoes that.
-/

namespace Node

/-- The number of slots that each of these expressions takes up. -/
def absentSlots : Nat := 4

/-- Repeats `step` and cuts the text off, before each step, at the end of a match of `absent` from
    there. `slot` is used for that; if nothing else matches, the end comes from the slot `whole`.
    With `open_` that choice stays, and so does the end of the text. -/
def cutting (slot whole : Nat) (absent : Node) (q : Quantifier) (step : Node)
    (possessive open_ : Bool) : Node :=
  let cut := sequence [limit (.savePlace slot), absent, limit (.endAt slot open_), fail]
  let steps := quantified q (alternatives [cut, step])
  let steps := if possessive then atomic steps else steps
  let undo := sequence [limit (.restore whole), fail]
  if open_ then fallback steps undo else alternatives [steps, undo]

/-- A greedy repetition of one character, and whether it is possessive. -/
def characterRepetition? : Node → Option (Quantifier × Node × Bool)
  | quantified q n => if q.greedy ∧ isCharacter n then some (q, n, false) else none
  | atomic (quantified q n) => if q.greedy ∧ isCharacter n then some (q, n, true) else none
  | _ => none
where
  /-- Is it a single letter, or a character of a set? -/
  isCharacter : Node → Bool
    | text [_] _ => true
    | set _ => true
    | _ => false

/-- All steps over the text at once: they go as far as they can and stay there. -/
def stride : Quantifier := ⟨0, none, true⟩

/-- A repetition of one character in a text without a match of `absent`. -/
def withoutSteps (slot : Nat) (absent : Node) (q : Quantifier) (step : Node) (possessive : Bool) :
    Node :=
  sequence [limit (.saveEnd slot), cutting (slot + 1) slot absent q step possessive false,
    limit (.restore slot)]

/-- What `inner` takes of a text without a match of `absent`; without `inner`, all of it. The slots
    from `slot` on are used for that. -/
def without (slot : Nat) (absent : Node) (inner : Option Node) : Node :=
  match inner with
  | none => withoutSteps slot absent stride (any true) false
  | some n =>
    match characterRepetition? n with
    | some (q, step, possessive) => withoutSteps slot absent q step possessive
    | none =>
      sequence [limit (.saveEnd slot), limit (.savePlace (slot + 1)),
        cutting (slot + 2) slot absent stride (any true) true false, limit (.goTo (slot + 1)), n,
        limit (.saveEnd (slot + 3)),
        alternatives [limit (.restore slot), sequence [limit (.restore (slot + 3)), fail]]]

/-- Cuts the text off where it starts to hold a match of `absent`. -/
def cutOff (slot : Nat) (absent : Node) : Node :=
  sequence [limit (.saveEnd slot), limit (.savePlace (slot + 1)),
    cutting (slot + 2) slot absent stride (any true) true true, limit (.goTo (slot + 1))]

/-- Lets the text end where it ends. -/
def uncut (slot : Nat) : Node :=
  sequence [limit (.saveEnd slot),
    fallback (limit .clear) (sequence [limit (.restore slot), fail])]

end Node

end Grok.Regex
