namespace Grok

/-!
# Sets of characters

A `CharSet` is a list of ranges of code points, ascending and not touching each other.

* `CharSet.Mem` is membership; `CharSet.contains` decides it.
* `CharSet.union`, `CharSet.inter` and `CharSet.complement` are the Boolean operations.
* `CharSet.Finder` finds a code point by bisection, for the sets that are searched a lot.
-/

/-- A range of code points, both ends included. -/
structure CharRange where
  first : Nat
  last : Nat
  deriving DecidableEq, Repr, Inhabited

/-- A set of code points as ranges. -/
structure CharSet where
  ranges : List CharRange
  deriving DecidableEq, Repr, Inhabited

namespace CharSet

/-- The largest code point. -/
def maxCodePoint : Nat := 0x10FFFF

/-- No code point. -/
def empty : CharSet := ⟨[]⟩

/-- All code points. -/
def full : CharSet := ⟨[⟨0, maxCodePoint⟩]⟩

/-- Does the set hold the code point? -/
def containsCode (s : CharSet) (n : Nat) : Bool :=
  s.ranges.any fun r => r.first ≤ n && n ≤ r.last

/-- Does the set hold the character? -/
def contains (s : CharSet) (c : Char) : Bool := s.containsCode c.toNat

/-- A character belongs to a set. -/
def Mem (s : CharSet) (c : Char) : Prop := ∃ r ∈ s.ranges, r.first ≤ c.toNat ∧ c.toNat ≤ r.last

theorem contains_iff (s : CharSet) (c : Char) : s.contains c = true ↔ s.Mem c := by
  simp [contains, containsCode, Mem]

/-- Joins ranges that overlap or touch; the ranges come with ascending first ends. -/
def coalesce : CharRange → List CharRange → List CharRange
  | r, [] => [r]
  | r, s :: rest =>
    if s.first ≤ r.last + 1 then coalesce ⟨r.first, max r.last s.last⟩ rest
    else r :: coalesce s rest

/-- The set of the ranges of a list with ascending first ends. -/
def ofSorted : List CharRange → CharSet
  | [] => empty
  | r :: rest => ⟨coalesce r rest⟩

/-- The set of any ranges. -/
def ofRanges (rs : List CharRange) : CharSet :=
  ofSorted (rs.mergeSort fun a b => a.first ≤ b.first)

/-- The set of one code point. -/
def single (n : Nat) : CharSet := ⟨[⟨n, n⟩]⟩

/-- The set of some characters. -/
def ofChars (cs : List Char) : CharSet := ofRanges (cs.map fun c => ⟨c.toNat, c.toNat⟩)

/-- The code points of either set. -/
def union (a b : CharSet) : CharSet :=
  ofSorted (a.ranges.merge b.ranges fun x y => x.first ≤ y.first)

/-- The gaps between ranges from the code point `next` on. -/
def gaps (next : Nat) : List CharRange → List CharRange
  | [] => if next ≤ maxCodePoint then [⟨next, maxCodePoint⟩] else []
  | r :: rest =>
    if next < r.first then ⟨next, r.first - 1⟩ :: gaps (r.last + 1) rest
    else gaps (r.last + 1) rest

/-- The code points that are not in the set. -/
def complement (s : CharSet) : CharSet := ⟨gaps 0 s.ranges⟩

/-- The code points of both sets. -/
def inter (a b : CharSet) : CharSet := (a.complement.union b.complement).complement

/-- The complement, if asked for. -/
def negateIf (negate : Bool) (s : CharSet) : CharSet := if negate then s.complement else s

/-- The number of code points in the set. -/
def size (s : CharSet) : Nat := s.ranges.foldl (fun n r => n + (r.last + 1 - r.first)) 0

/-- The value of an upper-case hexadecimal digit. -/
def hexValue (c : Char) : Nat :=
  if c.isDigit then c.toNat - '0'.toNat else c.toNat - 'A'.toNat + 10

/-- Reads ranges in hexadecimal notation, `41-5A 61-7A AA`, in ascending order. `first` is the
    first end of the range being read, `value` the number being read. -/
def readRanges : List Char → Option Nat → Option Nat → List CharRange
  | [], first, value => close first value
  | c :: cs, first, value =>
    if c = '-' then readRanges cs value none
    else if c = ' ' ∨ c = '\n' then close first value ++ readRanges cs none none
    else readRanges cs first (some (16 * value.getD 0 + hexValue c))
where
  /-- The range that ends here, if one does. -/
  close (first value : Option Nat) : List CharRange :=
    match value with
    | some last => [⟨first.getD last, last⟩]
    | none => []

/-- The set written as ascending ranges in hexadecimal notation. -/
def ofTable (s : String) : CharSet := ⟨readRanges s.toList none none⟩

/-- The ends of the ranges in one array, ready for bisection: a code point is in the set if the
    number of bounds that are not above it is odd. -/
structure Finder where
  bounds : Array Nat
  deriving Inhabited

/-- The finder of a set. -/
def finder (s : CharSet) : Finder := ⟨(s.ranges.flatMap fun r => [r.first, r.last + 1]).toArray⟩

namespace Finder

/-- The number of bounds that are not above `n`, known to lie between `low` and `high`. -/
def countFrom (f : Finder) (n : Nat) : Nat → Nat → Nat → Nat
  | 0, low, _ => low
  | fuel + 1, low, high =>
    if low < high then
      let middle := (low + high) / 2
      if f.bounds.getD middle 0 ≤ n then countFrom f n fuel (middle + 1) high
      else countFrom f n fuel low middle
    else low

/-- Does the set hold the code point? -/
def containsCode (f : Finder) (n : Nat) : Bool := f.countFrom n 32 0 f.bounds.size % 2 == 1

/-- Does the set hold the character? -/
def contains (f : Finder) (c : Char) : Bool := f.containsCode c.toNat

end Finder

end CharSet

end Grok
