import Grok.Text.CharSet
import Grok.Unicode.Folding

namespace Grok.Unicode

/-!
# Comparing without regard to case

Two texts are equal without regard to case if they fold to the same text.

* `fold` is the folding of a character, `unfold` gives the characters with a folding.
* `singleVariants` and `textVariants` are what is equal to a folding.
* `CharSet.closure` adds to a set everything that is equal to one of its characters.
-/

/-- Reads the entries of the table. The first list holds the numbers of the entry read so far, in
    reverse order, `value` the number being read. -/
def readFoldings : List Nat → Nat → List Char → List (Nat × List Nat)
  | seen, value, [] => entry seen value
  | seen, value, c :: cs =>
    if c = '>' ∨ c = '+' then readFoldings (value :: seen) 0 cs
    else if c = ' ' ∨ c = '\n' then
      if value = 0 then readFoldings seen 0 cs else entry seen value ++ readFoldings [] 0 cs
    else readFoldings seen (16 * value + CharSet.hexValue c) cs
where
  /-- The entry that ends here. -/
  entry (seen : List Nat) (value : Nat) : List (Nat × List Nat) :=
    match (value :: seen).reverse with
    | [] => []
    | n :: ms => [(n, ms)]

/-- The characters that folding changes, ascending, with their foldings. -/
def foldings : Array (Nat × List Nat) := (readFoldings [] 0 foldingTable.toList).toArray

/-- The number of entries below `n`, known to lie between `low` and `high`. -/
def foldingsBelow (n : Nat) : Nat → Nat → Nat → Nat
  | 0, low, _ => low
  | fuel + 1, low, high =>
    if low < high then
      let middle := (low + high) / 2
      if (foldings.getD middle (0, [])).1 < n then foldingsBelow n fuel (middle + 1) high
      else foldingsBelow n fuel low middle
    else low

/-- The folding of a code point. -/
def foldCode (n : Nat) : List Nat :=
  if n < 128 then [if 65 ≤ n ∧ n ≤ 90 then n + 32 else n]
  else
    match foldings[foldingsBelow n 16 0 foldings.size]? with
    | some (m, ms) => if m = n then ms else [n]
    | none => [n]

/-- The folding of a character. -/
def fold (c : Char) : List Nat := foldCode c.toNat

/-- All foldings, ascending, with the code points that folding changes to them, ascending. -/
def unfoldingTable : List (List Nat × List Nat) :=
  ((foldings.toList.map fun (n, ms) => (ms, n)).mergeSort fun a b =>
    !b.1.lex a.1 Nat.blt).foldr gather []
where
  /-- Adds an entry in front of those that follow it. -/
  gather (entry : List Nat × Nat) (table : List (List Nat × List Nat)) :
      List (List Nat × List Nat) :=
    match table with
    | (ms, ns) :: rest =>
      if ms = entry.1 then (ms, entry.2 :: ns) :: rest else (entry.1, [entry.2]) :: table
    | [] => [(entry.1, [entry.2])]

/-- The code points that folding changes to a text. -/
def unfold (ms : List Nat) : List Nat := (unfoldingTable.lookup ms).getD []

/-- The code points that are equal to a folding of a single code point, itself first. -/
def singleVariants (m : Nat) : List Nat := m :: unfold [m]

/-- All texts that are equal to a folding, as long as it. -/
def textVariants : List Nat → List (List Nat)
  | [] => [[]]
  | m :: ms => (singleVariants m).flatMap fun n => (textVariants ms).map (n :: ·)

end Grok.Unicode

namespace Grok.CharSet

/-- Adds the code points that are equal to one of the set without regard to case. -/
def closure (s : CharSet) : CharSet :=
  let f := s.finder
  let classes := Unicode.unfoldingTable.map fun (ms, ns) => if ms.length = 1 then ms ++ ns else ns
  s.union (.ofRanges ((classes.filter fun ns => ns.any f.containsCode).flatten.map fun n => ⟨n, n⟩))

end Grok.CharSet
