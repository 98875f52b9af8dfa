import Grok.Regex.Clues

namespace Grok.Regex

/-!
# Landmarks

Every match of an expression may have to hold a certain text, or a byte out of a few. The search
looks for that first: an expression is run only from places that lie at the right distance before it.

* `Clues.landmark?` picks the clue that is the rarest.
* `Landmark.starts` are the places that lie at the right distance before a landmark.
* `Outlook.starts` are the places from which a match is looked for: those that the landmark leaves,
  and that are left by what ties the matches to the start and the end of the text and its lines.
-/

/-- What every match holds at some distance from its start. -/
inductive Landmark where
  | text (ls : List Letter) (distance : Width)
  | leads (bytes : List Nat) (distance : Width)

/-- The best clue. -/
def Clues.landmark? (k : Clues) : Option Landmark :=
  let l := k.whole.choose k.best
  let leads := Landmark.leads k.leads.bytes k.leads.distance
  if l.text = [] then if k.leads.bytes = [] then none else some leads
  else if k.leads.bytes ≠ [] ∧
      l.distance.prefers (60 * l.length) k.leads.distance (200 / k.leads.value) then some leads
  else some (.text l.text l.distance)

namespace Landmark

/-- How far it is from the start of a match. -/
def distance : Landmark → Width
  | text _ d => d
  | leads _ d => d

/-- Does a text start with some letters? -/
def startsWith : List Letter → List Char → Bool
  | [], _ => true
  | _ :: _, [] => false
  | l :: ls, c :: cs => l.char? == some c && startsWith ls cs

/-- Is it what a text goes on with? -/
def isAt (l : Landmark) (cs : List Char) : Bool :=
  match l with
  | text ls _ => startsWith ls cs
  | leads bs _ => cs.head?.any fun c => bs.contains (Utf8.lead c)

/-- The byte offsets from `offset` on at which it occurs. -/
def offsetsFrom (l : Landmark) (offset : Nat) : List Char → List Nat
  | [] => []
  | c :: cs =>
    let rest := l.offsetsFrom (offset + Utf8.width c) cs
    if l.isAt (c :: cs) then offset :: rest else rest

/-- Of some places, given with their byte offsets, those from which an occurrence is between `least`
    and `most` bytes away. Both lists ascend. -/
def within (least most : Nat) (offsets : List Nat) : (places : List (Nat × Nat)) → List Nat
  | [] => []
  | (i, p) :: ps =>
    match offsets.dropWhile (· < p + least) with
    | [] => []
    | o :: os =>
      if o ≤ p + most then i :: within least most (o :: os) ps else within least most (o :: os) ps

/-- The places of a text with their byte offsets. -/
def placesFrom (index offset : Nat) : List Char → List (Nat × Nat)
  | [] => [(index, offset)]
  | c :: cs => (index, offset) :: placesFrom (index + 1) (offset + Utf8.width c) cs

/-- The places of a text from which a match may start. If the distance has no bound, these are all,
    or none where the landmark does not occur. -/
def starts (l : Landmark) (cs : List Char) : List Nat :=
  match l.distance.most with
  | some m => within l.distance.least m (l.offsetsFrom 0 cs) (placesFrom 0 0 cs)
  | none =>
    if (l.offsetsFrom 0 cs).any (l.distance.least ≤ ·) then List.range (cs.length + 1) else []

end Landmark

/-! ### Outlooks -/

/-- What is known about the places at which a match may start. -/
structure Outlook where
  landmark : Option Landmark
  ties : Ties
  /-- The number of bytes of a match. -/
  width : Width

namespace Node

/-- What an expression tells about the places at which its matches start. -/
def outlook (n : Node) : Outlook :=
  let k := n.clues n.referredGroups (.exactly 0)
  ⟨k.landmark?, k.ties, k.width⟩

end Node

namespace Outlook

/-- The byte offset before which no match starts, because it has to reach the end of the text. -/
def earliest (o : Outlook) (cs : List Char) : Nat :=
  match o.width.most with
  | none => 0
  | some m =>
    let length := (cs.map Utf8.width).foldl (· + ·) 0
    if o.ties.stop.contains .textEnd then length - m
    else if o.ties.stop.contains .lastLineEnd then
      (if cs.getLast? = some '\n' then length - 1 else length) - m
    else 0

/-- The places at which the lines of a text start; where the text ends, no line starts. -/
def lineStarts (index : Nat) : List Char → List Nat
  | [] => []
  | [_] => []
  | c :: d :: cs => (if c = '\n' then [index + 1] else []) ++ lineStarts (index + 1) (d :: cs)

/-- Are only the starts of lines tried? A match that starts with as much of a line as possible, and
    holds its landmark at any distance, may as well start where the line does. -/
def isByLine (o : Outlook) : Bool :=
  o.landmark.any (·.distance.most = none) && o.ties.start.contains (.run false) &&
    !o.ties.start.contains .behind && !o.ties.stop.contains .notAhead

/-- Is only the start of the text tried? -/
def isAtStart (o : Outlook) : Bool :=
  let ties := o.ties.start
  ties.contains .searchStart || ties.contains .textStart ||
    (ties.contains (.run true) && !ties.contains .behind &&
      !o.ties.stop.contains .textEnd && !o.ties.stop.contains .lastLineEnd)

/-- The places of a text from which a match is looked for. -/
def starts (o : Outlook) (cs : List Char) : List Nat :=
  let places := match o.landmark with
    | some l => l.starts cs
    | none => List.range (cs.length + 1)
  if o.isAtStart then places.filter (· = 0)
  else if o.isByLine then
    if places = [] then [] else 0 :: lineStarts 0 cs
  else
    let bound := o.earliest cs
    let skipped := ((Landmark.placesFrom 0 0 cs).takeWhile (·.2 < bound)).length
    places.filter (skipped ≤ ·)

end Outlook

end Grok.Regex
