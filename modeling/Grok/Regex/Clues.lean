import Grok.Regex.Head
import Grok.Regex.Width

namespace Grok.Regex

/-!
# Clues to where a match may be

What an expression tells about all of its matches before any of it is run.

* `Literal` and `Leads` are a text and some bytes at a known distance from the start of a match.
* `Tie` is a place of the text at which every match starts or ends.
* `Clues` is all that is known about the matches of an expression; `Node.clues` finds it out.

All widths and distances count bytes.
-/

namespace Width

/-- How well a distance is known: the inverse of the number of distances, in thousandths. -/
def precision (w : Width) : Nat :=
  match w.most with
  | none => 0
  | some m =>
    let n := m - w.least + 1
    if n ≤ 100 then (2000 + n) / (2 * n) else 1

/-- Are there fewer distances than another one allows? -/
def isNarrower (v w : Width) : Bool :=
  match v.most, w.most with
  | some m, some n => m - v.least < n - w.least
  | some _, none => true
  | none, some _ => false
  | none, none => w.least < v.least

/-- Is a clue of the worth `b` at the distance `w` better than one of the worth `a` at the distance
    `v`? -/
def prefers (v : Width) (a : Nat) (w : Width) (b : Nat) : Bool :=
  if b = 0 then false
  else if a = 0 then true
  else
    let x := a * v.precision
    let y := b * w.precision
    x < y || (x == y && w.isNarrower v)

/-- The bytes of any character. -/
def character : Width := ⟨1, some 4⟩

end Width

/-- How common the bytes of ASCII are, in rows of 16. -/
def asciiCommonness : List (List Nat) := [
  [5, 1, 1, 1, 1, 1, 1, 1, 1, 10, 10, 1, 1, 10, 1, 1],
  [1, 1, 1, 1, 1, 1, 1, 1, 1, 1, 1, 1, 1, 1, 1, 1],
  [12, 4, 7, 4, 4, 4, 4, 4, 4, 5, 5, 5, 5, 5, 5, 5],
  [6, 6, 6, 6, 6, 6, 6, 6, 6, 6, 5, 5, 5, 5, 5, 5],
  [5, 6, 6, 6, 6, 7, 6, 6, 6, 6, 6, 6, 6, 6, 6, 6],
  [6, 6, 6, 6, 6, 6, 6, 6, 6, 6, 6, 5, 6, 5, 5, 5],
  [5, 6, 6, 6, 6, 7, 6, 6, 6, 6, 6, 6, 6, 6, 6, 6],
  [6, 6, 6, 6, 6, 6, 6, 6, 6, 6, 6, 5, 5, 5, 5, 1]]

/-- How common a byte is. -/
def commonness (b : Nat) : Nat := (asciiCommonness.getD (b / 16) []).getD (b % 16) 4

/-! ### Texts -/

/-- A text that every match holds; there is none if it is empty. -/
structure Literal where
  text : List Letter := []
  /-- How far from the start of the match it is. -/
  distance : Width := .exactly 0
  /-- Does it end where the expression ends? -/
  reachesEnd : Bool := false

namespace Literal

/-- The most bytes of a text that is looked for. -/
def maxLength : Nat := 24

/-- The letters of a text that fit into a number of bytes. -/
def fit : Nat → List Letter → List Letter
  | _, [] => []
  | room, l :: ls => if l.width ≤ room then l :: fit (room - l.width) ls else []

/-- The text `ls` at a distance. -/
def ofText (d : Width) (ls : List Letter) : Literal :=
  let t := fit maxLength ls
  ⟨t, d, t.length = ls.length⟩

/-- The number of bytes. -/
def length (l : Literal) : Nat := Letter.totalWidth l.text

/-- How common the first byte is. -/
def leadCommonness (l : Literal) : Nat :=
  match l.text with
  | [] => 0
  | c :: _ => commonness c.lead

/-- A text that is followed by another one. -/
def append (l m : Literal) : Literal :=
  let t := fit maxLength (l.text ++ m.text)
  ⟨t, l.distance, m.reachesEnd && t.length == l.text.length + m.text.length⟩

/-- The better one of two texts: the longer one, or, if both are short, the rarer one. -/
def choose (l m : Literal) : Literal :=
  if m.text = [] then l
  else if l.text = [] then m
  else
    let short := l.length ≤ 2 ∧ m.length ≤ 2
    let bonus := fun (n : Nat) => if 1 < n then 5 else 0
    let a := if short then m.leadCommonness + bonus l.length else l.length
    let b := if short then l.leadCommonness + bonus m.length else m.length
    if l.distance.prefers a m.distance b then m else l

/-- What two texts start with. -/
def common (l m : Literal) : Literal :=
  if l.text = [] ∨ m.text = [] ∨ l.distance ≠ m.distance then {}
  else
    let t := ((l.text.zip m.text).takeWhile fun (c, d) => c == d).map (·.1)
    ⟨t, l.distance, l.reachesEnd && m.reachesEnd && t.length == l.text.length &&
      t.length == m.text.length⟩

/-- A text whose expression does not end with it. -/
def inside (l : Literal) : Literal := { l with reachesEnd := false }

end Literal

/-! ### Bytes -/

/-- Bytes of which every match holds one at the start of a character; none if nothing is known. -/
structure Leads where
  bytes : List Nat := []
  distance : Width := .exactly 0

namespace Leads

/-- How common the bytes are. -/
def value (l : Leads) : Nat := l.bytes.foldl (fun n b => n + commonness b) 0

/-- The better ones of two sets of bytes: the rarer ones. -/
def choose (l m : Leads) : Leads :=
  if m.bytes = [] then l
  else if l.bytes = [] then m
  else if l.distance.prefers (32768 / l.value) m.distance (32768 / m.value) then m
  else l

/-- The bytes of either set, unless the second are surely farther away. -/
def or (l m : Leads) : Leads :=
  if l.bytes = [] ∨ m.bytes = [] ∨ l.distance.most.any (· < m.distance.least) then {}
  else ⟨l.bytes ++ m.bytes.filter fun b => !l.bytes.contains b, l.distance.or m.distance⟩

end Leads

/-! ### Ties -/

/-- What ties all matches to certain places. -/
inductive Tie where
  /-- they start where the text starts -/
  | textStart
  /-- they start where the search starts -/
  | searchStart
  /-- they start with as much of the line as possible, or of the text -/
  | run (dotAll : Bool)
  /-- they start behind something -/
  | behind
  /-- they end where the text ends -/
  | textEnd
  /-- they end where the text ends, or before the line break that ends it -/
  | lastLineEnd
  /-- something does not follow -/
  | notAhead
  deriving DecidableEq, Repr

/-- The ties of the start and of the end. -/
structure Ties where
  start : List Tie := []
  stop : List Tie := []

namespace Ties

/-- The ties of an assertion. -/
def ofAssertion : Assertion → Ties
  | .textStart => ⟨[.textStart], []⟩
  | .searchStart => ⟨[.searchStart], []⟩
  | .textEnd => ⟨[], [.textEnd]⟩
  | .lastLineEnd => ⟨[], [.lastLineEnd]⟩
  | _ => {}

/-- One expression of the width `v` behind another one of the width `w`: what ties the inner end of
    an expression ties the outer one if the expression between them takes nothing. -/
def append (v : Width) (s : Ties) (w : Width) (t : Ties) : Ties where
  start := if v.most = some 0 then s.start ++ t.start else s.start
  stop := t.stop ++ if w.most = some 0 then s.stop else s.stop.filter (· = .notAhead)

/-- What one expression and another have in common. -/
def common (s t : Ties) : Ties := ⟨s.start.filter t.start.contains, s.stop.filter t.stop.contains⟩

/-- Without the runs: what they take is asked for again. -/
def withoutRuns (s : Ties) : Ties :=
  { s with start := s.start.filter fun t => t != .run false && t != .run true }

end Ties

/-! ### Clues -/

/-- What is known about the matches of an expression. -/
structure Clues where
  /-- The number of bytes. -/
  width : Width
  /-- A text that the expression as a whole starts with. -/
  whole : Literal
  /-- The best text of its parts. -/
  best : Literal
  /-- A text that a look-ahead wants at its end. -/
  ahead : Literal
  leads : Leads
  ties : Ties := {}

namespace Clues

/-- Nothing is known but the width and the distance from the start of the match. -/
def ofWidth (d w : Width) : Clues := ⟨w, ⟨[], d, false⟩, {}, ⟨[], d, false⟩, ⟨[], d⟩, {}⟩

/-- A text. -/
def ofText (d : Width) (ls : List Letter) : Clues :=
  { ofWidth d (.exactly (Letter.totalWidth ls)) with
    whole := .ofText d ls
    leads := ⟨(ls.take 1).map Letter.lead, d⟩ }

/-- A character of a set. -/
def ofSet (d : Width) (s : CharSet) : Clues :=
  if Head.isAscii s then
    { ofWidth d (.exactly 1) with
      leads := ⟨(List.range 0x80).filter s.containsCode, d⟩ }
  else ofWidth d .character

/-- What a look-ahead tells. -/
def asAhead (d : Width) (k : Clues) : Clues :=
  { ofWidth d (.exactly 0) with
    ahead := (if k.whole.text ≠ [] then k.whole else k.best).inside
    leads := if k.leads.bytes ≠ [] then k.leads else ⟨[], d⟩ }

/-- One expression behind another. -/
def append (k l : Clues) : Clues :=
  let consumes := l.width.most ≠ some 0
  let closed := fun (m : Literal) => if consumes then m.inside else m
  let joined := l.whole.text ≠ [] ∧ k.best.reachesEnd
  let best := if joined then (closed k.best).append l.whole else (closed k.best).choose l.whole
  let best := best.choose l.best
  let looks := k.ahead.text ≠ []
  let ahead : Literal := { k.ahead with text := Literal.fit (l.width.most.getD 0) k.ahead.text }
  let atOnce := k.ahead.distance.most = some 0
  { width := k.width.add l.width
    whole := if looks ∧ consumes ∧ atOnce then (closed k.whole).choose ahead else closed k.whole
    best := if looks ∧ consumes ∧ !atOnce then best.choose ahead else best
    ahead := if !looks then l.ahead else if consumes then ahead else k.ahead
    leads := k.leads.choose l.leads
    ties := Ties.append k.width k.ties l.width l.ties }

/-- One expression or another. -/
def or (k l : Clues) : Clues where
  width := k.width.or l.width
  whole := k.whole.common l.whole
  best := k.best.common l.best
  ahead := k.ahead.common l.ahead
  leads := k.leads.or l.leads
  ties := k.ties.common l.ties

/-- A repetition. -/
def times (d : Width) (q : Quantifier) (k : Clues) : Clues :=
  let w := k.width.times q
  if q.lower = 0 then ofWidth d w
  else
    let whole := if k.whole.reachesEnd then
        (List.range (min q.lower Literal.maxLength - 1)).foldl (fun l _ => l.append k.whole) k.whole
      else k.whole
    let fixed := q.upper = some q.lower
    { k with
      width := w
      whole := if fixed ∧ q.lower ≤ Literal.maxLength then whole else whole.inside
      best := if fixed ∧ q.lower = 1 then k.best else k.best.inside }

/-- A repetition of any character that goes on as far as possible is a run, if nothing comes before.
    -/
def asRun (d : Width) (q : Quantifier) (n : Node) (k : Clues) : Clues :=
  match n with
  | .any dotAll =>
    if q.upper = none ∧ q.greedy ∧ d.most = some 0 then
      { k with ties := { k.ties with start := k.ties.start ++ [.run dotAll] } }
    else k
  | _ => k

end Clues

namespace Node

mutual

/-- The clues to an expression at a distance from the start of the match; `referred` are the groups
    that it refers to. A condition without an alternative tells nothing, and counts as if it took
    nothing. -/
def clues (referred : List Nat) (d : Width) : Node → Clues
  | sequence ns => cluesAll referred d (.ofWidth d (.exactly 0)) ns
  | alternatives ns => cluesAny referred d none ns
  | fallback n m => (clues referred d n).or (clues referred d m)
  | text ls _ => .ofText d ls
  | any _ => .ofWidth d .character
  | word _ => .ofWidth d .character
  | set s => .ofSet d s
  | quantified q n =>
    if q.upper = some 0 then .ofWidth d (.exactly 0)
    else ((clues referred d n).times d q).asRun d q n
  | group n => clues referred d n
  | capture i _ n =>
    let k := clues referred d n
    if referred.contains i then { k with ties := k.ties.withoutRuns } else k
  | atomic n => clues referred d n
  | lookAhead false n => (clues referred d n).asAhead d
  | conditional c y n =>
    let k := clues referred d c
    let l := clues referred (d.add k.width) y
    (((Clues.ofWidth d (.exactly 0)).append k).append l).or (clues referred d n)
  | backReference _ _ => .ofWidth d .unknown
  | call _ => .ofWidth d .unknown
  | provided _ _ => .ofWidth d (.exactly 0)
  | lookAhead true _ => { Clues.ofWidth d (.exactly 0) with ties := ⟨[], [.notAhead]⟩ }
  | lookBehind false _ _ => { Clues.ofWidth d (.exactly 0) with ties := ⟨[.behind], []⟩ }
  | assertion a => { Clues.ofWidth d (.exactly 0) with ties := .ofAssertion a }
  | lookBehind true _ _ => .ofWidth d (.exactly 0)
  | keep => .ofWidth d (.exactly 0)
  | matched _ => .ofWidth d (.exactly 0)
  | limit _ => .ofWidth d (.exactly 0)
  | fail => .ofWidth d (.exactly 0)

/-- The clues to expressions one after the other behind `k`. -/
def cluesAll (referred : List Nat) (d : Width) (k : Clues) : List Node → Clues
  | [] => k
  | n :: ns => cluesAll referred d (k.append (clues referred (d.add k.width) n)) ns

/-- The clues to expressions to choose from, besides those with the clues `k`. -/
def cluesAny (referred : List Nat) (d : Width) (k : Option Clues) : List Node → Clues
  | [] => k.getD (.ofWidth d (.exactly 0))
  | n :: ns =>
    let l := clues referred d n
    cluesAny referred d (some (match k with
      | some k => k.or l
      | none => l)) ns

end

end Node

end Grok.Regex
