import Grok.Duration.Basic

namespace Grok

/-!
# Duration literals

`PnDTnHnMn.nS`: an optional sign, `P`, an optional count of days, and optionally `T` with counts of
hours, minutes and seconds in that order. Every count may carry a sign of its own and the seconds
up to nine decimals after a point or a comma; the designators are read in either letter case. At
least one count has to be given, and at least one after a `T`.

* `Duration.Literal.parse` reads the written parts.
* `Duration.Literal.components` are the parts in nanoseconds, `Duration.Literal.duration?` their
  sum.
* `Duration.parse` is the two together.
-/

namespace Duration

/-- A count as written: its sign and its digits. -/
structure Count where
  negative : Bool
  digits : List Char
  deriving DecidableEq, Repr

namespace Count

/-- The number a count denotes. -/
def value (c : Count) : Int :=
  if c.negative then -(Digits.value c.digits : Int) else Digits.value c.digits

/-- A count at the head of a text, and what follows it. -/
def split? (cs : List Char) : Option (Count × List Char) :=
  let (negative, body) := match cs with
    | '-' :: rest => (true, rest)
    | '+' :: rest => (false, rest)
    | rest => (false, rest)
  match Digits.split body with
  | ([], _) => none
  | (ds, rest) => some (⟨negative, ds⟩, rest)

end Count

/-- The seconds as written: a count and the decimals after the point. -/
structure Seconds where
  count : Count
  decimals : List Char
  deriving DecidableEq, Repr

/-- The written parts of a literal. -/
structure Literal where
  negative : Bool
  days : Option Count
  hours : Option Count
  minutes : Option Count
  seconds : Option Seconds
  deriving DecidableEq, Repr

namespace Literal

/-- Is `c` the designator `upper`, in either letter case? The long s `ſ` has the upper case `S` and
    is read as one. -/
def isDesignator (upper c : Char) : Bool :=
  c == upper || c == upper.toLower || (upper == 'S' && c == 'ſ')

/-- An optional count followed by its designator; without it nothing is consumed. -/
def part (designator : Char) (cs : List Char) : Option Count × List Char :=
  match Count.split? cs with
  | some (count, c :: rest) =>
    if isDesignator designator c then (some count, rest) else (none, cs)
  | _ => (none, cs)

/-- The decimals after a point or comma, at most nine, and what follows them. -/
def decimals : List Char → List Char × List Char
  | c :: cs =>
    if c = '.' ∨ c = ',' then
      let ds := (cs.take 9).takeWhile Char.isDigit
      (ds, cs.drop ds.length)
    else ([], c :: cs)
  | [] => ([], [])

/-- Optional seconds with their designator; without it nothing is consumed. -/
def secondsPart (cs : List Char) : Option Seconds × List Char :=
  match Count.split? cs with
  | some (count, rest) =>
    match decimals rest with
    | (ds, c :: rest) => if isDesignator 'S' c then (some ⟨count, ds⟩, rest) else (none, cs)
    | (_, []) => (none, cs)
  | none => (none, cs)

/-- The part after the `T`: hours, minutes and seconds, at least one of them. -/
def parseTime (negative : Bool) (days : Option Count) (cs : List Char) : Option Literal :=
  let (hours, cs) := part 'H' cs
  let (minutes, cs) := part 'M' cs
  let (seconds, cs) := secondsPart cs
  if cs = [] ∧ (hours.isSome ∨ minutes.isSome ∨ seconds.isSome) then
    some ⟨negative, days, hours, minutes, seconds⟩
  else none

/-- The part after the sign: `P`, optional days, and the time if there is a `T`. -/
def parseUnsigned (negative : Bool) : List Char → Option Literal
  | p :: cs =>
    if isDesignator 'P' p then
      match part 'D' cs with
      | (days, []) => if days.isSome then some ⟨negative, days, none, none, none⟩ else none
      | (days, t :: cs) => if isDesignator 'T' t then parseTime negative days cs else none
    else none
  | [] => none

/-- Reads a whole text as a literal. -/
def parse : List Char → Option Literal
  | '-' :: cs => parseUnsigned true cs
  | '+' :: cs => parseUnsigned false cs
  | cs => parseUnsigned false cs

/-- A count of units of so many seconds, in nanoseconds. -/
def inNanoseconds (secondsPerUnit : Nat) (c : Count) : Int :=
  c.value * secondsPerUnit * nanosPerSecond

/-- The decimals in nanoseconds; they take the sign the seconds are written with. -/
def fractionNanos (s : Seconds) : Int :=
  let n := Digits.value s.decimals * Nat.pow 10 (9 - s.decimals.length)
  if s.count.negative then -(n : Int) else n

/-- The written components in nanoseconds, in the order in which they are added up. -/
def components (l : Literal) : List Int :=
  l.days.toList.map (inNanoseconds 86400) ++ l.hours.toList.map (inNanoseconds 3600) ++
    l.minutes.toList.map (inNanoseconds 60) ++
    l.seconds.toList.flatMap fun s => [inNanoseconds 1 s.count, fractionNanos s]

/-- The duration of a literal, if it and all partial sums are in the range. -/
def duration? (l : Literal) : Option Duration :=
  (sum? l.components).map fun d => if l.negative then d.negate else d

end Literal

/-- The duration a text denotes. -/
def parse (cs : List Char) : Option Duration := do
  let l ← Literal.parse cs
  l.duration?

end Duration

end Grok
