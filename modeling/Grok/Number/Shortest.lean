import Grok.Number.Floating
import Grok.Text.Digits

namespace Grok

/-!
# The shortest decimal text of a floating-point number

Among the decimals that read back as a given number, the ones with the fewest digits are the
shortest, and the nearest of those is written.

* `Floating.Format.shortest` finds its digits and the place of the point.
* `Floating.Layout` decides how digits and point are laid out as text: with how many leading or
  trailing zeros a positional form is still used, and whether a whole number keeps `.0`.
-/

namespace Floating

/-- Digits `d₁d₂…dₙ` with the point after the first `point` of them: `0.d₁d₂…dₙ · 10 ^ point`. -/
structure Shortest where
  digits : List Char
  point : Int

/-- The interval of reals that round to a number, in quarters of the last place of its mantissa:
    the lower end, the value, the upper end, and whether the ends belong to it. -/
structure Interval where
  low : Nat
  value : Nat
  high : Nat
  closed : Bool

/-- The interval around `m · 2 ^ e`: half a place to both sides, but only a quarter downwards
    where the numbers below lie twice as close. -/
def Format.interval (f : Format) (m : Nat) (e : Int) : Interval where
  low := if m = Nat.pow 2 (f.precision - 1) ∧ f.minExponent < e then 4 * m - 1 else 4 * m - 2
  value := 4 * m
  high := 4 * m + 2
  closed := m % 2 = 0

/-- Does the decimal `c` (a multiple of the grid) lie in the interval? All of `c`, `low` and `high`
    are already brought to one denominator. -/
def Interval.contains (i : Interval) (c low high : Nat) : Bool :=
  if i.closed then low ≤ c && c ≤ high else low < c && c < high

/-- The number of decimal digits before the point of `num / den`, which is positive: the `k` with
    `10 ^ (k - 1) ≤ num / den < 10 ^ k`, searched upwards from a guess that is never too large. -/
def decimalPlaces (num den : Nat) : Nat → Int → Int
  | 0, k => k
  | fuel + 1, k =>
    let (n, d) := if 0 ≤ k then (num, den * Nat.pow 10 k.toNat) else (num * Nat.pow 10 (-k).toNat, den)
    if n < d then k else decimalPlaces num den fuel (k + 1)

/-- Tries the grids of `n`, `n + 1`, … digits; `places` is the number of places before the point.
    The first grid with a decimal inside the interval wins, of two hits the nearer. -/
def shortestFrom (i : Interval) (num den : Nat → Nat) (places : Int) :
    Nat → Nat → Nat × Int
  | 0, n => (0, places - n)
  | fuel + 1, n =>
    -- The grid is `10 ^ q`; everything is scaled so that a grid step is `step` units.
    let q : Int := places - n
    let up := if 0 ≤ q then 1 else Nat.pow 10 (-q).toNat
    let step := den 1 * (if 0 ≤ q then Nat.pow 10 q.toNat else 1)
    let v := num i.value * up
    let below := v / step
    let hit (c : Nat) : Bool := i.contains (c * step) (num i.low * up) (num i.high * up)
    let nearerBelow := 2 * (v - below * step) ≤ step
    if hit below && (nearerBelow || !hit (below + 1)) && 0 < below then (below, q)
    else if hit (below + 1) then (below + 1, q)
    else shortestFrom i num den places fuel (n + 1)

/-- The shortest decimal that reads back as `m · 2 ^ e` (with `0 < m`) in the format. -/
def Format.shortest (f : Format) (m : Nat) (e : Int) : Shortest :=
  let i := f.interval m e
  let num (x : Nat) : Nat := if 0 ≤ e then x * Nat.pow 2 e.toNat else x
  let den (x : Nat) : Nat := if 0 ≤ e then 4 * x else 4 * x * Nat.pow 2 (-e).toNat
  let bits : Int := (Nat.log2 (num i.value) : Int) - Nat.log2 (den 1)
  -- A power of two is at least this many decimal places long.
  let guess : Int := (bits - 1) * 30103 / 100000 - 1
  let places := decimalPlaces (num i.value) (den 1) 8 guess
  let (c, q) := shortestFrom i num den places 20 1
  let ds := Digits.ofNat c
  let trimmed := (ds.reverse.dropWhile (· = '0')).reverse
  ⟨trimmed, q + ds.length⟩

/-- How digits and point are laid out. Positional notation is used for a point in the range from
    `leastPoint` to `greatestPoint`, the notation with an exponent outside of it. -/
structure Layout where
  /-- The smallest place of the point that is written positionally; `none` for no bound. -/
  leastPoint : Option Int
  /-- The largest place of the point that is written positionally; `none` for no bound. -/
  greatestPoint : Option Int
  /-- What is appended to a whole number in positional notation. -/
  wholeSuffix : List Char

/-- Every number is written positionally, a whole number without a point. -/
def Layout.plain : Layout := ⟨none, none, []⟩

/-- Up to sixteen places before the point and up to five zeros after it are written positionally,
    a whole number with `.0`. -/
def Layout.compact : Layout := ⟨some (-4), some 16, ['.', '0']⟩

/-- Positional notation. -/
def Layout.positional (l : Layout) (s : Shortest) : List Char :=
  if s.point ≤ 0 then
    ['0', '.'] ++ List.replicate (-s.point).toNat '0' ++ s.digits
  else
    let k := s.point.toNat
    if s.digits.length ≤ k then
      s.digits ++ List.replicate (k - s.digits.length) '0' ++ l.wholeSuffix
    else s.digits.take k ++ '.' :: s.digits.drop k

/-- One digit before the point, and the power of ten after an `e`. -/
def Layout.scientific (s : Shortest) : List Char :=
  let exponent := 'e' :: Digits.ofInt (s.point - 1)
  match s.digits with
  | [] => exponent
  | [d] => d :: exponent
  | d :: ds => d :: '.' :: ds ++ exponent

/-- The text of the digits under the layout. -/
def Layout.write (l : Layout) (s : Shortest) : List Char :=
  if l.leastPoint.all (· ≤ s.point) && l.greatestPoint.all (s.point ≤ ·) then l.positional s
  else Layout.scientific s

/-- The text of a number of the format `f`; zero keeps its sign. -/
def Format.write (f : Format) (l : Layout) : Floating → List Char
  | .nan => ['N', 'a', 'N']
  | .infinite negative => if negative then ['-', 'i', 'n', 'f'] else ['i', 'n', 'f']
  | .finite negative m e =>
    let body := if m = 0 then '0' :: l.wholeSuffix else l.write (f.shortest m e)
    if negative then '-' :: body else body

end Floating

end Grok
