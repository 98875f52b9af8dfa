import Grok.Text.Digits

namespace Grok

/-!
# Durations

A `Duration` is an exact, signed number of nanoseconds within `±(2^63 - 1)` milliseconds.

* `Duration.ofNanoseconds?` is the only way in: a number outside of the range is refused.
* `Duration.sum?` adds up components from left to right; each component and each partial sum has
  to lie in the range.
* `Duration.text` writes a duration as seconds, `PT1.5S`.
-/

namespace Duration

/-- The number of nanoseconds in a second. -/
def nanosPerSecond : Nat := 1000000000

/-- The largest number of nanoseconds, `2^63 - 1` milliseconds. -/
def limit : Int := ((Nat.pow 2 63 - 1) * 1000000 : Nat)

end Duration

/-- A signed duration. -/
structure Duration where
  /-- The exact length. -/
  nanoseconds : Int
  /-- The length lies in the range. -/
  inRange : nanoseconds.natAbs ≤ Duration.limit.natAbs
  deriving DecidableEq

namespace Duration

/-- No time at all. -/
def zero : Duration := ⟨0, by decide⟩

instance : Inhabited Duration := ⟨zero⟩

/-- A duration of so many nanoseconds, if that is in the range. -/
def ofNanoseconds? (n : Int) : Option Duration :=
  if h : n.natAbs ≤ limit.natAbs then some ⟨n, h⟩ else none

/-- The sum of two durations, if it is in the range. -/
def add? (a b : Duration) : Option Duration := ofNanoseconds? (a.nanoseconds + b.nanoseconds)

/-- The opposite duration; the range is symmetric. -/
def negate (d : Duration) : Duration := ⟨-d.nanoseconds, by rw [Int.natAbs_neg]; exact d.inRange⟩

/-- Adds components, given in nanoseconds, to a running total from left to right. -/
def sumFrom? (total : Duration) : List Int → Option Duration
  | [] => some total
  | n :: ns => do
    let part ← ofNanoseconds? n
    let total ← total.add? part
    sumFrom? total ns

/-- The sum of components from left to right, each partial sum in the range. -/
def sum? (ns : List Int) : Option Duration := sumFrom? zero ns

/-- Whole seconds, rounded towards zero. -/
def seconds (d : Duration) : Int := d.nanoseconds.tdiv nanosPerSecond

/-- What remains beside the whole seconds, of the same sign. -/
def subsecondNanos (d : Duration) : Int := d.nanoseconds.tmod nanosPerSecond

/-- The length in nanoseconds where 64 bits hold it. -/
def nanoseconds64? (d : Duration) : Option Int :=
  if -(Nat.pow 2 63 : Int) ≤ d.nanoseconds ∧ d.nanoseconds < (Nat.pow 2 63 : Int) then some d.nanoseconds else none

/-- The digits of a fraction of a second without trailing zeros. -/
def fractionDigits (nanos : Nat) : List Char :=
  ((Digits.ofNatPadded 9 nanos).reverse.dropWhile (· = '0')).reverse

/-- The text of an unsigned length: whole seconds and, if there is one, the fraction. -/
def secondsText (n : Nat) : List Char :=
  let whole := Digits.ofNat (n / nanosPerSecond)
  let nanos := n % nanosPerSecond
  if nanos = 0 then whole else whole ++ '.' :: fractionDigits nanos

/-- The text of a duration: `P0D`, or seconds with up to nine decimals behind an optional sign. -/
def text (d : Duration) : List Char :=
  if d.nanoseconds = 0 then ['P', '0', 'D']
  else
    let unsigned := 'P' :: 'T' :: secondsText d.nanoseconds.natAbs ++ ['S']
    if d.nanoseconds < 0 then '-' :: unsigned else unsigned

end Duration

end Grok
