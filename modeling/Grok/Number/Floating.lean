namespace Grok

/-!
# Binary floating-point numbers

A `Floating` is a number of a binary interchange format, held by its exact value: a finite one is
`± mantissa · 2 ^ exponent`. A `Floating.Format` gives the precision and the exponent range.

* `Format.round` is the nearest number of a format to a decimal fraction, ties to the even
  mantissa; what lies beyond the largest number is infinite.
* `Format.bits` is the interchange encoding.
-/

/-- A floating-point number. `finite neg m e` stands for `m · 2 ^ e`, negated if `neg`. -/
inductive Floating where
  | nan
  | infinite (negative : Bool)
  | finite (negative : Bool) (mantissa : Nat) (exponent : Int)
  deriving DecidableEq, Repr, Inhabited

namespace Floating

/-- A binary format: mantissas have at most `precision` bits, exponents of mantissas (as integers)
    run from `minExponent` up to `maxExponent`, and the encoded exponent has `exponentBits` bits. -/
structure Format where
  precision : Nat
  minExponent : Int
  maxExponent : Int
  exponentBits : Nat

/-- The 32-bit format. -/
def Format.single : Format := ⟨24, -149, 104, 8⟩

/-- The 64-bit format. -/
def Format.double : Format := ⟨53, -1074, 971, 11⟩

/-- `num / den` rounded to the nearest integer, a tie going to the even one. -/
def roundHalfEven (num den : Nat) : Nat :=
  let q := num / den
  let twice := 2 * (num % den)
  if twice < den then q
  else if den < twice then q + 1
  else if q % 2 = 0 then q else q + 1

/-- The quotient `num / den` scaled by `2 ^ (-e)`, as a fraction of naturals. -/
def scaled (num den : Nat) (e : Int) : Nat × Nat :=
  if 0 ≤ e then (num, den * Nat.pow 2 e.toNat) else (num * Nat.pow 2 (-e).toNat, den)

/-- The number of `f` nearest to the positive fraction `num / den`. The exponent is chosen so that
    the mantissa fills the precision, but never below the smallest exponent of the format. -/
def Format.roundFraction (f : Format) (negative : Bool) (num den : Nat) : Floating :=
  let estimate : Int := (Nat.log2 num : Int) - Nat.log2 den
  let probe := scaled num den estimate
  let magnitude : Int := if probe.1 < probe.2 then estimate - 1 else estimate
  let e : Int := max f.minExponent (magnitude - f.precision + 1)
  let (n, d) := scaled num den e
  let m := roundHalfEven n d
  let (m, e) :=
    if m = Nat.pow 2 f.precision then (Nat.pow 2 (f.precision - 1), e + 1) else (m, e)
  if f.maxExponent < e then .infinite negative
  else if m = 0 then .finite negative 0 f.minExponent
  else .finite negative m e

/-- A bound on the decimal magnitude: a positive number with a decimal point this far out rounds to
    infinity or to zero in every format of this module. -/
def magnitudeBound : Int := 2000

/-- The number of `f` nearest to `± coefficient · 10 ^ exponent`. -/
def Format.round (f : Format) (negative : Bool) (coefficient : Nat) (exponent : Int) : Floating :=
  let magnitude : Int := exponent + (Nat.toDigits 10 coefficient).length
  if coefficient = 0 then .finite negative 0 f.minExponent
  else if magnitudeBound < magnitude then .infinite negative
  else if magnitude < -magnitudeBound then .finite negative 0 f.minExponent
  else if 0 ≤ exponent then f.roundFraction negative (coefficient * Nat.pow 10 exponent.toNat) 1
  else f.roundFraction negative coefficient (Nat.pow 10 (-exponent).toNat)

/-- The same number in a wider format. -/
def Format.widen (f : Format) : Floating → Floating
  | .finite negative 0 _ => .finite negative 0 f.minExponent
  | .finite negative m e =>
    let (n, d) := scaled m 1 (-e)
    f.roundFraction negative n d
  | x => x

/-- The interchange encoding of a number of the format: sign, biased exponent, trailing bits of
    the mantissa. `none` for a NaN, whose payload means nothing here. -/
def Format.bits? (f : Format) : Floating → Option Nat
  | .nan => none
  | .infinite negative =>
    some (sign negative + (Nat.pow 2 f.exponentBits - 1) * Nat.pow 2 (f.precision - 1))
  | .finite negative m e =>
    let hidden := Nat.pow 2 (f.precision - 1)
    if m < hidden then some (sign negative + m)
    else some (sign negative + (e - f.minExponent + 1).toNat * hidden + (m - hidden))
where
  /-- The encoded sign. -/
  sign (negative : Bool) : Nat :=
    if negative then Nat.pow 2 (f.precision - 1 + f.exponentBits) else 0

end Floating

end Grok
