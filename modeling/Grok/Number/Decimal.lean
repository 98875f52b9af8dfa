import Grok.Number.Floating
import Grok.Text.Digits

namespace Grok

/-!
# Decimal floating-point literals

A literal is an optional sign followed by `nan`, `inf` or `infinity` in any letter case, or by
digits with an optional point among, before or after them (at least one digit), and an optional
exponent. `Floating.ofLiteral?` reads it as the nearest number of the wanted format.
-/

namespace Floating

/-- Splits a leading sign off; `true` stands for a minus. -/
def splitSign : List Char → Bool × List Char
  | '-' :: cs => (true, cs)
  | '+' :: cs => (false, cs)
  | cs => (false, cs)

/-- The exponent part that ends a literal: nothing, or `e` or `E`, an optional sign and digits. -/
def exponentOf? : List Char → Option Int
  | [] => some 0
  | c :: cs =>
    if c = 'e' ∨ c = 'E' then
      let (negative, ds) := splitSign cs
      if ds ≠ [] ∧ ds.all Char.isDigit then
        some (if negative then -(Digits.value ds : Int) else Digits.value ds)
      else none
    else none

/-- The fractional digits after a point, if there is one, and what follows. -/
def splitFraction : List Char → List Char × List Char
  | '.' :: cs => Digits.split cs
  | cs => ([], cs)

/-- The coefficient and the power of ten of an unsigned literal. -/
def decimalOf? (cs : List Char) : Option (Nat × Int) := do
  let (whole, rest) := Digits.split cs
  let (fraction, rest) := splitFraction rest
  if whole = [] ∧ fraction = [] then none
  else
    let exponent ← exponentOf? rest
    some (Digits.value (whole ++ fraction), exponent - fraction.length)

/-- Reads a whole text as a number of the format `f`. -/
def Format.ofLiteral? (f : Format) (cs : List Char) : Option Floating :=
  let (negative, body) := splitSign cs
  let word := String.ofList (body.map Char.toLower)
  if word = "nan" then some .nan
  else if word = "inf" ∨ word = "infinity" then some (.infinite negative)
  else (decimalOf? body).map fun (coefficient, exponent) => f.round negative coefficient exponent

end Floating

end Grok
