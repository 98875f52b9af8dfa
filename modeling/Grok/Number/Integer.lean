import Grok.Text.Digits

namespace Grok

/-!
# Integer literals

An integer literal is an optional sign and at least one digit; leading zeros are allowed.
`Integer.ofLiteral?` reads one exactly, and `Integer.short?`, `Integer.int?` and `Integer.long?`
accept the value only if it fits the width, so no value ever wraps around.
-/

namespace Integer

/-- The value of an unsigned run of digits that makes up the whole text. -/
def ofDigits? (cs : List Char) : Option Nat :=
  if cs ≠ [] ∧ cs.all Char.isDigit then some (Digits.value cs) else none

/-- The value of a literal: an optional `+` or `-`, then digits only. -/
def ofLiteral? : List Char → Option Int
  | '-' :: cs => (ofDigits? cs).map fun n => -(n : Int)
  | '+' :: cs => (ofDigits? cs).map Int.ofNat
  | cs => (ofDigits? cs).map Int.ofNat

/-- The integers of `bits` bits in two's complement. -/
def Fits (bits : Nat) (n : Int) : Prop :=
  -(Nat.pow 2 (bits - 1) : Int) ≤ n ∧ n < (Nat.pow 2 (bits - 1) : Int)

instance (bits : Nat) (n : Int) : Decidable (Fits bits n) := inferInstanceAs (Decidable (_ ∧ _))

/-- A literal whose value fits 16 bits. -/
def short? (cs : List Char) : Option Int16 := do
  let n ← ofLiteral? cs
  if Fits 16 n then some (Int16.ofInt n) else none

/-- A literal whose value fits 32 bits. -/
def int? (cs : List Char) : Option Int32 := do
  let n ← ofLiteral? cs
  if Fits 32 n then some (Int32.ofInt n) else none

/-- A literal whose value fits 64 bits. -/
def long? (cs : List Char) : Option Int64 := do
  let n ← ofLiteral? cs
  if Fits 64 n then some (Int64.ofInt n) else none

end Integer

end Grok
