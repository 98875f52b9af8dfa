namespace Grok

/-!
# Runs of decimal digits

Counts, numbers and fractions are all read from runs of the ten ASCII digits.

* `Digits.split` cuts a text after its leading run of digits.
* `Digits.value` is the number a run denotes.
* `Digits.ofNat` is the run without leading zeros that denotes a number.
-/

namespace Digits

/-- The leading run of digits of a text and what follows it. -/
def split (cs : List Char) : List Char × List Char :=
  (cs.takeWhile Char.isDigit, cs.dropWhile Char.isDigit)

/-- The number a single digit stands for. -/
def digitValue (c : Char) : Nat := c.toNat - '0'.toNat

/-- The number a run of digits denotes, most significant digit first. -/
def value (ds : List Char) : Nat :=
  ds.foldl (fun n c => 10 * n + digitValue c) 0

/-- The decimal digits of a number, without leading zeros. -/
def ofNat (n : Nat) : List Char := Nat.toDigits 10 n

/-- The digits of a number, padded on the left with zeros to at least `width` places. -/
def ofNatPadded (width n : Nat) : List Char :=
  let ds := ofNat n
  List.replicate (width - ds.length) '0' ++ ds

/-- The decimal text of an integer: a minus sign if it is negative, then its digits. -/
def ofInt (n : Int) : List Char :=
  if n < 0 then '-' :: ofNat n.natAbs else ofNat n.natAbs

/-- Cutting off the leading digits loses nothing. -/
theorem split_append (cs : List Char) : (split cs).1 ++ (split cs).2 = cs :=
  List.takeWhile_append_dropWhile

/-- The leading run holds digits only. -/
theorem isDigit_of_mem_split {cs : List Char} {c : Char} (h : c ∈ (split cs).1) :
    c.isDigit = true := by
  unfold split at h
  induction cs with
  | nil => simp at h
  | cons d cs ih =>
    by_cases hd : d.isDigit = true
    · simp [hd] at h
      rcases h with rfl | h
      · exact hd
      · exact ih h
    · simp [hd] at h

end Digits

end Grok
