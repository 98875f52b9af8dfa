import Grok.Text.Digits
import Mathlib.Data.List.Basic
import Mathlib.Tactic.IntervalCases
import Mathlib.Tactic.Ring

namespace Grok.Digits

/-!
# Numerals

Runs of digits as numbers, and numbers as runs of digits.

* `Digits.value_append` — a run in front counts a power of ten more for every digit behind it.
* `Digits.value_ofNat` — a number is read back from its digits; `Digits.value_ofNatPadded` — zeros
  in front do not matter.
* `Digits.ofNat_cases` — a number is written as a single zero, or without a zero in front.
* `Digits.split_append_of_noDigitHead` — the digits at the head of a text are all up to the first
  other character.
-/

/-! ### Values -/

/-- Digits are read in base ten. -/
theorem value_eq_ofDigitChars (ds : List Char) : value ds = Nat.ofDigitChars 10 ds 0 := rfl

/-- Reading goes on from the number that has been read so far. -/
theorem foldl_digits (ds : List Char) (n : Nat) :
    ds.foldl (fun n c => 10 * n + digitValue c) n = n * 10 ^ ds.length + value ds := by
  induction ds generalizing n with
  | nil => simp [value]
  | cons d ds ih =>
    have hvalue : value (d :: ds) = (10 * 0 + digitValue d) * 10 ^ ds.length + value ds := ih _
    rw [List.foldl_cons, ih, hvalue, List.length_cons, pow_succ]
    ring

/-- Digits in front count by the place that they stand at. -/
theorem value_append (ds es : List Char) :
    value (ds ++ es) = value ds * 10 ^ es.length + value es := by
  rw [value, List.foldl_append, foldl_digits]
  rfl

theorem value_cons (d : Char) (ds : List Char) :
    value (d :: ds) = digitValue d * 10 ^ ds.length + value ds := by
  have h := value_append [d] ds
  simpa [value] using h

/-- Zeros count nothing. -/
theorem value_replicate_zero (k : Nat) : value (List.replicate k '0') = 0 := by
  induction k with
  | zero => rfl
  | succ k ih =>
    rw [List.replicate_succ, value_cons, ih]
    simp [digitValue]

theorem digitValue_lt {c : Char} (h : c.isDigit = true) : digitValue c < 10 := by
  simp only [Char.isDigit, Bool.and_eq_true, decide_eq_true_eq] at h
  have hle : c.toNat ≤ 57 := UInt32.le_iff_toNat_le.1 h.2
  have hzero : '0'.toNat = 48 := rfl
  unfold digitValue
  omega

/-- A run of digits denotes less than the power of ten with as many zeros. -/
theorem value_lt {ds : List Char} (h : ∀ c ∈ ds, c.isDigit = true) : value ds < 10 ^ ds.length := by
  induction ds with
  | nil => simp [value]
  | cons d ds ih =>
    have hd := digitValue_lt (h d List.mem_cons_self)
    have hds := ih fun c hc => h c (List.mem_cons_of_mem _ hc)
    rw [value_cons, List.length_cons, pow_succ]
    calc digitValue d * 10 ^ ds.length + value ds
        < digitValue d * 10 ^ ds.length + 10 ^ ds.length := by omega
      _ = (digitValue d + 1) * 10 ^ ds.length := by ring
      _ ≤ 10 * 10 ^ ds.length := Nat.mul_le_mul_right _ (by omega)
      _ = 10 ^ ds.length * 10 := Nat.mul_comm ..

/-- A digit differs from what is none. -/
theorem ne_of_isDigit {c d : Char} (hd : d.isDigit = true) (hc : c.isDigit = false) : d ≠ c := by
  rintro rfl
  rw [hd] at hc
  cases hc

/-! ### The digits of a number -/

/-- The digits of a number have its value. -/
theorem value_ofNat (n : Nat) : value (ofNat n) = n :=
  Nat.ofDigitChars_toDigits (by decide) (by decide)

theorem isDigit_of_mem_ofNat {n : Nat} {c : Char} (h : c ∈ ofNat n) : c.isDigit = true :=
  Nat.isDigit_of_mem_toDigits (by decide) (by decide) h

theorem ofNat_ne_nil (n : Nat) : ofNat n ≠ [] := Nat.toDigits_ne_nil

/-- A number is written as a single zero, or with another digit in front. -/
theorem ofNat_cases (n : Nat) :
    ofNat n = ['0'] ∨ ∃ d ds, ofNat n = d :: ds ∧ d ≠ '0' := by
  induction n using Nat.strong_induction_on with
  | h n ih =>
    unfold ofNat at ih ⊢
    rw [Nat.toDigits_eq_if (by decide)]
    split
    · rename_i hlt
      interval_cases n <;> simp [Nat.digitChar]
    · -- The last digit is put behind those of the tenth part, which is not zero.
      rename_i hge
      rcases ih (n / 10) (by omega) with hzero | ⟨d, ds, hds, hd⟩
      · have hvalue := value_ofNat (n / 10)
        rw [ofNat, hzero] at hvalue
        have : value ['0'] = 0 := rfl
        omega
      · exact .inr ⟨d, ds ++ [(n % 10).digitChar], by rw [hds]; rfl, hd⟩

/-- So they have with zeros in front. -/
theorem value_ofNatPadded (width n : Nat) : value (ofNatPadded width n) = n := by
  rw [ofNatPadded, value_append, value_replicate_zero, value_ofNat, Nat.zero_mul, Nat.zero_add]

theorem isDigit_of_mem_ofNatPadded {width n : Nat} {c : Char} (h : c ∈ ofNatPadded width n) :
    c.isDigit = true := by
  rcases List.mem_append.1 h with h | h
  · rw [List.eq_of_mem_replicate h]
    rfl
  · exact isDigit_of_mem_ofNat h

/-- A number that fits a width is padded to that width. -/
theorem length_ofNatPadded {width n : Nat} (hpos : 0 < width) (h : n < 10 ^ width) :
    (ofNatPadded width n).length = width := by
  have hle : (ofNat n).length ≤ width := (Nat.length_toDigits_le_iff (by decide) hpos).2 h
  rw [ofNatPadded, List.length_append, List.length_replicate]
  omega

/-! ### Digits at the head of a text -/

/-- A text that does not start with a digit. -/
def NoDigitHead (cs : List Char) : Prop := ∀ c rest, cs = c :: rest → c.isDigit = false

/-- A text has no digit at its head if its first character is none. -/
theorem noDigitHead_cons {c : Char} {cs : List Char} :
    NoDigitHead (c :: cs) ↔ c.isDigit = false := by
  constructor
  · exact fun h => h c cs rfl
  · rintro h d rest heq
    rw [← (List.cons.inj heq).1]
    exact h

/-- **The digits at the head of a text are cut off as a whole.** -/
theorem split_append_of_noDigitHead {ds rest : List Char} (hds : ∀ c ∈ ds, c.isDigit = true)
    (hrest : NoDigitHead rest) : split (ds ++ rest) = (ds, rest) := by
  have hnone : rest.takeWhile Char.isDigit = [] ∧ rest.dropWhile Char.isDigit = rest := by
    cases rest with
    | nil => exact ⟨rfl, rfl⟩
    | cons c rest => simp [noDigitHead_cons.1 hrest]
  rw [split, List.takeWhile_append_of_pos hds, List.dropWhile_append_of_pos hds, hnone.1, hnone.2,
    List.append_nil]

end Grok.Digits
