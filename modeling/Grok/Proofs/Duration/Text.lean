import Grok.Proofs.Duration.Range
import Mathlib.Algebra.Order.BigOperators.Group.List

namespace Grok.Duration

/-!
# Printed durations

A duration is printed as seconds, and what is printed is read as the same duration again, over the
whole range.

* `Duration.value_fractionDigits` — a printed fraction denotes its nanoseconds, though zeros at the
  end are left out.
* `Duration.printed` — the parts that a printed duration is made of; `Duration.writes_text` says
  that these are written, `Duration.fits_printed` that they fit.
* `Duration.parse_text` — a printed duration is read back.
-/

/-! ### Fractions -/

/-- Zeros at the head can be taken apart from the rest. -/
theorem exists_leading_zeros (ds : List Char) :
    ∃ k, ds = List.replicate k '0' ++ ds.dropWhile (· = '0') := by
  induction ds with
  | nil => exact ⟨0, rfl⟩
  | cons d ds ih =>
    by_cases hd : d = '0'
    · obtain ⟨k, hk⟩ := ih
      refine ⟨k + 1, ?_⟩
      rw [List.dropWhile_cons_of_pos (by simpa using hd), List.replicate_succ, List.cons_append,
        ← hk, hd]
    · exact ⟨0, by rw [List.dropWhile_cons_of_neg (by simpa using hd)]; rfl⟩

/-- Only zeros are left out at the end of a fraction. -/
theorem exists_trailing_zeros (nanos : Nat) :
    ∃ k, Digits.ofNatPadded 9 nanos = fractionDigits nanos ++ List.replicate k '0' := by
  obtain ⟨k, hk⟩ := exists_leading_zeros (Digits.ofNatPadded 9 nanos).reverse
  refine ⟨k, ?_⟩
  rw [fractionDigits, ← List.reverse_replicate, ← List.reverse_append, ← hk, List.reverse_reverse]

/-- A fraction is printed in digits. -/
theorem isDigit_of_mem_fractionDigits {nanos : Nat} {c : Char} (h : c ∈ fractionDigits nanos) :
    c.isDigit = true := by
  obtain ⟨k, hk⟩ := exists_trailing_zeros nanos
  apply Digits.isDigit_of_mem_ofNatPadded
  rw [hk]
  exact List.mem_append_left _ h

/-- A printed fraction denotes the nanoseconds that it was printed for. -/
theorem value_fractionDigits {nanos : Nat} (h : nanos < nanosPerSecond) :
    (fractionDigits nanos).length ≤ 9 ∧
      Digits.value (fractionDigits nanos) * 10 ^ (9 - (fractionDigits nanos).length) = nanos := by
  obtain ⟨k, hk⟩ := exists_trailing_zeros nanos
  have hlength : (fractionDigits nanos).length + k = 9 := by
    rw [← Digits.length_ofNatPadded (by decide : 0 < 9) h, hk, List.length_append,
      List.length_replicate]
  have hvalue : Digits.value (fractionDigits nanos) * 10 ^ k = nanos := by
    have hpadded := Digits.value_ofNatPadded 9 nanos
    rwa [hk, Digits.value_append, Digits.value_replicate_zero, List.length_replicate,
      Nat.add_zero] at hpadded
  refine ⟨by omega, ?_⟩
  rwa [← hlength, Nat.add_sub_cancel_left]

/-! ### Sums of parts that are not negative -/

/-- What lies between zero and a number in range is in range. -/
theorem InRange.of_le {m n : Int} (h : InRange n) (hm : 0 ≤ m) (hle : m ≤ n) : InRange m := by
  unfold InRange at *
  omega

/-- Where no part is negative, the parts fit if the whole sum does. -/
theorem fits_of_nonneg {ns : List Int} (hns : ∀ n ∈ ns, 0 ≤ n) {total : Int} (htotal : 0 ≤ total)
    (h : InRange (total + ns.sum)) : Fits total ns := by
  induction ns generalizing total with
  | nil => exact ⟨by simp, fun k => by simpa using h⟩
  | cons n ns ih =>
    obtain ⟨hn, hns⟩ := List.forall_mem_cons.1 hns
    have hsum : 0 ≤ ns.sum := List.sum_nonneg hns
    rw [List.sum_cons] at h
    refine (fits_cons (h.of_le htotal (by omega))).2 ⟨h.of_le hn (by omega), ?_⟩
    exact ih hns (by omega) (by rwa [Int.add_assoc])

/-! ### Printing and reading -/

/-- The parts that a printed duration other than zero is made of. -/
def printed (d : Duration) : Literal where
  negative := d.nanoseconds < 0
  days := none
  hours := none
  minutes := none
  seconds := some ⟨⟨false, Digits.ofNat (d.nanoseconds.natAbs / nanosPerSecond)⟩,
    fractionDigits (d.nanoseconds.natAbs % nanosPerSecond)⟩

/-- What is printed is written for the printed parts. -/
theorem writes_text {d : Duration} (h : d.nanoseconds ≠ 0) : d.printed.Writes d.text := by
  have hcount : Count.Writes ⟨false, Digits.ofNat (d.nanoseconds.natAbs / nanosPerSecond)⟩
      (Digits.ofNat (d.nanoseconds.natAbs / nanosPerSecond)) :=
    .bare (Digits.ofNat_ne_nil _) fun _ => Digits.isDigit_of_mem_ofNat
  -- Decimals are printed unless the nanoseconds are whole seconds.
  have hseconds : WritesSeconds d.printed.seconds (secondsText d.nanoseconds.natAbs ++ ['S']) := by
    unfold printed secondsText
    dsimp only
    split
    · rename_i hzero
      rw [hzero]
      exact .whole hcount rfl
    · rw [List.append_assoc]
      have hnanos : d.nanoseconds.natAbs % nanosPerSecond < nanosPerSecond :=
        Nat.mod_lt _ (by decide)
      exact .decimals hcount (.inl rfl) (fun _ => isDigit_of_mem_fractionDigits)
        (value_fractionDigits hnanos).1 rfl
  have hsign : WritesSign d.printed.negative (if d.nanoseconds < 0 then ['-'] else []) := by
    unfold printed
    by_cases hneg : d.nanoseconds < 0
    · simpa [hneg] using WritesSign.minus
    · simpa [hneg] using WritesSign.bare
  -- Nothing is printed but a sign and the seconds, so the other parts are absent.
  have hwrites : d.printed.Writes ((if d.nanoseconds < 0 then ['-'] else []) ++
      'P' :: ([] ++ 'T' :: ([] ++ ([] ++ (secondsText d.nanoseconds.natAbs ++ ['S']))))) :=
    .time hsign rfl .absent rfl .absent .absent hseconds (.inr (.inr rfl))
  rw [text, if_neg h]
  by_cases hneg : d.nanoseconds < 0
  · simpa [hneg] using hwrites
  · simpa [hneg] using hwrites

/-- The printed parts are the whole seconds and the fraction. -/
theorem parts_printed (d : Duration) :
    d.printed.parts =
      [0, 0, 0, ((d.nanoseconds.natAbs / nanosPerSecond * nanosPerSecond : Nat) : Int),
        ((d.nanoseconds.natAbs % nanosPerSecond : Nat) : Int)] := by
  have hwhole : Literal.inNanoseconds 1
      ⟨false, Digits.ofNat (d.nanoseconds.natAbs / nanosPerSecond)⟩ =
        ((d.nanoseconds.natAbs / nanosPerSecond * nanosPerSecond : Nat) : Int) := by
    simp [Literal.inNanoseconds, Count.value, Digits.value_ofNat]
  have hfraction : Literal.fractionNanos
      ⟨⟨false, Digits.ofNat (d.nanoseconds.natAbs / nanosPerSecond)⟩,
        fractionDigits (d.nanoseconds.natAbs % nanosPerSecond)⟩ =
        ((d.nanoseconds.natAbs % nanosPerSecond : Nat) : Int) :=
    congrArg Nat.cast (value_fractionDigits (Nat.mod_lt _ (by decide))).2
  rw [← hwhole, ← hfraction]
  rfl

/-- They add up to the length without its sign, and so do not leave the range on the way. -/
theorem fits_printed (d : Duration) :
    d.printed.parts.sum = d.nanoseconds.natAbs ∧ Fits 0 d.printed.parts := by
  have hsum : d.printed.parts.sum = d.nanoseconds.natAbs := by
    have hdivision := Nat.div_add_mod' d.nanoseconds.natAbs nanosPerSecond
    simp only [parts_printed, List.sum_cons, List.sum_nil]
    omega
  have hnonneg : ∀ n ∈ d.printed.parts, 0 ≤ n := by
    intro n hn
    simp only [parts_printed, List.mem_cons, List.not_mem_nil, or_false] at hn
    omega
  have hrange : InRange (0 + d.printed.parts.sum) := by
    rw [hsum, Int.zero_add, InRange, Int.natAbs_natCast]
    exact d.inRange
  exact ⟨hsum, fits_of_nonneg hnonneg (Int.le_refl 0) hrange⟩

/-- **A printed duration is read back**, over the whole range. -/
theorem parse_text (d : Duration) : parse d.text = some d := by
  -- Only zero is printed in days.
  by_cases h : d.nanoseconds = 0
  · have hd : d = zero := eq_of_nanoseconds_eq h
    subst hd
    decide +kernel
  · have hparse : parse d.text = d.printed.duration? := parse_eq_duration? (writes_text h)
    obtain ⟨hsum, hfits⟩ := fits_printed d
    rcases d.printed.duration?_cases with ⟨e, he, hexact, -⟩ | ⟨-, hout⟩
    · rw [hparse, he, Option.some_inj]
      apply eq_of_nanoseconds_eq
      rw [hexact, hsum]
      by_cases hneg : d.nanoseconds < 0
      · simp only [printed, hneg, decide_true, if_true]
        omega
      · simp only [printed, hneg, decide_false, Bool.false_eq_true, if_false]
        omega
    · exact absurd hfits hout

end Grok.Duration
