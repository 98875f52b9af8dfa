import Grok.Proofs.Duration.Written
import Mathlib.Algebra.Order.Field.Basic
import Mathlib.Data.List.Forall2
import Mathlib.Tactic.Linarith

namespace Grok.Duration

/-!
# The range of durations

A literal is added up from its parts. Each part and each sum on the way is kept exactly, or the
literal is refused.

* `Duration.Fits` — each part, and each sum of the first few, is in the range.
* `Duration.sumFrom?_cases`, `Duration.Literal.duration?_cases` — a sum is exact, or its parts do
  not fit.
* `Duration.Literal.amounts` — what the parts of a literal are written for, in seconds;
  `Duration.Literal.measures_parts` relates the two.
* `Duration.parse_written` — a written duration is exactly the sum of its amounts, or one of them
  or of their sums is beyond `2^63 - 1` milliseconds.
-/

/-- A number of nanoseconds lies in the range. -/
def InRange (n : Int) : Prop := n.natAbs ≤ limit.natAbs

/-- Parts fit, behind a total: each of them and every sum on the way is in the range. -/
def Fits (total : Int) (ns : List Int) : Prop :=
  (∀ n ∈ ns, InRange n) ∧ ∀ k, InRange (total + (ns.take k).sum)

/-- A duration is its number of nanoseconds. -/
theorem eq_of_nanoseconds_eq {d e : Duration} (h : d.nanoseconds = e.nanoseconds) : d = e := by
  cases d
  cases e
  cases h
  rfl

/-! ### Exact sums -/

theorem ofNanoseconds?_of_inRange {n : Int} (h : InRange n) : ofNanoseconds? n = some ⟨n, h⟩ :=
  dif_pos h

theorem ofNanoseconds?_of_not_inRange {n : Int} (h : ¬ InRange n) : ofNanoseconds? n = none :=
  dif_neg h

/-- One part more: it and the total with it have to be in the range. -/
theorem sumFrom?_cons {total : Duration} {n : Int} {ns : List Int} (hn : InRange n)
    (hsum : InRange (total.nanoseconds + n)) :
    sumFrom? total (n :: ns) = sumFrom? ⟨total.nanoseconds + n, hsum⟩ ns := by
  rw [sumFrom?, ofNanoseconds?_of_inRange hn]
  change (total.add? ⟨n, hn⟩).bind (fun total => sumFrom? total ns) = _
  rw [add?, ofNanoseconds?_of_inRange hsum]
  rfl

/-- A sum fails at an amount that is out of range, or that takes the sum there. -/
theorem sumFrom?_cons_eq_none {total : Duration} {n : Int} {ns : List Int}
    (h : ¬ InRange n ∨ ¬ InRange (total.nanoseconds + n)) : sumFrom? total (n :: ns) = none := by
  by_cases hn : InRange n
  · have hsum : ¬ InRange (total.nanoseconds + n) := h.resolve_left (not_not.2 hn)
    rw [sumFrom?, ofNanoseconds?_of_inRange hn]
    change (total.add? ⟨n, hn⟩).bind (fun total => sumFrom? total ns) = none
    rw [add?, ofNanoseconds?_of_not_inRange hsum]
    rfl
  · rw [sumFrom?, ofNanoseconds?_of_not_inRange hn]
    rfl

/-- Amounts fit one after the other. -/
theorem fits_cons {total n : Int} {ns : List Int} (htotal : InRange total) :
    Fits total (n :: ns) ↔ InRange n ∧ Fits (total + n) ns := by
  have hsum : ∀ k, total + ((n :: ns).take (k + 1)).sum = total + n + (ns.take k).sum := by
    intro k
    rw [List.take_succ_cons, List.sum_cons, Int.add_assoc]
  constructor
  · rintro ⟨hparts, hsums⟩
    obtain ⟨hn, hns⟩ := List.forall_mem_cons.1 hparts
    exact ⟨hn, hns, fun k => hsum k ▸ hsums (k + 1)⟩
  · rintro ⟨hn, hns, hsums⟩
    refine ⟨List.forall_mem_cons.2 ⟨hn, hns⟩, fun k => ?_⟩
    cases k with
    | zero => simpa using htotal
    | succ k => exact hsum k ▸ hsums k

/-- **A sum is exact, or its parts do not fit.** -/
theorem sumFrom?_cases (total : Duration) (ns : List Int) :
    (∃ d, sumFrom? total ns = some d ∧ d.nanoseconds = total.nanoseconds + ns.sum ∧
        Fits total.nanoseconds ns) ∨
      sumFrom? total ns = none ∧ ¬ Fits total.nanoseconds ns := by
  -- The induction is on the parts; the total carries its own place in the range along.
  have htotal : InRange total.nanoseconds := total.inRange
  induction ns generalizing total with
  | nil =>
    have hfits : Fits total.nanoseconds [] := ⟨by simp, fun k => by simpa using htotal⟩
    exact .inl ⟨total, rfl, by simp, hfits⟩
  | cons n ns ih =>
    rw [fits_cons htotal]
    by_cases hn : InRange n
    · by_cases hsum : InRange (total.nanoseconds + n)
      · rw [sumFrom?_cons hn hsum]
        rcases ih ⟨total.nanoseconds + n, hsum⟩ hsum with ⟨d, hd, hexact, hfits⟩ | ⟨hnone, hout⟩
        · exact .inl ⟨d, hd, by rw [hexact, List.sum_cons, Int.add_assoc], hn, hfits⟩
        · exact .inr ⟨hnone, fun h => hout h.2⟩
      · refine .inr ⟨sumFrom?_cons_eq_none (.inr hsum), fun h => hsum ?_⟩
        simpa using h.2.2 0
    · exact .inr ⟨sumFrom?_cons_eq_none (.inl hn), fun h => hn h.1⟩

/-- Adding nothing changes nothing, for a total is in the range already. -/
theorem sumFrom?_zero_cons (total : Duration) (ns : List Int) :
    sumFrom? total (0 :: ns) = sumFrom? total ns := by
  have hzero : InRange 0 := by simp [InRange]
  have hsum : InRange (total.nanoseconds + 0) := by
    rw [Int.add_zero]
    exact total.inRange
  rw [sumFrom?_cons hzero hsum]
  congr 1
  exact eq_of_nanoseconds_eq (Int.add_zero _)

namespace Literal

/-- The parts of a literal in nanoseconds, a missing one being zero. -/
def parts (l : Literal) : List Int :=
  [(l.days.map (inNanoseconds 86400)).getD 0, (l.hours.map (inNanoseconds 3600)).getD 0,
    (l.minutes.map (inNanoseconds 60)).getD 0,
    (l.seconds.map fun s => inNanoseconds 1 s.count).getD 0, (l.seconds.map fractionNanos).getD 0]

/-- A missing part adds as much as a zero. -/
theorem sumFrom?_part {total : Duration} {c : Option Count} {unit : Nat} {ns ms : List Int}
    (h : ∀ total, sumFrom? total ns = sumFrom? total ms) :
    sumFrom? total (c.toList.map (inNanoseconds unit) ++ ns) =
      sumFrom? total ((c.map (inNanoseconds unit)).getD 0 :: ms) := by
  cases c with
  | none => exact (h total).trans (sumFrom?_zero_cons total ms).symm
  | some c =>
    simp only [Option.toList_some, List.map_cons, List.map_nil, List.cons_append, List.nil_append,
      Option.map_some, Option.getD_some, sumFrom?, h]

/-- Missing parts make no difference. -/
theorem sum?_components (l : Literal) : sum? l.components = sum? l.parts := by
  have hseconds : ∀ total, sumFrom? total (l.seconds.toList.flatMap fun s =>
      [inNanoseconds 1 s.count, fractionNanos s]) =
        sumFrom? total [(l.seconds.map fun s => inNanoseconds 1 s.count).getD 0,
          (l.seconds.map fractionNanos).getD 0] := by
    intro total
    cases l.seconds with
    | none =>
      simp only [Option.map_none, Option.getD_none, sumFrom?_zero_cons]
      rfl
    | some s => rfl
  -- From the left, each part in turn, with what stands behind it settled for any total.
  unfold sum? components parts
  rw [List.append_assoc, List.append_assoc]
  apply sumFrom?_part
  intro total
  apply sumFrom?_part
  intro total
  exact sumFrom?_part hseconds

/-- **A literal is the exact sum of its parts**, or they do not fit. Its sign plays no part in
    that, as the range is symmetric. -/
theorem duration?_cases (l : Literal) :
    (∃ d, l.duration? = some d ∧ d.nanoseconds = (if l.negative then -1 else 1) * l.parts.sum ∧
        Fits 0 l.parts) ∨
      l.duration? = none ∧ ¬ Fits 0 l.parts := by
  rw [duration?, sum?_components, sum?]
  rcases sumFrom?_cases zero l.parts with ⟨d, hd, hexact, hfits⟩ | ⟨hnone, hout⟩
  · have hsum : d.nanoseconds = l.parts.sum := hexact.trans (Int.zero_add _)
    refine .inl ⟨if l.negative then d.negate else d, by rw [hd]; rfl, ?_, hfits⟩
    cases l.negative with
    | true => simp [negate, hsum]
    | false => simp [hsum]
  · exact .inr ⟨by rw [hnone]; rfl, hout⟩

end Literal

/-! ### Amounts -/

/-- The number that a count is written for. -/
def Count.number (c : Count) : ℚ :=
  (if c.negative then -1 else 1) * Nat.ofDigitChars 10 c.digits 0

/-- The decimals of written seconds as a fraction of a second. It has the sign that the seconds are
    written with, also where they are `-0`. -/
def Seconds.fraction (s : Seconds) : ℚ :=
  (if s.count.negative then -1 else 1) *
    (Nat.ofDigitChars 10 s.decimals 0 / 10 ^ s.decimals.length)

/-- The length of a duration in seconds. -/
def inSeconds (d : Duration) : ℚ := d.nanoseconds / 10 ^ 9

/-- So many seconds are more than `2^63 - 1` milliseconds, in either direction. -/
def Beyond (seconds : ℚ) : Prop := 2 ^ 63 - 1 < |seconds| * 1000

namespace Literal

/-- What a literal is written for, in seconds: days, hours, minutes, whole seconds and the fraction
    of a second, a missing part being zero. -/
def amounts (l : Literal) : List ℚ :=
  [86400 * (l.days.map Count.number).getD 0, 3600 * (l.hours.map Count.number).getD 0,
    60 * (l.minutes.map Count.number).getD 0,
    (l.seconds.map fun s => s.count.number).getD 0, (l.seconds.map Seconds.fraction).getD 0]

/-- The sign of a literal as a whole. -/
def sign (l : Literal) : ℚ := if l.negative then -1 else 1

end Literal

/-! ### Parts and amounts -/

/-- A number of nanoseconds is as long as a number of seconds. -/
def Measures (n : Int) (x : ℚ) : Prop := (n : ℚ) = x * 10 ^ 9

/-- The range in nanoseconds is the range in seconds. -/
theorem inRange_iff_not_beyond {n : Int} {x : ℚ} (h : Measures n x) :
    InRange n ↔ ¬ Beyond x := by
  -- Both sides are compared in nanoseconds, where the ends of the range are whole numbers.
  have hcast : InRange n ↔ |(n : ℚ)| ≤ (2 ^ 63 - 1) * 10 ^ 6 := by
    have hlimit : limit.natAbs = (2 ^ 63 - 1) * 10 ^ 6 := by decide
    rw [InRange, hlimit, ← @Nat.cast_le ℚ, Nat.cast_natAbs, Int.cast_abs]
    norm_num
  have hscale : |x * 10 ^ 9| = |x| * 1000 * 10 ^ 6 := by
    rw [abs_mul, abs_of_pos (by positivity : (0 : ℚ) < 10 ^ 9)]
    ring
  rw [hcast, h, hscale, Beyond, not_lt]
  exact mul_le_mul_iff_left₀ (by positivity)

/-- Measuring is additive. -/
theorem measures_sum {ns : List Int} {xs : List ℚ} (h : List.Forall₂ Measures ns xs) :
    Measures ns.sum xs.sum := by
  induction h with
  | nil => simp [Measures]
  | cons hn _ ih =>
    rw [Measures] at hn ih ⊢
    rw [List.sum_cons, List.sum_cons, Int.cast_add, hn, ih, add_mul]

/-- The same for several amounts. -/
theorem forall_inRange_iff {ns : List Int} {xs : List ℚ} (h : List.Forall₂ Measures ns xs) :
    (∀ n ∈ ns, InRange n) ↔ ∀ x ∈ xs, ¬ Beyond x := by
  induction h with
  | nil => simp
  | cons hn _ ih =>
    rw [List.forall_mem_cons, List.forall_mem_cons, inRange_iff_not_beyond hn, ih]

/-- Parts fit where no amount, and no sum of the first few, is beyond the range. -/
theorem fits_zero_iff {ns : List Int} {xs : List ℚ} (h : List.Forall₂ Measures ns xs) :
    Fits 0 ns ↔ (∀ x ∈ xs, ¬ Beyond x) ∧ ∀ k, ¬ Beyond (xs.take k).sum := by
  refine and_congr (forall_inRange_iff h) (forall_congr' fun k => ?_)
  rw [Int.zero_add]
  exact inRange_iff_not_beyond (measures_sum (List.forall₂_take k h))

/-- A count is the number that it is written as. -/
theorem Count.cast_value (c : Count) : (c.value : ℚ) = c.number := by
  rw [value, number]
  split <;> simp [Digits.value_eq_ofDigitChars]

/-- A count of a unit measures so many seconds. -/
theorem Count.measures (unit : Nat) (c : Count) :
    Measures (Literal.inNanoseconds unit c) (unit * c.number) := by
  rw [Measures, Literal.inNanoseconds, Int.cast_mul, Int.cast_mul, Count.cast_value, nanosPerSecond]
  push_cast
  ring

/-- A count that is not given measures nothing. -/
theorem Count.measures_getD (unit : Nat) (c : Option Count) :
    Measures ((c.map (Literal.inNanoseconds unit)).getD 0) (unit * (c.map number).getD 0) := by
  cases c with
  | none => simp [Measures]
  | some c => exact Count.measures unit c

/-- Up to nine decimals are a whole number of nanoseconds. -/
theorem Seconds.measures_fraction {s : Seconds} (h : s.decimals.length ≤ 9) :
    Measures (Literal.fractionNanos s) s.fraction := by
  have hpad : (Digits.value s.decimals * 10 ^ (9 - s.decimals.length) : ℚ) =
      Nat.ofDigitChars 10 s.decimals 0 / 10 ^ s.decimals.length * 10 ^ 9 := by
    rw [Digits.value_eq_ofDigitChars, pow_sub₀ _ (by norm_num) h]
    ring
  rw [Measures, Literal.fractionNanos, fraction, mul_assoc, ← hpad]
  split <;> simp

/-- A fraction is less than a second. -/
theorem Seconds.not_beyond_fraction {s : Seconds} (h : ∀ c ∈ s.decimals, c.isDigit = true) :
    ¬ Beyond s.fraction := by
  have hlt : (Nat.ofDigitChars 10 s.decimals 0 : ℚ) < 10 ^ s.decimals.length := by
    rw [← Digits.value_eq_ofDigitChars]
    exact_mod_cast Digits.value_lt h
  have hfraction : |s.fraction| ≤ 1 := by
    have hpos : (0 : ℚ) < 10 ^ s.decimals.length := by positivity
    have hsign : |(if s.count.negative then -1 else 1 : ℚ)| = 1 := by split <;> simp
    rw [fraction, abs_mul, hsign, one_mul, abs_of_nonneg (by positivity), div_le_one hpos]
    exact hlt.le
  rw [Beyond]
  linarith

namespace Literal

/-- **The parts of a literal measure its amounts.** -/
theorem measures_parts {l : Literal} (h : ∀ s, l.seconds = some s → s.decimals.length ≤ 9) :
    List.Forall₂ Measures l.parts l.amounts := by
  have hseconds : Measures ((l.seconds.map fun s => inNanoseconds 1 s.count).getD 0)
      ((l.seconds.map fun s => s.count.number).getD 0) := by
    cases l.seconds with
    | none => simp [Measures]
    | some s => simpa using s.count.measures 1
  have hfraction : Measures ((l.seconds.map fractionNanos).getD 0)
      ((l.seconds.map Seconds.fraction).getD 0) := by
    cases hs : l.seconds with
    | none => simp [Measures]
    | some s => exact Seconds.measures_fraction (h s hs)
  exact .cons (Count.measures_getD 86400 _) <| .cons (Count.measures_getD 3600 _) <|
    .cons (Count.measures_getD 60 _) <| .cons hseconds <| .cons hfraction .nil

/-- What is written behind the point are digits, nine at the most. -/
theorem decimals_of_writes {l : Literal} {cs : List Char} (h : l.Writes cs) {s : Seconds}
    (hs : l.seconds = some s) : (∀ c ∈ s.decimals, c.isDigit = true) ∧ s.decimals.length ≤ 9 := by
  have hwritten : ∀ {s ss}, WritesSeconds (some s) ss →
      (∀ c ∈ s.decimals, c.isDigit = true) ∧ s.decimals.length ≤ 9 := by
    intro s ss h
    cases h with
    | whole => exact ⟨by simp, by simp⟩
    | decimals _ _ hds hnine => exact ⟨hds, hnine⟩
  cases h with
  | days => cases hs
  | time _ _ _ _ _ _ hseconds =>
    cases hs
    exact hwritten hseconds

/-- The parts fit unless an amount, or the sum of the first few, is beyond the range. -/
theorem fits_parts_iff {l : Literal} {cs : List Char} (h : l.Writes cs) :
    Fits 0 l.parts ↔
      ¬ ((∃ x ∈ l.amounts.take 4, Beyond x) ∨ ∃ k, Beyond (l.amounts.take k).sum) := by
  have hfraction : ¬ Beyond ((l.seconds.map Seconds.fraction).getD 0) := by
    cases hs : l.seconds with
    | none => norm_num [Beyond]
    | some s => exact Seconds.not_beyond_fraction (decimals_of_writes h hs).1
  have hamounts : (∀ x ∈ l.amounts, ¬ Beyond x) ↔ ∀ x ∈ l.amounts.take 4, ¬ Beyond x := by
    simp [amounts, hfraction]
  rw [fits_zero_iff (measures_parts fun s hs => (decimals_of_writes h hs).2), hamounts]
  simp only [not_or, not_exists, not_and]

end Literal

/-- A text is read as the sum of the parts that it is written for. -/
theorem parse_eq_duration? {l : Literal} {cs : List Char} (h : l.Writes cs) :
    parse cs = l.duration? := by
  rw [parse, Literal.parse_of_writes h]
  rfl

/-- **A written duration is the exact sum of its amounts**: they are added up from left to right,
    and the text is refused only if one of them, or the sum of the first few, is beyond
    `2^63 - 1` milliseconds. Changing the sign of the sum never leaves the range. -/
theorem parse_written {l : Literal} {cs : List Char} (h : l.Writes cs) :
    (parse cs = none ↔
        (∃ x ∈ l.amounts.take 4, Beyond x) ∨ ∃ k, Beyond (l.amounts.take k).sum) ∧
      ∀ d, parse cs = some d →
        d.inSeconds = l.sign * l.amounts.sum ∧ ¬ Beyond (l.sign * l.amounts.sum) := by
  have hfits := Literal.fits_parts_iff h
  have hsum := measures_sum (Literal.measures_parts fun s hs => (Literal.decimals_of_writes h hs).2)
  rw [parse_eq_duration? h]
  -- Either the sum is there and the parts fit, or it is not and they do not.
  rcases l.duration?_cases with ⟨d, hd, hexact, hall⟩ | ⟨hnone, hout⟩
  · have hmeasures : Measures d.nanoseconds (l.sign * l.amounts.sum) := by
      rw [Measures] at hsum ⊢
      rw [hexact, Int.cast_mul, hsum, Literal.sign, mul_assoc]
      split <;> simp
    rw [hd]
    refine ⟨⟨nofun, fun hbeyond => absurd hbeyond (hfits.1 hall)⟩, ?_⟩
    rintro e ⟨⟩
    refine ⟨?_, (inRange_iff_not_beyond hmeasures).1 d.inRange⟩
    rw [inSeconds, hmeasures, mul_div_assoc, div_self (by norm_num), mul_one]
  · rw [hnone]
    refine ⟨iff_of_true rfl ?_, nofun⟩
    by_contra hbeyond
    exact hout (hfits.2 hbeyond)

/-- The parts of `-P1DT-2H+3M-0,5S`. -/
def mixed : Literal :=
  ⟨true, some ⟨false, ['1']⟩, some ⟨true, ['2']⟩, some ⟨false, ['3']⟩, some ⟨⟨true, ['0']⟩, ['5']⟩⟩

theorem writes_mixed : mixed.Writes "-P1DT-2H+3M-0,5S".toList := by
  have hdigit : ∀ {d : Char}, d.isDigit = true → ∀ c ∈ [d], c.isDigit = true := by simp
  exact .time .minus (by decide) (.present (.bare (by decide) (hdigit rfl)) (by decide)) (by decide)
    (.present (.minus (by decide) (hdigit rfl)) (by decide))
    (.present (.plus (by decide) (hdigit rfl)) (by decide))
    (.decimals (.minus (by decide) (hdigit rfl)) (.inr rfl) (hdigit rfl) (by decide) (by decide))
    (by decide)

/-- A sign of its own at every part, one in front of a zero with decimals, and one for the whole. -/
theorem parse_written_mixed :
    ∃ d, parse "-P1DT-2H+3M-0,5S".toList = some d ∧
      d.inSeconds = -(86400 - 2 * 3600 + 3 * 60 - 1 / 2) := by
  have hparse : parse "-P1DT-2H+3M-0,5S".toList = some ⟨-79379500000000, by decide⟩ := by
    decide +kernel
  have hdigits : Nat.ofDigitChars 10 ['1'] 0 = 1 ∧ Nat.ofDigitChars 10 ['2'] 0 = 2 ∧
      Nat.ofDigitChars 10 ['3'] 0 = 3 ∧ Nat.ofDigitChars 10 ['0'] 0 = 0 ∧
      Nat.ofDigitChars 10 ['5'] 0 = 5 := by decide
  refine ⟨_, hparse, ((parse_written writes_mixed).2 _ hparse).1.trans ?_⟩
  norm_num [mixed, Literal.sign, Literal.amounts, Count.number, Seconds.fraction, hdigits]

/-- A sum on the way is beyond the range, though the whole would not be. -/
example : parse "PT2562047788015H60M-3600S".toList = none := by decide +kernel

end Grok.Duration
