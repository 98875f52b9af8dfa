import Grok.Duration.Literal
import Grok.Proofs.Text.Numeral

namespace Grok.Duration

/-!
# Written durations

The texts that are read as durations, part by part: a relation between what is written and the
parts of a literal.

* `Duration.Count.Writes`, `Duration.WritesPart`, `Duration.WritesSeconds` — a count, a count with
  its designator, and seconds with decimals, each as it may be written.
* `Duration.Literal.Writes` — a whole text: a sign, `P`, days, and behind a `T` hours, minutes and
  seconds, in this order, with at least one count, and at least one behind a `T`.
* `Duration.Literal.parse_of_writes` — such a text is read as the parts that it was written for.
* `Duration.Literal.parse_eq_some_iff` — and no other text is read.
-/

open Digits (NoDigitHead)

/-! ### How the parts are written -/

/-- A count: an optional sign and at least one digit. -/
inductive Count.Writes : Count → List Char → Prop where
  | bare {ds : List Char} (hne : ds ≠ []) (hds : ∀ c ∈ ds, c.isDigit = true) :
    Writes ⟨false, ds⟩ ds
  | plus {ds : List Char} (hne : ds ≠ []) (hds : ∀ c ∈ ds, c.isDigit = true) :
    Writes ⟨false, ds⟩ ('+' :: ds)
  | minus {ds : List Char} (hne : ds ≠ []) (hds : ∀ c ∈ ds, c.isDigit = true) :
    Writes ⟨true, ds⟩ ('-' :: ds)

/-- An optional count with its designator behind it. -/
inductive WritesPart (designator : Char) : Option Count → List Char → Prop where
  | absent : WritesPart designator none []
  | present {c : Count} {cs : List Char} {x : Char} (hcount : c.Writes cs)
      (hx : Literal.isDesignator designator x = true) :
    WritesPart designator (some c) (cs ++ [x])

/-- Optional seconds: a count, optionally a point or a comma with up to nine decimals, and the
    designator. -/
inductive WritesSeconds : Option Seconds → List Char → Prop where
  | absent : WritesSeconds none []
  | whole {c : Count} {cs : List Char} {x : Char} (hcount : c.Writes cs)
      (hx : Literal.isDesignator 'S' x = true) :
    WritesSeconds (some ⟨c, []⟩) (cs ++ [x])
  | decimals {c : Count} {cs ds : List Char} {mark x : Char} (hcount : c.Writes cs)
      (hmark : mark = '.' ∨ mark = ',') (hds : ∀ d ∈ ds, d.isDigit = true) (hnine : ds.length ≤ 9)
      (hx : Literal.isDesignator 'S' x = true) :
    WritesSeconds (some ⟨c, ds⟩) (cs ++ mark :: (ds ++ [x]))

/-- The sign of a whole duration. -/
inductive WritesSign : Bool → List Char → Prop where
  | bare : WritesSign false []
  | plus : WritesSign false ['+']
  | minus : WritesSign true ['-']

/-- A duration: its sign, `P`, days, and optionally a `T` with hours, minutes and seconds. -/
inductive Literal.Writes : Literal → List Char → Prop where
  | days {negative : Bool} {sign ds : List Char} {p : Char} {d : Count}
      (hsign : WritesSign negative sign) (hp : isDesignator 'P' p = true)
      (hdays : WritesPart 'D' (some d) ds) :
    Writes ⟨negative, some d, none, none, none⟩ (sign ++ p :: ds)
  | time {negative : Bool} {sign ds hs ms ss : List Char} {p t : Char} {d h m : Option Count}
      {s : Option Seconds} (hsign : WritesSign negative sign) (hp : isDesignator 'P' p = true)
      (hdays : WritesPart 'D' d ds) (ht : isDesignator 'T' t = true) (hhours : WritesPart 'H' h hs)
      (hminutes : WritesPart 'M' m ms) (hseconds : WritesSeconds s ss)
      (hany : h.isSome ∨ m.isSome ∨ s.isSome) :
    Writes ⟨negative, d, h, m, s⟩ (sign ++ p :: (ds ++ t :: (hs ++ (ms ++ ss))))

/-! ### Counts -/

/-- A designator is neither a digit nor a sign, and designates one unit only. -/
theorem Literal.of_isDesignator {u x : Char} (hu : u ∈ ['P', 'D', 'T', 'H', 'M', 'S'])
    (hx : isDesignator u x = true) :
    x.isDigit = false ∧ x ≠ '-' ∧ x ≠ '+' ∧ x ≠ '.' ∧ x ≠ ',' ∧
      ∀ v ∈ ['P', 'D', 'T', 'H', 'M', 'S'], v ≠ u → isDesignator v x = false := by
  have hletters : x ∈ [u, u.toLower] ∨ u = 'S' ∧ x = 'ſ' := by
    simpa [isDesignator, or_assoc] using hx
  rcases hletters with hx | ⟨rfl, rfl⟩
  · simp only [List.mem_cons, List.not_mem_nil, or_false] at hu hx
    rcases hu with rfl | rfl | rfl | rfl | rfl | rfl <;> rcases hx with rfl | rfl <;>
      simp [isDesignator]
  · simp [isDesignator]

namespace Count

/-- **A count is read up to the first character that is no digit.** -/
theorem split?_append {c : Count} {cs rest : List Char} (h : c.Writes cs)
    (hrest : NoDigitHead rest) : split? (cs ++ rest) = some (c, rest) := by
  -- A sign is told by the first character, and the digits behind it end at the rest.
  cases h with
  | @bare ds hne hds =>
    obtain ⟨d, ds, rfl⟩ := List.exists_cons_of_ne_nil hne
    have hd : d.isDigit = true := hds d List.mem_cons_self
    have hminus : d ≠ '-' := Digits.ne_of_isDigit hd rfl
    have hplus : d ≠ '+' := Digits.ne_of_isDigit hd rfl
    have hsplit := Digits.split_append_of_noDigitHead hds hrest
    rw [List.cons_append] at hsplit ⊢
    simp [split?, hminus, hplus, hsplit]
  | @plus ds hne hds | @minus ds hne hds =>
    obtain ⟨d, ds, rfl⟩ := List.exists_cons_of_ne_nil hne
    have hsplit := Digits.split_append_of_noDigitHead hds hrest
    rw [List.cons_append] at hsplit
    simp [split?, hsplit]

/-- What starts with neither a sign nor a digit has no count at its head. -/
theorem split?_cons_eq_none {x : Char} {cs : List Char} (hdigit : x.isDigit = false)
    (hminus : x ≠ '-') (hplus : x ≠ '+') : split? (x :: cs) = none := by
  simp [split?, hminus, hplus, Digits.split, hdigit]

end Count

namespace Literal

/-! ### Parts -/

/-- A part that is written is read. -/
theorem part_append {u : Char} (hu : u ∈ ['P', 'D', 'T', 'H', 'M', 'S']) {c : Option Count}
    {cs rest : List Char} (h : WritesPart u c cs) (hrest : part u rest = (none, rest)) :
    part u (cs ++ rest) = (c, rest) := by
  cases h with
  | absent => exact hrest
  | @present c cs x hcount hx =>
    have hdigit := (of_isDesignator hu hx).1
    have hsplit : Count.split? (cs ++ x :: rest) = some (c, x :: rest) :=
      Count.split?_append hcount (Digits.noDigitHead_cons.2 hdigit)
    rw [List.append_assoc, List.singleton_append, part, hsplit]
    simp [hx]

/-- A count in front of another character is no part. -/
theorem part_append_cons_of_ne {u x : Char} {c : Count} {cs rest : List Char} (h : c.Writes cs)
    (hdigit : x.isDigit = false) (hx : isDesignator u x = false) :
    part u (cs ++ x :: rest) = (none, cs ++ x :: rest) := by
  have hsplit : Count.split? (cs ++ x :: rest) = some (c, x :: rest) :=
    Count.split?_append h (Digits.noDigitHead_cons.2 hdigit)
  rw [part, hsplit]
  simp [hx]

/-- Where no count starts there is no part. -/
theorem part_cons_of_isDesignator {u v x : Char} {cs : List Char}
    (hv : v ∈ ['P', 'D', 'T', 'H', 'M', 'S']) (hx : isDesignator v x = true) :
    part u (x :: cs) = (none, x :: cs) := by
  obtain ⟨hdigit, hminus, hplus, -⟩ := of_isDesignator hv hx
  rw [part, Count.split?_cons_eq_none hdigit hminus hplus]

/-- Seconds are no hours and no minutes. -/
theorem part_eq_of_writesSeconds {u : Char} (hu : u = 'H' ∨ u = 'M') {s : Option Seconds}
    {cs : List Char} (h : WritesSeconds s cs) : part u cs = (none, cs) := by
  have hmem : u ∈ ['P', 'D', 'T', 'H', 'M', 'S'] ∧ u ≠ 'S' := by
    rcases hu with rfl | rfl <;> decide
  cases h with
  | absent => rfl
  | whole hcount hx =>
    obtain ⟨hdigit, -, -, -, -, hother⟩ := of_isDesignator (by decide) hx
    exact part_append_cons_of_ne hcount hdigit (hother u hmem.1 hmem.2)
  | decimals hcount hmark hds hnine hx =>
    have hno : ∀ mark, mark = '.' ∨ mark = ',' →
        mark.isDigit = false ∧ isDesignator u mark = false := by
      rcases hu with rfl | rfl <;> rintro mark (rfl | rfl) <;> decide
    exact part_append_cons_of_ne hcount (hno _ hmark).1 (hno _ hmark).2

/-- Nor are minutes hours. -/
theorem part_eq_of_writesMinutes {m : Option Count} {s : Option Seconds} {ms ss : List Char}
    (hm : WritesPart 'M' m ms) (hs : WritesSeconds s ss) :
    part 'H' (ms ++ ss) = (none, ms ++ ss) := by
  cases hm with
  | absent => exact part_eq_of_writesSeconds (.inl rfl) hs
  | @present c cs x hcount hx =>
    obtain ⟨hdigit, -, -, -, -, hother⟩ := of_isDesignator (by decide) hx
    rw [List.append_assoc]
    exact part_append_cons_of_ne hcount hdigit (hother 'H' (by decide) (by decide))

/-- The decimals behind a mark are read up to the designator. -/
theorem decimals_append {mark x : Char} {ds : List Char} (hmark : mark = '.' ∨ mark = ',')
    (hds : ∀ d ∈ ds, d.isDigit = true) (hnine : ds.length ≤ 9) (hx : x.isDigit = false)
    (rest : List Char) : decimals (mark :: (ds ++ x :: rest)) = (ds, x :: rest) := by
  have htake : (ds ++ x :: rest).take 9 = ds ++ (x :: rest).take (9 - ds.length) := by
    rw [List.take_append, List.take_of_length_le hnine]
  have hend : ((x :: rest).take (9 - ds.length)).takeWhile Char.isDigit = [] := by
    cases 9 - ds.length <;> simp [hx]
  rw [decimals, if_pos hmark, htake, List.takeWhile_append_of_pos hds, hend, List.append_nil]
  simp

/-- Seconds that are written are read. -/
theorem secondsPart_of_writes {s : Option Seconds} {cs : List Char} (h : WritesSeconds s cs) :
    secondsPart cs = (s, []) := by
  cases h with
  | absent => rfl
  | @whole c cs x hcount hx =>
    -- The letter is no digit and no mark, so the count ends in front of it.
    obtain ⟨hdigit, -, -, hpoint, hcomma, -⟩ := of_isDesignator (by decide) hx
    have hsplit : Count.split? (cs ++ [x]) = some (c, [x]) :=
      Count.split?_append hcount (Digits.noDigitHead_cons.2 hdigit)
    rw [secondsPart, hsplit]
    simp [decimals, hpoint, hcomma, hx]
  | @decimals c cs ds mark x hcount hmark hds hnine hx =>
    obtain ⟨hdigit, -⟩ := of_isDesignator (by decide) hx
    have hno : mark.isDigit = false := by
      rcases hmark with rfl | rfl <;> decide
    have hsplit : Count.split? (cs ++ mark :: (ds ++ [x])) = some (c, mark :: (ds ++ [x])) :=
      Count.split?_append hcount (Digits.noDigitHead_cons.2 hno)
    rw [secondsPart, hsplit]
    simp [decimals_append hmark hds hnine hdigit, hx]

/-! ### Whole literals -/

/-- The parts behind a `T`. -/
theorem parseTime_of_writes {negative : Bool} {hs ms ss : List Char} {d h m : Option Count}
    {s : Option Seconds} (hhours : WritesPart 'H' h hs) (hminutes : WritesPart 'M' m ms)
    (hseconds : WritesSeconds s ss) (hany : h.isSome ∨ m.isSome ∨ s.isSome) :
    parseTime negative d (hs ++ (ms ++ ss)) = some ⟨negative, d, h, m, s⟩ := by
  have hh : part 'H' (hs ++ (ms ++ ss)) = (h, ms ++ ss) :=
    part_append (by decide) hhours (part_eq_of_writesMinutes hminutes hseconds)
  have hm : part 'M' (ms ++ ss) = (m, ss) :=
    part_append (by decide) hminutes (part_eq_of_writesSeconds (.inr rfl) hseconds)
  rw [parseTime, hh]
  simp only [hm, secondsPart_of_writes hseconds]
  simp [hany]

/-- The sign of the whole is read. -/
theorem parse_sign_append {negative : Bool} {sign : List Char} (h : WritesSign negative sign)
    {p : Char} (hp : isDesignator 'P' p = true) (cs : List Char) :
    parse (sign ++ p :: cs) = parseUnsigned negative (p :: cs) := by
  obtain ⟨-, hminus, hplus, -⟩ := of_isDesignator (by decide) hp
  cases h with
  | bare => simp [parse, hminus, hplus]
  | plus => rfl
  | minus => rfl

/-- **A written duration is read as the parts that it was written for.** -/
theorem parse_of_writes {l : Literal} {cs : List Char} (h : l.Writes cs) : parse cs = some l := by
  cases h with
  | @days negative sign ds p d hsign hp hdays =>
    have hd : part 'D' (ds ++ []) = (some d, []) := part_append (by decide) hdays rfl
    rw [List.append_nil] at hd
    rw [parse_sign_append hsign hp, parseUnsigned, if_pos hp, hd]
    rfl
  | @time negative sign ds hs ms ss p t d h m s hsign hp hdays ht hhours hminutes hseconds hany =>
    have hd : part 'D' (ds ++ t :: (hs ++ (ms ++ ss))) = (d, t :: (hs ++ (ms ++ ss))) :=
      part_append (by decide) hdays (part_cons_of_isDesignator (by decide) ht)
    rw [parse_sign_append hsign hp, parseUnsigned, if_pos hp, hd]
    simp only [ht, if_true]
    exact parseTime_of_writes hhours hminutes hseconds hany

end Literal

/-! ### What is read is written -/

namespace Count

/-- What is read as a count is written as one. -/
theorem exists_writes_of_split? {c : Count} {cs rest : List Char}
    (h : split? cs = some (c, rest)) : ∃ written, c.Writes written ∧ cs = written ++ rest := by
  unfold split? at h
  split at h
  rename_i negative body hsign
  split at h
  · cases h
  · rename_i ds more hne hsplit
    obtain ⟨rfl, rfl⟩ := Prod.mk.inj (Option.some.inj h)
    have hbody : ds ++ more = body := by
      rw [← Digits.split_append body, hsplit]
    have hds : ∀ d ∈ ds, d.isDigit = true := by
      intro d hd
      apply @Digits.isDigit_of_mem_split body
      rwa [hsplit]
    subst hbody
    -- The digits are all that stands behind a sign, and all there is without one.
    split at hsign
    · obtain ⟨rfl, rfl⟩ := Prod.mk.inj hsign
      exact ⟨_, .minus hne hds, rfl⟩
    · obtain ⟨rfl, rfl⟩ := Prod.mk.inj hsign
      exact ⟨_, .plus hne hds, rfl⟩
    · obtain ⟨rfl, rfl⟩ := Prod.mk.inj hsign
      exact ⟨_, .bare hne hds, rfl⟩

end Count

namespace Literal

/-- What is read as a part is written as one. -/
theorem exists_writes_of_part {u : Char} {c : Option Count} {cs rest : List Char}
    (h : part u cs = (c, rest)) : ∃ written, WritesPart u c written ∧ cs = written ++ rest := by
  unfold part at h
  split at h
  · rename_i count x more hsplit
    obtain ⟨written, hcount, rfl⟩ := Count.exists_writes_of_split? hsplit
    split at h
    · rename_i hx
      obtain ⟨rfl, rfl⟩ := Prod.mk.inj h
      exact ⟨written ++ [x], .present hcount hx, by simp⟩
    · obtain ⟨rfl, rfl⟩ := Prod.mk.inj h
      exact ⟨[], .absent, rfl⟩
  · obtain ⟨rfl, rfl⟩ := Prod.mk.inj h
    exact ⟨[], .absent, rfl⟩

/-- The decimals of a text are its first digits behind a mark, nine at the most. -/
theorem decimals_cases {cs ds rest : List Char} (h : decimals cs = (ds, rest)) :
    (ds = [] ∧ cs = rest) ∨
      ∃ mark, (mark = '.' ∨ mark = ',') ∧ (∀ d ∈ ds, d.isDigit = true) ∧ ds.length ≤ 9 ∧
        cs = mark :: (ds ++ rest) := by
  unfold decimals at h
  split at h
  · rename_i mark cs
    split at h
    · rename_i hmark
      obtain ⟨rfl, rfl⟩ := Prod.mk.inj h
      -- At most nine digits are taken, and the rest starts behind them.
      have hprefix : (cs.take 9).takeWhile Char.isDigit <+: cs :=
        (List.takeWhile_prefix _).trans (List.take_prefix 9 cs)
      have hnine : ((cs.take 9).takeWhile Char.isDigit).length ≤ 9 :=
        (List.takeWhile_prefix _).length_le.trans (List.length_take_le 9 cs)
      exact .inr ⟨mark, hmark, fun _ => @Digits.isDigit_of_mem_split (cs.take 9) _, hnine,
        congrArg (mark :: ·) (List.prefix_iff_eq_append.1 hprefix).symm⟩
    · obtain ⟨rfl, rfl⟩ := Prod.mk.inj h
      exact .inl ⟨rfl, rfl⟩
  · obtain ⟨rfl, rfl⟩ := Prod.mk.inj h
    exact .inl ⟨rfl, rfl⟩

/-- What is read as seconds is written as seconds. -/
theorem exists_writes_of_secondsPart {s : Option Seconds} {cs rest : List Char}
    (h : secondsPart cs = (s, rest)) : ∃ written, WritesSeconds s written ∧ cs = written ++ rest := by
  -- Without a count, or a letter behind it, nothing is read and nothing is lost.
  unfold secondsPart at h
  split at h
  · rename_i count more hsplit
    obtain ⟨written, hcount, rfl⟩ := Count.exists_writes_of_split? hsplit
    split at h
    · rename_i ds x behind hdecimals
      split at h
      · rename_i hx
        obtain ⟨rfl, rfl⟩ := Prod.mk.inj h
        rcases decimals_cases hdecimals with ⟨rfl, rfl⟩ | ⟨mark, hmark, hds, hnine, rfl⟩
        · exact ⟨written ++ [x], .whole hcount hx, by simp⟩
        · exact ⟨written ++ mark :: (ds ++ [x]), .decimals hcount hmark hds hnine hx, by simp⟩
      · obtain ⟨rfl, rfl⟩ := Prod.mk.inj h
        exact ⟨[], .absent, rfl⟩
    · obtain ⟨rfl, rfl⟩ := Prod.mk.inj h
      exact ⟨[], .absent, rfl⟩
  · obtain ⟨rfl, rfl⟩ := Prod.mk.inj h
    exact ⟨[], .absent, rfl⟩

/-- What is read behind a `T` is written as hours, minutes and seconds. -/
theorem exists_writes_of_parseTime {negative : Bool} {d : Option Count} {cs : List Char}
    {l : Literal} (h : parseTime negative d cs = some l) :
    ∃ hours minutes seconds hs ms ss, l = ⟨negative, d, hours, minutes, seconds⟩ ∧
      WritesPart 'H' hours hs ∧ WritesPart 'M' minutes ms ∧ WritesSeconds seconds ss ∧
      (hours.isSome ∨ minutes.isSome ∨ seconds.isSome) ∧ cs = hs ++ (ms ++ ss) := by
  unfold parseTime at h
  split at h
  rename_i hours afterHours hhours
  split at h
  rename_i minutes afterMinutes hminutes
  split at h
  rename_i seconds rest hseconds
  split at h
  · rename_i hend
    -- The text is used up, and one of the three parts was there.
    obtain ⟨rfl, hany⟩ := hend
    obtain ⟨hs, hhs, rfl⟩ := exists_writes_of_part hhours
    obtain ⟨ms, hms, rfl⟩ := exists_writes_of_part hminutes
    obtain ⟨ss, hss, rfl⟩ := exists_writes_of_secondsPart hseconds
    exact ⟨hours, minutes, seconds, hs, ms, ss, (Option.some.inj h).symm, hhs, hms, hss, hany,
      by simp⟩
  · cases h

/-- What is read from `P` on is written so, behind any sign. -/
theorem writes_of_parseUnsigned {negative : Bool} {sign cs : List Char} {l : Literal}
    (hsign : WritesSign negative sign) (h : parseUnsigned negative cs = some l) :
    l.Writes (sign ++ cs) := by
  unfold parseUnsigned at h
  split at h
  · rename_i p cs
    split at h
    · rename_i hp
      -- Behind the days the text ends, or a clock is read behind a `T`.
      split at h
      · rename_i days hdays
        obtain ⟨ds, hds, rfl⟩ := exists_writes_of_part hdays
        split at h
        · rename_i hsome
          obtain ⟨d, rfl⟩ := Option.isSome_iff_exists.1 hsome
          obtain rfl := Option.some.inj h
          rw [List.append_nil]
          exact .days hsign hp hds
        · cases h
      · rename_i days t behind hdays
        obtain ⟨ds, hds, rfl⟩ := exists_writes_of_part hdays
        split at h
        · rename_i ht
          obtain ⟨hours, minutes, seconds, hs, ms, ss, rfl, hhs, hms, hss, hany, rfl⟩ :=
            exists_writes_of_parseTime h
          exact .time hsign hp hds ht hhs hms hss hany
        · cases h
    · cases h
  · cases h

/-- **The texts that are read as the parts of a literal are those that they are written as.** -/
theorem parse_eq_some_iff {l : Literal} {cs : List Char} : parse cs = some l ↔ l.Writes cs := by
  refine ⟨fun h => ?_, parse_of_writes⟩
  unfold parse at h
  split at h
  · exact writes_of_parseUnsigned .minus h
  · exact writes_of_parseUnsigned .plus h
  · exact writes_of_parseUnsigned .bare h

end Literal

end Grok.Duration
