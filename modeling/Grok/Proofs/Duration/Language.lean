import Grok.Proofs.Duration.Range
import Mathlib.Computability.Language

namespace Grok.Duration

/-!
# The language of durations

Which texts are durations, as a formal language over ASCII, and which texts are read.

* `Duration.Grammar.duration` — the language `[±]P[nD][T[nH][nM][n.nS]]`: the letters are those of
  ASCII in either case, and at least one count is given, and at least one behind a `T`.
* `Duration.Documented` — a text of the language whose amounts and sums on the way stay in range.
* `Duration.Literal.exists_writes_iff` — the texts that are written for some parts are those of the
  language once each long s in them is replaced by an `S`.
* `Duration.isSome_parse_iff` — so the texts that are read are the documented ones, and those that
  differ from them by a long s; `Duration.parse_long_s` is such a text.
-/

namespace Grammar

/-- A single character out of a few. -/
def oneOf (letters : List Char) : Language Char := {w | ∃ c ∈ letters, w = [c]}

/-- What may be left out. -/
def optional (L : Language Char) : Language Char := 1 + L

/-- At least one digit. -/
def digits : Language Char := {ds | ds ≠ [] ∧ ∀ d ∈ ds, d.isDigit = true}

/-- Up to nine digits, possibly none. -/
def nineDigits : Language Char := {ds | ds.length ≤ 9 ∧ ∀ d ∈ ds, d.isDigit = true}

/-- A count: digits behind an optional sign. -/
def count : Language Char := optional (oneOf ['+', '-']) * digits

/-- A count with the letter of its unit. -/
def units (letters : List Char) : Language Char := count * oneOf letters

/-- A point or a comma with up to nine digits. -/
def decimals : Language Char := oneOf ['.', ','] * nineDigits

/-- A count of seconds, which may have decimals. -/
def seconds : Language Char := count * (optional decimals * oneOf ['S', 's'])

/-- Hours, minutes and seconds in this order, at least one of them. -/
def clock : Language Char :=
  units ['H', 'h'] * (optional (units ['M', 'm']) * optional seconds) +
    (units ['M', 'm'] * optional seconds + seconds)

/-- A `T` with what stands behind it. -/
def time : Language Char := oneOf ['T', 't'] * clock

/-- A whole duration: an optional sign, `P`, and days or a time or both. -/
def duration : Language Char :=
  optional (oneOf ['+', '-']) * (oneOf ['P', 'p'] * (units ['D', 'd'] * optional time + time))

/-! ### ASCII -/

/-- All texts of a language are ASCII. -/
def IsAscii (L : Language Char) : Prop := ∀ w ∈ L, ∀ c ∈ w, c.toNat < 128

/-- A letter out of a few that are ASCII. -/
theorem isAscii_oneOf {letters : List Char} (h : letters.all (·.toNat < 128) = true) :
    IsAscii (oneOf letters) := by
  rintro w ⟨c, hc, rfl⟩ d hd
  obtain rfl := List.mem_singleton.1 hd
  exact of_decide_eq_true (List.all_eq_true.1 h d hc)

/-- Digits are ASCII. -/
theorem isAscii_digits {L : Language Char} (h : ∀ w ∈ L, ∀ d ∈ w, d.isDigit = true) :
    IsAscii L := by
  intro w hw d hd
  have hdigit := h w hw d hd
  simp only [Char.isDigit, Bool.and_eq_true, decide_eq_true_eq] at hdigit
  have hle : d.toNat ≤ 57 := UInt32.le_iff_toNat_le.1 hdigit.2
  omega

variable {L M : Language Char}

/-- A text of either language. -/
theorem IsAscii.add (hL : IsAscii L) (hM : IsAscii M) : IsAscii (L + M) := by
  rintro w (hw | hw)
  · exact hL w hw
  · exact hM w hw

/-- A text that may be left out. -/
theorem IsAscii.optional (hL : IsAscii L) : IsAscii (optional L) := by
  rintro w (hw | hw) c hc
  · rw [(Language.mem_one w).1 hw] at hc
    cases hc
  · exact hL w hw c hc

/-- A text of one language with one of the other behind it. -/
theorem IsAscii.mul (hL : IsAscii L) (hM : IsAscii M) : IsAscii (L * M) := by
  intro w hw c hc
  obtain ⟨a, ha, b, hb, rfl⟩ := Language.mem_mul.1 hw
  rcases List.mem_append.1 hc with hc | hc
  · exact hL a ha c hc
  · exact hM b hb c hc

/-- **No documented text holds a character beyond ASCII.** -/
theorem isAscii_duration : IsAscii duration := by
  have hsign : IsAscii (oneOf ['+', '-']) := isAscii_oneOf (by decide)
  have hcount : IsAscii count := hsign.optional.mul (isAscii_digits fun _ hw => hw.2)
  have hunits : ∀ letters : List Char, letters.all (·.toNat < 128) = true →
      IsAscii (units letters) := fun letters h => hcount.mul (isAscii_oneOf h)
  have hdecimals : IsAscii decimals :=
    (isAscii_oneOf (by decide)).mul (isAscii_digits fun _ hw => hw.2)
  have hseconds : IsAscii seconds :=
    hcount.mul (hdecimals.optional.mul (isAscii_oneOf (by decide)))
  have hminutes : IsAscii (units ['M', 'm']) := hunits _ (by decide)
  have hclock : IsAscii clock :=
    ((hunits _ (by decide)).mul (hminutes.optional.mul hseconds.optional)).add
      ((hminutes.mul hseconds.optional).add hseconds)
  have htime : IsAscii time := (isAscii_oneOf (by decide)).mul hclock
  exact hsign.optional.mul ((isAscii_oneOf (by decide)).mul
    (((hunits _ (by decide)).mul htime.optional).add htime))

end Grammar

/-! ### The long s -/

/-- A character, with the long s replaced by the capital letter that it is a form of. -/
def shortS (c : Char) : Char := if c = 'ſ' then 'S' else c

/-- All other characters stay as they are. -/
theorem shortS_of_ne {c : Char} (h : c ≠ 'ſ') : shortS c = c := if_neg h

/-- There is nothing left to replace the second time. -/
theorem shortS_shortS (c : Char) : shortS (shortS c) = shortS c := by
  by_cases h : c = 'ſ'
  · subst h
    rfl
  · rw [shortS_of_ne h, shortS_of_ne h]

/-- Digits stay digits, and no other character becomes one. -/
theorem isDigit_shortS (c : Char) : (shortS c).isDigit = c.isDigit := by
  by_cases h : c = 'ſ'
  · subst h
    rfl
  · rw [shortS_of_ne h]

theorem isDigit_map_shortS {ds : List Char} :
    (∀ d ∈ ds.map shortS, d.isDigit = true) ↔ ∀ d ∈ ds, d.isDigit = true := by
  simp only [List.forall_mem_map, isDigit_shortS]

/-- A long s aside, a designator is the capital letter or the small one. -/
theorem Literal.isDesignator_iff {u x : Char} (hu : u ∈ ['P', 'D', 'T', 'H', 'M', 'S']) :
    isDesignator u x = true ↔ shortS x ∈ [u, u.toLower] := by
  by_cases hx : x = 'ſ'
  · subst hx
    simp only [List.mem_cons, List.not_mem_nil, or_false] at hu
    rcases hu with rfl | rfl | rfl | rfl | rfl | rfl <;> decide
  · rw [shortS_of_ne hx]
    simp [isDesignator, hx]

namespace Grammar

variable {L M : Language Char} {cs : List Char}

/-- Characters can be replaced before or after a text is cut into two parts. -/
theorem map_mem_mul {f : Char → Char} :
    cs.map f ∈ L * M ↔ ∃ a b, cs = a ++ b ∧ a.map f ∈ L ∧ b.map f ∈ M := by
  rw [Language.mem_mul]
  constructor
  · rintro ⟨a', ha, b', hb, hcs⟩
    obtain ⟨a, b, rfl, rfl, rfl⟩ := List.map_eq_append_iff.1 hcs.symm
    exact ⟨a, b, rfl, ha, hb⟩
  · rintro ⟨a, b, rfl, ha, hb⟩
    exact ⟨a.map f, ha, b.map f, hb, List.map_append.symm⟩

/-- Only the empty text becomes the empty one. -/
theorem map_mem_optional {f : Char → Char} : cs.map f ∈ optional L ↔ cs = [] ∨ cs.map f ∈ L := by
  rw [optional, Language.mem_add, Language.mem_one, List.map_eq_nil_iff]

/-- Only a single character becomes a letter. -/
theorem map_mem_oneOf {f : Char → Char} {letters : List Char} :
    cs.map f ∈ oneOf letters ↔ ∃ c, cs = [c] ∧ f c ∈ letters := by
  constructor
  · rintro ⟨d, hd, hcs⟩
    obtain ⟨c, rfl, rfl⟩ := List.map_eq_singleton_iff.1 hcs
    exact ⟨c, rfl, hd⟩
  · rintro ⟨c, rfl, hc⟩
    exact ⟨f c, hc, rfl⟩

/-- Digits are told without regard to the long s. -/
theorem map_mem_digits : cs.map shortS ∈ digits ↔ cs ≠ [] ∧ ∀ d ∈ cs, d.isDigit = true :=
  and_congr (not_congr List.map_eq_nil_iff) isDigit_map_shortS

/-- So are decimals. -/
theorem map_mem_nineDigits :
    cs.map shortS ∈ nineDigits ↔ cs.length ≤ 9 ∧ ∀ d ∈ cs, d.isDigit = true :=
  and_congr (by rw [List.length_map]) isDigit_map_shortS

/-- Among other letters than `S` the long s plays no part. -/
theorem map_mem_oneOf_of_notMem {letters : List Char} (h : 'S' ∉ letters ∧ 'ſ' ∉ letters) :
    cs.map shortS ∈ oneOf letters ↔ ∃ c ∈ letters, cs = [c] := by
  have hletter : ∀ c, shortS c ∈ letters ↔ c ∈ letters := by
    intro c
    by_cases hc : c = 'ſ'
    · subst hc
      exact iff_of_false h.1 h.2
    · rw [shortS_of_ne hc]
  rw [map_mem_oneOf]
  simp only [hletter, and_comm]

end Grammar

/-! ### The parts -/

open Grammar (map_mem_mul map_mem_optional map_mem_oneOf map_mem_digits map_mem_nineDigits
  map_mem_oneOf_of_notMem)

variable {cs : List Char}

/-- A sign, or none. -/
theorem exists_writesSign_iff :
    (∃ negative, WritesSign negative cs) ↔
      cs.map shortS ∈ Grammar.optional (Grammar.oneOf ['+', '-']) := by
  rw [map_mem_optional, map_mem_oneOf_of_notMem (by decide)]
  constructor
  · rintro ⟨negative, hsign⟩
    cases hsign with
    | bare => exact .inl rfl
    | plus => exact .inr ⟨'+', by decide, rfl⟩
    | minus => exact .inr ⟨'-', by decide, rfl⟩
  · rintro (rfl | ⟨c, hc, rfl⟩)
    · exact ⟨false, .bare⟩
    · simp only [List.mem_cons, List.not_mem_nil, or_false] at hc
      rcases hc with rfl | rfl
      · exact ⟨false, .plus⟩
      · exact ⟨true, .minus⟩

/-- A count is a sign and digits behind it. -/
theorem Count.exists_writes_iff_sign :
    (∃ c : Count, c.Writes cs) ↔ ∃ sign ds, cs = sign ++ ds ∧
      (∃ negative, WritesSign negative sign) ∧ ds ≠ [] ∧ ∀ d ∈ ds, d.isDigit = true := by
  constructor
  · rintro ⟨c, hcount⟩
    cases hcount with
    | bare hne hds => exact ⟨[], _, rfl, ⟨_, .bare⟩, hne, hds⟩
    | plus hne hds => exact ⟨['+'], _, rfl, ⟨_, .plus⟩, hne, hds⟩
    | minus hne hds => exact ⟨['-'], _, rfl, ⟨_, .minus⟩, hne, hds⟩
  · rintro ⟨sign, ds, rfl, ⟨negative, hsign⟩, hne, hds⟩
    cases hsign with
    | bare => exact ⟨_, .bare hne hds⟩
    | plus => exact ⟨_, .plus hne hds⟩
    | minus => exact ⟨_, .minus hne hds⟩

/-- A count, as the grammar has it. -/
theorem Count.exists_writes_iff : (∃ c : Count, c.Writes cs) ↔ cs.map shortS ∈ Grammar.count := by
  rw [Count.exists_writes_iff_sign, Grammar.count, map_mem_mul]
  simp only [exists_writesSign_iff, map_mem_digits]

/-- A count with the letter of its unit. The letter may be a long s for seconds only. -/
theorem exists_writesPart_some_iff {u : Char} (hu : u ∈ ['P', 'D', 'T', 'H', 'M', 'S']) :
    (∃ c, WritesPart u (some c) cs) ↔ cs.map shortS ∈ Grammar.units [u, u.toLower] := by
  rw [Grammar.units, map_mem_mul]
  constructor
  · rintro ⟨c, hpart⟩
    cases hpart with
    | present hcount hx =>
      exact ⟨_, _, rfl, Count.exists_writes_iff.1 ⟨c, hcount⟩,
        map_mem_oneOf.2 ⟨_, rfl, (Literal.isDesignator_iff hu).1 hx⟩⟩
  · rintro ⟨written, letter, rfl, hcount, hletter⟩
    obtain ⟨c, hcount⟩ := Count.exists_writes_iff.2 hcount
    obtain ⟨x, rfl, hx⟩ := map_mem_oneOf.1 hletter
    exact ⟨c, .present hcount ((Literal.isDesignator_iff hu).2 hx)⟩

/-- A count that is not given is written as nothing. -/
theorem writesPart_none_iff {u : Char} : WritesPart u none cs ↔ cs = [] := by
  constructor
  · rintro ⟨⟩
    rfl
  · rintro rfl
    exact .absent

/-- A count with its unit that may be left out. -/
theorem exists_writesPart_iff {u : Char} (hu : u ∈ ['P', 'D', 'T', 'H', 'M', 'S']) :
    (∃ c, WritesPart u c cs) ↔
      cs.map shortS ∈ Grammar.optional (Grammar.units [u, u.toLower]) := by
  rw [Option.exists, writesPart_none_iff, exists_writesPart_some_iff hu, map_mem_optional]

/-- Seconds with or without decimals. -/
theorem exists_writesSeconds_some_iff :
    (∃ s, WritesSeconds (some s) cs) ↔ cs.map shortS ∈ Grammar.seconds := by
  have hletter : ∀ x, Literal.isDesignator 'S' x = true ↔ shortS x ∈ ['S', 's'] :=
    fun x => Literal.isDesignator_iff (by decide)
  simp only [Grammar.seconds, Grammar.decimals, map_mem_mul, map_mem_optional, map_mem_oneOf]
  constructor
  · rintro ⟨s, hseconds⟩
    cases hseconds with
    | whole hcount hx =>
      exact ⟨_, _, rfl, Count.exists_writes_iff.1 ⟨_, hcount⟩, [], _, rfl, .inl rfl, _, rfl,
        (hletter _).1 hx⟩
    | @decimals c written ds mark x hcount hmark hds hnine hx =>
      refine ⟨_, _, rfl, Count.exists_writes_iff.1 ⟨_, hcount⟩, mark :: ds, [x], rfl,
        .inr ⟨[mark], ds, rfl, ?_, map_mem_nineDigits.2 ⟨hnine, hds⟩⟩, x, rfl, (hletter x).1 hx⟩
      -- Point and comma are no letters, so they are not taken for others.
      refine ⟨mark, rfl, ?_⟩
      rcases hmark with rfl | rfl <;> decide
  · rintro ⟨written, rest, rfl, hcount, fraction, letter, rfl, hfraction, x, rfl, hx⟩
    obtain ⟨c, hcount⟩ := Count.exists_writes_iff.2 hcount
    -- The optional decimals tell the two forms of seconds apart.
    rcases hfraction with rfl | ⟨point, ds, rfl, hpoint, hds⟩
    · exact ⟨_, .whole hcount ((hletter x).2 hx)⟩
    · obtain ⟨mark, hmark, rfl⟩ :=
        (map_mem_oneOf_of_notMem (by decide)).1 (map_mem_oneOf.2 hpoint)
      obtain ⟨hnine, hds⟩ := map_mem_nineDigits.1 hds
      simp only [List.mem_cons, List.not_mem_nil, or_false] at hmark
      refine ⟨⟨c, ds⟩, ?_⟩
      rw [List.append_assoc, List.singleton_append]
      exact .decimals hcount hmark hds hnine ((hletter x).2 hx)

/-- Seconds that are not given are written as nothing. -/
theorem writesSeconds_none_iff : WritesSeconds none cs ↔ cs = [] := by
  constructor
  · rintro ⟨⟩
    rfl
  · rintro rfl
    exact .absent

/-- Seconds that may be left out. -/
theorem exists_writesSeconds_iff :
    (∃ s, WritesSeconds s cs) ↔ cs.map shortS ∈ Grammar.optional Grammar.seconds := by
  rw [Option.exists, writesSeconds_none_iff, exists_writesSeconds_some_iff, map_mem_optional]

/-! ### Whole texts -/

/-- Hours, minutes and seconds as they are written behind a `T`, at least one of them. -/
def WritesClock (h m : Option Count) (s : Option Seconds) (cs : List Char) : Prop :=
  ∃ hs ms ss, WritesPart 'H' h hs ∧ WritesPart 'M' m ms ∧ WritesSeconds s ss ∧
    (h.isSome ∨ m.isSome ∨ s.isSome) ∧ cs = hs ++ (ms ++ ss)

/-- The three counts behind a `T`, of which any two may be left out. -/
theorem exists_writesClock_iff :
    (∃ h m s, WritesClock h m s cs) ↔ cs.map shortS ∈ Grammar.clock := by
  rw [Grammar.clock, Language.mem_add, Language.mem_add]
  simp only [map_mem_mul]
  constructor
  · rintro ⟨h, m, s, hs, ms, ss, hhours, hminutes, hseconds, hany, rfl⟩
    have hss := exists_writesSeconds_iff.1 ⟨s, hseconds⟩
    have hms := (exists_writesPart_iff (by decide)).1 ⟨m, hminutes⟩
    -- The alternatives of the grammar differ in the first count that is given.
    cases h with
    | some h =>
      have hhs := (exists_writesPart_some_iff (by decide)).1 ⟨h, hhours⟩
      exact .inl ⟨hs, ms ++ ss, rfl, hhs, ms, ss, rfl, hms, hss⟩
    | none =>
      obtain rfl := writesPart_none_iff.1 hhours
      cases m with
      | some m =>
        have hms := (exists_writesPart_some_iff (by decide)).1 ⟨m, hminutes⟩
        exact .inr (.inl ⟨ms, ss, rfl, hms, hss⟩)
      | none =>
        obtain rfl := writesPart_none_iff.1 hminutes
        obtain ⟨s, rfl⟩ := Option.isSome_iff_exists.1 (by simpa using hany)
        exact .inr (.inr (exists_writesSeconds_some_iff.1 ⟨s, hseconds⟩))
  · rintro (⟨hs, rest, rfl, hhs, ms, ss, rfl, hms, hss⟩ | ⟨ms, ss, rfl, hms, hss⟩ | hss)
    · obtain ⟨h, hhours⟩ := (exists_writesPart_some_iff (by decide)).2 hhs
      obtain ⟨m, hminutes⟩ := (exists_writesPart_iff (by decide)).2 hms
      obtain ⟨s, hseconds⟩ := exists_writesSeconds_iff.2 hss
      exact ⟨some h, m, s, hs, ms, ss, hhours, hminutes, hseconds, .inl rfl, rfl⟩
    · obtain ⟨m, hminutes⟩ := (exists_writesPart_some_iff (by decide)).2 hms
      obtain ⟨s, hseconds⟩ := exists_writesSeconds_iff.2 hss
      exact ⟨none, some m, s, [], ms, ss, .absent, hminutes, hseconds, .inr (.inl rfl), rfl⟩
    · obtain ⟨s, hseconds⟩ := exists_writesSeconds_some_iff.2 hss
      exact ⟨none, none, some s, [], [], cs, .absent, .absent, hseconds, .inr (.inr rfl), rfl⟩

/-- A `T` and what is written behind it. -/
theorem exists_writesTime_iff :
    (∃ t rest h m s, Literal.isDesignator 'T' t = true ∧ WritesClock h m s rest ∧ cs = t :: rest) ↔
      cs.map shortS ∈ Grammar.time := by
  rw [Grammar.time, map_mem_mul]
  constructor
  · rintro ⟨t, rest, h, m, s, ht, hclock, rfl⟩
    exact ⟨[t], rest, rfl, map_mem_oneOf.2 ⟨t, rfl, (Literal.isDesignator_iff (by decide)).1 ht⟩,
      exists_writesClock_iff.1 ⟨h, m, s, hclock⟩⟩
  · rintro ⟨letter, rest, rfl, hletter, hrest⟩
    obtain ⟨t, rfl, ht⟩ := map_mem_oneOf.1 hletter
    obtain ⟨h, m, s, hclock⟩ := exists_writesClock_iff.2 hrest
    exact ⟨t, rest, h, m, s, (Literal.isDesignator_iff (by decide)).2 ht, hclock, rfl⟩

/-- **The texts that are written for some parts** are those of the language, a long s being taken
    for an `S`. -/
theorem Literal.exists_writes_iff :
    (∃ l : Literal, l.Writes cs) ↔ cs.map shortS ∈ Grammar.duration := by
  rw [Grammar.duration, map_mem_mul]
  simp only [← exists_writesSign_iff]
  simp only [map_mem_mul, map_mem_oneOf, Language.mem_add, map_mem_optional,
    ← exists_writesTime_iff]
  have hp : ∀ p, isDesignator 'P' p = true ↔ shortS p ∈ ['P', 'p'] :=
    fun p => isDesignator_iff (by decide)
  constructor
  · rintro ⟨l, hwrites⟩
    -- Days alone, or a clock behind days or behind nothing.
    cases hwrites with
    | @days negative sign ds p d hsign hletter hdays =>
      have hds := (exists_writesPart_some_iff (by decide)).1 ⟨d, hdays⟩
      exact ⟨sign, p :: ds, rfl, ⟨_, hsign⟩, [p], ds, rfl, ⟨p, rfl, (hp p).1 hletter⟩,
        .inl ⟨ds, [], by simp, hds, .inl rfl⟩⟩
    | @time negative sign ds hs ms ss p t d h m s hsign hletter hdays ht hhours hminutes hseconds
        hany =>
      have hclock : WritesClock h m s (hs ++ (ms ++ ss)) :=
        ⟨hs, ms, ss, hhours, hminutes, hseconds, hany, rfl⟩
      refine ⟨sign, _, rfl, ⟨_, hsign⟩, [p], _, rfl, ⟨p, rfl, (hp p).1 hletter⟩, ?_⟩
      cases d with
      | some d =>
        have hds := (exists_writesPart_some_iff (by decide)).1 ⟨d, hdays⟩
        exact .inl ⟨ds, _, rfl, hds, .inr ⟨t, _, h, m, s, ht, hclock, rfl⟩⟩
      | none =>
        obtain rfl := writesPart_none_iff.1 hdays
        exact .inr ⟨t, _, h, m, s, ht, hclock, rfl⟩
  · rintro ⟨sign, rest, rfl, ⟨negative, hsign⟩, letter, behind, rfl, ⟨p, rfl, hletter⟩, hparts⟩
    -- The language has the clock behind days as an option, and the clock alone.
    rcases hparts with ⟨ds, time, rfl, hds, htime⟩ | ⟨t, rest, h, m, s, ht, hclock, rfl⟩
    · obtain ⟨d, hdays⟩ := (exists_writesPart_some_iff (by decide)).2 hds
      rcases htime with rfl | ⟨t, rest, h, m, s, ht, hclock, rfl⟩
      · rw [List.append_nil]
        exact ⟨_, .days hsign ((hp p).2 hletter) hdays⟩
      · obtain ⟨hs, ms, ss, hhours, hminutes, hseconds, hany, rfl⟩ := hclock
        exact ⟨_, .time hsign ((hp p).2 hletter) hdays ht hhours hminutes hseconds hany⟩
    · obtain ⟨hs, ms, ss, hhours, hminutes, hseconds, hany, rfl⟩ := hclock
      exact ⟨_, .time hsign ((hp p).2 hletter) .absent ht hhours hminutes hseconds hany⟩

/-! ### The same parts -/

/-- There is no long s among digits. -/
theorem map_shortS_of_isDigit {ds : List Char} (h : ∀ d ∈ ds, d.isDigit = true) :
    ds.map shortS = ds := by
  have hsame : ∀ d ∈ ds, shortS d = d :=
    fun d hd => shortS_of_ne (Digits.ne_of_isDigit (h d hd) rfl)
  rw [List.map_congr_left hsame, List.map_id']

/-- Nor is there one in a count. -/
theorem Count.Writes.map_shortS {c : Count} (h : c.Writes cs) : cs.map shortS = cs := by
  cases h with
  | bare hne hds => exact map_shortS_of_isDigit hds
  | plus hne hds => rw [List.map_cons, map_shortS_of_isDigit hds]; rfl
  | minus hne hds => rw [List.map_cons, map_shortS_of_isDigit hds]; rfl

/-- A letter designates the same with a long s replaced. -/
theorem Literal.isDesignator_shortS {u x : Char} (hu : u ∈ ['P', 'D', 'T', 'H', 'M', 'S'])
    (h : isDesignator u x = true) : isDesignator u (shortS x) = true := by
  rw [isDesignator_iff hu, shortS_shortS]
  exact (isDesignator_iff hu).1 h

/-- A sign is no long s. -/
theorem WritesSign.map_shortS {negative : Bool} (h : WritesSign negative cs) :
    cs.map shortS = cs := by
  cases h <;> rfl

/-- The unit of a count is designated by the replaced letter as well. -/
theorem WritesPart.map_shortS {u : Char} (hu : u ∈ ['P', 'D', 'T', 'H', 'M', 'S'])
    {c : Option Count} (h : WritesPart u c cs) : WritesPart u c (cs.map shortS) := by
  cases h with
  | absent => exact .absent
  | present hcount hx =>
    rw [List.map_append, hcount.map_shortS]
    exact .present hcount (Literal.isDesignator_shortS hu hx)

/-- So are seconds, the only count that a long s can stand behind. -/
theorem WritesSeconds.map_shortS {s : Option Seconds} (h : WritesSeconds s cs) :
    WritesSeconds s (cs.map shortS) := by
  cases h with
  | absent => exact .absent
  | whole hcount hx =>
    rw [List.map_append, hcount.map_shortS]
    exact .whole hcount (Literal.isDesignator_shortS (by decide) hx)
  | @decimals c written ds mark x hcount hmark hds hnine hx =>
    have hsame : shortS mark = mark := by
      rcases hmark with rfl | rfl <;> rfl
    rw [List.map_append, List.map_cons, List.map_append, hcount.map_shortS,
      map_shortS_of_isDigit hds, hsame]
    exact .decimals hcount hmark hds hnine (Literal.isDesignator_shortS (by decide) hx)

/-- A text with a long s is written for the same parts as the one with an `S` in its place. -/
theorem Literal.Writes.map_shortS {l : Literal} (h : l.Writes cs) : l.Writes (cs.map shortS) := by
  cases h with
  | days hsign hp hdays =>
    rw [List.map_append, List.map_cons, hsign.map_shortS]
    exact .days hsign (isDesignator_shortS (by decide) hp) (hdays.map_shortS (by decide))
  | time hsign hp hdays ht hhours hminutes hseconds hany =>
    simp only [List.map_append, List.map_cons, hsign.map_shortS]
    exact .time hsign (isDesignator_shortS (by decide) hp) (hdays.map_shortS (by decide))
      (isDesignator_shortS (by decide) ht) (hhours.map_shortS (by decide))
      (hminutes.map_shortS (by decide)) hseconds.map_shortS hany

/-! ### The texts that are read -/

/-- No amount of a literal, and no sum of the first few, is beyond the range. -/
def Literal.WithinRange (l : Literal) : Prop :=
  (∀ x ∈ l.amounts, ¬ Beyond x) ∧ ∀ k, ¬ Beyond (l.amounts.take k).sum

/-- A text of the language, written for parts whose amounts stay within the range, each of them and
    added up from left to right. -/
def Documented (cs : List Char) : Prop :=
  cs ∈ Grammar.duration ∧ ∃ l : Literal, l.Writes cs ∧ l.WithinRange

/-- A text is read if it is written for parts that stay within the range. -/
theorem isSome_parse_iff_writes :
    (parse cs).isSome ↔ ∃ l : Literal, l.Writes cs ∧ l.WithinRange := by
  -- The sum of the parts exists just where the parts fit.
  have hsum : ∀ l : Literal, l.Writes cs → (l.duration?.isSome ↔ l.WithinRange) := by
    intro l hwrites
    have hfits : Fits 0 l.parts ↔ l.WithinRange :=
      fits_zero_iff (Literal.measures_parts fun s hs => (Literal.decimals_of_writes hwrites hs).2)
    rw [← hfits]
    rcases l.duration?_cases with ⟨d, hd, -, hall⟩ | ⟨hnone, hout⟩
    · simp [hd, hall]
    · simp [hnone, hout]
  constructor
  · intro h
    obtain ⟨d, hd⟩ := Option.isSome_iff_exists.1 h
    obtain ⟨l, hparse, hd⟩ := Option.bind_eq_some_iff.1 hd
    have hwrites := Literal.parse_eq_some_iff.1 hparse
    exact ⟨l, hwrites, (hsum l hwrites).1 (Option.isSome_iff_exists.2 ⟨d, hd⟩)⟩
  · rintro ⟨l, hwrites, hrange⟩
    rw [parse_eq_duration? hwrites]
    exact (hsum l hwrites).2 hrange

/-- **A text is read if it is documented** once each long s is replaced. -/
theorem isSome_parse_iff_documented_map : (parse cs).isSome ↔ Documented (cs.map shortS) := by
  rw [isSome_parse_iff_writes]
  constructor
  · rintro ⟨l, hwrites, hrange⟩
    exact ⟨Literal.exists_writes_iff.1 ⟨l, hwrites⟩, l, hwrites.map_shortS, hrange⟩
  · rintro ⟨hshape, l, hwrites, hrange⟩
    -- The text itself is written for some parts, and there are no other ones for its image.
    obtain ⟨l', hwrites'⟩ := Literal.exists_writes_iff.2 hshape
    have hsame := (Literal.parse_of_writes hwrites'.map_shortS).symm.trans
      (Literal.parse_of_writes hwrites)
    obtain rfl := Option.some.inj hsame
    exact ⟨l', hwrites', hrange⟩

/-- **The texts that are read as durations** are the documented ones, and those that become
    documented when a long s is replaced by an `S`. So without a long s just the documented texts are
    read, and no other character beyond ASCII occurs in what is read. -/
theorem isSome_parse_iff (cs : List Char) :
    ((parse cs).isSome ↔ Documented (cs.map shortS)) ∧
      ('ſ' ∉ cs → ((parse cs).isSome ↔ Documented cs)) ∧
      ((parse cs).isSome → ∀ c ∈ cs, c = 'ſ' ∨ c.toNat < 128) := by
  refine ⟨isSome_parse_iff_documented_map, fun hlong => ?_, fun h c hc => ?_⟩
  · have hsame : ∀ c ∈ cs, shortS c = c := by
      intro c hc
      apply shortS_of_ne
      rintro rfl
      exact hlong hc
    rw [isSome_parse_iff_documented_map, List.map_congr_left hsame, List.map_id']
  · have hascii := Grammar.isAscii_duration _ (isSome_parse_iff_documented_map.1 h).1 _
      (List.mem_map_of_mem hc)
    by_cases hlong : c = 'ſ'
    · exact .inl hlong
    · rw [shortS_of_ne hlong] at hascii
      exact .inr hascii

/-- All parts with signs of their own, in capital and in small letters. -/
theorem isSome_parse_iff_mixed :
    'ſ' ∉ "-p1Dt-2h+3M-0,5s".toList ∧ Documented "-p1Dt-2h+3M-0,5s".toList := by
  have hlong : 'ſ' ∉ "-p1Dt-2h+3M-0,5s".toList := by decide
  exact ⟨hlong, ((isSome_parse_iff _).2.1 hlong).1 (by decide +kernel)⟩

/-- **A text beyond ASCII is read**: the long s designates seconds, though it is in no text of the
    language. -/
theorem parse_long_s :
    (parse "PT1ſ".toList).isSome = true ∧ ¬ Documented "PT1ſ".toList ∧
      parse "PT1ſ".toList = parse "PT1S".toList := by
  refine ⟨by decide +kernel, fun h => ?_, by decide +kernel⟩
  have hascii : ('ſ').toNat < 128 := Grammar.isAscii_duration _ h.1 'ſ' (by decide)
  revert hascii
  decide

end Grok.Duration
