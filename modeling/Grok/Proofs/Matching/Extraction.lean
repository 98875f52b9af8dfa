import Grok.Proofs.Matching.Captures
import Grok.Proofs.Text.Slice
import Mathlib.Data.Nat.Find

namespace Grok

/-!
# What a matcher extracts

An engine reports named groups with any indexes and finds any offsets. A matcher takes from them
what they say about the text.

* `CaptureGroup.FirstTaken` — the group with the lowest index among those of a descriptor that took
  part; `CaptureGroup.Carries` — the text between its offsets; `CaptureGroup.Absent` — there is no
  such group, or no such text.
* `CaptureGroup.Misfit` — the text is no literal of the type; `CaptureGroup.Yields` — it is one of
  a value.
* `CaptureGroup.FirstMisfit`, `CaptureGroup.LastYields` — which descriptor of a list fails the
  whole, and which one gives a name its value.
* `Matcher.captureText_ofProgram` — a match fails with the first misfit, and else has the last value
  of each name that is present.
-/

/-- A converted value is of the type it was converted to. -/
theorem ValueType.valueType_of_convert {t : ValueType} {s : String} {v : Value}
    (h : t.convert s = some v) : v.valueType = t := by
  unfold convert at h
  cases t with
  | boolean =>
    -- There are two texts for a truth value, and no others.
    simp only at h
    split at h
    · cases h
      rfl
    · split at h
      · cases h
        rfl
      · cases h
  | string =>
    cases h
    rfl
  | short | int | long | float | double | duration =>
    obtain ⟨x, -, rfl⟩ := Option.map_eq_some_iff.1 h
    rfl

namespace CaptureGroup

/-! ### One descriptor -/

/-- Among the groups of a descriptor that took part, the one with the lowest index, and its
    offsets. -/
structure FirstTaken (g : CaptureGroup) (offsets : Offsets) (i : Nat) (range : Nat × Nat) :
    Prop where
  mem : i ∈ g.indexes
  range_eq : offsets.group? i = some range
  lowest : ∀ j ∈ g.indexes, j < i → offsets.group? j = none

/-- The text of a descriptor: what lies between the offsets of the first group that took part. -/
def Carries (g : CaptureGroup) (text : List Char) (offsets : Offsets) (part : List Char) : Prop :=
  ∃ i start stop, g.FirstTaken offsets i (start, stop) ∧ Utf8.Between text start stop part

/-- A descriptor has no text: no group took part, or the offsets of the first one that did are
    reversed, past the end, or not between two characters. -/
def Absent (g : CaptureGroup) (text : List Char) (offsets : Offsets) : Prop :=
  (∀ i ∈ g.indexes, offsets.group? i = none) ∨
    ∃ i start stop, g.FirstTaken offsets i (start, stop) ∧
      (stop < start ∨ (Utf8.encode text).length < stop ∨ ¬ Utf8.OnBoundary text start ∨
        ¬ Utf8.OnBoundary text stop)

/-- The complaint about a text that is no literal of the type. -/
def Misfit (g : CaptureGroup) (text : List Char) (offsets : Offsets) (e : Error) : Prop :=
  ∃ part, g.Carries text offsets part ∧ g.type.convert (String.ofList part) = none ∧
    e = .typeConversion g.name (String.ofList part) g.type

/-- The value that the text is a literal of. -/
def Yields (g : CaptureGroup) (text : List Char) (offsets : Offsets) (v : Value) : Prop :=
  ∃ part, g.Carries text offsets part ∧ g.type.convert (String.ofList part) = some v ∧
    v.valueType = g.type

variable {g : CaptureGroup} {text part : List Char} {offsets : Offsets}

/-- There is only one first group that took part. -/
theorem FirstTaken.unique {i j : Nat} {r s : Nat × Nat} (h : g.FirstTaken offsets i r)
    (h' : g.FirstTaken offsets j s) : i = j ∧ r = s := by
  -- The lower one of two different indexes would not have taken part.
  have hij : i = j := by
    rcases Nat.lt_trichotomy i j with hlt | heq | hlt
    · have hnone := h'.lowest i h.mem hlt
      rw [h.range_eq] at hnone
      cases hnone
    · exact heq
    · have hnone := h.lowest j h'.mem hlt
      rw [h'.range_eq] at hnone
      cases hnone
  subst hij
  exact ⟨rfl, Option.some.inj (h.range_eq.symm.trans h'.range_eq)⟩

/-- A descriptor has one text at most. -/
theorem Carries.unique {part' : List Char} (h : g.Carries text offsets part)
    (h' : g.Carries text offsets part') : part = part' := by
  obtain ⟨i, start, stop, hfirst, hbetween⟩ := h
  obtain ⟨j, start', stop', hfirst', hbetween'⟩ := h'
  obtain ⟨-, heq⟩ := hfirst.unique hfirst'
  obtain ⟨rfl, rfl⟩ := Prod.mk.inj heq
  exact hbetween.unique hbetween'

/-- **A descriptor is absent just where it has no text.** -/
theorem absent_iff : g.Absent text offsets ↔ ∀ part, ¬ g.Carries text offsets part := by
  constructor
  · rintro (hnone | ⟨i, start, stop, hfirst, hbad⟩) part ⟨j, start', stop', hfirst', hbetween⟩
    · have htook := hfirst'.range_eq
      rw [hnone j hfirst'.mem] at htook
      cases htook
    · -- Offsets that cut the text have none of the four defects.
      obtain ⟨-, heq⟩ := hfirst.unique hfirst'
      obtain ⟨rfl, rfl⟩ := Prod.mk.inj heq
      obtain ⟨hle, hstart, hstop⟩ := Utf8.exists_between_iff.1 ⟨part, hbetween⟩
      rcases hbad with hbad | hbad | hbad | hbad
      · omega
      · have hend := hstop.le
        omega
      · exact hbad hstart
      · exact hbad hstop
  · intro h
    by_cases htook : ∃ i ∈ g.indexes, offsets.group? i ≠ none
    · -- The lowest index that took part is the least element of a set of numbers.
      obtain ⟨i, hi⟩ := htook
      classical
      let p : Nat → Prop := fun i => i ∈ g.indexes ∧ offsets.group? i ≠ none
      have hp : ∃ i, p i := ⟨i, hi⟩
      obtain ⟨hmem, hsome⟩ := Nat.find_spec hp
      obtain ⟨⟨start, stop⟩, hrange⟩ := Option.ne_none_iff_exists'.1 hsome
      have hfirst : g.FirstTaken offsets (Nat.find hp) (start, stop) := by
        refine ⟨hmem, hrange, fun j hj hlt => ?_⟩
        by_contra hne
        exact Nat.find_min hp hlt ⟨hj, hne⟩
      refine .inr ⟨_, start, stop, hfirst, ?_⟩
      -- Without a defect, the offsets would cut a part out.
      by_contra hgood
      simp only [not_or, not_not, Nat.not_lt] at hgood
      obtain ⟨part, hbetween⟩ := Utf8.exists_between_iff.2 ⟨hgood.1, hgood.2.2⟩
      exact h part ⟨_, start, stop, hfirst, hbetween⟩
    · refine .inl fun i hi => ?_
      by_contra hne
      exact htook ⟨i, hi, hne⟩

/-- With ascending indexes, the first one that took part is the lowest. -/
theorem findSome?_indexes_eq_some_iff (hsorted : g.indexes.Pairwise (· ≤ ·)) {range : Nat × Nat} :
    g.indexes.findSome? offsets.group? = some range ↔ ∃ i, g.FirstTaken offsets i range := by
  have hfound : ∀ r, g.indexes.findSome? offsets.group? = some r →
      ∃ i, g.FirstTaken offsets i r := by
    -- Indexes behind the one that was found are no lower.
    intro r h
    obtain ⟨before, i, after, hindexes, hrange, hnone⟩ := List.findSome?_eq_some_iff.1 h
    refine ⟨i, by simp [hindexes], hrange, fun j hj hlt => ?_⟩
    rw [hindexes, List.mem_append] at hj
    rw [hindexes] at hsorted
    rcases hj with hj | hj
    · exact hnone j hj
    · have hle : i ≤ j := by
        rcases List.mem_cons.1 hj with rfl | hj
        · exact Nat.le_refl _
        · exact List.rel_of_pairwise_cons (List.pairwise_append.1 hsorted).2.1 hj
      omega
  constructor
  · exact hfound range
  · rintro ⟨i, hfirst⟩
    -- Something is found, as one index took part, and only one is the first.
    cases hsome : g.indexes.findSome? offsets.group? with
    | none =>
      have htook := hfirst.range_eq
      rw [List.findSome?_eq_none_iff.1 hsome i hfirst.mem] at htook
      cases htook
    | some r =>
      obtain ⟨j, hfirst'⟩ := hfound r hsome
      rw [(hfirst'.unique hfirst).2]

/-- **The slice of a descriptor is the text it carries.** -/
theorem slice?_eq_some_iff (hsorted : g.indexes.Pairwise (· ≤ ·)) :
    g.slice? text offsets = some part ↔ g.Carries text offsets part := by
  unfold slice? Carries
  rw [Option.bind_eq_some_iff]
  constructor
  · rintro ⟨⟨start, stop⟩, hrange, hslice⟩
    obtain ⟨i, hfirst⟩ := (findSome?_indexes_eq_some_iff hsorted).1 hrange
    exact ⟨i, start, stop, hfirst, Utf8.slice?_eq_some_iff.1 hslice⟩
  · rintro ⟨i, start, stop, hfirst, hbetween⟩
    exact ⟨(start, stop), (findSome?_indexes_eq_some_iff hsorted).2 ⟨i, hfirst⟩,
      Utf8.slice?_eq_some_iff.2 hbetween⟩

/-- **What comes of a descriptor**: nothing, a value, or a complaint. -/
theorem extract_cases (hsorted : g.indexes.Pairwise (· ≤ ·)) (text : List Char)
    (offsets : Offsets) :
    (g.Absent text offsets ∧ g.extract text offsets = .ok none) ∨
      (∃ v, g.Yields text offsets v ∧ g.extract text offsets = .ok (some v)) ∨
      ∃ e, g.Misfit text offsets e ∧ g.extract text offsets = .error e := by
  unfold extract
  -- The text is cut, or it is not; and a part is converted, or it is refused.
  cases hslice : g.slice? text offsets with
  | none =>
    refine .inl ⟨absent_iff.2 fun part hpart => ?_, rfl⟩
    rw [(slice?_eq_some_iff hsorted).2 hpart] at hslice
    cases hslice
  | some part =>
    have hcarries := (slice?_eq_some_iff hsorted).1 hslice
    cases hvalue : g.type.convert (String.ofList part) with
    | some v =>
      exact .inr (.inl ⟨v, ⟨part, hcarries, hvalue, ValueType.valueType_of_convert hvalue⟩,
        by simp [hvalue]⟩)
    | none => exact .inr (.inr ⟨_, ⟨part, hcarries, hvalue, rfl⟩, by simp [hvalue]⟩)

/-- A field that does not fit its type is present. -/
theorem Misfit.not_absent {e : Error} (h : g.Misfit text offsets e) : ¬ g.Absent text offsets := by
  obtain ⟨part, hpart, -⟩ := h
  exact fun habsent => absent_iff.1 habsent part hpart

/-- So is one that has a value. -/
theorem Yields.not_absent {v : Value} (h : g.Yields text offsets v) : ¬ g.Absent text offsets := by
  obtain ⟨part, hpart, -⟩ := h
  exact fun habsent => absent_iff.1 habsent part hpart

/-- A field has one value only. -/
theorem Yields.unique {v w : Value} (h : g.Yields text offsets v) (h' : g.Yields text offsets w) :
    v = w := by
  obtain ⟨part, hpart, hv, -⟩ := h
  obtain ⟨part', hpart', hw, -⟩ := h'
  obtain rfl := hpart.unique hpart'
  exact Option.some.inj (hv.symm.trans hw)

/-- A field that has a value fits its type. -/
theorem Yields.not_misfit {v : Value} {e : Error} (h : g.Yields text offsets v) :
    ¬ g.Misfit text offsets e := by
  rintro ⟨part', hpart', hnone, -⟩
  obtain ⟨part, hpart, hv, -⟩ := h
  obtain rfl := hpart.unique hpart'
  rw [hv] at hnone
  cases hnone

/-- The indexes of a descriptor are ascending, in whatever order they are reported. -/
theorem pairwise_indexes_ofReport (references : List Reference) (report : String × List Nat) :
    (ofReport references report).indexes.Pairwise (· ≤ ·) :=
  (List.pairwise_mergeSort (by simpa using fun a b c => Nat.le_trans)
    (by simpa using Nat.le_total) report.2).imp (by simp)

/-! ### All descriptors -/

/-- The complaint about the first descriptor whose text is no literal of its type. -/
def FirstMisfit (gs : List CaptureGroup) (text : List Char) (offsets : Offsets) (e : Error) :
    Prop :=
  ∃ before g after, gs = before ++ g :: after ∧ g.Misfit text offsets e ∧
    ∀ h ∈ before, ∀ e', ¬ h.Misfit text offsets e'

/-- Fields that fit may stand in front of the first one that does not. -/
theorem FirstMisfit.cons {g : CaptureGroup} {gs : List CaptureGroup} {text : List Char}
    {offsets : Offsets} {e : Error} (h : FirstMisfit gs text offsets e)
    (hg : ∀ e, ¬ g.Misfit text offsets e) : FirstMisfit (g :: gs) text offsets e := by
  obtain ⟨before, k, after, rfl, hmisfit, hbefore⟩ := h
  exact ⟨g :: before, k, after, rfl, hmisfit, List.forall_mem_cons.2 ⟨hg, hbefore⟩⟩

/-- The value of the last descriptor of the name that is present. -/
def LastYields (gs : List CaptureGroup) (text : List Char) (offsets : Offsets) (n : String)
    (v : Value) : Prop :=
  ∃ before g after, gs = before ++ g :: after ∧ g.name = n ∧ g.Yields text offsets v ∧
    ∀ h ∈ after, h.name = n → h.Absent text offsets

variable {gs : List CaptureGroup} {n : String} {v : Value}

/-- The last value of a name is found further on, or it is the one in front if all of the name
    further on are absent. -/
theorem lastYields_cons : LastYields (g :: gs) text offsets n v ↔
    LastYields gs text offsets n v ∨ (∀ h ∈ gs, h.name = n → h.Absent text offsets) ∧
      g.name = n ∧ g.Yields text offsets v := by
  constructor
  · rintro ⟨before, g', after, heq, hname, hyields, hafter⟩
    cases before with
    | nil =>
      obtain ⟨rfl, rfl⟩ := List.cons.inj heq
      exact .inr ⟨hafter, hname, hyields⟩
    | cons h before =>
      obtain ⟨rfl, rfl⟩ := List.cons.inj heq
      exact .inl ⟨before, g', after, rfl, hname, hyields, hafter⟩
  · rintro (⟨before, g', after, rfl, hname, hyields, hafter⟩ | ⟨hafter, hname, hyields⟩)
    · exact ⟨g :: before, g', after, rfl, hname, hyields, hafter⟩
    · exact ⟨[], g, gs, rfl, hname, hyields, hafter⟩

/-- **What comes of all descriptors**, added to some captures: the first complaint, or captures that
    have the last value of each name that is present, and else what they had. -/
theorem extractAll_cases (hsorted : ∀ g ∈ gs, g.indexes.Pairwise (· ≤ ·)) (text : List Char)
    (offsets : Offsets) (captures : Captures) :
    (∃ e, FirstMisfit gs text offsets e ∧ extractAll text offsets captures gs = .error e) ∨
      (∀ g ∈ gs, ∀ e, ¬ g.Misfit text offsets e) ∧
        ∃ found, extractAll text offsets captures gs = .ok found ∧
          ((captures.map (·.1)).Nodup → (found.map (·.1)).Nodup) ∧
          ∀ n v, found.get? n = some v ↔ LastYields gs text offsets n v ∨
            (∀ h ∈ gs, h.name = n → h.Absent text offsets) ∧ captures.get? n = some v := by
  induction gs generalizing captures with
  | nil => exact .inr ⟨by simp, captures, rfl, id, by simp [LastYields]⟩
  | cons g gs ih =>
    have hrest : ∀ g ∈ gs, g.indexes.Pairwise (· ≤ ·) :=
      fun g hg => hsorted g (List.mem_cons_of_mem _ hg)
    rcases extract_cases (hsorted g List.mem_cons_self) text offsets with
      ⟨habsent, h⟩ | ⟨w, hyields, h⟩ | ⟨e, hmisfit, h⟩
    · -- The descriptor is passed over, so all is as for the others.
      have hfits : ∀ e, ¬ g.Misfit text offsets e := fun e he => he.not_absent habsent
      rw [extractAll, h]
      rcases ih hrest captures with ⟨e, hfirst, herror⟩ | ⟨hall, found, hok, hnodup, hget⟩
      · exact .inl ⟨e, hfirst.cons hfits, herror⟩
      · refine .inr ⟨List.forall_mem_cons.2 ⟨hfits, hall⟩, found, hok, hnodup, fun n v => ?_⟩
        have hno : ¬ g.Yields text offsets v := fun hy => hy.not_absent habsent
        simp [hget, lastYields_cons, hno, habsent]
    · -- Its value counts unless the name is present once more.
      have hfits : ∀ e, ¬ g.Misfit text offsets e := fun e => hyields.not_misfit
      rw [extractAll, h]
      rcases ih hrest (captures.set g.name w) with
        ⟨e, hfirst, herror⟩ | ⟨hall, found, hok, hnodup, hget⟩
      · exact .inl ⟨e, hfirst.cons hfits, herror⟩
      · refine .inr ⟨List.forall_mem_cons.2 ⟨hfits, hall⟩, found, hok,
          fun hcaptures => hnodup (Captures.nodup_names_set hcaptures _ _), fun n v => ?_⟩
        have hiff : g.Yields text offsets v ↔ w = v :=
          ⟨hyields.unique, fun heq => heq ▸ hyields⟩
        rw [hget, lastYields_cons, Captures.get?_set, hiff]
        by_cases hname : g.name = n
        · simp [hname, hyields.not_absent]
        · simp [hname]
    · rw [extractAll, h]
      exact .inl ⟨e, ⟨[], g, gs, rfl, hmisfit, by simp⟩, rfl⟩

/-- Where all texts fit, a name has a last value if one of its descriptors is present. -/
theorem exists_lastYields_iff (hsorted : ∀ g ∈ gs, g.indexes.Pairwise (· ≤ ·))
    (hfits : ∀ g ∈ gs, ∀ e, ¬ g.Misfit text offsets e) :
    (∃ v, LastYields gs text offsets n v) ↔
      ∃ g ∈ gs, g.name = n ∧ ∃ part, g.Carries text offsets part := by
  constructor
  · rintro ⟨v, before, g, after, rfl, hname, ⟨part, hpart, -⟩, -⟩
    exact ⟨g, by simp, hname, part, hpart⟩
  · rintro ⟨g, hg, hname, part, hpart⟩
    induction gs generalizing g part with
    | nil => cases hg
    | cons k gs ih =>
      obtain ⟨hk, hrest⟩ := List.forall_mem_cons.1 hsorted
      obtain ⟨hkfits, hrestfits⟩ := List.forall_mem_cons.1 hfits
      by_cases hlater : ∃ h ∈ gs, h.name = n ∧ ∃ q, h.Carries text offsets q
      · obtain ⟨h, hh, hn, q, hq⟩ := hlater
        obtain ⟨v, hv⟩ := ih hrest hrestfits h hh hn q hq
        exact ⟨v, lastYields_cons.2 (.inl hv)⟩
      · -- All further on are absent, so the descriptor is the one in front.
        obtain rfl : g = k := by
          rcases List.mem_cons.1 hg with heq | hg
          · exact heq
          · exact absurd ⟨g, hg, hname, part, hpart⟩ hlater
        have hafter : ∀ h ∈ gs, h.name = n → h.Absent text offsets :=
          fun h hh hn => absent_iff.2 fun q hq => hlater ⟨h, hh, hn, q, hq⟩
        rcases extract_cases hk text offsets with
          ⟨habsent, -⟩ | ⟨v, hyields, -⟩ | ⟨e, hmisfit, -⟩
        · exact absurd hpart (absent_iff.1 habsent part)
        · exact ⟨v, lastYields_cons.2 (.inr ⟨hafter, hname, hyields⟩)⟩
        · exact absurd hmisfit (hkfits e)

end CaptureGroup

namespace Matcher

open CaptureGroup (FirstMisfit LastYields)

/-- So are those of all descriptors of a matcher. -/
theorem pairwise_indexes_ofProgram {references : List Reference} {expression : String}
    {program : Engine.Program} {g : CaptureGroup}
    (h : g ∈ (ofProgram references expression program).groups) :
    g.indexes.Pairwise (· ≤ ·) := by
  obtain ⟨report, -, rfl⟩ := mem_groups_ofProgram_iff.1 h
  exact CaptureGroup.pairwise_indexes_ofReport references report

/-- **What a matcher captures in a text**, whatever the engine reports and finds.

A search that fails or finds nothing ends it. Otherwise a descriptor stands for the text between the
offsets of its first group that took part, if those cut the text. The first text that is no literal
of its descriptor's type fails the whole; if there is none, just the names with a text are captured,
each with the value of its last descriptor that has one. -/
theorem captureText_ofProgram (references : List Reference) (expression : String)
    (program : Engine.Program) (text : String) :
    let m := ofProgram references expression program
    (∀ e, program.search text = .error e → m.captureText text = .error e) ∧
    (m.captureText text = .ok none ↔ program.search text = .ok none) ∧
    ∀ offsets, program.search text = .ok (some offsets) →
      (∀ g ∈ m.groups, g.Absent text.toList offsets ↔
        ∀ part, ¬ g.Carries text.toList offsets part) ∧
      ((∃ e, FirstMisfit m.groups text.toList offsets e ∧ m.captureText text = .error e) ∨
        (∀ g ∈ m.groups, ∀ e, ¬ g.Misfit text.toList offsets e) ∧
          ∃ captures, m.captureText text = .ok (some captures) ∧ (captures.map (·.1)).Nodup ∧
            (∀ n, (∃ v, captures.get? n = some v) ↔
              ∃ g ∈ m.groups, g.name = n ∧ ∃ part, g.Carries text.toList offsets part) ∧
            ∀ n v, captures.get? n = some v ↔ LastYields m.groups text.toList offsets n v) := by
  intro m
  have hsearch : m.search text = program.search text := rfl
  have hsorted : ∀ g ∈ m.groups, g.indexes.Pairwise (· ≤ ·) :=
    fun g hg => pairwise_indexes_ofProgram hg
  refine ⟨fun e he => by rw [captureText, hsearch, he], ?_, fun offsets hfound => ?_⟩
  · rw [captureText, hsearch]
    -- Nothing is found just where the search finds nothing.
    cases program.search text with
    | error e => simp
    | ok found =>
      cases found with
      | none => simp
      | some offsets =>
        cases h : CaptureGroup.extractAll text.toList offsets [] m.groups <;> simp [h, Except.map]
  · rw [captureText, hsearch, hfound]
    refine ⟨fun g _ => CaptureGroup.absent_iff, ?_⟩
    rcases CaptureGroup.extractAll_cases hsorted text.toList offsets [] with
      ⟨e, hfirst, herror⟩ | ⟨hfits, captures, hok, hnodup, hget⟩
    · exact .inl ⟨e, hfirst, by simp [herror, Except.map]⟩
    · -- There are no captures at the start, so nothing else can be left over.
      have hlast : ∀ n v, captures.get? n = some v ↔
          LastYields m.groups text.toList offsets n v := by
        intro n v
        simpa [Captures.get?] using hget n v
      refine .inr ⟨hfits, captures, by simp [hok, Except.map], hnodup List.nodup_nil, ?_, hlast⟩
      intro n
      simp only [hlast]
      exact CaptureGroup.exists_lastYields_iff hsorted hfits

/-- An engine that reports indexes in any order and more than once, and offsets that cut a
    character. -/
def ragged : Engine.Program where
  namedGroups := [("w", [5, 2]), ("n", [3, 1]), ("cut", [4]), ("gone", []), ("n", [6])]
  search _ := .ok (some [some (0, 5), none, some (4, 5), some (2, 3), some (1, 3), some (0, 2)])

/-- The number is taken from the third group, as the first one took no part and the second
    descriptor of its name is absent; the offsets inside of a character give nothing. -/
theorem captureText_ofProgram_ragged :
    ∃ offsets, ragged.search "é7 x" = .ok (some offsets) ∧
      ∃ captures, (ofProgram [⟨"NUM", some "n", .int⟩] "" ragged).captureText "é7 x" =
          .ok (some captures) ∧
        LastYields (ofProgram [⟨"NUM", some "n", .int⟩] "" ragged).groups "é7 x".toList offsets "n"
          (.int 7) ∧
        captures.get? "cut" = none := by
  have hgroups : (ofProgram [⟨"NUM", some "n", .int⟩] "" ragged).groups =
      [⟨"gone", [], .string⟩, ⟨"n", [1, 3], .int⟩, ⟨"w", [2, 5], .string⟩, ⟨"cut", [4], .string⟩,
        ⟨"n", [6], .int⟩] := by
    simp [ofProgram, ragged, CaptureGroup.ofReport, CaptureGroup.typeOf, CaptureGroup.position,
      List.mergeSort]
  have hrun : (ofProgram [⟨"NUM", some "n", .int⟩] "" ragged).captureText "é7 x" =
      .ok (some [("n", .int 7), ("w", .string "x")]) := by
    rw [captureText, hgroups]
    rfl
  obtain ⟨-, -, h⟩ := captureText_ofProgram [⟨"NUM", some "n", .int⟩] "" ragged "é7 x"
  obtain ⟨-, ⟨e, -, herror⟩ | ⟨-, captures, hok, -, -, hlast⟩⟩ := h _ rfl
  · -- The run has a result, so the first alternative is out.
    rw [hrun] at herror
    cases herror
  · obtain rfl := Option.some.inj (Except.ok.inj (hrun.symm.trans hok))
    exact ⟨_, rfl, _, hrun, (hlast "n" _).1 rfl, rfl⟩

end Matcher

end Grok
