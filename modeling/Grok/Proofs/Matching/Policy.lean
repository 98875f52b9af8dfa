import Grok.Proofs.Matching.Captures
import Grok.Transform

namespace Grok

/-!
# Several expressions

A record is matched against expressions in their order. Either the first one that matches decides,
or all of them do, and then later values override earlier ones.

* `Matcher.outcome?`, `Matcher.failure?`, `Matcher.value?` — what a single matcher makes of a
  record: whether it decides on it, fails on it, or captures a field in it.
* `Transform.capturesFrom_true`, `Transform.capturesFrom_false` — the run over the matchers, from
  any fields found before.
* `Transform.captures_by_policy` — the result for a record under either policy.
-/

namespace Matcher

/-! ### One matcher -/

/-- What a matcher decides about a record: the fields that it captures, if any, or its failure.
    Without a match it decides nothing. -/
def outcome? (m : Matcher) (record : List UInt8) : Option (Except Error Captures) :=
  match m.captureBytes record with
  | .error e => some (.error e)
  | .ok none => none
  | .ok (some c) => some (.ok c)

/-- The failure of a matcher on a record. -/
def failure? (m : Matcher) (record : List UInt8) : Option Error :=
  match m.captureBytes record with
  | .error e => some e
  | .ok _ => none

/-- The value that a matcher captures for a name. -/
def value? (m : Matcher) (record : List UInt8) (n : String) : Option Value :=
  match m.captureBytes record with
  | .ok (some c) => c.get? n
  | _ => none

/-- Adding fields keeps their names distinct. -/
theorem nodup_names_of_extractAll {text : List Char} {offsets : Offsets} {found c : Captures}
    {gs : List CaptureGroup} (hfound : (found.map (·.1)).Nodup)
    (h : CaptureGroup.extractAll text offsets found gs = .ok c) : (c.map (·.1)).Nodup := by
  induction gs generalizing found with
  | nil =>
    obtain rfl := Except.ok.inj h
    exact hfound
  | cons g gs ih =>
    rw [CaptureGroup.extractAll] at h
    split at h
    · cases h
    · exact ih hfound h
    · exact ih (Captures.nodup_names_set hfound _ _) h

/-- What a matcher captures in a text is a map. -/
theorem nodup_names_of_captureText {m : Matcher} {text : String} {c : Captures}
    (h : m.captureText text = .ok (some c)) : (c.map (·.1)).Nodup := by
  obtain ⟨offsets, -, hall⟩ := captureText_eq_some_iff.1 h
  have hnil : (([] : Captures).map (·.1)).Nodup := List.nodup_nil
  exact nodup_names_of_extractAll hnil hall

/-- What a matcher captures is a map. -/
theorem nodup_names_of_captureBytes {m : Matcher} {record : List UInt8} {c : Captures}
    (h : m.captureBytes record = .ok (some c)) : (c.map (·.1)).Nodup := by
  unfold captureBytes at h
  split at h
  · exact nodup_names_of_captureText h
  · exact nodup_names_of_captureText h

/-- There is no outcome where the matcher does not match. -/
theorem outcome?_eq_none_iff {m : Matcher} {record : List UInt8} :
    m.outcome? record = none ↔ m.captureBytes record = .ok none := by
  unfold outcome?
  split <;> simp_all

/-- An outcome without a failure is a match. -/
theorem captureBytes_of_outcome? {m : Matcher} {record : List UInt8} {c : Captures}
    (h : m.outcome? record = some (.ok c)) : m.captureBytes record = .ok (some c) := by
  unfold outcome? at h
  split at h <;> simp_all

/-- A matcher that does not fail matches or does not match. -/
theorem failure?_eq_none_iff {m : Matcher} {record : List UInt8} :
    m.failure? record = none ↔ ∃ matched, m.captureBytes record = .ok matched := by
  unfold failure?
  split <;> simp_all

end Matcher

namespace Transform

/-! ### The run over the matchers -/

/-- If the first match ends the search, the first matcher that decides anything decides all. -/
theorem capturesFrom_true (record : List UInt8) (found : Captures) (ms : List Matcher) :
    capturesFrom true record found ms =
      (((ms.findSome? (·.outcome? record)).map fun x => x.map found.merge).getD (.ok found)) := by
  induction ms with
  | nil => rfl
  | cons m ms ih =>
    rw [capturesFrom, List.findSome?_cons, Matcher.outcome?]
    cases m.captureBytes record with
    | error e => rfl
    | ok matched =>
      cases matched with
      | none => exact ih
      | some c => rfl

/-- Otherwise the first failure ends it; without one the last value of a name counts, or the one
    that was found before. -/
theorem capturesFrom_false (record : List UInt8) {found : Captures}
    (hfound : (found.map (·.1)).Nodup) (ms : List Matcher) :
    (∃ e, ms.findSome? (·.failure? record) = some e ∧
      capturesFrom false record found ms = .error e) ∨
    (ms.findSome? (·.failure? record) = none ∧
      ∃ c, capturesFrom false record found ms = .ok c ∧ (c.map (·.1)).Nodup ∧
        ∀ n, c.get? n = ((ms.filterMap (·.value? record n)).getLast?).or (found.get? n)) := by
  -- The fields found so far change with every match, so they are free in the induction.
  induction ms generalizing found with
  | nil => exact .inr ⟨rfl, found, rfl, hfound, fun n => rfl⟩
  | cons m ms ih =>
    rw [capturesFrom, List.findSome?_cons, Matcher.failure?]
    cases hm : m.captureBytes record with
    | error e => exact .inl ⟨e, rfl, rfl⟩
    | ok matched =>
      cases matched with
      | none =>
        have hvalue : ∀ n, m.value? record n = none := fun n => by rw [Matcher.value?, hm]
        simp only [List.filterMap_cons, hvalue]
        exact ih hfound
      | some c =>
        have hvalue : ∀ n, m.value? record n = c.get? n := fun n => by rw [Matcher.value?, hm]
        have hc := Matcher.nodup_names_of_captureBytes hm
        rcases ih (Captures.nodup_names_merge hfound c) with
          ⟨e, he, herror⟩ | ⟨hnone, d, hd, hnodup, hget⟩
        · exact .inl ⟨e, he, herror⟩
        · refine .inr ⟨hnone, d, hd, hnodup, fun n => ?_⟩
          rw [hget, Captures.get?_merge _ hc, List.filterMap_cons, hvalue]
          cases c.get? n with
          | none => rfl
          | some v =>
            simp only [List.getLast?_cons, Option.some_or]
            cases (ms.filterMap (·.value? record n)).getLast? <;> rfl

/-! ### Policies -/

/-- **Several expressions follow the policy.**

If the first match ends the search, the first matcher that matches or fails decides: its fields or
its failure are the result, also where it has captured nothing, and what stands behind it makes no
difference. If there is none, there are no fields.

Otherwise the result is the failure of the first matcher that fails; and if none does, just the
names that some matcher has captured are in it, each with the value of the last one that did. -/
theorem captures_by_policy (ms : List Matcher) (record : List UInt8) :
    captures ⟨ms, true⟩ record = (ms.findSome? (·.outcome? record)).getD (.ok []) ∧
    (∀ before m later later', ms = before ++ m :: later → m.captureBytes record ≠ .ok none →
      captures ⟨before ++ m :: later', true⟩ record = captures ⟨ms, true⟩ record) ∧
    (∀ e, captures ⟨ms, false⟩ record = .error e ↔ ms.findSome? (·.failure? record) = some e) ∧
    ((∀ m ∈ ms, ∃ matched, m.captureBytes record = .ok matched) →
      ∃ c, captures ⟨ms, false⟩ record = .ok c ∧ (c.map (·.1)).Nodup ∧
        ∀ n, c.get? n = (ms.filterMap (·.value? record n)).getLast?) := by
  have hfirst : ∀ ms, captures ⟨ms, true⟩ record =
      (ms.findSome? (·.outcome? record)).getD (.ok []) := by
    intro ms
    rw [captures, capturesFrom_true]
    cases hx : ms.findSome? (·.outcome? record) with
    | none => rfl
    | some x =>
      cases x with
      | error e => rfl
      | ok c =>
        -- Nothing was found before, so the fields are those of the matcher itself.
        obtain ⟨m, -, hm⟩ := List.exists_of_findSome?_eq_some hx
        have hc := Matcher.nodup_names_of_captureBytes (Matcher.captureBytes_of_outcome? hm)
        exact congrArg Except.ok (Captures.merge_eq_append (by simpa using hc))
  have hnil : (([] : Captures).map (·.1)).Nodup := List.nodup_nil
  refine ⟨hfirst ms, ?_, ?_, ?_⟩
  · rintro before m later later' rfl hm
    obtain ⟨x, hx⟩ := Option.ne_none_iff_exists'.1 (mt Matcher.outcome?_eq_none_iff.1 hm)
    simp only [hfirst, List.findSome?_append, List.findSome?_cons, hx]
  · intro e
    rcases capturesFrom_false record hnil ms with ⟨e', he', h⟩ | ⟨hnone, c, h, -⟩
    · simp only [captures, h, he', Except.error.injEq, Option.some.injEq]
    · simp [captures, h, hnone]
  · intro hall
    have hnone : ms.findSome? (·.failure? record) = none :=
      List.findSome?_eq_none_iff.2 fun m hm => Matcher.failure?_eq_none_iff.2 (hall m hm)
    rcases capturesFrom_false record hnil ms with ⟨e, he, -⟩ | ⟨-, c, h, hc, hget⟩
    · rw [hnone] at he
      cases he
    · refine ⟨c, h, hc, fun n => ?_⟩
      rw [hget, Captures.get?_eq_none_iff.2 List.not_mem_nil, Option.or_none]

/-- A matcher that captures the first byte of a record. -/
def initial (field : String) (type : ValueType) : Matcher :=
  ⟨[], "", [⟨field, [1], type⟩], fun _ => .ok (some [some (0, 1), some (0, 1)])⟩

/-- A matcher that matches without a field, one that does not match, and one that fails. -/
def blank : Matcher := ⟨[], "", [], fun _ => .ok (some [some (0, 0)])⟩

def silent : Matcher := ⟨[], "", [], fun _ => .ok none⟩

def broken : Matcher := ⟨[], "", [], fun _ => .error (.matchInterrupted "")⟩

/-- A match without a field ends the search before the failure. Without an end to the search the
    last number counts, and a matcher behind it that does not capture the field changes nothing. -/
theorem captures_by_policy_blank :
    captures ⟨[silent, blank, broken], true⟩ [55] = captures ⟨[silent, blank], true⟩ [55] ∧
      captures ⟨[silent, blank], true⟩ [55] = .ok [] ∧
      captures ⟨[blank, broken], false⟩ [55] = .error (.matchInterrupted "") ∧
      ∃ c, captures ⟨[initial "n" .string, initial "n" .int, blank, silent], false⟩ [55] = .ok c ∧
        c.get? "n" = some (.int 7) := by
  obtain ⟨hfirst, hlater, -, -⟩ := captures_by_policy [silent, blank] [55]
  obtain ⟨-, -, herror, -⟩ := captures_by_policy [blank, broken] [55]
  obtain ⟨-, -, -, hlast⟩ :=
    captures_by_policy [initial "n" .string, initial "n" .int, blank, silent] [55]
  -- The blank matcher matches, and has no field.
  have hblank : blank.captureBytes [55] = .ok (some []) := rfl
  have hmatched : ∀ m ∈ [initial "n" .string, initial "n" .int, blank, silent],
      ∃ matched, m.captureBytes [55] = .ok matched := by
    simp only [List.forall_mem_cons]
    exact ⟨⟨_, rfl⟩, ⟨_, rfl⟩, ⟨_, rfl⟩, ⟨_, rfl⟩, by simp⟩
  obtain ⟨c, hc, -, hget⟩ := hlast hmatched
  refine ⟨hlater [silent] blank [] [broken] rfl (by simp [hblank]), hfirst.trans rfl,
    (herror _).2 rfl, c, hc, ?_⟩
  rw [hget]
  rfl

end Transform

end Grok
