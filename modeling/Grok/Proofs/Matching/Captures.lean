import Grok.Matcher
import Mathlib.Data.List.Basic

namespace Grok.Captures

/-!
# Captures as a map

Captures are a list of names with values. What counts is which value a name has.

* `Captures.get?_set` — setting a field changes the value of its name only.
* `Captures.nodup_names_set` — and no name is there twice.
* `Captures.get?_eq_some_iff` — with distinct names, the values are those of the list.
* `Captures.get?_merge` — after a merge a name has the value of the second map, and what it had
  before if there is none.
* `Matcher.mem_groups_ofProgram_iff` — a matcher has a descriptor for each entry of a report.
* `Matcher.captureText_eq_some_iff`, `Matcher.captureText_eq_error_iff` — the map of a matched text
  and the failure on a text come from the search and from the descriptors.
-/

/-- The first field counts. -/
theorem get?_cons (m : String × Value) (c : Captures) (k : String) :
    get? (m :: c) k = if m.1 = k then some m.2 else c.get? k := by
  obtain ⟨n, v⟩ := m
  unfold get?
  by_cases h : n = k
  · simp [h]
  · have hk : (k == n) = false := by simpa using Ne.symm h
    simp [List.lookup_cons, h, hk]

/-- Setting a field changes its own value only. -/
theorem get?_set (c : Captures) (n : String) (v : Value) (k : String) :
    (c.set n v).get? k = if n = k then some v else c.get? k := by
  induction c with
  | nil => rw [set, get?_cons]
  | cons m c ih =>
    rw [set]
    by_cases hm : m.1 = n
    · rw [if_pos hm, get?_cons, get?_cons, hm]
      by_cases h : n = k <;> simp [h]
    · rw [if_neg hm, get?_cons, get?_cons, ih]
      by_cases h : n = k
      · have hk : m.1 ≠ k := h ▸ hm
        simp [h, hk]
      · simp [h]

/-- Setting a field adds no other name. -/
theorem eq_or_mem_of_mem_names_set {c : Captures} {n k : String} {v : Value}
    (h : k ∈ (c.set n v).map (·.1)) : k = n ∨ k ∈ c.map (·.1) := by
  induction c with
  | nil => simpa [set] using h
  | cons m c ih =>
    rw [set] at h
    split at h
    · rename_i hm
      simp only [List.map_cons, List.mem_cons] at h ⊢
      exact h.imp_right .inr
    · simp only [List.map_cons, List.mem_cons] at h ⊢
      rcases h with h | h
      · exact .inr (.inl h)
      · exact (ih h).imp_right .inr

/-- Setting a field keeps the names distinct. -/
theorem nodup_names_set {c : Captures} (h : (c.map (·.1)).Nodup) (n : String) (v : Value) :
    ((c.set n v).map (·.1)).Nodup := by
  -- A name is changed at its place, or added behind all others that differ from it.
  induction c with
  | nil => simp [set]
  | cons m c ih =>
    obtain ⟨hm, hc⟩ := List.nodup_cons.1 h
    rw [set]
    split
    · rename_i hn
      subst hn
      exact List.nodup_cons.2 ⟨hm, hc⟩
    · rename_i hn
      refine List.nodup_cons.2 ⟨fun hmem => ?_, ih hc⟩
      rcases eq_or_mem_of_mem_names_set hmem with heq | hmem
      · exact hn heq
      · exact hm hmem

/-- With distinct names, the value of a name is the one it is listed with. -/
theorem get?_eq_some_iff {c : Captures} (h : (c.map (·.1)).Nodup) {n : String} {v : Value} :
    c.get? n = some v ↔ (n, v) ∈ c := by
  induction c with
  | nil => simp [get?]
  | cons m c ih =>
    obtain ⟨hm, hc⟩ := List.nodup_cons.1 h
    rw [get?_cons, List.mem_cons]
    by_cases hn : m.1 = n
    · subst hn
      -- The name is not listed any further.
      have hno : (m.1, v) ∉ c := fun hmem => hm (List.mem_map.2 ⟨_, hmem, rfl⟩)
      simp only [if_true, Option.some.injEq, hno, or_false]
      constructor
      · rintro rfl
        rfl
      · rintro heq
        rw [← heq]
    · have hne : (n, v) ≠ m := by
        rintro rfl
        exact hn rfl
      simp only [if_neg hn, hne, false_or, ih hc]

/-- A name without a value is not listed. -/
theorem get?_eq_none_iff {c : Captures} {n : String} : c.get? n = none ↔ n ∉ c.map (·.1) := by
  induction c with
  | nil => simp [get?]
  | cons m c ih =>
    rw [get?_cons, List.map_cons, List.mem_cons, not_or]
    by_cases hn : m.1 = n
    · simp [hn]
    · simp [hn, ih, Ne.symm hn]

/-! ### Merging -/

/-- A new field is set at the end. -/
theorem set_of_notMem {c : Captures} {n : String} (h : n ∉ c.map (·.1)) (v : Value) :
    c.set n v = c ++ [(n, v)] := by
  induction c with
  | nil => rfl
  | cons m c ih =>
    obtain ⟨hm, hc⟩ := not_or.1 (mt List.mem_cons.2 h)
    rw [set, if_neg (Ne.symm hm), ih hc, List.cons_append]

/-- A merge keeps the names distinct. -/
theorem nodup_names_merge {c : Captures} (h : (c.map (·.1)).Nodup) (d : Captures) :
    ((c.merge d).map (·.1)).Nodup := by
  induction d generalizing c with
  | nil => exact h
  | cons m d ih => exact ih (nodup_names_set h m.1 m.2)

/-- Fields whose names are all new are put behind the others. -/
theorem merge_eq_append {c d : Captures} (h : ((c ++ d).map (·.1)).Nodup) :
    c.merge d = c ++ d := by
  induction d generalizing c with
  | nil => exact (List.append_nil c).symm
  | cons m d ih =>
    have hsplit : c ++ m :: d = (c ++ [m]) ++ d := by simp
    have hm : m.1 ∉ c.map (·.1) := by
      rw [List.map_append, List.map_cons, List.nodup_append] at h
      exact fun hmem => h.2.2 _ hmem _ List.mem_cons_self rfl
    have hset : c.set m.1 m.2 = c ++ [m] := set_of_notMem hm m.2
    calc c.merge (m :: d) = (c.set m.1 m.2).merge d := rfl
      _ = (c ++ [m]) ++ d := by rw [hset, ih (hsplit ▸ h)]
      _ = c ++ m :: d := hsplit.symm

/-- **The later values count.** -/
theorem get?_merge (c : Captures) {d : Captures} (h : (d.map (·.1)).Nodup) (n : String) :
    (c.merge d).get? n = (d.get? n).or (c.get? n) := by
  induction d generalizing c with
  | nil => rfl
  | cons m d ih =>
    obtain ⟨hm, hd⟩ := List.nodup_cons.1 h
    have hstep : (c.merge (m :: d)).get? n = (get? d n).or ((c.set m.1 m.2).get? n) :=
      ih (c.set m.1 m.2) hd
    rw [hstep, get?_set, get?_cons]
    by_cases hn : m.1 = n
    · -- The name is not listed any further, so nothing behind it overrides its value.
      have hnone : get? d n = none := get?_eq_none_iff.2 (hn ▸ hm)
      simp [hn, hnone]
    · simp [hn]

end Grok.Captures

namespace Grok.Matcher

/-- The descriptors of a matcher are those of the entries that the engine reports. -/
theorem mem_groups_ofProgram_iff {references : List Reference} {expression : String}
    {program : Engine.Program} {g : CaptureGroup} :
    g ∈ (ofProgram references expression program).groups ↔
      ∃ report ∈ program.namedGroups, CaptureGroup.ofReport references report = g :=
  List.mem_mergeSort.trans List.mem_map

/-- Fields are captured where the search finds a match and all descriptors are extracted. -/
theorem captureText_eq_some_iff {m : Matcher} {text : String} {c : Captures} :
    m.captureText text = .ok (some c) ↔ ∃ offsets, m.search text = .ok (some offsets) ∧
      CaptureGroup.extractAll text.toList offsets [] m.groups = .ok c := by
  unfold captureText
  rcases m.search text with e | (_ | offsets)
  · simp
  · simp
  · cases hall : CaptureGroup.extractAll text.toList offsets [] m.groups <;> simp [hall, Except.map]

/-- A text fails with the search, or with a descriptor. -/
theorem captureText_eq_error_iff {m : Matcher} {text : String} {e : Error} :
    m.captureText text = .error e ↔ m.search text = .error e ∨
      ∃ offsets, m.search text = .ok (some offsets) ∧
        CaptureGroup.extractAll text.toList offsets [] m.groups = .error e := by
  unfold captureText
  rcases m.search text with e' | (_ | offsets)
  · simp
  · simp
  · cases hall : CaptureGroup.extractAll text.toList offsets [] m.groups <;> simp [hall, Except.map]

end Grok.Matcher
