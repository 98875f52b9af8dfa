import Grok.Proofs.Expansion.Seams
import Mathlib.Data.Set.Card

namespace Grok

/-!
# The numbers of groups

An engine numbers groups by the places at which they open, and knows nothing of references. The
references are recorded by the expansion, which knows nothing of numbers.

* `Expansion.Tree.OpensAt` — in the expanded text, the group of a reference opens at a place.
* `Expansion.Tree.number` — the number of a group: how many open up to its place.
* `Expansion.Tree.openings` lists the groups in the order of the references;
  `Expansion.Tree.pairwise_openings` says that this is the order of their places too, so that
  `Expansion.Tree.number_eq_iff` finds the reference of a number in the list.
* `Expansion.Tree.Reported` — a report names just the groups of an expansion, by their numbers.
* `Compiler.type_of_lowest_group` — each field then has the type that is declared where its first
  group opens.
-/

namespace Expansion

theorem captureName?_true (o : Occurrence) : captureName? true o = o.field := by
  unfold captureName?
  cases o.field <;> rfl

/-- What opens the group of a reference; nothing if it is not captured. -/
def openingText (fieldsOnly : Bool) (o : Occurrence) : List Char :=
  match captureName? fieldsOnly o with
  | some name => (Mark.opening name).text
  | none => []

/-- A fragment is put behind the opening of its group. -/
theorem exists_wrap_eq (fieldsOnly : Bool) (o : Occurrence) (fragment : List Char) :
    ∃ closing, wrap fieldsOnly o fragment = openingText fieldsOnly o ++ fragment ++ closing := by
  rw [wrap_eq, openingText]
  cases captureName? fieldsOnly o with
  | some name => exact ⟨[')'], by simp [group, Mark.text]⟩
  | none => exact ⟨[], by simp⟩

namespace Tree

/-! ### Where groups open -/

/-- In the yield, the group of a reference opens at a place. -/
inductive OpensAt (fieldsOnly : Bool) : Tree → Nat → Occurrence → Prop where
  /-- behind the literal text in front of the reference -/
  | here {cs : List Char} {o : Occurrence} {d rest : Tree}
      (hcaptured : (captureName? fieldsOnly o).isSome) :
    OpensAt fieldsOnly (reference cs o d rest) cs.length o
  /-- in the definition of a reference -/
  | inside {cs : List Char} {o p : Occurrence} {d rest : Tree} {pos : Nat}
      (hopens : OpensAt fieldsOnly d pos p) :
    OpensAt fieldsOnly (reference cs o d rest)
      (cs.length + (openingText fieldsOnly o).length + pos) p
  /-- behind a reference -/
  | behind {cs : List Char} {o p : Occurrence} {d rest : Tree} {pos : Nat}
      (hopens : OpensAt fieldsOnly rest pos p) :
    OpensAt fieldsOnly (reference cs o d rest)
      (cs.length + (wrap fieldsOnly o (d.yield fieldsOnly)).length + pos) p

/-- The number of the group that opens at a place, counted from one. -/
noncomputable def number (fieldsOnly : Bool) (t : Tree) (pos : Nat) : Nat :=
  Set.ncard {q | q ≤ pos ∧ ∃ o, t.OpensAt fieldsOnly q o}

/-- Where a group opens, the text reads so. -/
theorem OpensAt.exists_yield_eq {fieldsOnly : Bool} {t : Tree} {pos : Nat} {o : Occurrence}
    (h : t.OpensAt fieldsOnly pos o) :
    ∃ name before after, captureName? fieldsOnly o = some name ∧ before.length = pos ∧
      t.yield fieldsOnly = before ++ (Mark.opening name).text ++ after := by
  -- By the way to the group: at the head, within the definition, or behind it.
  induction h with
  | @here cs o d rest hcaptured =>
    obtain ⟨name, hname⟩ := Option.isSome_iff_exists.1 hcaptured
    obtain ⟨closing, hwrap⟩ := exists_wrap_eq fieldsOnly o (d.yield fieldsOnly)
    refine ⟨name, cs, d.yield fieldsOnly ++ closing ++ rest.yield fieldsOnly, hname, rfl, ?_⟩
    simp [yield, hwrap, openingText, hname]
  | @inside cs o p d rest pos _ ih =>
    obtain ⟨name, before, after, hname, rfl, hyield⟩ := ih
    obtain ⟨closing, hwrap⟩ := exists_wrap_eq fieldsOnly o (d.yield fieldsOnly)
    refine ⟨name, cs ++ openingText fieldsOnly o ++ before,
      after ++ closing ++ rest.yield fieldsOnly, hname, by simp [Nat.add_assoc], ?_⟩
    rw [yield, hwrap, hyield]
    simp
  | @behind cs o p d rest pos _ ih =>
    obtain ⟨name, before, after, hname, rfl, hyield⟩ := ih
    refine ⟨name, cs ++ wrap fieldsOnly o (d.yield fieldsOnly) ++ before, after, hname,
      by simp [Nat.add_assoc], ?_⟩
    rw [yield, hyield]
    simp

/-! ### The groups in the order of the references -/

/-- The references that are captured, in preorder, each with the place at which its group opens; the
    yield starts at `start`. -/
def openings (fieldsOnly : Bool) : Nat → Tree → List (Nat × Occurrence)
  | _, literal _ => []
  | start, reference cs o d rest =>
    (if (captureName? fieldsOnly o).isSome then [(start + cs.length, o)] else []) ++
      (d.openings fieldsOnly (start + cs.length + (openingText fieldsOnly o).length) ++
        rest.openings fieldsOnly
          (start + cs.length + (wrap fieldsOnly o (d.yield fieldsOnly)).length))

/-- The groups are listed at the places where they open. -/
theorem mem_openings_iff {fieldsOnly : Bool} {t : Tree} {start p : Nat} {o : Occurrence} :
    (p, o) ∈ t.openings fieldsOnly start ↔
      ∃ pos, p = start + pos ∧ t.OpensAt fieldsOnly pos o := by
  induction t generalizing start with
  | literal cs =>
    simp only [openings, List.not_mem_nil, false_iff]
    rintro ⟨pos, -, h⟩
    cases h
  | reference cs r d rest ihd ihrest =>
    -- Each of the three lists is one of the ways to a group.
    simp only [openings, List.mem_append, ihd, ihrest]
    constructor
    · rintro (hhere | ⟨pos, rfl, hopens⟩ | ⟨pos, rfl, hopens⟩)
      · split at hhere
        · rename_i hcaptured
          obtain ⟨rfl, rfl⟩ : p = start + cs.length ∧ o = r := by simpa using hhere
          exact ⟨cs.length, rfl, .here hcaptured⟩
        · cases hhere
      · exact ⟨_, by omega, .inside hopens⟩
      · exact ⟨_, by omega, .behind hopens⟩
    · rintro ⟨_, rfl, hcaptured | hopens | hopens⟩
      · simp [hcaptured]
      · exact .inr (.inl ⟨_, by omega, hopens⟩)
      · exact .inr (.inr ⟨_, by omega, hopens⟩)

/-- Without its places, the list holds the references that are captured. -/
theorem map_snd_openings (fieldsOnly : Bool) (start : Nat) (t : Tree) :
    (t.openings fieldsOnly start).map (·.2) =
      t.preorder.filter fun o => (captureName? fieldsOnly o).isSome := by
  induction t generalizing start with
  | literal cs => rfl
  | reference cs o d rest ihd ihrest =>
    simp only [openings, preorder, List.map_append, ihd, ihrest, List.filter_cons,
      List.filter_append, List.cons_append]
    split <;> simp

/-- A group opens within the text. -/
theorem OpensAt.lt {fieldsOnly : Bool} {t : Tree} {pos : Nat} {o : Occurrence}
    (h : t.OpensAt fieldsOnly pos o) : pos < (t.yield fieldsOnly).length := by
  obtain ⟨name, before, after, -, rfl, hyield⟩ := h.exists_yield_eq
  rw [hyield]
  simp [Mark.text]

/-- **The order of the references is that of the places at which their groups open.** -/
theorem pairwise_openings (fieldsOnly : Bool) (start : Nat) (t : Tree) :
    (t.openings fieldsOnly start).Pairwise (·.1 < ·.1) := by
  induction t generalizing start with
  | literal cs => exact .nil
  | reference cs o d rest ihd ihrest =>
    obtain ⟨closing, hwrap⟩ := exists_wrap_eq fieldsOnly o (d.yield fieldsOnly)
    have hlength := congrArg List.length hwrap
    simp only [List.length_append] at hlength
    -- The group itself, those of the definition, and those behind the fragment.
    rw [openings, List.pairwise_append, List.pairwise_append]
    refine ⟨?_, ⟨ihd _, ihrest _, ?_⟩, ?_⟩
    · split
      · exact List.pairwise_singleton ..
      · exact .nil
    · -- The groups of a definition open before its fragment ends.
      rintro ⟨p, q⟩ hp ⟨p', q'⟩ hp'
      obtain ⟨pos, rfl, hopens⟩ := mem_openings_iff.1 hp
      obtain ⟨pos', rfl, -⟩ := mem_openings_iff.1 hp'
      have hlt := hopens.lt
      simp only
      omega
    · rintro ⟨p, q⟩ hp ⟨p', q'⟩ hp'
      split at hp
      · rename_i hcaptured
        obtain ⟨name, hname⟩ := Option.isSome_iff_exists.1 hcaptured
        -- What opens the group is not empty, and all others stand behind it.
        have hopening : 0 < (openingText fieldsOnly o).length := by
          simp [openingText, hname, Mark.text]
        obtain ⟨rfl, rfl⟩ : p = start + cs.length ∧ q = o := by simpa using hp
        rcases List.mem_append.1 hp' with hp' | hp' <;>
          obtain ⟨pos', rfl, -⟩ := mem_openings_iff.1 hp' <;> simp only <;> omega
      · cases hp

/-- The group at an index of the list has the number behind that index. -/
theorem number_of_getElem? {fieldsOnly : Bool} {t : Tree} {k pos : Nat} {o : Occurrence}
    (h : (t.openings fieldsOnly 0)[k]? = some (pos, o)) : t.number fieldsOnly pos = k + 1 := by
  have hsorted := t.pairwise_openings fieldsOnly 0
  generalize hlist : t.openings fieldsOnly 0 = list at h hsorted
  obtain ⟨hk, hpos⟩ := List.getElem?_eq_some_iff.1 h
  -- The places up to this one are those of the first `k + 1` groups.
  have hset : {q | q ≤ pos ∧ ∃ o, t.OpensAt fieldsOnly q o} =
      ↑((list.take (k + 1)).map (·.1)).toFinset := by
    ext q
    simp only [Set.mem_ofPred_eq, List.coe_toFinset, List.mem_map, List.mem_take_iff_getElem]
    constructor
    · rintro ⟨hle, p, hopens⟩
      have hmem : (q, p) ∈ list := hlist ▸ mem_openings_iff.2 ⟨q, by omega, hopens⟩
      obtain ⟨i, hi, hq⟩ := List.getElem_of_mem hmem
      have hik : i ≤ k := by
        by_contra hlt
        have hbefore := List.pairwise_iff_getElem.1 hsorted k i hk hi (by omega)
        rw [hpos, hq] at hbefore
        simp only at hbefore
        omega
      exact ⟨(q, p), ⟨i, by omega, hq⟩, rfl⟩
    · rintro ⟨⟨q', p⟩, ⟨i, hi, hq⟩, rfl⟩
      have hmem : (q', p) ∈ list := hq ▸ List.getElem_mem _
      obtain ⟨pos', rfl, hopens⟩ := mem_openings_iff.1 (hlist ▸ hmem)
      refine ⟨?_, p, by simpa using hopens⟩
      rcases Nat.lt_or_ge i k with hlt | hge
      · have hbefore := List.pairwise_iff_getElem.1 hsorted i k (by omega) hk hlt
        rw [hpos, hq] at hbefore
        exact Nat.le_of_lt hbefore
      · obtain rfl : i = k := by omega
        rw [hpos] at hq
        exact Nat.le_of_eq (Prod.mk.inj hq).1.symm
  have hnodup : ((list.take (k + 1)).map (·.1)).Nodup := by
    rw [List.Nodup, List.pairwise_map]
    exact (hsorted.sublist (List.take_sublist ..)).imp Nat.ne_of_lt
  rw [number, hset, Set.ncard_coe_finset, List.toFinset_card_of_nodup hnodup, List.length_map,
    List.length_take, Nat.min_eq_left (by omega)]

/-- **The reference of a number**: the group that opens at a place has a number just where its
    reference is the one of that number among those that are captured. -/
theorem exists_number_eq_iff {fieldsOnly : Bool} {t : Tree} {k : Nat} {o : Occurrence} :
    (∃ pos, t.OpensAt fieldsOnly pos o ∧ t.number fieldsOnly pos = k + 1) ↔
      (t.preorder.filter fun o => (captureName? fieldsOnly o).isSome)[k]? = some o := by
  rw [← map_snd_openings fieldsOnly 0, List.getElem?_map, Option.map_eq_some_iff]
  constructor
  · rintro ⟨pos, hopens, hnumber⟩
    have hmem : (pos, o) ∈ t.openings fieldsOnly 0 := mem_openings_iff.2 ⟨pos, by omega, hopens⟩
    obtain ⟨i, hi⟩ := List.mem_iff_getElem?.1 hmem
    obtain rfl : i = k := by
      have hi' := number_of_getElem? hi
      omega
    exact ⟨(pos, o), hi, rfl⟩
  · rintro ⟨⟨pos, p⟩, hk, rfl⟩
    obtain ⟨pos', rfl, hopens⟩ := mem_openings_iff.1 (List.mem_of_getElem? hk)
    exact ⟨_, by simpa using hopens, number_of_getElem? (by simpa using hk)⟩

/-! ### What an engine reports -/

/-- A report names the groups that an expansion put around fragments, and no others, by their
    numbers: each name once, in any order, with all its numbers in any order. -/
structure Reported (fieldsOnly : Bool) (t : Tree) (report : List (String × List Nat)) : Prop where
  grouped : (report.map (·.1)).Nodup
  nonempty : ∀ r ∈ report, r.2 ≠ []
  mem_iff : ∀ n i, (∃ indexes, (n, indexes) ∈ report ∧ i ∈ indexes) ↔
    ∃ pos o, t.OpensAt fieldsOnly pos o ∧ captureName? fieldsOnly o = some n ∧
      t.number fieldsOnly pos = i

/-- The numbers of a name are told by the references that are captured under it. -/
theorem exists_numbered_iff {t : Tree} {fieldsOnly : Bool} {n : String} {i : Nat} :
    (∃ pos o, t.OpensAt fieldsOnly pos o ∧ captureName? fieldsOnly o = some n ∧
        t.number fieldsOnly pos = i) ↔
      ∃ k o, (t.preorder.filter fun o => (captureName? fieldsOnly o).isSome)[k]? = some o ∧
        captureName? fieldsOnly o = some n ∧ k + 1 = i := by
  constructor
  · rintro ⟨pos, o, hopens, hname, rfl⟩
    have hmem : (pos, o) ∈ t.openings fieldsOnly 0 := mem_openings_iff.2 ⟨pos, by omega, hopens⟩
    obtain ⟨k, hk⟩ := List.mem_iff_getElem?.1 hmem
    have hnumber := number_of_getElem? hk
    exact ⟨k, o, exists_number_eq_iff.1 ⟨pos, hopens, hnumber⟩, hname, hnumber.symm⟩
  · rintro ⟨k, o, hk, hname, rfl⟩
    obtain ⟨pos, hopens, hnumber⟩ := exists_number_eq_iff.2 hk
    exact ⟨pos, o, hopens, hname, hnumber⟩

/-- The names of the references that are captured, one after the other. -/
theorem getElem?_filterMap_captureName? {fieldsOnly : Bool} {os : List Occurrence} {k : Nat}
    {n : String} :
    (os.filterMap (captureName? fieldsOnly))[k]? = some n ↔
      ∃ o, (os.filter fun o => (captureName? fieldsOnly o).isSome)[k]? = some o ∧
        captureName? fieldsOnly o = some n := by
  induction os generalizing k with
  | nil => simp
  | cons o os ih =>
    cases hname : captureName? fieldsOnly o with
    | none => simp [hname, ih]
    | some name =>
      cases k with
      | zero => simp [hname]
      | succ k => simp [hname, ih]

/-- A report that lists the names of the captured references, numbered from one, in whatever
    order. -/
theorem Reported.of_perm {fieldsOnly : Bool} {t : Tree} {report : List (String × List Nat)}
    (hgrouped : (report.map (·.1)).Nodup) (hnonempty : ∀ r ∈ report, r.2 ≠ [])
    (hperm : (report.flatMap fun r => r.2.map (r.1, ·)).Perm
      ((t.preorder.filterMap (captureName? fieldsOnly)).zipIdx 1)) :
    t.Reported fieldsOnly report := by
  refine ⟨hgrouped, hnonempty, fun n i => ?_⟩
  -- A pair of a name and a number is one of the entry for the name.
  have hreport : (∃ indexes, (n, indexes) ∈ report ∧ i ∈ indexes) ↔
      (n, i) ∈ report.flatMap fun r => r.2.map (r.1, ·) := by
    simp only [List.mem_flatMap, List.mem_map, Prod.mk.injEq]
    constructor
    · rintro ⟨indexes, hmem, hi⟩
      exact ⟨_, hmem, i, hi, rfl, rfl⟩
    · rintro ⟨⟨n, indexes⟩, hmem, i, hi, rfl, rfl⟩
      exact ⟨indexes, hmem, hi⟩
  -- Numbers count from one, and places from zero.
  rw [hreport, hperm.mem_iff, exists_numbered_iff, List.mem_zipIdx_iff_le_and_getElem?_sub,
    getElem?_filterMap_captureName?]
  constructor
  · rintro ⟨hle, o, ho, hname⟩
    exact ⟨i - 1, o, ho, hname, by omega⟩
  · rintro ⟨k, o, ho, hname, rfl⟩
    exact ⟨by omega, o, by simpa using ho, hname⟩

end Tree

end Expansion

open Expansion (Tree Mark captureName? captureName?_true)

/-- A name has the type of the first of the references that are captured under it. -/
theorem CaptureGroup.typeOf_eq {os : List Occurrence} {k : Nat} {o : Occurrence} {n : String}
    (hk : (os.filter (·.field.isSome))[k]? = some o) (hname : o.field = some n)
    (hfirst : ∀ j p, j < k → (os.filter (·.field.isSome))[j]? = some p → p.field ≠ some n) :
    typeOf (os.map Reference.ofOccurrence) n = (Reference.ofOccurrence o).type := by
  have hcaptured : (os.filter (·.field.isSome)).find? (fun o => o.field = some n) = some o := by
    obtain ⟨hlt, hget⟩ := List.getElem?_eq_some_iff.1 hk
    refine List.find?_eq_some_iff_getElem.2 ⟨by simpa using hname, k, hlt, hget, fun j hj => ?_⟩
    simpa using hfirst j _ hj (List.getElem?_eq_getElem (Nat.lt_trans hj hlt))
  -- References without a field are not looked for anyway.
  have hany : os.find? (fun o => o.field = some n) = some o := by
    rw [List.find?_filter] at hcaptured
    rw [← hcaptured]
    congr 1
    funext p
    by_cases hp : p.field = some n <;> simp [hp]
  have hreference : (os.map Reference.ofOccurrence).find? (fun r => r.field = some n) =
      some (Reference.ofOccurrence o) := by
    rw [List.find?_map]
    exact congrArg (Option.map Reference.ofOccurrence) hany
  rw [typeOf, hreference]

/-- Among the groups of a name that a report lists, the one with the lowest number opens for the
    reference that the type is taken from. -/
theorem Expansion.Tree.Reported.exists_lowest {t : Tree} {report : List (String × List Nat)}
    (h : t.Reported true report) {n : String} {indexes : List Nat} (hmem : (n, indexes) ∈ report) :
    ∃ pos o, t.OpensAt true pos o ∧ o.field = some n ∧ t.number true pos ∈ indexes ∧
      (∀ i ∈ indexes, t.number true pos ≤ i) ∧
      CaptureGroup.typeOf (t.preorder.map Reference.ofOccurrence) n =
        (Reference.ofOccurrence o).type := by
  have hiff : ∀ i, i ∈ indexes ↔ ∃ k o, (t.preorder.filter (·.field.isSome))[k]? = some o ∧
      o.field = some n ∧ k + 1 = i := by
    intro i
    have hnumbers := (h.mem_iff n i).trans Tree.exists_numbered_iff
    simp only [captureName?_true] at hnumbers
    rw [← hnumbers]
    refine ⟨fun hi => ⟨indexes, hmem, hi⟩, ?_⟩
    -- The name is listed once, so its other entries are this one.
    rintro ⟨indexes', hmem', hi⟩
    have heq := List.inj_on_of_nodup_map h.grouped hmem' hmem rfl
    rwa [← (Prod.mk.inj heq).2]
  obtain ⟨i, hi⟩ : ∃ i, indexes.min? = some i :=
    Option.ne_none_iff_exists'.1 (mt List.min?_eq_none_iff.1 (h.nonempty _ hmem))
  obtain ⟨himem, hlowest⟩ := List.min?_eq_some_iff.1 hi
  obtain ⟨k, o, hk, hname, rfl⟩ := (hiff i).1 himem
  have hcaptured : (t.preorder.filter fun o => (captureName? true o).isSome)[k]? = some o := by
    simpa only [captureName?_true] using hk
  obtain ⟨pos, hopens, hnumber⟩ := Tree.exists_number_eq_iff.2 hcaptured
  refine ⟨pos, o, hopens, hname, by rwa [hnumber], by rwa [hnumber], ?_⟩
  refine CaptureGroup.typeOf_eq hk hname fun j p hj hp hpname => ?_
  have hle := hlowest (j + 1) ((hiff _).2 ⟨j, p, hp, hpname, rfl⟩)
  omega

/-- **A field has the type that is declared where its first group opens.**

Only fields are captured. In the expanded text the `k`-th group opens for the `k`-th of the recorded
references that have a field. So for every engine that reports these groups, in any order, the type
of each descriptor is that of the reference whose group has the lowest of its indexes. -/
theorem Compiler.type_of_lowest_group (c : Compiler) (hfields : c.fieldsOnly = true)
    (expression : String) (m : Matcher) (h : (c.compile expression).value = .ok m) :
    ∃ t : Tree, (t.IsOf expression.toList ∧ t.Unfolds c.library ∧
        m.references = t.preorder.map Reference.ofOccurrence) ∧
      (∀ pos o, t.OpensAt true pos o → ∃ name before after, o.field = some name ∧
        before.length = pos ∧
        m.expression.toList = before ++ (Mark.opening name).text ++ after) ∧
      (∀ k r, (m.references.filter (·.field.isSome))[k]? = some r ↔
        ∃ pos o, t.OpensAt true pos o ∧ t.number true pos = k + 1 ∧
          r = Reference.ofOccurrence o) ∧
      ∀ program, c.engine.compile c.options m.expression = .ok program →
        t.Reported true program.namedGroups →
        ∀ g ∈ m.groups, ∃ pos o, t.OpensAt true pos o ∧ o.field = some g.name ∧
          t.number true pos ∈ g.indexes ∧ (∀ i ∈ g.indexes, t.number true pos ≤ i) ∧
          g.type = (Reference.ofOccurrence o).type := by
  obtain ⟨expanded, program, hexpanded, hprogram, rfl⟩ := compile_eq_ok_iff.1 h
  have hout := hexpanded
  rw [value_expand_eq_ok_iff, hfields] at hout
  obtain ⟨t, hof, hunfolds, hgives⟩ :=
    Library.exists_tree_of_expand hout
  have hyield : expanded.toList = t.yield true := Except.ok.inj (hout.symm.trans hgives.outcome)
  have hreferences : (c.library.expand c.fieldsOnly expression).references =
      t.preorder.map Reference.ofOccurrence := by
    rw [hfields]
    exact congrArg (List.map Reference.ofOccurrence) hgives.opened
  refine ⟨t, ⟨hof, hunfolds, hreferences⟩, ?_, ?_, ?_⟩
  · intro pos o hopens
    -- Where a group opens, its text stands in the yield.
    simpa only [Matcher.ofProgram, hyield, Expansion.captureName?_true] using
      hopens.exists_yield_eq
  · intro k r
    -- The number of a group is the place of its reference among those with a field.
    have hnumber := @Tree.exists_number_eq_iff true t k
    simp only [captureName?_true] at hnumber
    rw [Matcher.ofProgram, hreferences, List.filter_map, List.getElem?_map,
      Option.map_eq_some_iff]
    constructor
    · rintro ⟨o, ho, rfl⟩
      obtain ⟨pos, hopens, hpos⟩ := hnumber.2 ho
      exact ⟨pos, o, hopens, hpos, rfl⟩
    · rintro ⟨pos, o, hopens, hpos, rfl⟩
      exact ⟨o, hnumber.1 ⟨pos, hopens, hpos⟩, rfl⟩
  · intro program' hprogram' hreported g hg
    obtain rfl := Except.ok.inj (hprogram.symm.trans hprogram')
    -- A descriptor is made for an entry of the report, and sorting keeps its indexes.
    obtain ⟨⟨n, indexes⟩, hreport, rfl⟩ := List.mem_map.1 (List.mem_mergeSort.1 hg)
    obtain ⟨pos, o, hopens, hname, hmem, hlowest, htype⟩ := hreported.exists_lowest hreport
    have hindexes : ∀ i, i ∈ indexes.mergeSort ↔ i ∈ indexes := fun i => List.mem_mergeSort
    refine ⟨pos, o, hopens, hname, (hindexes _).2 hmem, fun i hi => hlowest i ((hindexes i).1 hi),
      ?_⟩
    rw [← htype, ← hreferences]
    rfl

/-- A field that is declared in a definition and again behind it, with an engine that reports the
    groups of its expansion from the last to the first. -/
def nested : Compiler where
  library := Library.empty.insertAll
    [⟨"PAIR", "%\x7bNUM:n:int\x7d,%\x7bNUM\x7d"⟩, ⟨"NUM", "[0-9]+"⟩]
  fieldsOnly := true
  options := {}
  engine := ⟨fun _ _ => .ok ⟨[("n", [3, 2]), ("p", [1])], fun _ => .ok none⟩⟩

/-- The field has the type of the inner reference, whose group opens first. -/
theorem Compiler.type_of_lowest_group_nested :
    (nested.expand "%\x7bPAIR:p\x7d %\x7bNUM:n:long\x7d").value =
        .ok "(?<p>(?<n>[0-9]+),[0-9]+) (?<n>[0-9]+)" ∧
      ∃ m, (nested.compile "%\x7bPAIR:p\x7d %\x7bNUM:n:long\x7d").value = .ok m ∧
        ∃ g ∈ m.groups, g.name = "n" ∧ g.type = .int ∧ ∃ (t : Tree) (pos : Nat) (o : Occurrence),
          t.OpensAt true pos o ∧ t.number true pos ∈ g.indexes ∧
            g.type = (Reference.ofOccurrence o).type := by
  have hexpand : (nested.expand "%\x7bPAIR:p\x7d %\x7bNUM:n:long\x7d").value =
      .ok "(?<p>(?<n>[0-9]+),[0-9]+) (?<n>[0-9]+)" := by decide +kernel
  have hreferences : (nested.library.expand true "%\x7bPAIR:p\x7d %\x7bNUM:n:long\x7d").references =
      [⟨"PAIR", some "p", .string⟩, ⟨"NUM", some "n", .int⟩, ⟨"NUM", none, .string⟩,
        ⟨"NUM", some "n", .long⟩] := by decide +kernel
  have hm : (nested.compile "%\x7bPAIR:p\x7d %\x7bNUM:n:long\x7d").value = .ok _ :=
    compile_eq_ok_iff.2 ⟨_, _, hexpand, rfl, rfl⟩
  obtain ⟨t, ⟨-, -, hpreorder⟩, -, -, htype⟩ := type_of_lowest_group nested rfl _ _ hm
  -- The names of the groups, in the order in which they open.
  have hnames : t.preorder.filterMap (captureName? true) = ["p", "n", "n"] := by
    have hmap := congrArg (List.filterMap (·.field)) (hreferences.symm.trans hpreorder)
    rw [List.filterMap_map] at hmap
    simpa [Function.comp_def, Reference.ofOccurrence, captureName?_true] using hmap.symm
  have hreported : t.Reported true [("n", [3, 2]), ("p", [1])] :=
    .of_perm (by decide) (by decide) (by rw [hnames]; decide)
  obtain ⟨pos, o, hopens, -, hmem, -, heq⟩ := htype _ rfl hreported
    (.ofReport (nested.library.expand true _).references ("n", [3, 2]))
    (List.mem_mergeSort.2 (List.mem_map_of_mem List.mem_cons_self))
  refine ⟨hexpand, _, hm, _, List.mem_mergeSort.2 (List.mem_map_of_mem List.mem_cons_self), rfl,
    ?_, t, pos, o, hopens, hmem, heq⟩
  change CaptureGroup.typeOf (nested.library.expand true _).references "n" = .int
  rw [hreferences]
  rfl

end Grok
