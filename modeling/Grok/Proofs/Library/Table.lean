import Grok.Library.Basic
import Mathlib.Data.Set.Card

namespace Grok

/-!
# The table of a library

A library as a function from names to bodies, and how it comes about by insertions.

* `Library.mem_definitions_iff`, `Library.size_eq_ncard` — the list of definitions, the look-up and
  the size describe one table.
* `Definition.lastBody?` — the body of the last definition of a name in a list.
* `Library.get?_insertAll` — after insertions a name has the body of the last one of it, and what it
  had before if there is none.
* `Library.insertAll_of_perm` — a library is told by its definitions, in whatever order they are
  inserted.
-/

namespace Library

variable {l : Library} {n : String}

/-- A name has a definition just where it is one of the names of the table. -/
theorem isSome_get?_iff : (l.get? n).isSome ↔ n ∈ l.definitions.map (·.name) := by
  simp [get?]

/-- No name is there twice. -/
theorem nodup_names (l : Library) : (l.definitions.map (·.name)).Nodup := by
  rw [List.Nodup, List.pairwise_map]
  exact l.ordered.imp String.ne_of_lt

/-- The definitions of a library are the names with the bodies that are looked up. -/
theorem mem_definitions_iff {d : Definition} :
    d ∈ l.definitions ↔ l.get? d.name = some d.body := by
  rw [get?, Option.map_eq_some_iff]
  constructor
  · intro hmem
    obtain ⟨e, he⟩ : ∃ e, l.definitions.find? (fun e => e.name = d.name) = some e := by
      rw [← Option.isSome_iff_exists, List.find?_isSome]
      exact ⟨d, hmem, by simp⟩
    have hname : e.name = d.name := by simpa using List.find?_some he
    obtain rfl : e = d :=
      List.inj_on_of_nodup_map l.nodup_names (List.mem_of_find?_eq_some he) hmem hname
    exact ⟨e, he, rfl⟩
  · rintro ⟨e, he, hbody⟩
    have hname : e.name = d.name := by simpa using List.find?_some he
    obtain rfl : e = d := by
      rw [show d = ⟨d.name, d.body⟩ from rfl, ← hname, ← hbody]
    exact List.mem_of_find?_eq_some he

/-- A name is resolved to the body that the library holds for it. -/
theorem resolve_eq_ok_iff {body : String} : l.resolve n = .ok body ↔ l.get? n = some body := by
  unfold resolve
  cases l.get? n <;> simp

/-- A library contains the names that can be resolved. -/
theorem contains_iff : l.contains n = true ↔ ∃ body, l.resolve n = .ok body := by
  simp only [contains, resolve_eq_ok_iff, Option.isSome_iff_exists]

/-- A library is told by what it says about names. -/
theorem eq_of_get?_eq {l l' : Library} (h : ∀ n, l.get? n = l'.get? n) : l = l' := by
  have hmem : ∀ d, d ∈ l.definitions ↔ d ∈ l'.definitions := by
    intro d
    rw [mem_definitions_iff, mem_definitions_iff, h]
  have hperm : l.definitions.Perm l'.definitions :=
    (List.perm_ext_iff_of_nodup l.nodup_names.of_map l'.nodup_names.of_map).2 hmem
  have hdefinitions : l.definitions = l'.definitions :=
    List.Perm.eq_of_pairwise (fun _ _ _ _ hlt hgt => absurd hlt (String.lt_asymm hgt)) l.ordered
      l'.ordered hperm
  cases l
  cases l'
  cases hdefinitions
  rfl

/-- The size of a library is the number of names that have a definition. -/
theorem size_eq_ncard (l : Library) : l.size = Set.ncard {n | l.contains n = true} := by
  have hnames : {n | l.contains n = true} = (l.definitions.map (·.name)).toFinset := by
    ext n
    simp only [Set.mem_ofPred_eq, contains, isSome_get?_iff, List.coe_toFinset]
  rw [hnames, Set.ncard_coe_finset, List.toFinset_card_of_nodup l.nodup_names, List.length_map,
    size]

end Library

namespace Definition

/-- The body of the last definition of a name. -/
def lastBody? (ds : List Definition) (n : String) : Option String :=
  (ds.filter (·.name = n)).getLast?.map (·.body)

variable {ds es : List Definition} {n : String}

/-- Later definitions come first. -/
theorem lastBody?_append : lastBody? (ds ++ es) n = (lastBody? es n).or (lastBody? ds n) := by
  rw [lastBody?, List.filter_append, List.getLast?_append, Option.map_or]
  rfl

theorem lastBody?_singleton (d : Definition) :
    lastBody? [d] n = if d.name = n then some d.body else none := by
  unfold lastBody?
  by_cases h : d.name = n <;> simp [h]

/-- There is no definition of the name at all. -/
theorem lastBody?_eq_none_iff : lastBody? ds n = none ↔ ∀ d ∈ ds, d.name ≠ n := by
  simp [lastBody?]

/-- The last body of a name comes from one of the definitions. -/
theorem mem_of_lastBody?_eq_some {body : String} (h : lastBody? ds n = some body) :
    ⟨n, body⟩ ∈ ds := by
  obtain ⟨d, hd, rfl⟩ := Option.map_eq_some_iff.1 h
  have hmem := List.mem_filter.1 (List.mem_of_getLast? hd)
  obtain rfl : d.name = n := by simpa using hmem.2
  exact hmem.1

/-- Where no name is defined twice, the definition of a name is the last one. -/
theorem lastBody?_eq_some_iff (hnodup : (ds.map (·.name)).Nodup) {body : String} :
    lastBody? ds n = some body ↔ ⟨n, body⟩ ∈ ds := by
  refine ⟨mem_of_lastBody?_eq_some, fun hmem => ?_⟩
  cases hlast : lastBody? ds n with
  | none => exact absurd rfl (lastBody?_eq_none_iff.1 hlast ⟨n, body⟩ hmem)
  | some body' =>
    have hsame := List.inj_on_of_nodup_map hnodup (mem_of_lastBody?_eq_some hlast) hmem rfl
    rw [(Definition.mk.inj hsame).2]

/-- Where lists of definitions follow each other, the last one that defines the name counts. -/
theorem lastBody?_flatMap_eq_some {α : Type} {f : α → List Definition} {xs : List α} {body : String}
    (h : lastBody? (xs.flatMap f) n = some body) :
    ∃ before x after, xs = before ++ x :: after ∧ lastBody? (f x) n = some body ∧
      ∀ y ∈ after, lastBody? (f y) n = none := by
  induction xs with
  | nil => cases h
  | cons x xs ih =>
    rw [List.flatMap_cons, lastBody?_append] at h
    -- `x` counts only if nothing behind it defines the name.
    cases hrest : lastBody? (xs.flatMap f) n with
    | some b =>
      obtain rfl : b = body := by simpa [hrest] using h
      obtain ⟨before, y, after, rfl, hbody, hafter⟩ := ih hrest
      exact ⟨x :: before, y, after, rfl, hbody, hafter⟩
    | none =>
      refine ⟨[], x, xs, rfl, by simpa [hrest] using h, ?_⟩
      intro y hy
      rw [lastBody?_eq_none_iff] at hrest ⊢
      exact fun d hd => hrest d (List.mem_flatMap.2 ⟨y, hy, hd⟩)

/-- A name is left out by several lists if each of them leaves it out. -/
theorem lastBody?_flatMap_eq_none_iff {α : Type} {f : α → List Definition} {xs : List α} :
    lastBody? (xs.flatMap f) n = none ↔ ∀ x ∈ xs, lastBody? (f x) n = none := by
  simp only [lastBody?_eq_none_iff, List.mem_flatMap]
  exact ⟨fun h x hx d hd => h d ⟨x, hx, hd⟩, fun h d ⟨x, hx, hd⟩ => h x hx d hd⟩

end Definition

namespace Library

/-- **The last definition of a name wins**, and names without a new one keep what they had. -/
theorem get?_insertAll (l : Library) (ds : List Definition) (n : String) :
    (l.insertAll ds).get? n = (Definition.lastBody? ds n).or (l.get? n) := by
  induction ds generalizing l with
  | nil => rfl
  | cons d ds ih =>
    rw [insertAll, List.foldl_cons]
    change ((l.insert d).insertAll ds).get? n = _
    rw [ih, get?_insert, ← List.singleton_append, Definition.lastBody?_append,
      Definition.lastBody?_singleton, Option.or_assoc]
    split <;> rfl

/-- **A library is told by its definitions**, in whatever order they are inserted. -/
theorem insertAll_of_perm {l : Library} {ds : List Definition} (h : ds.Perm l.definitions) :
    empty.insertAll ds = l := by
  have hnodup : (ds.map (·.name)).Nodup := (h.map (·.name)).nodup_iff.2 l.nodup_names
  refine eq_of_get?_eq fun n => Option.ext fun body => ?_
  rw [get?_insertAll, get?_empty, Option.or_none, Definition.lastBody?_eq_some_iff hnodup,
    h.mem_iff, mem_definitions_iff]

/-- Definitions can be put in by parts. -/
theorem insertAll_append (l : Library) (ds es : List Definition) :
    l.insertAll (ds ++ es) = (l.insertAll ds).insertAll es := by
  simp only [insertAll, List.foldl_append]

end Library

end Grok
