import Grok.Proofs.Expansion.Seams
import Grok.Proofs.Regex.Renaming

namespace Grok

/-!
# Names of fields

The grammar of references and the engine have rules of their own for names. A field may start with
any character of names, a group must start with a word character that is no digit. Behind that the
name of a field does not matter, unless the definition refers to it.

* `Occurrence.isReadable_captureName` — the engine reads every name that a reference can ask for.
* `Compiler.exists_fragment` — all references to a definition come to the same fragment.
* `Compiler.exists_matcher_of_startsWord` — two groups around one fragment.
* `Compiler.compile_field` — which names a reference that compiles can give to its field.
-/

open Regex (Name RefersTo startingGroup)

open Expansion (captureName? group wrap)

/-! ### One reference -/

namespace Occurrence

/-- None of the characters of names and fields ends a name or opens a look-behind. -/
theorem isReadable_of_forall {s : List Char} (hne : s ≠ [])
    (h : ∀ c ∈ s, isFieldChar c = true ∨ isNameChar c = true) : Name.isReadable s = true := by
  have hbad : ∀ d, isFieldChar d = false → isNameChar d = false → ∀ c ∈ s, c ≠ d := by
    rintro d hfield hname c hc rfl
    rcases h c hc with hchar | hchar
    · exact Bool.false_ne_true (hfield.symm.trans hchar)
    · exact Bool.false_ne_true (hname.symm.trans hchar)
  have hclose := hbad '>' (by decide) (by decide)
  have hparenthesis := hbad ')' (by decide) (by decide)
  have hequals := hbad '=' (by decide) (by decide)
  have hnot := hbad '!' (by decide) (by decide)
  obtain ⟨c, part, rfl⟩ := List.exists_cons_of_ne_nil hne
  simp only [Name.isReadable, List.all_eq_true, List.head?_cons, Option.any_some,
    Bool.and_eq_true, decide_eq_true_eq]
  grind

/-- The engine reads every name that a reference can ask for. -/
theorem isReadable_captureName {fieldsOnly : Bool} {o : Occurrence} (h : o.WellFormed)
    {t : String} (ht : captureName? fieldsOnly o = some t) : Name.isReadable t.toList = true := by
  unfold captureName? at ht
  cases hfield : o.field with
  | some field =>
    obtain rfl : field = t := by simpa [hfield] using ht
    obtain ⟨hne, hchars⟩ := h.field field hfield
    exact isReadable_of_forall hne fun c hc => Or.inl (hchars c hc)
  | none =>
    obtain ⟨-, rfl⟩ : fieldsOnly = false ∧ o.name = t := by simpa [hfield] using ht
    exact isReadable_of_forall h.name_ne_nil fun c hc => Or.inr (h.name_chars c hc)

end Occurrence

/-- A reference on its own comes to the fragment of its definition, in a group if it is captured. -/
theorem Library.outcome_expand_text (l : Library) (fieldsOnly : Bool) {o : Occurrence}
    (h : o.WellFormed) :
    (l.expand fieldsOnly (String.ofList o.text)).outcome =
      (l.expandReference fieldsOnly l.size [] o).outcome.map (wrap fieldsOnly o) := by
  have hscan := Piece.scan_text_append h []
  rw [List.append_nil] at hscan
  rw [expand_eq, expandInside_eq, String.toList_ofList, hscan]
  simp only [Piece.scan_nil, Expansion.ofPieces]
  cases (l.expandReference fieldsOnly l.size [] o).outcome with
  | error e => rfl
  | ok fragment => simp [Except.map]

/-- The fragment of a reference depends on the definition only. -/
theorem Library.outcome_expandReference_of_name_eq (l : Library) (fieldsOnly : Bool) (depth : Nat)
    (stack : List String) {o p : Occurrence} (h : o.name = p.name) :
    (l.expandReference fieldsOnly depth stack o).outcome =
      (l.expandReference fieldsOnly depth stack p).outcome := by
  unfold Library.expandReference
  rw [h]
  split
  · rfl
  · split
    · rfl
    · cases depth <;> rfl

/-- A captured fragment is an expression that starts with a named group. -/
theorem Expansion.toList_group (name : String) (fragment : List Char) :
    group name fragment = startingGroup name.toList (fragment ++ [')']) := by
  simp [group, startingGroup]

namespace Compiler

/-- What a compiler makes of an expression that can be expanded is up to the engine. -/
theorem value_compile_of_expand {c : Compiler} {expression expanded : String}
    (h : (c.expand expression).value = .ok expanded) :
    (c.compile expression).value = (c.engine.compile c.options expanded).map
      (Matcher.ofProgram (c.library.expand c.fieldsOnly expression).references expanded) := by
  rw [value_expand] at h
  unfold compile
  simp only [Attempt.andThen, Attempt.value_report, Attempt.value_ofExcept, h, Except.bind]
  cases c.engine.compile c.options expanded <;> rfl

/-- All references to a definition come to the same fragment, each in a group of its own. -/
theorem exists_fragment {c : Compiler} {o : Occurrence} (ho : o.WellFormed) {expanded : String}
    (h : (c.expand (String.ofList o.text)).value = .ok expanded) :
    ∃ fragment, expanded = String.ofList (wrap c.fieldsOnly o fragment) ∧
      ∀ p : Occurrence, p.WellFormed → p.name = o.name →
        (c.expand (String.ofList p.text)).value =
          .ok (String.ofList (wrap c.fieldsOnly p fragment)) := by
  rw [value_expand, Library.outcome_expand_text _ _ ho] at h
  cases hfragment : (c.library.expandReference c.fieldsOnly c.library.size [] o).outcome with
  | error e => simp [hfragment, Except.map] at h
  | ok fragment =>
    rw [hfragment] at h
    refine ⟨fragment, (Except.ok.inj h).symm, ?_⟩
    intro p hp hname
    rw [value_expand, Library.outcome_expand_text _ _ hp,
      Library.outcome_expandReference_of_name_eq _ _ _ _ hname, hfragment]
    rfl

/-- The groups of a matcher have the names that the engine reports. -/
theorem exists_group_of_mem {references : List Reference} {expanded : String}
    {program : Engine.Program} {n : String} (h : n ∈ program.namedGroups.map Prod.fst) :
    ∃ g ∈ (Matcher.ofProgram references expanded program).groups, g.name = n := by
  obtain ⟨report, hreport, rfl⟩ := List.mem_map.1 h
  exact ⟨CaptureGroup.ofReport references report,
    List.mem_mergeSort.2 (List.mem_map_of_mem hreport), rfl⟩

/-- What the engine makes of a text that is a named group as a whole. -/
theorem value_compile_group {c : Compiler} (hengine : c.engine = Regex.backtracking)
    {expression n : String} {fragment : List Char}
    (h : (c.expand expression).value = .ok (String.ofList (group n fragment))) :
    (c.compile expression).value =
      match Regex.compile (startingGroup n.toList (fragment ++ [')'])) with
      | .error fault =>
        .error (.invalidExpression (String.ofList (group n fragment)) fault.reason)
      | .ok compiled =>
        .ok (Matcher.ofProgram (c.library.expand c.fieldsOnly expression).references
          (String.ofList (group n fragment))
          ⟨compiled.namedGroups,
            compiled.search (c.options.retryLimit.getD Regex.defaultRetryLimit)⟩) := by
  rw [value_compile_of_expand h, hengine, ← Expansion.toList_group]
  simp only [Regex.backtracking, String.toList_ofList]
  cases Regex.compile (group n fragment) <;> rfl

/-- Two groups around one fragment that refers to neither of their names: if one compiles, so does
    the other one, as long as its name starts like one. -/
theorem exists_matcher_of_startsWord {c : Compiler} (hengine : c.engine = Regex.backtracking)
    {e e' s t : String} {fragment : List Char}
    (he : (c.expand e).value = .ok (String.ofList (group t fragment)))
    (he' : (c.expand e').value = .ok (String.ofList (group s fragment)))
    (ht : Name.isReadable t.toList = true) (hs : Name.isReadable s.toList = true)
    (hstart : Name.startsWord s.toList = true) (hnos : ¬ RefersTo (group t fragment) s.toList)
    (hnot : ¬ RefersTo (group t fragment) t.toList) {m : Matcher}
    (hm : (c.compile e).value = .ok m) :
    ∃ m', (c.compile e').value = .ok m' ∧ m'.search = m.search ∧ ∃ g ∈ m'.groups, g.name = s := by
  rw [value_compile_group hengine he] at hm
  rw [value_compile_group hengine he']
  cases hcompiled : Regex.compile (startingGroup t.toList (fragment ++ [')'])) with
  | error fault => simp [hcompiled] at hm
  | ok compiled =>
    -- What stands behind the name is common to both groups.
    have hsuffix : fragment ++ [')'] <:+ group t fragment :=
      ⟨'(' :: '?' :: '<' :: (t.toList ++ ['>']), by simp [group]⟩
    obtain ⟨compiled', hcompiled', heq, hmem⟩ :=
      Regex.exists_compile_of_startsWord ht hs (by simp) (fun h => hnot (h.of_suffix hsuffix))
        (fun h => hnos (h.of_suffix hsuffix)) hstart hcompiled
    rw [hcompiled] at hm
    rw [hcompiled']
    obtain rfl := Except.ok.inj hm
    refine ⟨_, rfl, ?_, exists_group_of_mem ?_⟩
    · change compiled'.search _ = compiled.search _
      rw [heq, Regex.Compiled.search_names]
    · obtain ⟨entry, hentry, hname⟩ := List.mem_map.1 hmem
      refine List.mem_map.2 ⟨_, List.mem_map_of_mem hentry, ?_⟩
      change String.ofList entry.1 = s
      rw [hname, String.ofList_toList]

/-- **Which fields a reference can have.**

Let a reference compile. Over the same definition, a field that does not start like a name is
refused, whatever the definition holds. Any other field is as good as the one that is captured now,
unless the definition refers to one of them: the reference compiles, its matcher has a group of that
very name, and it matches the same texts.

Where only fields are captured, the second half takes a reference that has a field already. One
without stands bare there, and nothing is said of the group that a field would put around it:
`(a)\1` compiles, and in a group with a name it does not, as numbers may not refer to groups beside
names. -/
theorem compile_field (c : Compiler) (hengine : c.engine = Regex.backtracking) {o : Occurrence}
    (ho : o.WellFormed) {m : Matcher} (hm : (c.compile (String.ofList o.text)).value = .ok m)
    {s : String} (hs : Occurrence.IsFieldText s) :
    (Name.startsWord s.toList = false →
      ∃ expanded, (c.expand (String.ofList (Occurrence.text ⟨o.name, some s, none⟩))).value =
          .ok expanded ∧
        (c.compile (String.ofList (Occurrence.text ⟨o.name, some s, none⟩))).value =
          .error (.invalidExpression expanded (Name.refusal s.toList).reason)) ∧
    (Name.startsWord s.toList = true → ∀ t, captureName? c.fieldsOnly o = some t →
      ¬ RefersTo m.expression.toList s.toList → ¬ RefersTo m.expression.toList t.toList →
      ∃ m', (c.compile (String.ofList (Occurrence.text ⟨o.name, some s, none⟩))).value = .ok m' ∧
        m'.search = m.search ∧ ∃ g ∈ m'.groups, g.name = s) := by
  have ho' : (⟨o.name, some s, none⟩ : Occurrence).WellFormed :=
    ⟨ho.name_ne_nil, ho.name_chars, by simpa using hs, by simp, by simp⟩
  have hreadable : Name.isReadable s.toList = true :=
    Occurrence.isReadable_of_forall hs.1 fun c hc => Or.inl (hs.2 c hc)
  obtain ⟨expanded, program, hexpand, -, heq⟩ := compile_eq_ok_iff.1 hm
  obtain ⟨fragment, rfl, hall⟩ := exists_fragment ho hexpand
  have hfield : (c.expand (String.ofList (Occurrence.text ⟨o.name, some s, none⟩))).value =
      .ok (String.ofList (group s fragment)) := hall _ ho' rfl
  constructor
  · intro hstart
    refine ⟨_, hfield, ?_⟩
    -- The parser stops at the name, whatever the fragment is.
    rw [value_compile_group hengine hfield, Regex.compile_refused hreadable (by simp) hstart]
  · intro hstart t ht hnos hnot
    -- With its own field, the fragment stands in such a group as well, under another name.
    have hwrap : wrap c.fieldsOnly o fragment = group t fragment := by rw [Expansion.wrap_eq, ht]
    have hexpression : m.expression.toList = group t fragment := by
      rw [heq, Matcher.ofProgram, String.toList_ofList, hwrap]
    rw [hexpression] at hnos hnot
    rw [hwrap] at hexpand
    exact exists_matcher_of_startsWord hengine hexpand hfield
      (Occurrence.isReadable_captureName ho ht) hreadable hstart hnos hnot hm

/-- A definition that is a letter, compiled by the engine. -/
def letter (fieldsOnly : Bool) : Compiler where
  library := Library.empty.insertAll [⟨"X", "x"⟩]
  fieldsOnly := fieldsOnly
  options := {}
  engine := Regex.backtracking

theorem isOk_iff {α : Type} {x : Except Error α} : x.isOk = true ↔ ∃ a, x = .ok a := by
  cases x with
  | error e => simp [Except.isOk, Except.toBool]
  | ok a => simp [Except.isOk, Except.toBool]

theorem isFieldText_of_all {s : String} (hne : s.toList ≠ [])
    (h : s.toList.all Occurrence.isFieldChar = true) : Occurrence.IsFieldText s :=
  ⟨hne, List.all_eq_true.1 h⟩

/-- A hyphen and a digit may stand behind the first character of a field, and not in its place. -/
theorem compile_field_letter :
    ((letter true).compile "%{X:9a}").value =
        .error (.invalidExpression "(?<9a>x)" "Oniguruma error: invalid group name <9a>") ∧
      ∃ m, ((letter true).compile "%{X:a-9}").value = .ok m ∧
        ∃ g ∈ m.groups, g.name = "a-9" := by
  obtain ⟨m, hm⟩ := isOk_iff.1 (show ((letter true).compile (String.ofList
    (Occurrence.text ⟨"X", some "x", none⟩))).value.isOk = true by decide +kernel)
  have hexpression : m.expression = "(?<x>x)" := by
    obtain ⟨expanded, program, hexpand, -, rfl⟩ := compile_eq_ok_iff.1 hm
    exact Except.ok.inj (hexpand.symm.trans (by decide +kernel))
  have ho : (⟨"X", some "x", none⟩ : Occurrence).WellFormed :=
    ⟨by decide, List.all_eq_true.1 (by decide),
      by simpa using isFieldText_of_all (by decide) (by decide), by simp, by simp⟩
  -- The expression has no calls and no back-references.
  have hfree : ∀ w ∈ ["a-9", "x"], ¬ RefersTo m.expression.toList w.toList := by
    rw [hexpression]
    decide +kernel
  obtain ⟨expanded, hexpand, hrefused⟩ := (compile_field (letter true) rfl ho hm (s := "9a")
    (isFieldText_of_all (by decide) (by decide))).1 (by decide +kernel)
  obtain ⟨m', hm', -, hgroup⟩ := (compile_field (letter true) rfl ho hm (s := "a-9")
    (isFieldText_of_all (by decide) (by decide))).2 (by decide +kernel) "x" rfl (hfree _ (by simp))
    (hfree _ (by simp))
  obtain rfl : "(?<9a>x)" = expanded := Except.ok.inj ((by decide +kernel :
    _ = Except.ok "(?<9a>x)").symm.trans hexpand)
  exact ⟨hrefused, m', hm', hgroup⟩

/-- **A field can make a reference fail**: the definition compiles under both settings, but not with
    a field that starts with a digit or a hyphen. -/
theorem compile_field_fails :
    (∀ fieldsOnly, ∃ m, ((letter fieldsOnly).compile "%{X}").value = .ok m) ∧
      Occurrence.IsFieldText "9a" ∧ Occurrence.IsFieldText "-a" ∧
      ∀ fieldsOnly m, ((letter fieldsOnly).compile "%{X:9a}").value ≠ .ok m ∧
        ((letter fieldsOnly).compile "%{X:-a}").value ≠ .ok m := by
  have hok : ∀ fieldsOnly, ((letter fieldsOnly).compile "%{X}").value.isOk = true ∧
      ((letter fieldsOnly).compile "%{X:9a}").value.isOk = false ∧
      ((letter fieldsOnly).compile "%{X:-a}").value.isOk = false := by decide +kernel
  refine ⟨fun fieldsOnly => isOk_iff.1 (hok fieldsOnly).1,
    isFieldText_of_all (by decide) (by decide), isFieldText_of_all (by decide) (by decide), ?_⟩
  intro fieldsOnly m
  constructor
  · intro hm
    exact Bool.false_ne_true ((hok fieldsOnly).2.1.symm.trans (isOk_iff.2 ⟨m, hm⟩))
  · intro hm
    exact Bool.false_ne_true ((hok fieldsOnly).2.2.symm.trans (isOk_iff.2 ⟨m, hm⟩))

end Compiler

end Grok
