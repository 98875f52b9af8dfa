import Grok.Proofs.Expansion.Recorded
import Grok.Proofs.Matching.Captures

namespace Grok

/-!
# Looking references up by name

A name is looked up among the references of an expression in two ways: for the type of a captured
field, and for the reference itself.

* `Reference.FirstCapturing`, `Reference.LastOf` — the reference to a definition that comes first
  among those with a field, and the one that comes last.
* `Matcher.referenceNamed?_eq_some_iff` — a name stands for the first reference to it that captures
  a field, and for the last one if none does.
* `Compiler.type_of_named_reference` — a group that is named for no field has the type of the
  reference that its name stands for. The look-ups prefer different references where none captures a
  field, but those that an expansion records are then all of type `string`.
-/

namespace Reference

/-- The first reference to `n` that captures a field. -/
def FirstCapturing (rs : List Reference) (n : String) (r : Reference) : Prop :=
  ∃ before after, rs = before ++ r :: after ∧ r.name = n ∧ r.field ≠ none ∧
    ∀ p ∈ before, p.name = n → p.field = none

/-- The last reference to `n`. -/
def LastOf (rs : List Reference) (n : String) (r : Reference) : Prop :=
  ∃ before after, rs = before ++ r :: after ∧ r.name = n ∧ ∀ p ∈ after, p.name ≠ n

/-- No reference to `n` captures a field. -/
def NoneCapturing (rs : List Reference) (n : String) : Prop :=
  ∀ p ∈ rs, p.name = n → p.field = none

/-- A candidate is kept once it captures a field, and else gives way to the next one. -/
def keep (found : Option Reference) (r : Reference) : Option Reference :=
  match found with
  | some f => if f.field.isSome then some f else some r
  | none => some r

/-- A reference without a field gives way to any other one. -/
theorem keep_of_field_eq_none {found : Option Reference} (h : ∀ f ∈ found, f.field = none)
    (r : Reference) : keep found r = some r := by
  cases found with
  | none => rfl
  | some f => simp [keep, h f rfl]

/-- One with a field is kept. -/
theorem foldl_keep_of_isSome {f : Reference} (h : f.field.isSome = true) (rs : List Reference) :
    rs.foldl keep (some f) = some f := by
  induction rs with
  | nil => rfl
  | cons r rs ih => rw [List.foldl_cons, keep, if_pos h, ih]

/-- **Keeping candidates** ends with the first that captures a field, else with the last. -/
theorem foldl_keep (rs : List Reference) {found : Option Reference}
    (h : ∀ f ∈ found, f.field = none) :
    rs.foldl keep found = (rs.find? (·.field.isSome)).or (rs.getLast?.or found) := by
  induction rs generalizing found with
  | nil => rfl
  | cons r rs ih =>
    rw [List.foldl_cons, keep_of_field_eq_none h, List.getLast?_cons]
    -- With a field, `r` is kept to the end; without one, it is the candidate for the rest.
    by_cases hfield : r.field.isSome = true
    · rw [foldl_keep_of_isSome hfield, List.find?_cons, hfield]
      rfl
    · rw [List.find?_cons, Bool.eq_false_iff.2 hfield, ih (by simpa using hfield)]
      cases rs.getLast? <;> rfl

/-! ### The two searches -/

variable {rs : List Reference} {n : String} {r : Reference}

/-- The search finds the first reference of the name that has a field. -/
theorem find?_eq_some_iff_firstCapturing :
    rs.find? (fun r => r.name = n ∧ r.field.isSome) = some r ↔ FirstCapturing rs n r := by
  simp only [List.find?_eq_some_iff_append, FirstCapturing, decide_eq_true_eq,
    Option.isSome_iff_ne_none, Bool.not_eq_true', decide_eq_false_iff_not, not_and, ne_eq, not_not]
  constructor
  · rintro ⟨⟨hname, hfield⟩, before, after, hrs, hbefore⟩
    exact ⟨before, after, hrs, hname, hfield, hbefore⟩
  · rintro ⟨before, after, hrs, hname, hfield, hbefore⟩
    exact ⟨⟨hname, hfield⟩, before, after, hrs, hbefore⟩

/-- It finds nothing if no reference of the name has one. -/
theorem find?_eq_none_iff_noneCapturing :
    rs.find? (fun r => r.name = n ∧ r.field.isSome) = none ↔ NoneCapturing rs n := by
  simp [List.find?_eq_none, NoneCapturing]

/-- From the end, the first is the last. -/
theorem find?_reverse_eq_some_iff :
    rs.reverse.find? (fun r => r.name = n) = some r ↔ LastOf rs n r := by
  simp only [List.find?_eq_some_iff_append, decide_eq_true_eq, Bool.not_eq_true',
    decide_eq_false_iff_not]
  constructor
  · rintro ⟨hname, after, before, hrs, hafter⟩
    refine ⟨before.reverse, after.reverse, ?_, hname, fun p hp => hafter p (List.mem_reverse.1 hp)⟩
    rw [← List.reverse_reverse rs, hrs, List.reverse_append, List.reverse_cons, List.append_assoc,
      List.singleton_append]
  · rintro ⟨before, after, rfl, hname, hafter⟩
    refine ⟨hname, after.reverse, before.reverse, ?_, fun p hp => hafter p (List.mem_reverse.1 hp)⟩
    rw [List.reverse_append, List.reverse_cons, List.append_assoc, List.singleton_append]

end Reference

open Reference (FirstCapturing LastOf NoneCapturing)

namespace Matcher

variable {m : Matcher} {n : String} {r : Reference}

/-- The first reference with a field goes in front of the last one of all. -/
theorem referenceNamed?_eq (m : Matcher) (n : String) :
    m.referenceNamed? n = (m.references.find? fun r => r.name = n ∧ r.field.isSome).or
      (m.references.reverse.find? fun r => r.name = n) := by
  have hfold : m.referenceNamed? n =
      (m.references.filter fun r => r.name = n).foldl Reference.keep none := rfl
  rw [hfold, Reference.foldl_keep _ (by simp), List.find?_filter, List.getLast?_filter,
    Option.or_none]
  simp

/-- **A name stands for the first reference to it that captures a field**, and, if none does, for
    the last one. -/
theorem referenceNamed?_eq_some_iff : m.referenceNamed? n = some r ↔
    FirstCapturing m.references n r ∨ NoneCapturing m.references n ∧ LastOf m.references n r := by
  rw [referenceNamed?_eq, Option.or_eq_some_iff, Reference.find?_eq_some_iff_firstCapturing,
    Reference.find?_eq_none_iff_noneCapturing, Reference.find?_reverse_eq_some_iff]

/-- A name that no reference has stands for nothing. -/
theorem referenceNamed?_eq_none_iff :
    m.referenceNamed? n = none ↔ ∀ r ∈ m.references, r.name ≠ n := by
  rw [referenceNamed?_eq, Option.or_eq_none_iff, Reference.find?_eq_none_iff_noneCapturing]
  simp only [List.find?_eq_none, List.mem_reverse, decide_eq_true_eq]
  constructor
  · exact And.right
  · intro h
    exact ⟨fun r hr hname => absurd hname (h r hr), h⟩

/-- A descriptor has the type that its name is looked up with. -/
theorem type_of_mem_groups {references : List Reference} {expression : String}
    {program : Engine.Program} {g : CaptureGroup}
    (h : g ∈ (ofProgram references expression program).groups) :
    g.type = CaptureGroup.typeOf references g.name := by
  obtain ⟨report, -, rfl⟩ := mem_groups_ofProgram_iff.1 h
  rfl

/-- **The look-ups agree** on a name that is no field, if references without a field are of type
    `string`. -/
theorem typeOf_eq_of_not_field (hstring : ∀ r ∈ m.references, r.field = none → r.type = .string)
    (hfield : ∀ r ∈ m.references, r.field ≠ some n) :
    CaptureGroup.typeOf m.references n = ((m.referenceNamed? n).map (·.type)).getD .string := by
  have hnone : m.references.find? (fun r => r.field = some n) = none := by
    simpa [List.find?_eq_none] using hfield
  rw [CaptureGroup.typeOf, hnone, referenceNamed?_eq]
  cases hfirst : m.references.find? (fun r => r.name = n ∧ r.field.isSome) with
  | some r => rfl
  | none =>
    cases hlast : m.references.reverse.find? (fun r => r.name = n) with
    | none => rfl
    | some r =>
      -- No reference to the name captures a field, so the last one is of type `string`.
      obtain ⟨before, after, hrs, hname, -⟩ := Reference.find?_reverse_eq_some_iff.1 hlast
      have hmem : r ∈ m.references := by simp [hrs]
      have hplain := Reference.find?_eq_none_iff_noneCapturing.1 hfirst r hmem hname
      exact (hstring r hmem hplain).symm

end Matcher

namespace Compiler

/-- **The look-ups by name agree.** References that an expansion records without a field are of
    type `string`. So a group that is named for no field, whatever the engine reports, has the type
    of the reference that its name stands for, and the type `string` if it stands for none. Among
    any references, a name stands for the first one to it that captures a field, and for the last
    one if none does. -/
theorem type_of_named_reference (c : Compiler) (expression : String) (m : Matcher)
    (h : (c.compile expression).value = .ok m) :
    (∀ r ∈ m.references, r.field = none → r.type = .string) ∧
    (∀ g ∈ m.groups, (∀ r ∈ m.references, r.field ≠ some g.name) →
      g.type = ((m.referenceNamed? g.name).map (·.type)).getD .string) ∧
    ∀ (k : Matcher) (n : String),
      (∀ r, k.referenceNamed? n = some r ↔
        FirstCapturing k.references n r ∨ NoneCapturing k.references n ∧ LastOf k.references n r) ∧
      (k.referenceNamed? n = none ↔ ∀ r ∈ k.references, r.name ≠ n) := by
  obtain ⟨expanded, program, -, -, rfl⟩ := compile_eq_ok_iff.1 h
  have hstring : ∀ r ∈ (c.library.expand c.fieldsOnly expression).references,
      r.field = none → r.type = .string :=
    fun r hr => (Library.wellFormed_of_mem_references hr).type_of_field
  refine ⟨hstring, fun g hg hfield => ?_, fun k n =>
    ⟨fun r => Matcher.referenceNamed?_eq_some_iff, Matcher.referenceNamed?_eq_none_iff⟩⟩
  exact (Matcher.type_of_mem_groups hg).trans (Matcher.typeOf_eq_of_not_field hstring hfield)

/-- A definition that is used without a field, with one, and with another one; and one that is only
    used without. The engine reports all groups. -/
def numbered : Compiler where
  library := Library.empty.insertAll [⟨"NUM", "[0-9]+"⟩, ⟨"GAP", " *"⟩]
  fieldsOnly := false
  options := {}
  engine := ⟨fun _ _ =>
    .ok ⟨[("m", [5]), ("GAP", [2, 4]), ("n", [3]), ("NUM", [1])], fun _ => .ok none⟩⟩

/-- The group `NUM` has the type of the first reference that captures a field; `GAP` stands for its
    last reference, which is of type `string`. -/
theorem type_of_named_reference_numbered :
    ∃ m, (numbered.compile
        "%\x7bNUM\x7d%\x7bGAP\x7d%\x7bNUM:n:LONG\x7d%\x7bGAP\x7d%\x7bNUM:m:int\x7d").value = .ok m ∧
      (∃ g ∈ m.groups, g.name = "NUM" ∧ g.type = .long) ∧
      FirstCapturing m.references "NUM" ⟨"NUM", some "n", .long⟩ ∧
      (∃ g ∈ m.groups, g.name = "GAP" ∧ g.type = .string) ∧
      LastOf m.references "GAP" ⟨"GAP", none, .string⟩ := by
  obtain ⟨m, hm, hreferences, hgroups⟩ : ∃ m, (numbered.compile
        "%\x7bNUM\x7d%\x7bGAP\x7d%\x7bNUM:n:LONG\x7d%\x7bGAP\x7d%\x7bNUM:m:int\x7d").value = .ok m ∧
      m.references = [⟨"NUM", none, .string⟩, ⟨"GAP", none, .string⟩, ⟨"NUM", some "n", .long⟩,
        ⟨"GAP", none, .string⟩, ⟨"NUM", some "m", .int⟩] ∧
      ∀ report ∈ [("m", [5]), ("GAP", [2, 4]), ("n", [3]), ("NUM", [1])],
        CaptureGroup.ofReport m.references report ∈ m.groups :=
    ⟨_, compile_eq_ok_iff.2 ⟨"(?<NUM>[0-9]+)(?<GAP> *)(?<n>[0-9]+)(?<GAP> *)(?<m>[0-9]+)", _,
        by decide +kernel, rfl, rfl⟩, by decide +kernel,
      fun report hreport => Matcher.mem_groups_ofProgram_iff.2 ⟨report, hreport, rfl⟩⟩
  obtain ⟨-, htype, hlookup⟩ := type_of_named_reference numbered _ m hm
  -- The third reference is the first with a field; `GAP` has none that has one.
  have hnum : m.referenceNamed? "NUM" = some ⟨"NUM", some "n", .long⟩ := by
    rw [Matcher.referenceNamed?, hreferences]
    rfl
  have hgap : m.referenceNamed? "GAP" = some ⟨"GAP", none, .string⟩ := by
    rw [Matcher.referenceNamed?, hreferences]
    rfl
  refine ⟨m, hm, ⟨_, hgroups ("NUM", [1]) (by decide), rfl, ?_⟩, ?_,
    ⟨_, hgroups ("GAP", [2, 4]) (by decide), rfl, ?_⟩, ?_⟩
  · rw [htype _ (hgroups ("NUM", [1]) (by decide)) (by rw [hreferences]; decide)]
    exact congrArg (fun r => (r.map (·.type)).getD .string) hnum
  · rcases ((hlookup m "NUM").1 _).1 hnum with hfirst | ⟨hnone, -⟩
    · exact hfirst
    · exact absurd (hnone ⟨"NUM", some "n", .long⟩ (by simp [hreferences]) rfl) (by decide)
  · rw [htype _ (hgroups ("GAP", [2, 4]) (by decide)) (by rw [hreferences]; decide)]
    exact congrArg (fun r => (r.map (·.type)).getD .string) hgap
  · rcases ((hlookup m "GAP").1 _).1 hgap with ⟨_, _, _, _, hfield, _⟩ | ⟨-, hlast⟩
    · exact absurd rfl hfield
    · exact hlast

end Compiler

end Grok
