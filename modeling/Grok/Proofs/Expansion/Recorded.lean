import Grok.Proofs.Expansion.Stack
import Grok.Proofs.Reference.Printed

namespace Grok

/-!
# The references that an expansion records

An expansion records the occurrences that it opens, at any depth. All of them come from the scanner,
and that is all that is needed to read their references back from print.

* `Expansion.exists_of_mem_opened` — an occurrence that the pieces of a text open is opened for one
  of them.
* `Library.wellFormed_of_mem_opened` — what an expansion opens is well-formed, whether it fails or
  not; `Library.wellFormed_of_mem_references` says so of the references.
* `Compiler.references_read_back` — hence each reference that is recorded is read back from its
  print, and all of them from their prints in a row.
-/

namespace Expansion

/-- What the pieces of a text open is opened for one of them. -/
theorem exists_of_mem_opened {fieldsOnly : Bool} {expand : Occurrence → Expansion}
    {ps : List Piece} {o : Occurrence} (h : o ∈ (ofPieces fieldsOnly expand ps).opened) :
    ∃ p, .reference p ∈ ps ∧ o ∈ (expand p).opened := by
  induction ps with
  | nil => cases h
  | cons piece ps ih =>
    cases piece with
    | char c =>
      obtain ⟨p, hp, ho⟩ := ih h
      exact ⟨p, List.mem_cons_of_mem _ hp, ho⟩
    | reference p =>
      rw [ofPieces] at h
      cases hout : (expand p).outcome with
      | error e =>
        rw [hout] at h
        exact ⟨p, List.mem_cons_self, h⟩
      | ok fragment =>
        rw [hout] at h
        -- It was opened for the occurrence at the head, or behind it.
        rcases List.mem_append.1 h with h | h
        · exact ⟨p, List.mem_cons_self, h⟩
        · obtain ⟨q, hq, ho⟩ := ih h
          exact ⟨q, List.mem_cons_of_mem _ hq, ho⟩

end Expansion

namespace Library

/-- **What an expansion opens is well-formed**, at any depth, and whether it fails or not. -/
theorem wellFormed_of_mem_opened {l : Library} {fieldsOnly : Bool} {depth : Nat}
    {stack : List String} (hstacked : l.Stacked depth stack) {text : List Char} {o : Occurrence}
    (h : o ∈ (l.expandInside fieldsOnly depth stack text).opened) : o.WellFormed := by
  -- The room on the stack shrinks with every definition that is opened.
  induction depth using Nat.strong_induction_on generalizing stack text with
  | h depth ih =>
    rw [expandInside_eq] at h
    obtain ⟨p, hp, ho⟩ := Expansion.exists_of_mem_opened h
    obtain ⟨pos, hwell, -⟩ := Piece.reference_mem_scan_iff.1 hp
    rcases expandReference_cases hstacked fieldsOnly p with
      ⟨-, heq⟩ | ⟨-, -, heq⟩ | ⟨-, body, d, -, rfl, hdeeper, heq⟩
    · rw [heq] at ho
      obtain rfl := List.mem_singleton.1 ho
      exact hwell
    · rw [heq] at ho
      obtain rfl := List.mem_singleton.1 ho
      exact hwell
    · rw [heq] at ho
      rcases List.mem_cons.1 ho with rfl | ho
      · exact hwell
      · exact ih d (Nat.lt_succ_self d) hdeeper ho

/-- So every reference that is recorded is well-formed. -/
theorem wellFormed_of_mem_references {l : Library} {fieldsOnly : Bool} {expression : String}
    {r : Reference} (h : r ∈ (l.expand fieldsOnly expression).references) : r.WellFormed := by
  obtain ⟨o, ho, rfl⟩ := List.mem_map.1 h
  rw [expand_eq] at ho
  exact Reference.wellFormed_ofOccurrence (wellFormed_of_mem_opened l.stacked_size_nil ho)

end Library

namespace Compiler

/-- **References are read back from print.** Whatever an expansion records, at any depth: the
    scanner finds a single occurrence in the print of a reference, with nothing around it, and the
    reference of its parts is the one that was printed. So a type comes back by whatever name it was
    declared, and an unknown one as `string`. All references in print, with blanks in between, come
    back in their order. -/
theorem references_read_back (c : Compiler) (expression : String) :
    let references := (c.library.expand c.fieldsOnly expression).references
    (∀ r ∈ references, ∃ o : Occurrence, Piece.scan r.text.toList = [.reference o] ∧
      o.text = r.text.toList ∧ Reference.ofOccurrence o = r) ∧
    (Piece.occurrences (Piece.scan (String.intercalate " "
      (references.map Reference.text)).toList)).map Reference.ofOccurrence = references ∧
    ∀ m, (c.compile expression).value = .ok m → m.references = references := by
  intro references
  have hwell : ∀ r ∈ references, r.WellFormed := fun r hr => Library.wellFormed_of_mem_references hr
  refine ⟨fun r hr => ?_, ?_, fun m hm => ?_⟩
  · exact ⟨r.occurrence, Reference.scan_toList_text (hwell r hr), r.toList_text.symm,
      Reference.ofOccurrence_occurrence (hwell r hr)⟩
  · rw [Reference.occurrences_scan_intercalate hwell, List.map_map]
    exact (List.map_congr_left fun r hr => Reference.ofOccurrence_occurrence (hwell r hr)).trans
      (List.map_id references)
  · -- Compiling takes the references over from the expansion.
    obtain ⟨expanded, program, -, -, rfl⟩ := compile_eq_ok_iff.1 hm
    rfl

/-- A definition whose references have types in capital letters, and of a name that is no type. -/
def typed : Compiler where
  library := Library.empty.insertAll
    [⟨"PAIR", "%\x7bNUM:n:LONG\x7d,%\x7bNUM:m:Number\x7d"⟩, ⟨"NUM", "[0-9]+"⟩]
  fieldsOnly := true
  options := {}
  engine := ⟨fun _ expression => .error (.invalidExpression expression "")⟩

/-- The inner references are read back from print with the types that they stand for. -/
theorem references_read_back_typed :
    ⟨"NUM", some "n", .long⟩ ∈ (typed.library.expand true "<%\x7bPAIR\x7d>").references ∧
      (∃ o : Occurrence, Piece.scan "%\x7bNUM:n:long\x7d".toList = [.reference o] ∧
        Reference.ofOccurrence o = ⟨"NUM", some "n", .long⟩) ∧
      (Piece.occurrences (Piece.scan
          "%\x7bPAIR\x7d %\x7bNUM:n:long\x7d %\x7bNUM:m:string\x7d".toList)).map
            Reference.ofOccurrence =
        [⟨"PAIR", none, .string⟩, ⟨"NUM", some "n", .long⟩, ⟨"NUM", some "m", .string⟩] := by
  have hreferences : (typed.library.expand typed.fieldsOnly "<%\x7bPAIR\x7d>").references =
      [⟨"PAIR", none, .string⟩, ⟨"NUM", some "n", .long⟩, ⟨"NUM", some "m", .string⟩] := by
    decide +kernel
  have hmem : ⟨"NUM", some "n", .long⟩ ∈
      (typed.library.expand typed.fieldsOnly "<%\x7bPAIR\x7d>").references := by
    simp [hreferences]
  obtain ⟨hone, hall, -⟩ := references_read_back typed "<%\x7bPAIR\x7d>"
  refine ⟨hmem, ?_, ?_⟩
  · obtain ⟨o, hscan, -, ho⟩ := hone _ hmem
    exact ⟨o, hscan, ho⟩
  · rw [hreferences] at hall
    exact hall

end Compiler

end Grok
