import Grok.Proofs.Reference.Occurrences

namespace Grok

/-!
# References in print

A reference is printed with the name of its type, whatever name its type was looked up by, and
without a type if it has no field.

* `Reference.WellFormed` — the references that an occurrence can stand for
  (`Reference.wellFormed_ofOccurrence`): one without a field is of type `string`.
* `Reference.occurrence` — the occurrence that a reference is printed as.
* `Reference.scan_toList_text`, `Reference.ofOccurrence_occurrence` — the scanner finds just this
  occurrence in the print, and it stands for the reference.
* `Reference.occurrences_scan_intercalate` — so references in print, with blanks in between, are
  read back in order.
-/

/-- A type is looked up by the name that it is printed with. -/
theorem ValueType.ofName?_name (t : ValueType) : ofName? t.name = some t := by
  cases t <;> decide

namespace Reference

/-- What an occurrence can stand for: the parts are what the grammar asks for, and without a field
    there is no type but `string`. -/
structure WellFormed (r : Reference) : Prop where
  name_ne_nil : r.name.toList ≠ []
  name_chars : ∀ c ∈ r.name.toList, Occurrence.isNameChar c = true
  field : ∀ s ∈ r.field, Occurrence.IsFieldText s
  type_of_field : r.field = none → r.type = .string

/-- The occurrence that a reference is printed as. -/
def occurrence (r : Reference) : Occurrence :=
  ⟨r.name, r.field, r.field.map fun _ => r.type.name⟩

/-- A reference is printed as an occurrence. -/
theorem toList_text (r : Reference) : r.text.toList = r.occurrence.text := by
  obtain ⟨name, field, type⟩ := r
  cases field <;> simp [text, occurrence, Occurrence.text_eq, Occurrence.partText]

/-- The names of types may stand behind a colon. -/
theorem isFieldText_name (t : ValueType) : Occurrence.IsFieldText t.name := by
  cases t <;> exact ⟨by decide, List.all_eq_true.1 (by decide)⟩

/-- This occurrence is well-formed, as the reference is. -/
theorem WellFormed.occurrence {r : Reference} (h : r.WellFormed) : r.occurrence.WellFormed where
  name_ne_nil := h.name_ne_nil
  name_chars := h.name_chars
  field := h.field
  typeName := by
    intro s hs
    obtain ⟨f, -, rfl⟩ := Option.map_eq_some_iff.1 hs
    exact isFieldText_name r.type
  field_of_typeName := by
    intro hnone
    exact Option.map_eq_none_iff.2 hnone

/-- **The occurrence in print stands for the reference**: the name of the type is known, and where
    no type is printed it is the one that is taken without a name. -/
theorem ofOccurrence_occurrence {r : Reference} (h : r.WellFormed) :
    ofOccurrence r.occurrence = r := by
  obtain ⟨name, field, type⟩ := r
  cases field with
  | none =>
    obtain rfl : type = .string := h.type_of_field rfl
    rfl
  | some f => simp [ofOccurrence, occurrence, ValueType.ofName?_name]

/-- Where no field is written no type is either, and that stands for `string`. -/
theorem wellFormed_ofOccurrence {o : Occurrence} (h : o.WellFormed) :
    (ofOccurrence o).WellFormed where
  name_ne_nil := h.name_ne_nil
  name_chars := h.name_chars
  field := h.field
  type_of_field := by
    intro hnone
    rw [ofOccurrence, h.field_of_typeName hnone]
    rfl

/-! ### Reading back -/

/-- **The scanner finds one occurrence in the print of a reference**, and nothing around it. -/
theorem scan_toList_text {r : Reference} (h : r.WellFormed) :
    Piece.scan r.text.toList = [.reference r.occurrence] := by
  rw [toList_text, ← List.append_nil r.occurrence.text, Piece.scan_text_append h.occurrence,
    Piece.scan_nil]

/-- A blank is in no reference. -/
theorem scan_blank_append (cs : List Char) :
    Piece.scan (" ".toList ++ cs) = .char ' ' :: Piece.scan cs :=
  Piece.scan_cons_of_split?_eq_none rfl

/-- **References in print, with blanks in between, are found in order.** -/
theorem occurrences_scan_intercalate {rs : List Reference} (h : ∀ r ∈ rs, r.WellFormed) :
    Piece.occurrences (Piece.scan (String.intercalate " " (rs.map text)).toList) =
      rs.map occurrence := by
  rw [String.toList_intercalate, List.map_map]
  induction rs with
  | nil => rfl
  | cons r rs ih =>
    obtain ⟨hr, hrs⟩ := List.forall_mem_cons.1 h
    -- Only behind the last one there is no blank.
    cases rs with
    | nil =>
      rw [List.map_singleton, List.intercalate_singleton, Function.comp_apply, scan_toList_text hr]
      rfl
    | cons s rs =>
      rw [List.map_cons, List.map_cons, List.intercalate_cons_cons, ← List.map_cons,
        Function.comp_apply, toList_text, List.append_assoc, Piece.scan_text_append hr.occurrence,
        scan_blank_append]
      exact congrArg (r.occurrence :: ·) (ih hrs)

end Reference

end Grok
