import Grok.Compiler
import Grok.Proofs.Expansion.Course
import Grok.Proofs.Library.Table
import Grok.Proofs.Reference.Occurrences
import Mathlib.Data.List.Nodup
import Mathlib.Data.List.Perm.Subperm

namespace Grok

/-!
# The stack of an expansion

What the expansion of one reference can come to, stated once, so that no other proof opens the
recursion.

* `Library.Stacked l depth stack` — the definitions that are open: distinct, defined, and as many as
  `depth` leaves of the library.
* `Library.expandReference` is the expansion of a single occurrence, and `Library.expandInside_eq`
  puts an expression together from those of its occurrences.
* `Library.expandReference_cases` — an occurrence names a definition that is open, or names nothing,
  or opens one more definition; the bound on the depth is never what ends an expansion.
* `Expansion.isOk_outcome_ofPieces_iff`, `Expansion.outcome_ofPieces_eq_error_iff` — an expression
  fails with its first occurrence that fails.
-/

namespace Library

/-- The definitions that are open while a text is expanded: no name twice, each with a definition,
    and `depth` definitions besides. -/
structure Stacked (l : Library) (depth : Nat) (stack : List String) : Prop where
  nodup : stack.Nodup
  defined : ∀ n ∈ stack, (l.get? n).isSome
  length_add_depth : stack.length + depth = l.size

/-- At the start no definition is open. -/
theorem stacked_size_nil (l : Library) : l.Stacked l.size [] where
  nodup := List.nodup_nil
  defined := by simp
  length_add_depth := by simp

/-! ### The names of a library -/

/-- Names that are distinct and all defined are no more than the definitions. -/
theorem length_le_size {l : Library} {names : List String} (hnodup : names.Nodup)
    (hdefined : ∀ n ∈ names, (l.get? n).isSome) : names.length ≤ l.size := by
  have hsub : names ⊆ l.definitions.map (·.name) := fun n hn => isSome_get?_iff.1 (hdefined n hn)
  simpa [size] using (hnodup.subperm hsub).length_le

/-- A defined name that is not open leaves room on the stack; opening it takes that room. -/
theorem Stacked.push {l : Library} {depth : Nat} {stack : List String} (h : l.Stacked depth stack)
    {n : String} (hdefined : (l.get? n).isSome) (hn : n ∉ stack) :
    ∃ d, depth = d + 1 ∧ l.Stacked d (n :: stack) := by
  -- The stack with `n` on it is still distinct and defined, so it is no longer than the table.
  have hnodup : (n :: stack).Nodup := List.nodup_cons.2 ⟨hn, h.nodup⟩
  have hall : ∀ m ∈ n :: stack, (l.get? m).isSome := by
    intro m hm
    rcases List.mem_cons.1 hm with rfl | hm
    · exact hdefined
    · exact h.defined m hm
  have hlen := length_le_size hnodup hall
  have hroom := h.length_add_depth
  rw [List.length_cons] at hlen
  refine ⟨depth - 1, by omega, hnodup, hall, ?_⟩
  rw [List.length_cons]
  omega

/-! ### One occurrence -/

/-- The expansion of one occurrence inside of the definitions on the stack. -/
def expandReference (l : Library) (fieldsOnly : Bool) (depth : Nat) (stack : List String)
    (o : Occurrence) : Expansion :=
  if o.name ∈ stack then ⟨[o], .error (.cyclicPattern o.name)⟩
  else
    match l.get? o.name with
    | none => ⟨[o], .error (.unknownPattern o.name)⟩
    | some body =>
      match depth with
      | 0 => ⟨[o], .error (.cyclicPattern o.name)⟩
      | depth + 1 =>
        let inner := l.expandInside fieldsOnly depth (o.name :: stack) body.toList
        ⟨o :: inner.opened, inner.outcome⟩

/-- An expression is expanded piece by piece. -/
theorem expandInside_eq (l : Library) (fieldsOnly : Bool) (depth : Nat) (stack : List String)
    (text : List Char) : l.expandInside fieldsOnly depth stack text =
      Expansion.ofPieces fieldsOnly (l.expandReference fieldsOnly depth stack)
        (Piece.scan text) := by
  rw [expandInside]
  rfl

/-- **What an occurrence can come to.** It names a definition that is open, or it names nothing, or
    it opens a definition, whose text is expanded on a stack with one name more. -/
theorem expandReference_cases {l : Library} {depth : Nat} {stack : List String}
    (h : l.Stacked depth stack) (fieldsOnly : Bool) (o : Occurrence) :
    (o.name ∈ stack ∧
      l.expandReference fieldsOnly depth stack o = ⟨[o], .error (.cyclicPattern o.name)⟩) ∨
    (o.name ∉ stack ∧ l.get? o.name = none ∧
      l.expandReference fieldsOnly depth stack o = ⟨[o], .error (.unknownPattern o.name)⟩) ∨
    (o.name ∉ stack ∧ ∃ body d, l.get? o.name = some body ∧ depth = d + 1 ∧
      l.Stacked d (o.name :: stack) ∧
      l.expandReference fieldsOnly depth stack o =
        ⟨o :: (l.expandInside fieldsOnly d (o.name :: stack) body.toList).opened,
          (l.expandInside fieldsOnly d (o.name :: stack) body.toList).outcome⟩) := by
  by_cases hmem : o.name ∈ stack
  · exact Or.inl ⟨hmem, by simp [expandReference, hmem]⟩
  · refine Or.inr ?_
    cases hget : l.get? o.name with
    | none => exact Or.inl ⟨hmem, rfl, by simp [expandReference, hmem, hget]⟩
    | some body =>
      -- There are fewer open names than definitions, so the depth is not used up.
      obtain ⟨d, rfl, hstacked⟩ := h.push (by simp [hget]) hmem
      exact Or.inr ⟨hmem, body, d, rfl, rfl, hstacked, by simp [expandReference, hmem, hget]⟩

end Library

namespace Expansion

/-! ### The pieces of an expression -/

variable {fieldsOnly : Bool} {expand : Occurrence → Expansion} {ps : List Piece}

/-- What is done with a result does not change whether there is one. -/
theorem map_eq_error_iff {α β : Type} {x : Except Error α} {f : α → β} {e : Error} :
    x.map f = .error e ↔ x = .error e := by
  cases x <;> simp [Except.map]

/-- An expression is expanded just where all of its occurrences are. -/
theorem isOk_outcome_ofPieces_iff :
    (∃ cs, (ofPieces fieldsOnly expand ps).outcome = .ok cs) ↔
      ∀ o, .reference o ∈ ps → ∃ cs, (expand o).outcome = .ok cs := by
  induction ps with
  | nil => simp [ofPieces]
  | cons p ps ih =>
    cases p with
    | char c =>
      rw [ofPieces, exists_map_eq_ok_iff, ih]
      simp
    | reference o =>
      have hcons : (∀ p, .reference p ∈ Piece.reference o :: ps →
            ∃ cs, (expand p).outcome = .ok cs) ↔
          (∃ cs, (expand o).outcome = .ok cs) ∧
            ∀ p, .reference p ∈ ps → ∃ cs, (expand p).outcome = .ok cs := by
        simp [or_imp, forall_and]
      rw [hcons, ← ih, ofPieces]
      cases (expand o).outcome with
      | error e => simp
      | ok fragment =>
        -- What the first occurrence comes to makes no difference to the others.
        simp only [exists_map_eq_ok_iff]
        exact (and_iff_right ⟨fragment, rfl⟩).symm

/-- An expression fails with the first of its occurrences that fails. -/
theorem outcome_ofPieces_eq_error_iff (start : Nat) {e : Error} :
    (ofPieces fieldsOnly expand ps).outcome = .error e ↔
      ∃ pos o, (pos, o) ∈ Piece.sites start ps ∧ (expand o).outcome = .error e ∧
        ∀ q p, (q, p) ∈ Piece.sites start ps → q < pos → ∃ cs, (expand p).outcome = .ok cs := by
  induction ps generalizing start with
  | nil => simp [ofPieces, Piece.sites]
  | cons p ps ih =>
    cases p with
    | char c =>
      rw [ofPieces, map_eq_error_iff, ih (start + 1)]
      rfl
    | reference o =>
      -- What stands behind `o` stands at later places, so `o` comes first.
      have hlater : ∀ q p, (q, p) ∈ Piece.sites (start + o.text.length) ps → start < q := by
        intro q p hmem
        have hle := Piece.le_of_mem_sites hmem
        have hpos := o.length_text_pos
        omega
      rw [ofPieces]
      cases hinner : (expand o).outcome with
      | error e' =>
        constructor
        · intro h
          refine ⟨start, o, List.mem_cons_self, by rw [hinner]; exact h, ?_⟩
          intro q p hmem hlt
          rcases List.mem_cons.1 hmem with heq | hmem
          · obtain ⟨rfl, rfl⟩ := Prod.mk.inj heq
            omega
          · have := hlater q p hmem
            omega
        · rintro ⟨pos, p, hmem, he, hbefore⟩
          rcases List.mem_cons.1 hmem with heq | hmem
          · obtain ⟨rfl, rfl⟩ := Prod.mk.inj heq
            rw [← he, hinner]
          · obtain ⟨cs, hok⟩ := hbefore start o List.mem_cons_self (hlater pos p hmem)
            rw [hinner] at hok
            cases hok
      | ok fragment =>
        simp only [map_eq_error_iff, ih (start + o.text.length), Piece.sites, List.mem_cons,
          Prod.mk.injEq]
        constructor
        · rintro ⟨pos, p, hmem, he, hbefore⟩
          refine ⟨pos, p, Or.inr hmem, he, ?_⟩
          rintro q r (⟨rfl, rfl⟩ | hr) hlt
          · exact ⟨fragment, hinner⟩
          · exact hbefore q r hr hlt
        · rintro ⟨pos, p, ⟨rfl, rfl⟩ | hmem, he, hbefore⟩
          · rw [hinner] at he
            cases he
          · exact ⟨pos, p, hmem, he, fun q r hr hlt => hbefore q r (Or.inr hr) hlt⟩

end Expansion

namespace Compiler

/-- What a compiler makes of an expression is what the expansion comes to. -/
theorem value_expand (c : Compiler) (expression : String) :
    (c.expand expression).value =
      (c.library.expand c.fieldsOnly expression).outcome.map String.ofList := rfl

/-- The text that an expression is expanded to. -/
theorem value_expand_eq_ok_iff {c : Compiler} {expression expanded : String} :
    (c.expand expression).value = .ok expanded ↔
      (c.library.expand c.fieldsOnly expression).outcome = .ok expanded.toList := by
  rw [value_expand]
  cases (c.library.expand c.fieldsOnly expression).outcome with
  | error e => simp [Except.map]
  | ok cs =>
    simp only [Except.map, Except.ok.injEq]
    constructor
    · rintro rfl
      rw [String.toList_ofList]
    · rintro rfl
      rw [String.ofList_toList]

/-- A matcher is made of what the expansion gives and of what the engine makes of its text. -/
theorem compile_eq_ok_iff {c : Compiler} {expression : String} {m : Matcher} :
    (c.compile expression).value = .ok m ↔
      ∃ expanded program, (c.expand expression).value = .ok expanded ∧
        c.engine.compile c.options expanded = .ok program ∧
        m = Matcher.ofProgram (c.library.expand c.fieldsOnly expression).references expanded
          program := by
  unfold compile
  simp only [Attempt.value_andThen_eq_ok_iff, Attempt.value_report, Attempt.value_ofExcept,
    Except.ok.injEq, true_and, exists_const, value_expand]
  constructor
  · rintro ⟨expanded, hexpanded, program, hprogram, rfl⟩
    exact ⟨expanded, program, hexpanded, hprogram, rfl⟩
  · rintro ⟨expanded, program, hexpanded, hprogram, rfl⟩
    exact ⟨expanded, hexpanded, program, hprogram, rfl⟩

end Compiler

end Grok
