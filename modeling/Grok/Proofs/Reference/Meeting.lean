import Grok.Proofs.Reference.Occurrences

namespace Grok

/-!
# Occurrences where texts meet

What the occurrences of a text put together from others are, told by its parts.

* `Occurrence.NoneIn` — no occurrence stands anywhere in a text. `Piece.scan_eq_map_char_iff`: the
  scanner reports nothing but characters just then.
* `Occurrence.At.append_cases` — an occurrence in two texts put together stands in the first, or in
  the second, or across the place where they meet; `Occurrence.Joins` says that one stands across.
* `Occurrence.At.append_cons_cases` — none stands across a character that is in no occurrence.
-/

namespace Occurrence

/-- No occurrence stands in a text. -/
def NoneIn (cs : List Char) : Prop := ∀ pos o, ¬ At o cs pos

/-- An occurrence stands across the place where two texts meet: the first text ends in the beginning
    of it, and the second one goes on with what is missing. -/
def Joins (before behind : List Char) : Prop :=
  ∃ o u v, WellFormed o ∧ o.text = u ++ v ∧ u ≠ [] ∧ v ≠ [] ∧ u <:+ before ∧ v <+: behind

variable {o : Occurrence} {a b cs : List Char} {pos : Nat}

/-! ### Places -/

/-- An occurrence ends where its text does, or before. -/
theorem At.add_length_le (h : o.At cs pos) : pos + o.text.length ≤ cs.length := by
  have hle : o.text.length ≤ (cs.drop pos).length := h.2.length_le
  have hpos := o.length_text_pos
  rw [List.length_drop] at hle
  omega

/-- What follows a text takes no occurrence away. -/
theorem At.append_left (h : o.At a pos) (b : List Char) : o.At (a ++ b) pos := by
  have hle : pos ≤ a.length := le_trans (Nat.le_add_right _ _) h.add_length_le
  refine ⟨h.1, ?_⟩
  rw [List.drop_append_of_le_length hle]
  exact h.2.trans (List.prefix_append _ _)

/-- An occurrence that ends in the first text stands in it. -/
theorem At.of_append_left (h : o.At (a ++ b) pos) (hle : pos + o.text.length ≤ a.length) :
    o.At a pos := by
  refine ⟨h.1, ?_⟩
  have hstarts := h.2
  rw [List.drop_append_of_le_length (by omega)] at hstarts
  refine List.prefix_of_prefix_length_le hstarts (List.prefix_append _ _) ?_
  rw [List.length_drop]
  omega

/-- **Where two texts meet**, an occurrence stands in the first, across, or in the second. -/
theorem At.append_cases (h : o.At (a ++ b) pos) :
    o.At a pos ∨ (pos < a.length ∧ a.length < pos + o.text.length) ∨
      ∃ q, pos = a.length + q ∧ o.At b q := by
  rcases Nat.lt_or_ge pos a.length with hlt | hge
  · rcases Nat.lt_or_ge a.length (pos + o.text.length) with hacross | hle
    · exact Or.inr (Or.inl ⟨hlt, hacross⟩)
    · exact Or.inl (h.of_append_left hle)
  · obtain ⟨q, rfl⟩ : ∃ q, pos = a.length + q := ⟨pos - a.length, by omega⟩
    exact Or.inr (Or.inr ⟨q, rfl, at_append_length.1 h⟩)

/-- Two texts join into an occurrence just where one stands across the place where they meet. -/
theorem joins_iff :
    Joins a b ↔ ∃ pos o, At o (a ++ b) pos ∧ pos < a.length ∧ a.length < pos + o.text.length := by
  constructor
  · rintro ⟨o, u, v, hwell, htext, hu, hv, ⟨a', rfl⟩, ⟨b', rfl⟩⟩
    have hupos := List.length_pos_iff.2 hu
    have hvpos := List.length_pos_iff.2 hv
    refine ⟨a'.length, o, ⟨hwell, b', ?_⟩, ?_, ?_⟩
    · rw [htext, List.append_assoc a', List.drop_left, List.append_assoc]
    · rw [List.length_append]
      omega
    · rw [htext, List.length_append, List.length_append]
      omega
  · rintro ⟨pos, o, ⟨hwell, rest, hrest⟩, hlt, hacross⟩
    rw [List.drop_append_of_le_length hlt.le] at hrest
    -- What the first text holds of the occurrence is its end from `pos` on.
    have hdrop : (a.drop pos).length < o.text.length := by
      rw [List.length_drop]
      omega
    have hu : a.drop pos <+: o.text := by
      refine List.prefix_of_prefix_length_le (List.prefix_append _ b) ?_ hdrop.le
      exact ⟨rest, hrest⟩
    obtain ⟨v, hv⟩ := hu
    refine ⟨o, a.drop pos, v, hwell, hv.symm, ?_, ?_, List.drop_suffix _ _, ?_⟩
    · simpa using hlt
    · rintro rfl
      rw [← hv, List.append_nil] at hdrop
      omega
    · rw [← hv, List.append_assoc] at hrest
      exact ⟨rest, List.append_cancel_left hrest⟩

/-! ### Texts without occurrences -/

/-- Without a percent sign there is no occurrence. -/
theorem noneIn_of_percent_notMem (h : '%' ∉ cs) : NoneIn cs := by
  rintro pos o ⟨-, hstarts⟩
  have hmem : '%' ∈ o.text := by simp [text_eq]
  exact h (List.mem_of_mem_drop (hstarts.subset hmem))

/-- A character that is in no part of an occurrence and does not hold the parts together either. -/
theorem WellFormed.notMem_text (h : o.WellFormed) {c : Char} (hname : isNameChar c = false)
    (hfield : isFieldChar c = false) (hmark : c ∉ ['%', '\x7b', ':', '\x7d']) : c ∉ o.text := by
  simp only [List.mem_cons, List.not_mem_nil, or_false, not_or] at hmark
  obtain ⟨hpercent, hopen, hcolon, hclose⟩ := hmark
  intro hmem
  -- The text is made of marks, a name and two parts.
  simp only [text_eq, List.mem_cons, List.mem_append, List.not_mem_nil, or_false] at hmem
  rcases hmem with hc | hc | hc | hc | hc | hc
  · exact hpercent hc
  · exact hopen hc
  · exact Bool.false_ne_true (hname.symm.trans (h.name_chars _ hc))
  · rcases mem_partText h.field hc with hc | hc
    · exact hcolon hc
    · exact Bool.false_ne_true (hfield.symm.trans hc)
  · rcases mem_partText h.typeName hc with hc | hc
    · exact hcolon hc
    · exact Bool.false_ne_true (hfield.symm.trans hc)
  · exact hclose hc

/-- **No occurrence stands across a character that is in none.** -/
theorem At.append_cons_cases {c : Char} (h : o.At (a ++ c :: b) pos) (hc : c ∉ o.text) :
    o.At a pos ∨ ∃ q, pos = a.length + 1 + q ∧ o.At b q := by
  rcases h.append_cases with h | ⟨hlt, hacross⟩ | ⟨q, rfl, hq⟩
  · exact Or.inl h
  · -- An occurrence across the place where the texts meet would hold the character.
    refine absurd ?_ hc
    obtain ⟨-, rest, hrest⟩ := h
    have hget : (o.text ++ rest)[a.length - pos]? = some c := by
      rw [hrest, List.getElem?_drop, Nat.add_sub_cancel' hlt.le]
      simp
    rw [List.getElem?_append_left (by omega)] at hget
    exact List.mem_of_getElem? hget
  · cases q with
    | zero =>
      -- An occurrence at the character itself starts with it.
      refine absurd ?_ hc
      obtain ⟨-, rest, hrest⟩ := hq
      rw [text_eq] at hrest ⊢
      obtain rfl : '%' = c := by simpa using congrArg List.head? hrest
      exact List.mem_cons_self
    | succ q =>
      have hshift : o.At ([c] ++ b) ([c].length + q) ↔ o.At b q := at_append_length
      refine Or.inr ⟨q, by omega, hshift.1 ?_⟩
      rw [List.length_singleton, Nat.add_comm]
      exact hq

end Occurrence

namespace Piece

open Occurrence (NoneIn)

variable {ps : List Piece} {cs text : List Char}

/-- Characters hold no place of an occurrence. -/
theorem sites_map_char_append (start : Nat) (cs : List Char) (ps : List Piece) :
    sites start (cs.map .char ++ ps) = sites (start + cs.length) ps := by
  induction cs generalizing start with
  | nil => rfl
  | cons c cs ih =>
    rw [List.map_cons, List.cons_append, sites, ih, List.length_cons, Nat.add_assoc,
      Nat.add_comm 1]

/-- **Between occurrences there is none.** The characters in front of what remains hold no
    occurrence, and what remains cuts the text behind them. -/
theorem Cuts.of_map_char_append (h : Cuts (cs.map .char ++ ps) text) :
    NoneIn cs ∧ ∃ rest, text = cs ++ rest ∧ Cuts ps rest := by
  have hrest : ∃ rest, text = cs ++ rest ∧ Cuts ps rest := by
    induction cs generalizing text with
    | nil => exact ⟨text, rfl, h⟩
    | cons c cs ih =>
      obtain ⟨more, rfl, -, hmore⟩ := cuts_char_iff.1 h
      obtain ⟨rest, rfl, hrest⟩ := ih hmore
      exact ⟨rest, rfl, hrest⟩
  refine ⟨?_, hrest⟩
  intro pos o hat
  -- The place of an occurrence in `cs` would be reported, but those of `ps` all lie behind it.
  obtain ⟨rest, rfl, -⟩ := hrest
  have hmem := (h.at_iff pos o).1 (hat.append_left rest)
  rw [sites_map_char_append] at hmem
  have hle := le_of_mem_sites hmem
  have hend := hat.add_length_le
  have hpos := o.length_text_pos
  omega

/-- The scanner reports nothing but characters where there is no occurrence, and only there. -/
theorem scan_eq_map_char_iff : scan cs = cs.map .char ↔ NoneIn cs := by
  rw [eq_comm, ← cuts_iff]
  constructor
  · intro h
    have hcuts : Cuts (cs.map .char ++ []) cs := by simpa using h
    exact hcuts.of_map_char_append.1
  · intro h
    have hsites : sites 0 (cs.map Piece.char) = [] := by
      simpa [sites] using sites_map_char_append 0 cs []
    refine ⟨by simp [List.flatMap_map, text], fun pos o => ?_⟩
    rw [hsites]
    exact iff_of_false (h pos o) List.not_mem_nil

end Piece

end Grok
