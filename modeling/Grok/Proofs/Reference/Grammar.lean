import Grok.Proofs.Reference.Meeting
import Mathlib.Computability.Language

namespace Grok

/-!
# The grammar of references

Which texts are references, as a formal language, and the scanner as the search for all of its words
in a text.

* `Occurrence.Grammar.reference` — the language `%{NAME[:FIELD][:TYPE]}`.
* `Occurrence.mem_reference_iff` — its words are the well-formed occurrences, written out;
  `Occurrence.eq_of_text_eq`: none is written like another.
* `Piece.pairwise_sites` — no two pieces overlap.
* `Piece.exists_scan_eq_of_outside` — a character outside of all occurrences is kept as it is, and
  the scanner goes on right behind it.
* `Piece.scan_by_grammar` — the occurrences that the scanner reports (`Piece.found`) are the words
  of the language that stand in a text, all of them and each in its only division.
-/

namespace Occurrence

namespace Grammar

/-- At least one character of names. -/
def name : Language Char := {w | w ≠ [] ∧ ∀ c ∈ w, isNameChar c = true}

/-- At least one character of fields. -/
def field : Language Char := {w | w ≠ [] ∧ ∀ c ∈ w, isFieldChar c = true}

/-- A colon with a field behind it, or nothing. -/
def part : Language Char := 1 + {[':']} * field

/-- A whole reference. -/
def reference : Language Char := {['%', '\x7b']} * (name * (part * (part * {['\x7d']})))

end Grammar

/-! ### The words of the language -/

/-- A part is a colon and a field, or nothing at all. -/
theorem mem_part_iff {w : List Char} :
    w ∈ Grammar.part ↔ ∃ p : Option String, (∀ s ∈ p, IsFieldText s) ∧ partText p = w := by
  constructor
  · rintro (hnone | hsome)
    · exact ⟨none, by simp, ((Language.mem_one w).1 hnone).symm⟩
    · obtain ⟨colon, rfl, run, hrun, rfl⟩ := Language.mem_mul.1 hsome
      refine ⟨some (String.ofList run), ?_, by simp [partText]⟩
      rintro s ⟨⟩
      rw [IsFieldText, String.toList_ofList]
      exact hrun
  · rintro ⟨p, hp, rfl⟩
    cases p with
    | none => exact Or.inl ((Language.mem_one _).2 rfl)
    | some s => exact Or.inr (Language.mem_mul.2 ⟨[':'], rfl, s.toList, hp s rfl, rfl⟩)

/-- A text divided as the language has it: a name, and up to two parts behind it. -/
structure Divides (w n : List Char) (p q : Option String) : Prop where
  name : n ∈ Grammar.name
  first : ∀ s ∈ p, IsFieldText s
  second : ∀ s ∈ q, IsFieldText s
  text_eq : '%' :: '\x7b' :: (n ++ (partText p ++ (partText q ++ ['\x7d']))) = w

/-- What a division stands for: a single part is the field, and only a second one is the type. -/
def ofDivision (n : List Char) (p q : Option String) : Occurrence :=
  ⟨String.ofList n, p.or q, p.bind fun _ => q⟩

/-- A text of the grammar is cut into a name and two parts. -/
theorem mem_reference_iff_divides {w : List Char} :
    w ∈ Grammar.reference ↔ ∃ n p q, Divides w n p q := by
  constructor
  · intro h
    -- The language has an opening, a name, two parts and a closing, one behind the other.
    obtain ⟨opening, rfl, _, hinside, rfl⟩ := Language.mem_mul.1 h
    obtain ⟨n, hn, _, hparts, rfl⟩ := Language.mem_mul.1 hinside
    obtain ⟨field, hfield, _, hbehind, rfl⟩ := Language.mem_mul.1 hparts
    obtain ⟨type, htype, closing, rfl, rfl⟩ := Language.mem_mul.1 hbehind
    obtain ⟨p, hp, rfl⟩ := mem_part_iff.1 hfield
    obtain ⟨q, hq, rfl⟩ := mem_part_iff.1 htype
    exact ⟨n, p, q, hn, hp, hq, rfl⟩
  · rintro ⟨n, p, q, hn, hp, hq, rfl⟩
    have hclose : ['\x7d'] ∈ ({['\x7d']} : Language Char) := rfl
    have hbehind := Language.mem_mul.2 ⟨_, mem_part_iff.2 ⟨q, hq, rfl⟩, _, hclose, rfl⟩
    have hparts := Language.mem_mul.2 ⟨_, mem_part_iff.2 ⟨p, hp, rfl⟩, _, hbehind, rfl⟩
    have hinside := Language.mem_mul.2 ⟨n, hn, _, hparts, rfl⟩
    exact Language.mem_mul.2 ⟨['%', '\x7b'], rfl, _, hinside, rfl⟩

/-- What a division stands for is written as the text. -/
theorem Divides.wellFormed {w n : List Char} {p q : Option String} (h : Divides w n p q) :
    (ofDivision n p q).WellFormed ∧ (ofDivision n p q).text = w := by
  obtain ⟨⟨hne, hchars⟩, hp, hq, rfl⟩ := h
  have hname : (ofDivision n p q).name.toList = n := String.toList_ofList
  cases p with
  | none =>
    refine ⟨⟨by rwa [hname], by rwa [hname], hq, by simp [ofDivision], fun _ => rfl⟩, ?_⟩
    rw [Occurrence.text_eq, hname]
    rfl
  | some s =>
    refine ⟨⟨by rwa [hname], by rwa [hname], hp, hq, by simp [ofDivision]⟩, ?_⟩
    rw [Occurrence.text_eq, hname]
    rfl

/-- A well-formed occurrence is cut at its own parts. -/
theorem WellFormed.divides {o : Occurrence} (h : o.WellFormed) :
    Divides o.text o.name.toList o.field o.typeName :=
  ⟨⟨h.name_ne_nil, h.name_chars⟩, h.field, h.typeName, o.text_eq.symm⟩

/-- **The words of the language are the occurrences**, written out. -/
theorem mem_reference_iff {w : List Char} :
    w ∈ Grammar.reference ↔ ∃ o : Occurrence, o.WellFormed ∧ o.text = w := by
  rw [mem_reference_iff_divides]
  constructor
  · rintro ⟨n, p, q, h⟩
    exact ⟨_, h.wellFormed⟩
  · rintro ⟨o, hwell, rfl⟩
    exact ⟨_, _, _, hwell.divides⟩

/-- **An occurrence is divided in one way.** -/
theorem eq_of_text_eq {o p : Occurrence} (ho : o.WellFormed) (hp : p.WellFormed)
    (h : o.text = p.text) : o = p := by
  -- Both are what is read at the start of the text that they share.
  have hread := split?_text_append ho []
  rw [h, split?_text_append hp []] at hread
  exact (Prod.mk.inj (Option.some.inj hread)).1.symm

/-- An occurrence at a place of a text divides the text there. -/
theorem At.exists_eq_append {o : Occurrence} {cs : List Char} {pos : Nat} (h : o.At cs pos) :
    ∃ before after, before ++ o.text ++ after = cs ∧ before.length = pos := by
  obtain ⟨after, hafter⟩ := h.2
  refine ⟨cs.take pos, after, ?_, ?_⟩
  · rw [List.append_assoc, hafter, List.take_append_drop]
  · have hle := h.add_length_le
    rw [List.length_take]
    omega

/-- An occurrence stands at a place if the text goes on with it there. -/
theorem at_length_iff {o : Occurrence} {before cs : List Char} :
    o.At (before ++ cs) before.length ↔ o.WellFormed ∧ o.text <+: cs := by
  rw [At, List.drop_left]

end Occurrence

namespace Piece

/-! ### Pieces side by side -/

/-- **A piece ends before the next one starts.** -/
theorem pairwise_sites (start : Nat) (ps : List Piece) :
    (sites start ps).Pairwise fun a b => a.1 + a.2.text.length ≤ b.1 := by
  induction ps generalizing start with
  | nil => exact .nil
  | cons p ps ih =>
    cases p with
    | char c => exact ih (start + 1)
    | reference o =>
      refine List.pairwise_cons.2 ⟨?_, ih _⟩
      rintro ⟨pos, p⟩ hmem
      exact le_of_mem_sites hmem

/-- The sites of a text hold its occurrences in order. -/
theorem map_snd_sites (start : Nat) (ps : List Piece) :
    (sites start ps).map (·.2) = occurrences ps := by
  induction ps generalizing start with
  | nil => rfl
  | cons p ps ih =>
    cases p with
    | char c => exact ih (start + 1)
    | reference o => exact congrArg (o :: ·) (ih _)

/-- **A character outside of all occurrences is kept as it is**, and the scanner goes on right
    behind it, whatever has been tried there. -/
theorem exists_scan_eq_of_outside {cs before after : List Char} {c : Char}
    (hcs : before ++ c :: after = cs)
    (houtside : ∀ pos o, (pos, o) ∈ sites 0 (scan cs) →
      before.length < pos ∨ pos + o.text.length ≤ before.length) :
    ∃ ps, scan cs = ps ++ .char c :: scan after ∧ ps.flatMap text = before := by
  induction cs using scan_induction generalizing before with
  | nil => simp at hcs
  | char d cs hsplit ih =>
    rw [scan_cons_of_split?_eq_none hsplit] at houtside ⊢
    cases before with
    | nil =>
      obtain ⟨rfl, rfl⟩ := List.cons.inj hcs
      exact ⟨[], rfl, rfl⟩
    | cons e before =>
      obtain ⟨rfl, hrest⟩ := List.cons.inj hcs
      have hout : ∀ pos o, (pos, o) ∈ sites 0 (scan cs) →
          before.length < pos ∨ pos + o.text.length ≤ before.length := by
        intro pos o hmem
        have h := houtside (pos + 1) o (mem_sites_char.2 ⟨pos, rfl, hmem⟩)
        rw [List.length_cons] at h
        omega
      obtain ⟨ps, hps, rfl⟩ := ih hrest hout
      exact ⟨.char e :: ps, by rw [hps, List.cons_append], rfl⟩
  | reference o rest hwell ih =>
    rw [scan_text_append hwell] at houtside ⊢
    -- The character is not in `o`, so `o` as a whole stands in front of it.
    have hle : o.text.length ≤ before.length := by
      have h := houtside 0 o (mem_sites_reference.2 (Or.inl ⟨rfl, rfl⟩))
      omega
    obtain ⟨more, rfl⟩ : o.text <+: before :=
      List.prefix_of_prefix_length_le ⟨rest, rfl⟩ ⟨c :: after, hcs⟩ hle
    have hrest : more ++ c :: after = rest := by
      rw [List.append_assoc] at hcs
      exact List.append_cancel_left hcs
    have hout : ∀ pos p, (pos, p) ∈ sites 0 (scan rest) →
        more.length < pos ∨ pos + p.text.length ≤ more.length := by
      intro pos p hmem
      have h := houtside (pos + o.text.length) p (mem_sites_reference.2 (Or.inr ⟨pos, rfl, hmem⟩))
      rw [List.length_append] at h
      omega
    obtain ⟨ps, hps, rfl⟩ := ih hrest hout
    exact ⟨.reference o :: ps, by rw [hps, List.cons_append], rfl⟩

/-- The occurrences that the scanner reports, with the places where they start. -/
def found (cs : List Char) : List (Nat × Occurrence) := sites 0 (scan cs)

/-- **The scanner reports the references of a text, all of them and nothing else.**

A part of the text is a word of the language just where an occurrence is reported that is written
so. What is reported stands in the text, from left to right, and no two of them overlap. However the
text of an occurrence is divided by the language, it comes to the same parts: a single one is the
field, and there is no type without one. What is tried in vain takes nothing away: all of the text
is there, and outside of the occurrences each character is kept and the scanner goes on behind it.
-/
theorem scan_by_grammar (cs : List Char) :
    (∀ before w after, before ++ w ++ after = cs → (w ∈ Occurrence.Grammar.reference ↔
      ∃ o, (before.length, o) ∈ found cs ∧ o.text = w)) ∧
    (∀ pos o, (pos, o) ∈ found cs →
      ∃ before after, before ++ o.text ++ after = cs ∧ before.length = pos) ∧
    ((found cs).Pairwise fun a b => a.1 + a.2.text.length ≤ b.1) ∧
    (found cs).map (·.2) = occurrences (scan cs) ∧
    (∀ pos o, (pos, o) ∈ found cs → Occurrence.Divides o.text o.name.toList o.field o.typeName ∧
      (o.field = none → o.typeName = none) ∧
      ∀ n p q, Occurrence.Divides o.text n p q → o = Occurrence.ofDivision n p q) ∧
    (scan cs).flatMap text = cs ∧
    ∀ before c after, before ++ c :: after = cs →
      (∀ pos o, (pos, o) ∈ found cs →
        before.length < pos ∨ pos + o.text.length ≤ before.length) →
      ∃ ps, scan cs = ps ++ .char c :: scan after ∧ ps.flatMap text = before := by
  obtain ⟨hall, hat⟩ := cuts_scan cs
  refine ⟨?_, fun pos o hmem => ((hat pos o).2 hmem).exists_eq_append, pairwise_sites 0 _,
    map_snd_sites 0 _, fun pos o hmem => ?_, hall, fun _ _ _ => exists_scan_eq_of_outside⟩
  · rintro before w after rfl
    -- Behind `before`, what is reported is whatever the rest of the text begins with.
    have hhere : ∀ o, (before.length, o) ∈ found (before ++ w ++ after) ↔
        o.WellFormed ∧ o.text <+: w ++ after := by
      intro o
      rw [found, ← hat, List.append_assoc, Occurrence.at_length_iff]
    rw [Occurrence.mem_reference_iff]
    constructor
    · rintro ⟨o, hwell, rfl⟩
      exact ⟨o, (hhere o).2 ⟨hwell, List.prefix_append _ _⟩, rfl⟩
    · rintro ⟨o, ho, rfl⟩
      exact ⟨o, ((hhere o).1 ho).1, rfl⟩
  · have hwell : o.WellFormed := ((hat pos o).2 hmem).1
    refine ⟨hwell.divides, hwell.field_of_typeName, fun n p q hdivides => ?_⟩
    obtain ⟨hdivision, htext⟩ := hdivides.wellFormed
    exact Occurrence.eq_of_text_eq hwell hdivision htext.symm

/-- Beginnings of references that come to nothing, and references right behind them. -/
def nearMisses : List Char :=
  "%\x7bA%\x7bB\x7d%%\x7bC:e-1\x7d%\x7bA:b:c:d\x7d%\x7ba\x7d%\x7bD:x:Int\x7d".toList

/-- Three references are found, each as soon as it starts; a fourth part is one too many, and the
    percent sign in front of it is kept. -/
theorem scan_by_grammar_nearMisses :
    occurrences (scan nearMisses) =
        [⟨"B", none, none⟩, ⟨"C", some "e-1", none⟩, ⟨"D", some "x", some "Int"⟩] ∧
      "%\x7bC:e-1\x7d".toList ∈ Occurrence.Grammar.reference ∧
      "%\x7bA:b:c:d\x7d".toList ∉ Occurrence.Grammar.reference ∧
      ∃ ps, scan nearMisses = ps ++ .char '%' ::
          scan "\x7bA:b:c:d\x7d%\x7ba\x7d%\x7bD:x:Int\x7d".toList ∧
        ps.flatMap text = "%\x7bA%\x7bB\x7d%%\x7bC:e-1\x7d".toList := by
  have hsites : found nearMisses = [(3, ⟨"B", none, none⟩), (8, ⟨"C", some "e-1", none⟩),
      (30, ⟨"D", some "x", some "Int"⟩)] := by decide +kernel
  obtain ⟨hwords, -, -, hfound, -, -, hkept⟩ := scan_by_grammar nearMisses
  rw [hsites] at hwords hfound hkept
  refine ⟨hfound.symm, ?_, ?_, ?_⟩
  · refine (hwords "%\x7bA%\x7bB\x7d%".toList _
      "%\x7bA:b:c:d\x7d%\x7ba\x7d%\x7bD:x:Int\x7d".toList rfl).2 ?_
    exact ⟨⟨"C", some "e-1", none⟩, by simp, rfl⟩
  · -- Otherwise an occurrence with this text would be found in between.
    intro hmem
    obtain ⟨o, ho, -⟩ := (hwords "%\x7bA%\x7bB\x7d%%\x7bC:e-1\x7d".toList _
      "%\x7ba\x7d%\x7bD:x:Int\x7d".toList rfl).1 hmem
    simp at ho
  · refine hkept "%\x7bA%\x7bB\x7d%%\x7bC:e-1\x7d".toList '%' _ rfl fun pos o ho => ?_
    simp only [List.mem_cons, Prod.mk.injEq, List.not_mem_nil, or_false] at ho
    rcases ho with ⟨rfl, rfl⟩ | ⟨rfl, rfl⟩ | ⟨rfl, rfl⟩ <;> decide

end Piece

end Grok
