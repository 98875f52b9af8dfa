import Grok.Reference
import Mathlib.Data.List.TakeWhile

namespace Grok

/-!
# The occurrences of a text

The grammar of references as a statement about texts, and the scanner measured against it.

* `Occurrence.WellFormed` says which parts make a reference; `Occurrence.At` says that one stands at
  a place of a text.
* `Occurrence.split?_text_append` and `Occurrence.text_of_split?` — the reader at the head of a text
  accepts exactly the well-formed occurrences.
* `Piece.scan_induction` follows the scanner through a text: a character that starts no occurrence,
  or an occurrence as a whole.
* `Piece.Cuts` says that pieces cut a text at its occurrences, all of them and nothing else.
* `Piece.cuts_iff` — the scanner cuts a text so, and there is no other way to do it.
-/

namespace Occurrence

/-- A text that may stand behind a colon. -/
def IsFieldText (s : String) : Prop := s.toList ≠ [] ∧ ∀ c ∈ s.toList, isFieldChar c = true

/-- The parts of an occurrence are what the grammar asks for: a type comes only with a field. -/
structure WellFormed (o : Occurrence) : Prop where
  name_ne_nil : o.name.toList ≠ []
  name_chars : ∀ c ∈ o.name.toList, isNameChar c = true
  field : ∀ s ∈ o.field, IsFieldText s
  typeName : ∀ s ∈ o.typeName, IsFieldText s
  field_of_typeName : o.field = none → o.typeName = none

/-- An occurrence stands in a text behind `pos` characters. -/
def At (o : Occurrence) (cs : List Char) (pos : Nat) : Prop :=
  o.WellFormed ∧ o.text <+: cs.drop pos

/-! ### Characters of the parts -/

theorem isNameChar_brace : isNameChar '\x7d' = false := by decide

theorem isNameChar_colon : isNameChar ':' = false := by decide

theorem isNameChar_percent : isNameChar '%' = false := by decide

theorem isFieldChar_brace : isFieldChar '\x7d' = false := by decide

theorem isFieldChar_colon : isFieldChar ':' = false := by decide

theorem isFieldChar_percent : isFieldChar '%' = false := by decide

/-- A part is `none` or a colon followed by characters of fields. -/
theorem mem_partText {p : Option String} (h : ∀ s ∈ p, IsFieldText s) {c : Char}
    (hc : c ∈ partText p) : c = ':' ∨ isFieldChar c = true := by
  cases p with
  | none => simp [partText] at hc
  | some s =>
    rcases List.mem_cons.1 hc with rfl | hc
    · exact Or.inl rfl
    · exact Or.inr ((h s rfl).2 c hc)

/-- An occurrence in full: its opening, and a tail that holds no further percent sign. -/
theorem text_eq (o : Occurrence) :
    o.text = '%' :: '\x7b' ::
      (o.name.toList ++ (partText o.field ++ (partText o.typeName ++ ['\x7d']))) := by
  simp [text]

theorem text_ne_nil (o : Occurrence) : o.text ≠ [] := by simp [text_eq]

theorem length_text_pos (o : Occurrence) : 0 < o.text.length :=
  List.length_pos_iff.2 o.text_ne_nil

/-- Only the first character of an occurrence is a percent sign. -/
theorem percent_notMem_tail_text {o : Occurrence} (h : o.WellFormed) : '%' ∉ o.text.tail := by
  intro hmem
  simp only [text_eq, List.tail_cons, List.mem_cons, List.mem_append, List.not_mem_nil,
    or_false] at hmem
  rcases hmem with hbrace | hname | hfield | htype | hbrace
  · exact absurd hbrace (by decide)
  · exact Bool.false_ne_true (isNameChar_percent.symm.trans (h.name_chars _ hname))
  · rcases mem_partText h.field hfield with hc | hc
    · exact absurd hc (by decide)
    · exact Bool.false_ne_true (isFieldChar_percent.symm.trans hc)
  · rcases mem_partText h.typeName htype with hc | hc
    · exact absurd hc (by decide)
    · exact Bool.false_ne_true (isFieldChar_percent.symm.trans hc)
  · exact absurd hbrace (by decide)

/-! ### The reader at the head of a text -/

/-- A run of accepted characters ends where the first other character stands. -/
theorem takeWhile_dropWhile_append {p : Char → Bool} {run rest : List Char}
    (hrun : ∀ c ∈ run, p c = true) (hrest : ∀ c ∈ rest.head?, p c = false) :
    (run ++ rest).takeWhile p = run ∧ (run ++ rest).dropWhile p = rest := by
  have hnil : rest.takeWhile p = [] ∧ rest.dropWhile p = rest := by
    cases rest with
    | nil => exact ⟨rfl, rfl⟩
    | cons c cs =>
      have hc : p c = false := hrest c rfl
      simp [hc]
  rw [List.takeWhile_append_of_pos hrun, List.dropWhile_append_of_pos hrun, hnil.1, hnil.2,
    List.append_nil]
  exact ⟨rfl, rfl⟩

/-- A part is read back in front of a text that cannot continue it. -/
theorem splitField_partText_append {p : Option String} (h : ∀ s ∈ p, IsFieldText s)
    {rest : List Char} (hrest : ∀ c ∈ rest.head?, isFieldChar c = false)
    (hcolon : p = none → rest.head? ≠ some ':') :
    splitField (partText p ++ rest) = (p.map String.toList, rest) := by
  cases p with
  | none =>
    cases rest with
    | nil => rfl
    | cons c cs =>
      have hc : c ≠ ':' := fun hc => hcolon rfl (by simp [hc])
      simp [partText, splitField, hc]
  | some s =>
    obtain ⟨hne, hchars⟩ := h s rfl
    obtain ⟨htake, hdrop⟩ := takeWhile_dropWhile_append hchars hrest
    simp only [partText, List.cons_append, splitField, htake, hdrop, Option.map_some]

/-- What is read behind a colon is a part, and nothing is lost. -/
theorem eq_partText_of_splitField {cs rest : List Char} {p : Option (List Char)}
    (h : splitField cs = (p, rest)) :
    cs = partText (p.map String.ofList) ++ rest ∧ ∀ s ∈ p.map String.ofList, IsFieldText s := by
  -- Without a colon, or without a field behind it, nothing is read.
  unfold splitField at h
  split at h
  · rename_i more
    split at h
    · obtain ⟨rfl, rfl⟩ := Prod.mk.injEq .. ▸ h
      simp [partText]
    · rename_i hne
      obtain ⟨rfl, rfl⟩ := Prod.mk.injEq .. ▸ h
      refine ⟨by simp [partText], ?_⟩
      intro s hs
      obtain rfl : String.ofList (more.takeWhile isFieldChar) = s := by simpa using hs
      refine ⟨by simpa using hne, ?_⟩
      intro c hc
      rw [String.toList_ofList] at hc
      exact List.mem_takeWhile_imp hc
  · obtain ⟨rfl, rfl⟩ := Prod.mk.injEq .. ▸ h
    simp [partText]

/-- **A well-formed occurrence is read back**, whatever follows it. -/
theorem split?_text_append {o : Occurrence} (h : o.WellFormed) (rest : List Char) :
    split? (o.text ++ rest) = some (o, rest) := by
  -- From the back to the front: each part ends where the next mark begins.
  have hclose : ∀ c ∈ ('\x7d' :: rest).head?, isFieldChar c = false := by
    rintro c ⟨⟩
    exact isFieldChar_brace
  have htype : splitField (partText o.typeName ++ '\x7d' :: rest)
      = (o.typeName.map String.toList, '\x7d' :: rest) :=
    splitField_partText_append h.typeName hclose fun _ => by simp
  have hbehind : ∀ c ∈ (partText o.typeName ++ '\x7d' :: rest).head?, isFieldChar c = false := by
    cases o.typeName with
    | none => simpa [partText] using isFieldChar_brace
    | some s => simpa [partText] using isFieldChar_colon
  have hfield : splitField (partText o.field ++ (partText o.typeName ++ '\x7d' :: rest))
      = (o.field.map String.toList, partText o.typeName ++ '\x7d' :: rest) :=
    splitField_partText_append h.field hbehind fun hnone => by
      simp [h.field_of_typeName hnone, partText]
  have hname : ∀ c ∈ (partText o.field ++ (partText o.typeName ++ '\x7d' :: rest)).head?,
      isNameChar c = false := by
    cases hf : o.field with
    | none => simpa [h.field_of_typeName hf, partText] using isNameChar_brace
    | some s => simpa [partText] using isNameChar_colon
  obtain ⟨htake, hdrop⟩ := takeWhile_dropWhile_append h.name_chars hname
  -- The name is the longest one there, and not empty.
  have hnil : o.name.toList ≠ [] := h.name_ne_nil
  simp only [text_eq, List.cons_append, List.append_assoc, List.nil_append, split?, htake, hdrop,
    hfield, htype]
  cases hn : o.name.toList with
  | nil => exact absurd hn hnil
  | cons c cs =>
    have hofList : String.ofList (c :: cs) = o.name := by rw [← hn, String.ofList_toList]
    have hback : ∀ p : Option String, (p.map String.toList).map String.ofList = p := by
      intro p
      cases p <;> simp
    simp [hofList, hback]

/-- **What is read is well-formed**, and the text goes on behind it. -/
theorem text_of_split? {cs rest : List Char} {o : Occurrence} (h : split? cs = some (o, rest)) :
    o.WellFormed ∧ cs = o.text ++ rest := by
  unfold split? at h
  split at h
  · rename_i more
    rcases hfield : splitField (more.dropWhile isNameChar) with ⟨field, behindField⟩
    rcases htype : splitField behindField with ⟨typeName, behindType⟩
    simp only [hfield, htype] at h
    split at h
    · simp at h
    · rename_i hname
      simp only [Option.some.injEq, Prod.mk.injEq] at h
      obtain ⟨rfl, rfl⟩ := h
      obtain ⟨hfieldText, hfieldOk⟩ := eq_partText_of_splitField hfield
      obtain ⟨htypeText, htypeOk⟩ := eq_partText_of_splitField htype
      refine ⟨⟨by simpa using hname, ?_, hfieldOk, htypeOk, ?_⟩, ?_⟩
      · intro c hc
        rw [String.toList_ofList] at hc
        exact List.mem_takeWhile_imp hc
      · -- Where no field is read, the second part is read at the same place, with the same result.
        intro hnone
        obtain rfl : field = none := by simpa using hnone
        have hsame : behindField = more.dropWhile isNameChar := by
          simpa [partText] using hfieldText.symm
        rw [hsame, hfield] at htype
        simpa using (congrArg Prod.fst htype).symm
      · have hsplit : more.takeWhile isNameChar ++ more.dropWhile isNameChar = more :=
          List.takeWhile_append_dropWhile
        rw [hfieldText, htypeText] at hsplit
        simp only [text_eq, String.toList_ofList, List.cons_append, List.append_assoc,
          List.nil_append]
        rw [hsplit]
    · cases h
  · cases h

/-- An occurrence stands at the head of a text just where the reader finds it. -/
theorem at_zero_iff {o : Occurrence} {cs : List Char} :
    o.At cs 0 ↔ ∃ rest, split? cs = some (o, rest) := by
  constructor
  · rintro ⟨hwell, rest, hcs⟩
    exact ⟨rest, by rw [← List.drop_zero (l := cs), ← hcs, split?_text_append hwell]⟩
  · rintro ⟨rest, h⟩
    obtain ⟨hwell, hcs⟩ := text_of_split? h
    exact ⟨hwell, rest, by rw [List.drop_zero, hcs]⟩

/-- Behind a part in front, the places of a text are moved by its length. -/
theorem at_append_length {o : Occurrence} {before cs : List Char} {pos : Nat} :
    o.At (before ++ cs) (before.length + pos) ↔ o.At cs pos := by
  rw [At, At, ← List.drop_drop, List.drop_left]

/-- No two occurrences stand at one place. -/
theorem At.unique {o p : Occurrence} {cs : List Char} {pos : Nat} (ho : o.At cs pos)
    (hp : p.At cs pos) : o = p := by
  obtain ⟨ho, rest, hrest⟩ := ho
  obtain ⟨hp, rest', hrest'⟩ := hp
  have hsplit := split?_text_append ho rest
  rw [hrest, ← hrest', split?_text_append hp] at hsplit
  simp only [Option.some.injEq, Prod.mk.injEq] at hsplit
  exact hsplit.1.symm

/-- Inside of an occurrence no other one starts. -/
theorem not_at_inside {o p : Occurrence} (ho : o.WellFormed) (rest : List Char) {pos : Nat}
    (hpos : 0 < pos) (hlt : pos < o.text.length) : ¬ p.At (o.text ++ rest) pos := by
  rintro ⟨-, tail, htail⟩
  have hpercent : (o.text ++ rest)[pos]? = some '%' := by
    have h : ((o.text ++ rest).drop pos)[0]? = some '%' := by
      rw [← htail, text_eq]
      rfl
    simpa using h
  rw [List.getElem?_append_left hlt] at hpercent
  apply percent_notMem_tail_text ho
  obtain ⟨k, rfl⟩ : ∃ k, pos = k + 1 := ⟨pos - 1, by omega⟩
  rw [← List.getElem?_tail] at hpercent
  exact List.mem_of_getElem? hpercent

end Occurrence

namespace Piece

/-- The occurrences among pieces, each with the number of characters in front of it; the pieces
    start behind `start` characters. -/
def sites (start : Nat) : List Piece → List (Nat × Occurrence)
  | [] => []
  | .char _ :: ps => sites (start + 1) ps
  | .reference o :: ps => (start, o) :: sites (start + o.text.length) ps

/-! ### The scanner -/

/-- Characters of an occurrence that has been found are passed over. -/
theorem scanFrom_eq_scan_drop (skip : Nat) (cs : List Char) :
    scanFrom skip cs = scan (cs.drop skip) := by
  induction cs generalizing skip with
  | nil => cases skip <;> simp [scanFrom, scan]
  | cons c cs ih =>
    cases skip with
    | zero => rfl
    | succ skip => rw [scanFrom, ih, List.drop_succ_cons]

@[simp] theorem scan_nil : scan [] = [] := rfl

/-- A character that starts no occurrence is a piece of its own. -/
theorem scan_cons_of_split?_eq_none {c : Char} {cs : List Char}
    (h : Occurrence.split? (c :: cs) = none) : scan (c :: cs) = .char c :: scan cs := by
  rw [scan, scanFrom, h, scan]

/-- Behind an occurrence the scanner goes on with the text that follows it. -/
theorem scan_text_append {o : Occurrence} (h : o.WellFormed) (rest : List Char) :
    scan (o.text ++ rest) = .reference o :: scan rest := by
  have hsplit := Occurrence.split?_text_append h rest
  cases ho : o.text with
  | nil => exact absurd ho o.text_ne_nil
  | cons c cs =>
    rw [ho, List.cons_append] at hsplit
    rw [List.cons_append, scan, scanFrom, hsplit]
    simp only [scanFrom_eq_scan_drop]
    rw [show (cs ++ rest).length - rest.length = cs.length by simp, List.drop_left]

/-- **Following the scanner.** What holds of the empty text, and passes from a text to the text
    with one more character that starts no occurrence, or with one more occurrence, holds of all
    texts. -/
theorem scan_induction {motive : List Char → Prop} (nil : motive [])
    (char : ∀ c cs, Occurrence.split? (c :: cs) = none → motive cs → motive (c :: cs))
    (reference : ∀ o rest, Occurrence.WellFormed o → motive rest → motive (o.text ++ rest))
    (cs : List Char) : motive cs := by
  induction hn : cs.length using Nat.strong_induction_on generalizing cs with
  | h n ih =>
    cases cs with
    | nil => exact nil
    | cons c cs =>
      cases hsplit : Occurrence.split? (c :: cs) with
      | none => exact char c cs hsplit (ih cs.length (by simp [← hn]) cs rfl)
      | some found =>
        obtain ⟨o, rest⟩ := found
        obtain ⟨hwell, htext⟩ := Occurrence.text_of_split? hsplit
        -- No occurrence is empty, so the rest is shorter.
        have hlt : rest.length < n := by
          have hpos := o.length_text_pos
          rw [← hn, htext, List.length_append]
          omega
        rw [htext]
        exact reference o rest hwell (ih rest.length hlt rest rfl)

/-! ### All occurrences of a text -/

/-- No site lies in front of the start. -/
theorem le_of_mem_sites {start pos : Nat} {ps : List Piece} {o : Occurrence}
    (h : (pos, o) ∈ sites start ps) : start ≤ pos := by
  induction ps generalizing start with
  | nil => simp [sites] at h
  | cons p ps ih =>
    cases p with
    | char c => exact Nat.le_of_succ_le (ih h)
    | reference r =>
      rcases List.mem_cons.1 h with heq | h
      · exact (Prod.mk.inj heq).1.ge
      · exact le_trans (Nat.le_add_right _ _) (ih h)

/-- A reference among pieces stands at some place. -/
theorem exists_mem_sites_iff (start : Nat) {ps : List Piece} {o : Occurrence} :
    (∃ pos, (pos, o) ∈ sites start ps) ↔ .reference o ∈ ps := by
  induction ps generalizing start with
  | nil => simp [sites]
  | cons p ps ih =>
    cases p with
    | char c => simp [sites, ih]
    | reference r => simp [sites, exists_or, ih]

/-- Starting later moves all sites. -/
theorem mem_sites_add {start k : Nat} {ps : List Piece} {pos : Nat} {o : Occurrence} :
    (pos, o) ∈ sites (start + k) ps ↔ ∃ q, pos = q + k ∧ (q, o) ∈ sites start ps := by
  induction ps generalizing start with
  | nil => simp [sites]
  | cons p ps ih =>
    cases p with
    | char c => rw [sites, sites, Nat.add_right_comm, ih]
    | reference r =>
      rw [sites, sites, Nat.add_right_comm]
      simp only [List.mem_cons, Prod.mk.injEq, ih]
      constructor
      · rintro (⟨rfl, rfl⟩ | ⟨q, rfl, hq⟩)
        · exact ⟨start, rfl, Or.inl ⟨rfl, rfl⟩⟩
        · exact ⟨q, rfl, Or.inr hq⟩
      · rintro ⟨q, rfl, ⟨rfl, rfl⟩ | hq⟩
        · exact Or.inl ⟨rfl, rfl⟩
        · exact Or.inr ⟨q, rfl, hq⟩

/-- Pieces cut a text at its occurrences: they hold all of it, and their references are the
    occurrences of the text, each at its place. -/
structure Cuts (ps : List Piece) (cs : List Char) : Prop where
  flatMap_text : ps.flatMap text = cs
  at_iff : ∀ pos o, Occurrence.At o cs pos ↔ (pos, o) ∈ sites 0 ps

/-- A character in front moves the sites by one. -/
theorem mem_sites_char {c : Char} {ps : List Piece} {pos : Nat} {o : Occurrence} :
    (pos, o) ∈ sites 0 (.char c :: ps) ↔ ∃ q, pos = q + 1 ∧ (q, o) ∈ sites 0 ps := by
  rw [sites, mem_sites_add]

/-- An occurrence in front is a site itself and moves the others by its length. -/
theorem mem_sites_reference {p o : Occurrence} {ps : List Piece} {pos : Nat} :
    (pos, o) ∈ sites 0 (.reference p :: ps) ↔
      (pos = 0 ∧ o = p) ∨ ∃ q, pos = q + p.text.length ∧ (q, o) ∈ sites 0 ps := by
  rw [sites, List.mem_cons, mem_sites_add, Prod.mk.injEq]

/-- A character belongs to no occurrence just where none is read at it. -/
theorem cuts_char_iff {c : Char} {ps : List Piece} {cs : List Char} :
    Cuts (.char c :: ps) cs ↔
      ∃ rest, cs = c :: rest ∧ Occurrence.split? cs = none ∧ Cuts ps rest := by
  have hshift : ∀ (rest : List Char) (o : Occurrence) (q : Nat),
      o.At (c :: rest) (q + 1) ↔ o.At rest q := by
    intro rest o q
    have hone : o.At ([c] ++ rest) ([c].length + q) ↔ o.At rest q := Occurrence.at_append_length
    rwa [List.length_singleton, Nat.add_comm] at hone
  constructor
  · rintro ⟨rfl, hat⟩
    refine ⟨ps.flatMap text, rfl, ?_, rfl, ?_⟩
    · -- An occurrence at the character would be a site in front of all sites.
      rw [Option.eq_none_iff_forall_ne_some]
      rintro ⟨o, rest⟩ hsplit
      obtain ⟨q, hq, -⟩ := mem_sites_char.1 ((hat 0 o).1 (Occurrence.at_zero_iff.2 ⟨rest, hsplit⟩))
      omega
    · intro pos o
      rw [← hshift, ← show (Piece.char c :: ps).flatMap text = c :: ps.flatMap text from rfl, hat,
        mem_sites_char]
      simp
  · rintro ⟨rest, rfl, hnone, rfl, hat⟩
    refine ⟨rfl, ?_⟩
    intro pos o
    rw [mem_sites_char]
    cases pos with
    | zero =>
      -- At the character nothing is read, and behind it sites are moved by one.
      rw [Occurrence.at_zero_iff]
      simp [hnone]
    | succ q =>
      rw [hshift, hat]
      simp

/-- A reference takes up the whole of an occurrence. -/
theorem cuts_reference_iff {o : Occurrence} {ps : List Piece} {cs : List Char} :
    Cuts (.reference o :: ps) cs ↔ o.WellFormed ∧ ∃ rest, cs = o.text ++ rest ∧ Cuts ps rest := by
  have hpos := o.length_text_pos
  have hshift : ∀ (rest : List Char) (p : Occurrence) (q : Nat),
      p.At (o.text ++ rest) (q + o.text.length) ↔ p.At rest q := by
    intro rest p q
    rw [Nat.add_comm]
    exact Occurrence.at_append_length
  constructor
  · rintro ⟨rfl, hat⟩
    have hwell : o.WellFormed := ((hat 0 o).2 (mem_sites_reference.2 (Or.inl ⟨rfl, rfl⟩))).1
    refine ⟨hwell, ps.flatMap text, rfl, rfl, ?_⟩
    intro pos p
    -- The places behind `o` are those of the rest, moved by the length of `o`.
    have hat' := hat (pos + o.text.length) p
    rw [show (Piece.reference o :: ps).flatMap text = o.text ++ ps.flatMap text from rfl, hshift,
      mem_sites_reference] at hat'
    rw [hat']
    constructor
    · rintro (⟨hzero, -⟩ | ⟨q, hq, hmem⟩)
      · omega
      · obtain rfl : pos = q := by omega
        exact hmem
    · intro hmem
      exact Or.inr ⟨pos, rfl, hmem⟩
  · rintro ⟨hwell, rest, rfl, rfl, hat⟩
    refine ⟨rfl, ?_⟩
    intro pos p
    rw [mem_sites_reference]
    rcases Nat.eq_zero_or_pos pos with rfl | hpos'
    · -- At the head of the text only `o` is read.
      rw [Occurrence.at_zero_iff, Occurrence.split?_text_append hwell]
      constructor
      · rintro ⟨rest, hsplit⟩
        simp only [Option.some.injEq, Prod.mk.injEq] at hsplit
        exact Or.inl ⟨rfl, hsplit.1.symm⟩
      · rintro (⟨-, rfl⟩ | ⟨q, hq, -⟩)
        · exact ⟨_, rfl⟩
        · omega
    · rcases Nat.lt_or_ge pos o.text.length with hlt | hge
      · -- Inside of `o` nothing is read.
        constructor
        · intro h
          exact absurd h (Occurrence.not_at_inside hwell _ hpos' hlt)
        · rintro (⟨rfl, -⟩ | ⟨q, rfl, -⟩) <;> omega
      · obtain ⟨q, rfl⟩ : ∃ q, pos = q + o.text.length := ⟨pos - o.text.length, by omega⟩
        rw [hshift, hat]
        constructor
        · intro hmem
          exact Or.inr ⟨q, rfl, hmem⟩
        · rintro (⟨hzero, -⟩ | ⟨q', hq, hmem⟩)
          · omega
          · obtain rfl : q = q' := by omega
            exact hmem

/-- **The scanner cuts a text at its occurrences.** -/
theorem cuts_scan (cs : List Char) : Cuts (scan cs) cs := by
  induction cs using scan_induction with
  | nil =>
    refine ⟨rfl, ?_⟩
    rintro pos o
    simp [Occurrence.At, Occurrence.text_ne_nil, sites]
  | char c cs hsplit ih =>
    rw [scan_cons_of_split?_eq_none hsplit, cuts_char_iff]
    exact ⟨cs, rfl, hsplit, ih⟩
  | reference o rest hwell ih =>
    rw [scan_text_append hwell, cuts_reference_iff]
    exact ⟨hwell, rest, rfl, ih⟩

/-- **There is no other way to cut a text at its occurrences** than the scanner's. -/
theorem eq_scan_of_cuts {ps : List Piece} {cs : List Char} (h : Cuts ps cs) : ps = scan cs := by
  induction ps generalizing cs with
  | nil =>
    obtain rfl : [] = cs := h.flatMap_text
    rfl
  | cons p ps ih =>
    cases p with
    | char c =>
      obtain ⟨rest, rfl, hsplit, hrest⟩ := cuts_char_iff.1 h
      rw [scan_cons_of_split?_eq_none hsplit, ← ih hrest]
    | reference o =>
      obtain ⟨hwell, rest, rfl, hrest⟩ := cuts_reference_iff.1 h
      rw [scan_text_append hwell, ← ih hrest]

/-- A reference that the scanner reports is an occurrence of the text. -/
theorem reference_mem_scan_iff {cs : List Char} {o : Occurrence} :
    .reference o ∈ scan cs ↔ ∃ pos, Occurrence.At o cs pos := by
  rw [← exists_mem_sites_iff 0]
  exact exists_congr fun pos => ((cuts_scan cs).at_iff pos o).symm

/-- **A text has one cut only**, the one that the scanner makes. -/
theorem cuts_iff {ps : List Piece} {cs : List Char} : Cuts ps cs ↔ ps = scan cs :=
  ⟨eq_scan_of_cuts, fun h => h ▸ cuts_scan cs⟩

end Piece

end Grok
