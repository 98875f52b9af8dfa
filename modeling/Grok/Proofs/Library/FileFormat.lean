import Grok.Proofs.Library.Table
import Grok.Proofs.Reference.Occurrences
import Grok.Library.Layers
import Mathlib.Data.List.TakeWhile

namespace Grok

/-!
# The format of definition files

What a file of definitions says, told by its characters.

* `DefinitionFile.Lines` — how a content falls into lines; `DefinitionFile.lines_iff` — there is one
  way, and the reader finds it.
* `DefinitionFile.Defines` — what a line has to look like to define a name, and what the body is
  then; `DefinitionFile.read_eq_definition_iff` — the reader takes just these lines.
* `DefinitionFile.Merges` — merging lines into a table one after the other; lines that define
  nothing leave it as it is.
* `Layers.loadText_by_lines` — the table and the count that a content comes to.
-/

namespace DefinitionFile

/-! ### Lines -/

/-- A content falls into lines. A line goes up to a line feed or to the end of the content; a
    carriage return in front of the line feed is no part of it, and there is no empty line at the
    end. -/
inductive Lines : List Char → List (List Char) → Prop where
  | nil : Lines [] []
  | last {line : List Char} (hne : line ≠ []) (hline : '\n' ∉ line) : Lines line [line]
  | feed {line rest : List Char} {ls : List (List Char)} (hline : '\n' ∉ line)
      (hend : line.getLast? ≠ some '\r') (hrest : Lines rest ls) :
      Lines (line ++ '\n' :: rest) (line :: ls)
  | returnFeed {line rest : List Char} {ls : List (List Char)} (hline : '\n' ∉ line)
      (hrest : Lines rest ls) : Lines (line ++ '\r' :: '\n' :: rest) (line :: ls)

variable {line rest content : List Char} {ls : List (List Char)}

/-- Characters other than line feeds go on with the line. -/
theorem linesFrom_append (h : '\n' ∉ line) (before rest : List Char) :
    linesFrom before (line ++ rest) = linesFrom (line.reverse ++ before) rest := by
  induction line generalizing before with
  | nil => rfl
  | cons c line ih =>
    have hc : c ≠ '\n' := fun heq => h (heq ▸ List.mem_cons_self)
    rw [List.cons_append, linesFrom, if_neg hc, ih fun hmem => h (List.mem_cons_of_mem c hmem)]
    simp

/-- A line that ends in a line feed. -/
theorem lines_append_feed (h : '\n' ∉ line) (rest : List Char) :
    lines (line ++ '\n' :: rest) = dropReturn line :: lines rest := by
  rw [lines, linesFrom_append h, linesFrom, if_pos rfl, List.append_nil, List.reverse_reverse, lines]

/-- What is behind the last line feed. -/
theorem lines_of_feed_notMem (h : '\n' ∉ line) : lines line = if line = [] then [] else [line] := by
  have hall := linesFrom_append h [] []
  rw [List.append_nil, List.append_nil] at hall
  rw [lines, hall, linesFrom]
  simp

/-- One carriage return is dropped at the end of a line. -/
theorem dropReturn_concat (line : List Char) : dropReturn (line ++ ['\r']) = line := by
  simp [dropReturn]

theorem dropReturn_of_getLast?_ne (h : line.getLast? ≠ some '\r') : dropReturn line = line :=
  if_neg h

/-- **A content falls into lines in one way**, which is the one that the reader finds. -/
theorem lines_iff : Lines content ls ↔ ls = lines content := by
  constructor
  · intro h
    -- Line by line, by how the line ends.
    induction h with
    | nil => rfl
    | last hne hline => rw [lines_of_feed_notMem hline, if_neg hne]
    | feed hline hend _ ih => rw [lines_append_feed hline, dropReturn_of_getLast?_ne hend, ih]
    | @returnFeed line rest ls hline _ ih =>
      have hreturn : '\n' ∉ line ++ ['\r'] := by simpa using hline
      rw [List.append_cons, lines_append_feed hreturn, dropReturn_concat, ih]
  · rintro rfl
    induction hn : content.length using Nat.strongRecOn generalizing content with
    | ind n ih =>
      by_cases hmem : '\n' ∈ content
      · -- The first line feed ends the first line.
        obtain ⟨line, rest, rfl, hline⟩ := List.eq_append_cons_of_mem hmem
        have hrest : Lines rest (lines rest) := by
          rw [List.length_append, List.length_cons] at hn
          exact ih rest.length (by omega) rfl
        rw [lines_append_feed hline]
        by_cases hend : line.getLast? = some '\r'
        · obtain ⟨front, rfl⟩ := List.getLast?_eq_some_iff.1 hend
          rw [dropReturn_concat, ← List.append_cons]
          exact .returnFeed (fun hin => hline (List.mem_append_left _ hin)) hrest
        · rw [dropReturn_of_getLast?_ne hend]
          exact .feed hline hend hrest
      · rw [lines_of_feed_notMem hmem]
        split
        · rename_i hnil
          rw [hnil]
          exact .nil
        · rename_i hne
          exact .last hne hmem

/-! ### What a line defines -/

/-- A line defines a name as a body: white space that may be missing, the name, white space, and the
    rest as it is, which is the body. -/
structure Defines (line : List Char) (d : Definition) : Prop where
  exists_eq : ∃ indent gap, line = indent ++ (d.name.toList ++ (gap ++ d.body.toList)) ∧
    (∀ c ∈ indent, Unicode.isWhiteSpace c = true) ∧ gap ≠ [] ∧
    ∀ c ∈ gap, Unicode.isWhiteSpace c = true
  name_ne_nil : d.name.toList ≠ []
  name_chars : ∀ c ∈ d.name.toList, Occurrence.isNameChar c = true
  body_ne_nil : d.body.toList ≠ []
  body_begins : ∀ c ∈ d.body.toList.head?, Unicode.isWhiteSpace c = false

theorem whiteSpace_eq : Unicode.whiteSpace = ⟨[⟨9, 13⟩, ⟨32, 32⟩, ⟨133, 133⟩, ⟨160, 160⟩,
    ⟨5760, 5760⟩, ⟨8192, 8202⟩, ⟨8232, 8233⟩, ⟨8239, 8239⟩, ⟨8287, 8287⟩, ⟨12288, 12288⟩]⟩ := by
  decide +kernel

/-- A character of names is no white space. -/
theorem isWhiteSpace_of_isNameChar {c : Char} (h : Occurrence.isNameChar c = true) :
    Unicode.isWhiteSpace c = false := by
  have hrange : 48 ≤ c.toNat ∧ c.toNat ≤ 95 := by
    simp only [Occurrence.isNameChar, Char.isDigit, Bool.or_eq_true, Bool.and_eq_true,
      decide_eq_true_eq, beq_iff_eq, Char.le_def, UInt32.le_iff_toNat_le] at h
    rcases h with (⟨hlo, hhi⟩ | ⟨hlo, hhi⟩) | rfl
    · exact ⟨Nat.le_trans (by decide) hlo, Nat.le_trans hhi (by decide)⟩
    · exact ⟨hlo, Nat.le_trans hhi (by decide)⟩
    · decide
  rw [← Bool.not_eq_true, Unicode.isWhiteSpace, CharSet.contains_iff, whiteSpace_eq]
  simp only [CharSet.Mem, List.mem_cons, List.not_mem_nil, or_false, exists_eq_or_imp,
    exists_eq_left]
  omega

/-- A name is made of the characters that references allow for names. -/
theorem isName_iff {cs : List Char} :
    isName cs = true ↔ cs ≠ [] ∧ ∀ c ∈ cs, Occurrence.isNameChar c = true := by
  simp [isName]

/-- A text is cut behind the characters that are accepted. -/
theorem exists_cut (p : Char → Bool) (cs : List Char) :
    ∃ run rest, cs.takeWhile p = run ∧ cs.dropWhile p = rest ∧ cs = run ++ rest ∧
      (∀ c ∈ run, p c = true) ∧ ∀ c ∈ rest.head?, p c = false := by
  refine ⟨_, _, rfl, rfl, List.takeWhile_append_dropWhile.symm, fun c => List.mem_takeWhile_imp, ?_⟩
  intro c hc
  have hhead := List.head?_dropWhile_not p cs
  rw [Option.mem_def.1 hc] at hhead
  exact hhead

/-- The reader takes a line that defines something. -/
theorem Defines.read_eq {d : Definition} (h : Defines line d) : Line.read line = .definition d := by
  obtain ⟨⟨indent, gap, rfl, hindent, hgapne, hgap⟩, hname, hchars, hbody, hbegins⟩ := h
  obtain ⟨c, name, hcons⟩ := List.exists_cons_of_ne_nil hname
  obtain ⟨blank, gap, rfl⟩ := List.exists_cons_of_ne_nil hgapne
  have hc : Occurrence.isNameChar c = true := hchars c (by simp [hcons])
  -- The line is cut where white space begins or ends.
  have hstarts : ∀ x ∈ (d.name.toList ++ (blank :: gap ++ d.body.toList)).head?,
      Unicode.isWhiteSpace x = false := by
    rw [hcons]
    rintro x ⟨⟩
    exact isWhiteSpace_of_isNameChar hc
  have hvisible : ∀ x ∈ d.name.toList, (!Unicode.isWhiteSpace x) = true := by
    intro x hx
    rw [isWhiteSpace_of_isNameChar (hchars x hx), Bool.not_false]
  have hblank : ∀ x ∈ (blank :: gap ++ d.body.toList).head?, (!Unicode.isWhiteSpace x) = false := by
    rintro x ⟨⟩
    rw [hgap blank List.mem_cons_self, Bool.not_true]
  obtain ⟨-, hindented⟩ := Occurrence.takeWhile_dropWhile_append hindent hstarts
  obtain ⟨hword, hrest⟩ := Occurrence.takeWhile_dropWhile_append hvisible hblank
  obtain ⟨-, hbodycut⟩ := Occurrence.takeWhile_dropWhile_append hgap hbegins
  unfold Line.read
  dsimp only
  rw [hindented]
  split
  · rename_i hnil
    simp [hcons] at hnil
  · rename_i hcomment
    obtain rfl : c = '#' := by simpa [hcons] using congrArg List.head? hcomment
    exact absurd hc (by decide)
  · have hgood : ¬ (d.body.toList = [] ∨ isName d.name.toList = false) := by
      rw [not_or, Bool.not_eq_false, isName_iff]
      exact ⟨hbody, hname, hchars⟩
    rw [hword, hrest, if_neg (by simp), hbodycut, if_neg hgood, String.ofList_toList,
      String.ofList_toList]

/-- What the reader takes defines something. -/
theorem defines_of_read {d : Definition} (h : Line.read line = .definition d) : Defines line d := by
  unfold Line.read at h
  dsimp only at h
  obtain ⟨indent, cs, -, hcs, rfl, hindent, -⟩ := exists_cut Unicode.isWhiteSpace line
  rw [hcs] at h
  split at h
  · cases h
  · cases h
  · obtain ⟨name, rest, hname, hrest, rfl, -, hblank⟩ :=
      exists_cut (fun c => !Unicode.isWhiteSpace c) cs
    obtain ⟨gap, body, -, hbody, rfl, hgap, hbegins⟩ := exists_cut Unicode.isWhiteSpace rest
    rw [hname, hrest, hbody] at h
    split at h
    · cases h
    · split at h
      · cases h
      · rename_i hgood
        rw [not_or, Bool.not_eq_false, isName_iff] at hgood
        obtain ⟨hbodyne, hnamene, hchars⟩ := hgood
        obtain rfl := Line.definition.inj h
        have hgapne : gap ≠ [] := by
          -- Without white space the name would go on with the body.
          rintro rfl
          obtain ⟨c, body, rfl⟩ := List.exists_cons_of_ne_nil hbodyne
          have hwhite := hblank c rfl
          rw [hbegins c rfl] at hwhite
          cases hwhite
        refine ⟨⟨indent, gap, ?_, hindent, hgapne, hgap⟩, ?_, ?_, ?_, ?_⟩
        · rw [String.toList_ofList, String.toList_ofList]
        · rwa [String.toList_ofList]
        · rwa [String.toList_ofList]
        · rwa [String.toList_ofList]
        · rwa [String.toList_ofList]

/-- **The reader takes just the lines that define something.** -/
theorem read_eq_definition_iff {d : Definition} : Line.read line = .definition d ↔ Defines line d :=
  ⟨defines_of_read, Defines.read_eq⟩

instance {d : Definition} : Decidable (Defines line d) :=
  decidable_of_iff _ read_eq_definition_iff

/-- A line is read as the definition that it is. -/
theorem definition?_read_eq_some_iff {d : Definition} :
    (Line.read line).definition? = some d ↔ Defines line d := by
  rw [← read_eq_definition_iff]
  cases Line.read line <;> simp [Line.definition?]

/-- So it gives a definition if it is one. -/
theorem isSome_definition?_read_iff :
    (Line.read line).definition?.isSome = true ↔ ∃ d, Defines line d := by
  simp only [Option.isSome_iff_exists, definition?_read_eq_some_iff]

instance : Decidable (∃ d, Defines line d) := decidable_of_iff _ isSome_definition?_read_iff

/-! ### Merging lines into a table -/

/-- Lines are merged into a table one after the other, and counted: one that defines something puts
    that into the table, in place of what the name had, and any other line changes nothing. -/
inductive Merges : Library × Nat → List (List Char) → Library × Nat → Prop where
  | nil (t : Library × Nat) : Merges t [] t
  | definition {l : Library} {n : Nat} {line : List Char} {ls : List (List Char)}
      {t : Library × Nat} {d : Definition} (hline : Defines line d)
      (hrest : Merges (l.insert d, n + 1) ls t) : Merges (l, n) (line :: ls) t
  | other {line : List Char} {ls : List (List Char)} {t t' : Library × Nat}
      (hline : ∀ d, ¬ Defines line d) (hrest : Merges t ls t') : Merges t (line :: ls) t'

/-- What some lines define, one after the other. -/
def ofLines (ls : List (List Char)) : List Definition :=
  ls.flatMap fun line => (Line.read line).definition?.toList

theorem definitions_eq (content : List Char) : definitions content = ofLines (lines content) := by
  rw [definitions, read, List.filterMap_map, List.filterMap_eq_flatMap_toList, ofLines]
  rfl

/-- The definitions of lines are merged one after the other, and counted. -/
theorem merges_insertAll (l : Library) (n : Nat) (ls : List (List Char)) :
    Merges (l, n) ls (l.insertAll (ofLines ls), n + (ofLines ls).length) := by
  induction ls generalizing l n with
  | nil => exact .nil (l, n)
  | cons line ls ih =>
    rw [ofLines, List.flatMap_cons, ← ofLines]
    cases hread : (Line.read line).definition? with
    | none =>
      refine .other (fun d hd => ?_) (ih l n)
      rw [definition?_read_eq_some_iff.2 hd] at hread
      cases hread
    | some d =>
      have hrest := ih (l.insert d) (n + 1)
      rw [Nat.add_assoc, Nat.add_comm 1] at hrest
      exact .definition (definition?_read_eq_some_iff.1 hread) hrest

/-- As many definitions are read as there are lines that define something. -/
theorem length_ofLines (ls : List (List Char)) :
    (ofLines ls).length = ls.countP fun line => ∃ d, Defines line d := by
  induction ls with
  | nil => rfl
  | cons line ls ih =>
    rw [ofLines, List.flatMap_cons, ← ofLines, List.length_append, ih, List.countP_cons]
    cases hread : (Line.read line).definition? with
    | none =>
      have hnone : ¬ ∃ d, Defines line d := by
        rw [← isSome_definition?_read_iff, hread]
        exact Bool.false_ne_true
      simp [hnone]
    | some d =>
      have hsome : ∃ d, Defines line d := ⟨d, definition?_read_eq_some_iff.1 hread⟩
      simp [hsome, Nat.add_comm]

/-- What a single line says about a name. -/
theorem lastBody?_line_eq_some_iff {n body : String} :
    Definition.lastBody? (Line.read line).definition?.toList n = some body ↔
      Defines line ⟨n, body⟩ := by
  rw [← definition?_read_eq_some_iff]
  cases (Line.read line).definition? with
  | none => simp [Definition.lastBody?]
  | some d =>
    obtain ⟨name, text⟩ := d
    rw [Option.toList_some, Definition.lastBody?_singleton]
    simp

/-- A line that defines no such name leaves it as it is. -/
theorem lastBody?_line_eq_none_iff {n : String} :
    Definition.lastBody? (Line.read line).definition?.toList n = none ↔
      ∀ body, ¬ Defines line ⟨n, body⟩ := by
  simp only [← lastBody?_line_eq_some_iff, Option.eq_none_iff_forall_ne_some]

/-- **The last line that defines a name counts.** -/
theorem lastBody?_ofLines_eq_some_iff {n body : String} :
    Definition.lastBody? (ofLines ls) n = some body ↔
      ∃ before line after, ls = before ++ line :: after ∧ Defines line ⟨n, body⟩ ∧
        ∀ later ∈ after, ∀ b, ¬ Defines later ⟨n, b⟩ := by
  constructor
  · intro h
    obtain ⟨before, line, after, hls, hline, hafter⟩ := Definition.lastBody?_flatMap_eq_some h
    exact ⟨before, line, after, hls, lastBody?_line_eq_some_iff.1 hline,
      fun later hlater => lastBody?_line_eq_none_iff.1 (hafter later hlater)⟩
  · rintro ⟨before, line, after, rfl, hline, hafter⟩
    have hnone : Definition.lastBody? (ofLines after) n = none :=
      Definition.lastBody?_flatMap_eq_none_iff.2 fun later hlater =>
        lastBody?_line_eq_none_iff.2 (hafter later hlater)
    rw [ofLines, List.flatMap_append, List.flatMap_cons, ← ofLines, ← ofLines,
      Definition.lastBody?_append, Definition.lastBody?_append, hnone,
      lastBody?_line_eq_some_iff.2 hline]
    rfl

/-- So do lines none of which defines it. -/
theorem lastBody?_ofLines_eq_none_iff {n : String} :
    Definition.lastBody? (ofLines ls) n = none ↔
      ∀ line ∈ ls, ∀ body, ¬ Defines line ⟨n, body⟩ := by
  rw [ofLines, Definition.lastBody?_flatMap_eq_none_iff]
  exact forall₂_congr fun line _ => lastBody?_line_eq_none_iff

end DefinitionFile

namespace Layers

open DefinitionFile (Lines Defines Merges Line)

/-- **A file of definitions is read line by line.** Its content falls into lines in one way, and the
    reader takes just those that define something. They are merged into the table in their order,
    and what else there is changes nothing: afterwards a name has the body of the last line that
    defines it, or what it had before if there is none, and the count is that of the lines that
    define something. -/
theorem loadText_by_lines (l : Library) (content : List Char) :
    let lines := DefinitionFile.lines content
    (∀ ls, Lines content ls ↔ ls = lines) ∧
    (∀ line d, Line.read line = .definition d ↔ Defines line d) ∧
    Merges (l, 0) lines (loadText l content) ∧
    (∀ n body, (loadText l content).1.get? n = some body ↔
      (∃ before line after, lines = before ++ line :: after ∧ Defines line ⟨n, body⟩ ∧
        ∀ later ∈ after, ∀ b, ¬ Defines later ⟨n, b⟩) ∨
      ((∀ line ∈ lines, ∀ b, ¬ Defines line ⟨n, b⟩) ∧ l.get? n = some body)) ∧
    (loadText l content).2 = lines.countP fun line => ∃ d, Defines line d := by
  intro lines
  have hload : loadText l content =
      (l.insertAll (DefinitionFile.ofLines lines), (DefinitionFile.ofLines lines).length) := by
    rw [loadText, DefinitionFile.definitions_eq]
  refine ⟨fun _ => DefinitionFile.lines_iff, fun _ _ => DefinitionFile.read_eq_definition_iff, ?_,
    fun n body => ?_, ?_⟩
  · have hmerges := DefinitionFile.merges_insertAll l 0 lines
    rwa [Nat.zero_add, ← hload] at hmerges
  · rw [hload, Library.get?_insertAll, Option.or_eq_some_iff,
      DefinitionFile.lastBody?_ofLines_eq_some_iff, DefinitionFile.lastBody?_ofLines_eq_none_iff]
  · rw [hload, DefinitionFile.length_ofLines]

/-- A table to load into, and a content with both kinds of line ends, a comment, white space of
    several kinds, a name in small letters, and a name without a body in front of a carriage return. -/
def earlier : Library := Library.empty.insertAll [⟨"A", "old"⟩, ⟨"C", "kept"⟩]

def mixed : List Char :=
  "A one\r\n # A no\nB\u00A0\u2003x # y \t\r\nlower x\nA two\nA\r".toList

/-- Three lines define something. The last one for a name counts, its body is taken as it is written,
    and a name that no line defines keeps its body. -/
theorem loadText_by_lines_mixed :
    (DefinitionFile.lines mixed).countP (fun line => ∃ d, Defines line d) = 3 ∧
      Defines "B\u00A0\u2003x # y \t".toList ⟨"B", "x # y \t"⟩ ∧
      (∃ before line after, DefinitionFile.lines mixed = before ++ line :: after ∧
        Defines line ⟨"A", "two"⟩ ∧ ∀ later ∈ after, ∀ b, ¬ Defines later ⟨"A", b⟩) ∧
      ∀ line ∈ DefinitionFile.lines mixed, ∀ b, ¬ Defines line ⟨"C", b⟩ := by
  obtain ⟨-, hread, -, hget, hcount⟩ := loadText_by_lines earlier mixed
  refine ⟨hcount.symm.trans (by decide +kernel), (hread _ _).1 (by decide +kernel), ?_, ?_⟩
  · -- What the table says of a name is due to a line of the file, or to none.
    rcases (hget "A" "two").1 (by decide +kernel) with hline | ⟨-, hold⟩
    · exact hline
    · exact absurd hold (by decide +kernel)
  · rcases (hget "C" "kept").1 (by decide +kernel) with hline | ⟨hnone, -⟩
    · obtain ⟨before, line, after, hlines, hline, -⟩ := hline
      have hmem : line ∈ DefinitionFile.lines mixed := hlines ▸ by simp
      have hall : ∀ line ∈ DefinitionFile.lines mixed, ¬ Defines line ⟨"C", "kept"⟩ := by
        decide +kernel
      exact absurd hline (hall line hmem)
    · exact hnone

end Layers

end Grok
