import Grok.Proofs.Library.FileFormat

namespace Grok

/-!
# Definition files in print

A table of definitions is written as a file, a line for each definition, and read back from there.

* `DefinitionFile.Storable` — the definitions that a line can hold; no other one comes out of a file.
* `DefinitionFile.write` — definitions as a file, with a choice of line end for each line.
* `DefinitionFile.lines_write` — the file falls into the lines that were written, if none that ends
  in a line feed alone has a carriage return in front of it.
* `Layers.loadText_write` — so the table is read back, whatever the order of its lines.
* `Layers.definitions_read_back` — and tables of storable definitions are all that files can hold.
-/

namespace DefinitionFile

/-- A definition that a line can hold: its name is made of the characters of names, and its body goes
    on to the end of the line and does not begin with white space. -/
structure Storable (d : Definition) : Prop where
  name_ne_nil : d.name.toList ≠ []
  name_chars : ∀ c ∈ d.name.toList, Occurrence.isNameChar c = true
  body_ne_nil : d.body.toList ≠ []
  body_begins : ∀ c ∈ d.body.toList.head?, Unicode.isWhiteSpace c = false
  feed_notMem : '\n' ∉ d.body.toList

/-- The body of a definition ends in a carriage return. -/
def EndsInReturn (d : Definition) : Prop := d.body.toList.getLast? = some '\r'

/-- What ends a line. -/
inductive LineEnd where
  | feed
  | returnFeed
  deriving DecidableEq, Repr

/-- A line end as written. -/
def LineEnd.text : LineEnd → List Char
  | .feed => ['\n']
  | .returnFeed => ['\r', '\n']

/-- The line of a definition, without its end. -/
def lineOf (d : Definition) : List Char := d.name.toList ++ ' ' :: d.body.toList

/-- Definitions as a file, one a line; `lineEnd` says how the line of each of them ends. -/
def write (lineEnd : Definition → LineEnd) (ds : List Definition) : List Char :=
  ds.flatMap fun d => lineOf d ++ (lineEnd d).text

variable {d : Definition} {ds : List Definition} {content : List Char}

theorem storable_iff : Storable d ↔ isName d.name.toList = true ∧ d.body.toList ≠ [] ∧
    (d.body.toList.head?.all fun c => !Unicode.isWhiteSpace c) = true ∧ '\n' ∉ d.body.toList := by
  have hbegins : (d.body.toList.head?.all fun c => !Unicode.isWhiteSpace c) = true ↔
      ∀ c ∈ d.body.toList.head?, Unicode.isWhiteSpace c = false := by
    cases d.body.toList.head? <;> simp
  rw [isName_iff, hbegins]
  exact ⟨fun h => ⟨⟨h.name_ne_nil, h.name_chars⟩, h.body_ne_nil, h.body_begins, h.feed_notMem⟩,
    fun ⟨⟨hname, hchars⟩, hbody, hhead, hfeed⟩ => ⟨hname, hchars, hbody, hhead, hfeed⟩⟩

instance : Decidable (Storable d) := decidable_of_iff _ storable_iff.symm

instance : Decidable (EndsInReturn d) := inferInstanceAs (Decidable (_ = _))

/-! ### What is written -/

theorem isWhiteSpace_blank : Unicode.isWhiteSpace ' ' = true := by decide +kernel

/-- A storable definition is what its line defines. -/
theorem Storable.defines (h : Storable d) : Defines (lineOf d) d where
  exists_eq := ⟨[], [' '], rfl, by simp, by simp, by simp [isWhiteSpace_blank]⟩
  name_ne_nil := h.name_ne_nil
  name_chars := h.name_chars
  body_ne_nil := h.body_ne_nil
  body_begins := h.body_begins

/-- A definition that can be stored is a single line. -/
theorem Storable.feed_notMem_lineOf (h : Storable d) : '\n' ∉ lineOf d := by
  have hname : '\n' ∉ d.name.toList := fun hmem => absurd (h.name_chars _ hmem) (by decide)
  simp [lineOf, hname, h.feed_notMem]

/-- The line ends as the body does. -/
theorem Storable.getLast?_lineOf (h : Storable d) :
    (lineOf d).getLast? = d.body.toList.getLast? := by
  obtain ⟨c, body, hbody⟩ := List.exists_cons_of_ne_nil h.body_ne_nil
  simp [lineOf, hbody, List.getLast?_cons]

/-- **A file falls into the lines that were written.** -/
theorem lines_write {lineEnd : Definition → LineEnd} (hds : ∀ d ∈ ds, Storable d)
    (hend : ∀ d ∈ ds, EndsInReturn d → lineEnd d = .returnFeed) :
    Lines (write lineEnd ds) (ds.map lineOf) := by
  induction ds with
  | nil => exact .nil
  | cons d ds ih =>
    rw [List.forall_mem_cons] at hds hend
    have hrest := ih hds.2 hend.2
    have hline := hds.1.feed_notMem_lineOf
    rw [write, List.flatMap_cons, ← write, List.map_cons, List.append_assoc]
    cases hd : lineEnd d with
    | feed =>
      refine .feed hline (fun hlast => ?_) hrest
      rw [hds.1.getLast?_lineOf] at hlast
      rw [hend.1 hlast] at hd
      cases hd
    | returnFeed => exact .returnFeed hline hrest

/-- Lines of such definitions are read as these definitions. -/
theorem ofLines_map_lineOf (hds : ∀ d ∈ ds, Storable d) : ofLines (ds.map lineOf) = ds := by
  induction ds with
  | nil => rfl
  | cons d ds ih =>
    rw [List.forall_mem_cons] at hds
    rw [List.map_cons, ofLines, List.flatMap_cons, ← ofLines, ih hds.2, hds.1.defines.read_eq]
    rfl

/-- So is a file of them, if no body that ends in a carriage return has a bare line feed for its
line end. -/
theorem definitions_write {lineEnd : Definition → LineEnd} (hds : ∀ d ∈ ds, Storable d)
    (hend : ∀ d ∈ ds, EndsInReturn d → lineEnd d = .returnFeed) :
    definitions (write lineEnd ds) = ds := by
  rw [definitions_eq, ← lines_iff.1 (lines_write hds hend), ofLines_map_lineOf hds]

/-! ### What is read -/

/-- No line holds a line feed. -/
theorem feed_notMem_of_lines {ls : List (List Char)} (h : Lines content ls) :
    ∀ line ∈ ls, '\n' ∉ line := by
  induction h with
  | nil => simp
  | last _ hline => simpa using hline
  | feed hline _ _ ih => simpa [hline] using ih
  | returnFeed hline _ ih => simpa [hline] using ih

/-- **What a file defines is storable.** -/
theorem storable_of_mem_definitions (h : d ∈ definitions content) : Storable d := by
  rw [definitions_eq, ofLines, List.mem_flatMap] at h
  obtain ⟨line, hline, hd⟩ := h
  have hdefines : Defines line d := definition?_read_eq_some_iff.1 (by simpa using hd)
  have hfeed := feed_notMem_of_lines (lines_iff.2 rfl) line hline
  obtain ⟨indent, gap, rfl, -⟩ := hdefines.exists_eq
  exact ⟨hdefines.name_ne_nil, hdefines.name_chars, hdefines.body_ne_nil, hdefines.body_begins,
    fun hmem => hfeed (by simp [hmem])⟩

end DefinitionFile

namespace Layers

open DefinitionFile (Storable EndsInReturn LineEnd write)

/-- **A table is read back from the file that it was written to.** -/
theorem loadText_write {t : Library} {ds : List Definition} {lineEnd : Definition → LineEnd}
    (hperm : ds.Perm t.definitions) (ht : ∀ d ∈ t.definitions, Storable d)
    (hend : ∀ d ∈ t.definitions, EndsInReturn d → lineEnd d = .returnFeed) :
    loadText .empty (write lineEnd ds) = (t, t.size) := by
  have hds : DefinitionFile.definitions (write lineEnd ds) = ds :=
    DefinitionFile.definitions_write (fun d hd => ht d (hperm.mem_iff.1 hd))
      fun d hd => hend d (hperm.mem_iff.1 hd)
  rw [loadText, hds, Library.insertAll_of_perm hperm, hperm.length_eq]
  rfl

/-- Whatever is loaded from a file can be stored. -/
theorem storable_of_mem_loadText {content : List Char} {d : Definition}
    (h : d ∈ (loadText .empty content).1.definitions) : Storable d := by
  rw [Library.mem_definitions_iff, loadText, Library.get?_insertAll, Library.get?_empty,
    Option.or_none] at h
  exact DefinitionFile.storable_of_mem_definitions (Definition.mem_of_lastBody?_eq_some h)

/-- **Definition files can be written back.** A table of storable definitions, no body of which ends
    in a carriage return, is read back from a file with a line for each definition, in any order and
    with line ends of either kind, and the count is the number of definitions. And the tables that
    come out of files, whatever their content, are just those of storable definitions, where a body
    may end in a carriage return. -/
theorem definitions_read_back (t : Library) :
    ((∀ d ∈ t.definitions, Storable d ∧ ¬ EndsInReturn d) →
      ∀ ds : List Definition, ds.Perm t.definitions → ∀ lineEnd : Definition → LineEnd,
        loadText .empty (write lineEnd ds) = (t, t.size)) ∧
    ((∃ content, (loadText .empty content).1 = t) ↔ ∀ d ∈ t.definitions, Storable d) := by
  refine ⟨fun ht ds hperm lineEnd => ?_, fun ⟨content, hcontent⟩ d hd => ?_, fun ht => ?_⟩
  · exact loadText_write hperm (fun d hd => (ht d hd).1) fun d hd hreturn =>
      absurd hreturn (ht d hd).2
  · exact storable_of_mem_loadText (hcontent ▸ hd)
  · -- Behind a carriage return of its own, a line ends in another one and a line feed.
    refine ⟨write (fun _ => .returnFeed) t.definitions, ?_⟩
    rw [loadText_write (.refl _) ht fun _ _ _ => rfl]

/-- A body with a carriage return, a hash and white space at its end, and one that starts with a
    hash. -/
def notes : Library := Library.empty.insertAll [⟨"A", "x\ry # \t"⟩, ⟨"B_1", "#\u2003"⟩]

/-- A body that ends in a carriage return. -/
def ragged : Library := Library.empty.insertAll [⟨"C", "z\r"⟩]

/-- The lines may stand in another order and end differently. A body that ends in a carriage return
    comes out of a file too. -/
theorem definitions_read_back_notes :
    (∀ d ∈ notes.definitions, Storable d ∧ ¬ EndsInReturn d) ∧
      [⟨"B_1", "#\u2003"⟩, ⟨"A", "x\ry # \t"⟩].Perm notes.definitions ∧
      loadText .empty "B_1 #\u2003\nA x\ry # \t\r\n".toList = (notes, 2) ∧
      ∃ content, (loadText .empty content).1 = ragged := by
  have hnotes : ∀ d ∈ notes.definitions, Storable d ∧ ¬ EndsInReturn d := by decide +kernel
  have hperm : [⟨"B_1", "#\u2003"⟩, ⟨"A", "x\ry # \t"⟩].Perm notes.definitions := by decide +kernel
  have hragged : ∀ d ∈ ragged.definitions, Storable d := by decide +kernel
  refine ⟨hnotes, hperm, ?_, (definitions_read_back ragged).2.2 hragged⟩
  have hload := (definitions_read_back notes).1 hnotes _ hperm
    fun d => if d.name = "A" then .returnFeed else .feed
  exact hload

end Layers

end Grok
