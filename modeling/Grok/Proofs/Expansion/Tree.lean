import Grok.Proofs.Expansion.Stack
import Grok.Proofs.Reference.Occurrences

namespace Grok.Expansion

/-!
# The tree of an expansion

An expression is literal text with references in between, and each reference stands for a text that
is again of that form. `Tree` holds all of it; what an expansion gives is read off the tree.

* `Tree.IsOf` — the tree cuts a text at its occurrences; `Tree.Unfolds` — below each reference hangs
  the tree of its definition. `Tree.eq_of_isOf`: there is at most one such tree.
* `Tree.yield` is the expanded text and `Tree.preorder` the references in the order of opening.
* `Tree.marks` is the expanded text with the groups that were put around fragments told apart from
  the characters of the texts.
* `Library.exists_tree_of_expand` — every expansion that succeeds has a tree.
* `Compiler.expand_eq_yield` — an expanded expression is the yield of its tree, and the references
  of its matcher are the preorder.
-/

/-- Literal text with references in between, each with the tree of its definition. -/
inductive Tree where
  /-- literal text to the end -/
  | literal (cs : List Char)
  /-- literal text, a reference with the tree of its definition, and what follows -/
  | reference (cs : List Char) (o : Occurrence) (definition rest : Tree)
  deriving Repr

/-- The group that a reference is captured in: named for its field, else for its definition, unless
    only fields are captured. -/
def captureName? (fieldsOnly : Bool) (o : Occurrence) : Option String :=
  match o.field with
  | some field => some field
  | none => if fieldsOnly then none else some o.name

/-- A character of a text, or an end of a group that an expansion put around a fragment. -/
inductive Mark where
  | char (c : Char)
  | opening (name : String)
  | closing
  deriving DecidableEq, Repr

namespace Mark

/-- A mark as it is written. -/
def text : Mark → List Char
  | .char c => [c]
  | .opening name => "(?<".toList ++ name.toList ++ ['>']
  | .closing => [')']

/-- The name of a group that opens. -/
def opened? : Mark → Option String
  | .opening name => some name
  | _ => none

/-- A fragment in the group of its reference, if it is captured. -/
def enclose (fieldsOnly : Bool) (o : Occurrence) (fragment : List Mark) : List Mark :=
  match captureName? fieldsOnly o with
  | some name => .opening name :: fragment ++ [.closing]
  | none => fragment

end Mark

namespace Tree

/-- The pieces of the text that the tree is of. -/
def pieces : Tree → List Piece
  | literal cs => cs.map .char
  | reference cs o _ rest => cs.map .char ++ .reference o :: rest.pieces

/-- The literal text as it is, and each reference replaced by the yield of its definition, in a
    group of its own where it is captured. -/
def yield (fieldsOnly : Bool) : Tree → List Char
  | literal cs => cs
  | reference cs o definition rest =>
    cs ++ wrap fieldsOnly o (definition.yield fieldsOnly) ++ rest.yield fieldsOnly

/-- The references from left to right, each before the ones in its definition. -/
def preorder : Tree → List Occurrence
  | literal _ => []
  | reference _ o definition rest => o :: definition.preorder ++ rest.preorder

/-- The yield with the groups around fragments told apart from characters. -/
def marks (fieldsOnly : Bool) : Tree → List Mark
  | literal cs => cs.map .char
  | reference cs o definition rest =>
    cs.map .char ++ Mark.enclose fieldsOnly o (definition.marks fieldsOnly) ++ rest.marks fieldsOnly

/-- The tree cuts `text` at its occurrences. -/
def IsOf (t : Tree) (text : List Char) : Prop := Piece.Cuts t.pieces text

/-- Below each reference hangs the tree of its definition. -/
def Unfolds (l : Library) : Tree → Prop
  | literal _ => True
  | reference _ o definition rest =>
    (∃ body, l.get? o.name = some body ∧ definition.IsOf body.toList) ∧
      definition.Unfolds l ∧ rest.Unfolds l

/-! ### There is one tree -/

/-- Literal texts are told apart by their pieces. -/
theorem map_char_inj {cs ds : List Char} (h : cs.map Piece.char = ds.map Piece.char) : cs = ds :=
  List.map_injective_iff.2 (fun _ _ => Piece.char.inj) h

/-- The literal text in front of the first reference is told by the pieces. -/
theorem append_reference_inj {cs ds : List Char} {o p : Occurrence} {ps qs : List Piece}
    (h : cs.map Piece.char ++ .reference o :: ps = ds.map Piece.char ++ .reference p :: qs) :
    cs = ds ∧ o = p ∧ ps = qs := by
  induction cs generalizing ds with
  | nil =>
    cases ds with
    | nil => simpa using h
    | cons d ds => simp at h
  | cons c cs ih =>
    cases ds with
    | nil => simp at h
    | cons d ds =>
      simp only [List.map_cons, List.cons_append, List.cons.injEq, Piece.char.injEq] at h
      obtain ⟨rfl, h⟩ := h
      obtain ⟨rfl, rfl, rfl⟩ := ih h
      exact ⟨rfl, rfl, rfl⟩

/-- There is no reference in literal text. -/
theorem reference_notMem_map_char {cs : List Char} {o : Occurrence} :
    Piece.reference o ∉ cs.map Piece.char := by
  simp

/-- Trees with the same pieces are the same, for a definition has one tree. -/
theorem eq_of_pieces_eq {l : Library} {t u : Tree} (ht : t.Unfolds l) (hu : u.Unfolds l)
    (h : t.pieces = u.pieces) : t = u := by
  induction t generalizing u with
  | literal cs =>
    cases u with
    | literal ds => rw [map_char_inj h]
    | reference ds p e rest =>
      have hmem : Piece.reference p ∈ cs.map Piece.char := by
        rw [show cs.map Piece.char = _ from h]
        simp [pieces]
      exact absurd hmem reference_notMem_map_char
  | reference cs o d rest ihd ihrest =>
    cases u with
    | literal ds =>
      -- A text without references has other pieces than one with a reference.
      have hmem : Piece.reference o ∈ ds.map Piece.char := by
        rw [← show _ = ds.map Piece.char from h]
        simp [pieces]
      exact absurd hmem reference_notMem_map_char
    | reference ds p e rest' =>
      obtain ⟨⟨body, hbody, hd⟩, hdUnfolds, hrest⟩ := ht
      obtain ⟨⟨body', hbody', he⟩, heUnfolds, hrest'⟩ := hu
      obtain ⟨rfl, rfl, hps⟩ := append_reference_inj h
      obtain rfl : body = body' := Option.some.inj (hbody.symm.trans hbody')
      have hpieces : d.pieces = e.pieces :=
        (Piece.eq_scan_of_cuts hd).trans (Piece.eq_scan_of_cuts he).symm
      rw [ihd hdUnfolds heUnfolds hpieces, ihrest hrest hrest' hps]

/-- **There is at most one tree of a text.** -/
theorem eq_of_isOf {l : Library} {t u : Tree} {text : List Char} (ht : t.IsOf text)
    (htUnfolds : t.Unfolds l) (hu : u.IsOf text) (huUnfolds : u.Unfolds l) : t = u :=
  eq_of_pieces_eq htUnfolds huUnfolds
    ((Piece.eq_scan_of_cuts ht).trans (Piece.eq_scan_of_cuts hu).symm)

/-! ### The yield in marks -/

/-- A fragment is wrapped just as its marks are enclosed. -/
theorem flatMap_text_enclose (fieldsOnly : Bool) (o : Occurrence) (ms : List Mark) :
    (Mark.enclose fieldsOnly o ms).flatMap Mark.text =
      wrap fieldsOnly o (ms.flatMap Mark.text) := by
  unfold Mark.enclose captureName? wrap
  cases o.field with
  | some field => simp [Mark.text, group]
  | none => cases fieldsOnly <;> simp [Mark.text, group]

/-- A group around marks opens in front of those within. -/
theorem filterMap_opened?_enclose (fieldsOnly : Bool) (o : Occurrence) (ms : List Mark) :
    (Mark.enclose fieldsOnly o ms).filterMap Mark.opened? =
      (captureName? fieldsOnly o).toList ++ ms.filterMap Mark.opened? := by
  unfold Mark.enclose
  cases captureName? fieldsOnly o with
  | some name => simp [Mark.opened?]
  | none => simp

/-- Written out, the marks are the yield. -/
theorem flatMap_text_marks (fieldsOnly : Bool) (t : Tree) :
    (t.marks fieldsOnly).flatMap Mark.text = t.yield fieldsOnly := by
  have hchars : ∀ cs : List Char, (cs.map Mark.char).flatMap Mark.text = cs := by
    intro cs
    induction cs with
    | nil => rfl
    | cons c cs ih =>
      simp only [List.map_cons, List.flatMap_cons, ih, Mark.text, List.singleton_append]
  induction t with
  | literal cs => exact hchars cs
  | reference cs o d rest ihd ihrest =>
    simp only [marks, yield, List.flatMap_append, hchars, flatMap_text_enclose, ihd, ihrest]

/-- **The groups open in the order of the references that are captured.** -/
theorem filterMap_opened?_marks (fieldsOnly : Bool) (t : Tree) :
    (t.marks fieldsOnly).filterMap Mark.opened? =
      t.preorder.filterMap (captureName? fieldsOnly) := by
  have hchars : ∀ cs : List Char, (cs.map Mark.char).filterMap Mark.opened? = [] := by
    intro cs
    simp [List.filterMap_map, Function.comp_def, Mark.opened?]
  induction t with
  | literal cs => exact hchars cs
  | reference cs o d rest ihd ihrest =>
    simp only [marks, preorder, List.filterMap_append, hchars, filterMap_opened?_enclose, ihd,
      ihrest, List.nil_append, List.cons_append, List.filterMap_cons, List.append_assoc]
    cases captureName? fieldsOnly o <;> simp

/-! ### The tree of an expansion -/

/-- One more character of literal text in front. -/
def cons (c : Char) : Tree → Tree
  | literal cs => literal (c :: cs)
  | reference cs o definition rest => reference (c :: cs) o definition rest

theorem pieces_cons (c : Char) (t : Tree) : (t.cons c).pieces = .char c :: t.pieces := by
  cases t <;> rfl

theorem yield_cons (fieldsOnly : Bool) (c : Char) (t : Tree) :
    (t.cons c).yield fieldsOnly = c :: t.yield fieldsOnly := by
  cases t <;> simp [cons, yield]

theorem preorder_cons (c : Char) (t : Tree) : (t.cons c).preorder = t.preorder := by
  cases t <;> rfl

theorem unfolds_cons {l : Library} {c : Char} {t : Tree} : (t.cons c).Unfolds l ↔ t.Unfolds l := by
  cases t <;> rfl

/-- An expansion gives `cs` as its text and has opened `os`, both as the tree says. -/
structure Gives (t : Tree) (fieldsOnly : Bool) (e : Expansion) : Prop where
  outcome : e.outcome = .ok (t.yield fieldsOnly)
  opened : e.opened = t.preorder

/-- Pieces whose occurrences have trees make up a tree. -/
theorem exists_of_ofPieces {l : Library} {fieldsOnly : Bool} {expand : Occurrence → Expansion}
    {ps : List Piece}
    (hexpand : ∀ o, .reference o ∈ ps → ∀ cs, (expand o).outcome = .ok cs →
      ∃ (d : Tree) (body : String), l.get? o.name = some body ∧ d.IsOf body.toList ∧ d.Unfolds l ∧
        cs = d.yield fieldsOnly ∧ (expand o).opened = o :: d.preorder)
    {cs : List Char} (hok : (ofPieces fieldsOnly expand ps).outcome = .ok cs) :
    ∃ t : Tree, t.pieces = ps ∧ t.Unfolds l ∧
      t.Gives fieldsOnly (ofPieces fieldsOnly expand ps) := by
  induction ps generalizing cs with
  | nil => exact ⟨literal [], rfl, trivial, rfl, rfl⟩
  | cons p ps ih =>
    cases p with
    | char c =>
      rw [ofPieces] at hok ⊢
      cases hrest : (ofPieces fieldsOnly expand ps).outcome with
      | error e => simp [hrest, Except.map] at hok
      | ok more =>
        obtain ⟨t, hps, hunfolds, hgives⟩ :=
          ih (fun o ho => hexpand o (List.mem_cons_of_mem _ ho)) hrest
        -- The character joins the literal text at the head of the tree.
        obtain rfl : more = t.yield fieldsOnly := Except.ok.inj (hrest.symm.trans hgives.outcome)
        refine ⟨t.cons c, by rw [pieces_cons, hps], unfolds_cons.2 hunfolds, ?_, ?_⟩
        · simp only [yield_cons, Except.map]
        · simp only [hgives.opened, preorder_cons]
    | reference o =>
      rw [ofPieces] at hok ⊢
      cases hinner : (expand o).outcome with
      | error e => simp [hinner] at hok
      | ok fragment =>
        cases hrest : (ofPieces fieldsOnly expand ps).outcome with
        | error e => simp [hinner, hrest, Except.map] at hok
        | ok more =>
          obtain ⟨t, hps, hunfolds, hgives⟩ :=
            ih (fun o ho => hexpand o (List.mem_cons_of_mem _ ho)) hrest
          obtain rfl : more = t.yield fieldsOnly := Except.ok.inj (hrest.symm.trans hgives.outcome)
          -- The tree of the definition becomes the branch at the head.
          obtain ⟨d, body, hbody, hd, hdUnfolds, rfl, hopened⟩ :=
            hexpand o List.mem_cons_self fragment hinner
          refine ⟨reference [] o d t, by simp [pieces, hps],
            ⟨⟨body, hbody, hd⟩, hdUnfolds, hunfolds⟩, ?_, ?_⟩
          · simp only [hgives.outcome, yield, Except.map, List.nil_append]
          · simp only [hgives.opened, hopened, preorder]

end Tree

end Grok.Expansion

namespace Grok

open Expansion (Tree Mark captureName?)

/-- **Every expansion that succeeds has a tree**, and gives what the tree says. -/
theorem Library.exists_tree_of_expandInside {l : Library} {fieldsOnly : Bool} {depth : Nat}
    {stack : List String} (hstacked : l.Stacked depth stack) {text cs : List Char}
    (hok : (l.expandInside fieldsOnly depth stack text).outcome = .ok cs) :
    ∃ t : Tree, t.IsOf text ∧ t.Unfolds l ∧
      t.Gives fieldsOnly (l.expandInside fieldsOnly depth stack text) := by
  -- The room on the stack shrinks with every definition that is opened.
  induction depth using Nat.strong_induction_on generalizing stack text cs with
  | h depth ih =>
    rw [Library.expandInside_eq] at hok ⊢
    refine Tree.exists_of_ofPieces ?_ hok |>.imp fun t ht => ⟨Piece.cuts_iff.2 ht.1, ht.2⟩
    intro o ho fragment hfragment
    rcases Library.expandReference_cases hstacked fieldsOnly o with
      ⟨-, h⟩ | ⟨-, -, h⟩ | ⟨-, body, d, hbody, rfl, hdeeper, h⟩
    · rw [h] at hfragment
      cases hfragment
    · rw [h] at hfragment
      cases hfragment
    · rw [h] at hfragment ⊢
      obtain ⟨t, hof, hunfolds, hgives⟩ := ih d (Nat.lt_succ_self d) hdeeper hfragment
      refine ⟨t, body, hbody, hof, hunfolds, ?_, ?_⟩
      · exact Except.ok.inj (hfragment.symm.trans hgives.outcome)
      · rw [hgives.opened]

/-- So has every expression that is expanded. -/
theorem Library.exists_tree_of_expand {l : Library} {fieldsOnly : Bool} {expression : String}
    {cs : List Char} (hok : (l.expand fieldsOnly expression).outcome = .ok cs) :
    ∃ t : Tree, t.IsOf expression.toList ∧ t.Unfolds l ∧
      t.Gives fieldsOnly (l.expand fieldsOnly expression) := by
  rw [Library.expand_eq] at hok ⊢
  exact Library.exists_tree_of_expandInside l.stacked_size_nil hok

namespace Compiler

/-- **An expanded expression is the yield of its tree**, of which there is exactly one, and the
    references of its matcher are the preorder. Written in marks, the groups that the expansion put
    around fragments open in the order of the references that are captured. -/
theorem expand_eq_yield (c : Compiler) (expression expanded : String)
    (h : (c.expand expression).value = .ok expanded) :
    ∃ t : Tree, (t.IsOf expression.toList ∧ t.Unfolds c.library ∧
        ∀ u : Tree, u.IsOf expression.toList → u.Unfolds c.library → u = t) ∧
      expanded.toList = t.yield c.fieldsOnly ∧
      (c.library.expand c.fieldsOnly expression).references =
        t.preorder.map Reference.ofOccurrence ∧
      (∀ m, (c.compile expression).value = .ok m →
        m.expression = expanded ∧ m.references = t.preorder.map Reference.ofOccurrence) ∧
      (t.marks c.fieldsOnly).flatMap Mark.text = expanded.toList ∧
      (t.marks c.fieldsOnly).filterMap Mark.opened? =
        t.preorder.filterMap (captureName? c.fieldsOnly) := by
  have hvalue := h
  rw [value_expand] at hvalue
  cases hout : (c.library.expand c.fieldsOnly expression).outcome with
  | error e => simp [hout, Except.map] at hvalue
  | ok cs =>
    obtain rfl : String.ofList cs = expanded := by simpa [hout, Except.map] using hvalue
    obtain ⟨t, hof, hunfolds, hgives⟩ :=
      Library.exists_tree_of_expand hout
    -- The tree is built along the expansion, and any other tree of the text equals it.
    obtain rfl : cs = t.yield c.fieldsOnly := Except.ok.inj (hout.symm.trans hgives.outcome)
    have hreferences : (c.library.expand c.fieldsOnly expression).references =
        t.preorder.map Reference.ofOccurrence :=
      congrArg (List.map Reference.ofOccurrence) hgives.opened
    refine ⟨t, ⟨hof, hunfolds, fun u hu huUnfolds => Tree.eq_of_isOf hu huUnfolds hof hunfolds⟩,
      by simp, hreferences, ?_, by simp [Tree.flatMap_text_marks],
      Tree.filterMap_opened?_marks _ t⟩
    intro m hm
    obtain ⟨expanded, program, hexpanded, -, rfl⟩ := compile_eq_ok_iff.1 hm
    exact ⟨Except.ok.inj (hexpanded.symm.trans h), hreferences⟩

/-- A pair of numbers; the backslash and the dollar sign come through as they are. -/
def pairs : Compiler where
  library := Library.empty.insertAll
    [⟨"PAIR", "%\x7bNUM:n:int\x7d,%\x7bNUM\x7d"⟩, ⟨"NUM", "\\d+$"⟩]
  fieldsOnly := false
  options := {}
  engine := ⟨fun _ expression => .error (.invalidExpression expression "")⟩

/-- A reference inside of another one, next to a further one to the same definition. -/
theorem expand_eq_yield_pairs :
    (pairs.expand "<%\x7bPAIR\x7d%\x7bNUM:last\x7d>").value =
        .ok "<(?<PAIR>(?<n>\\d+$),(?<NUM>\\d+$))(?<last>\\d+$)>" ∧
      ∃ t : Tree, t.Unfolds pairs.library ∧
        "<(?<PAIR>(?<n>\\d+$),(?<NUM>\\d+$))(?<last>\\d+$)>".toList = t.yield false := by
  have h : (pairs.expand "<%\x7bPAIR\x7d%\x7bNUM:last\x7d>").value =
      .ok "<(?<PAIR>(?<n>\\d+$),(?<NUM>\\d+$))(?<last>\\d+$)>" := by decide +kernel
  obtain ⟨t, ⟨-, hunfolds, -⟩, hyield, -⟩ := expand_eq_yield pairs _ _ h
  exact ⟨h, t, hunfolds, hyield⟩

end Compiler

end Grok
