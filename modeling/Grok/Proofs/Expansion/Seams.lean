import Grok.Proofs.Expansion.Tree
import Grok.Proofs.Reference.Meeting

namespace Grok

/-!
# What an expansion leaves to expand

An expanded text may hold references again: none that stood in one of the texts it is made of, but
some may come about where a fragment that is put in bare meets its surroundings.

* `Expansion.Tree.seams` — the places of the yield where bare fragments begin and end.
* `Expansion.Tree.exists_seam_of_at` — every occurrence in the yield stands across a seam.
* `Compiler.expand_self_iff` — a text without occurrences, and no other one, is its own expansion
  over every library.
* `Compiler.expand_expanded_of_captureAll` — if all fragments are put into groups there are no
  seams, so an expanded text is its own expansion.
* `Compiler.expand_self_iff_seams` — in general it is so just where no seam joins what is around it
  into an occurrence.
-/

open Occurrence (NoneIn Joins)

namespace Expansion

/-! ### Groups -/

/-- A fragment is put into the group that its reference is captured in, or it is put in bare. -/
theorem wrap_eq (fieldsOnly : Bool) (o : Occurrence) (fragment : List Char) :
    wrap fieldsOnly o fragment =
      match captureName? fieldsOnly o with
      | some name => group name fragment
      | none => fragment := by
  unfold wrap captureName?
  cases o.field with
  | some field => rfl
  | none => cases fieldsOnly <;> rfl

/-- The name of a group is made of characters of names. -/
theorem percent_notMem_captureName {fieldsOnly : Bool} {o : Occurrence} (h : o.WellFormed)
    {name : String} (hname : captureName? fieldsOnly o = some name) : '%' ∉ name.toList := by
  intro hmem
  unfold captureName? at hname
  cases hfield : o.field with
  | some field =>
    obtain rfl : field = name := by simpa [hfield] using hname
    exact Bool.false_ne_true
      (Occurrence.isFieldChar_percent.symm.trans ((h.field field hfield).2 _ hmem))
  | none =>
    obtain ⟨-, rfl⟩ : fieldsOnly = false ∧ o.name = name := by simpa [hfield] using hname
    exact Bool.false_ne_true (Occurrence.isNameChar_percent.symm.trans (h.name_chars _ hmem))

/-- **No occurrence stands across an end of a group**: what is in front of the group, in it, or
    behind it holds all of the occurrence. -/
theorem at_group_cases {o : Occurrence} {name : String} (hname : '%' ∉ name.toList)
    {before fragment behind : List Char} {pos : Nat}
    (h : o.At (before ++ group name fragment ++ behind) pos) :
    o.At before pos ∨
      (∃ q, pos = before.length + (Mark.opening name).text.length + q ∧ o.At fragment q) ∨
      ∃ q, pos = before.length + (group name fragment).length + q ∧ o.At behind q := by
  have hparen : '(' ∉ o.text := h.1.notMem_text (by decide) (by decide) (by decide)
  have hangle : '>' ∉ o.text := h.1.notMem_text (by decide) (by decide) (by decide)
  have hclose : ')' ∉ o.text := h.1.notMem_text (by decide) (by decide) (by decide)
  have htext : before ++ group name fragment ++ behind =
      before ++ '(' :: (('?' :: '<' :: name.toList) ++ '>' :: (fragment ++ ')' :: behind)) := by
    simp [group]
  have hopening : (Mark.opening name).text.length = name.toList.length + 4 := by
    simp [Mark.text]
  have hgroup : (group name fragment).length = name.toList.length + 5 + fragment.length := by
    simp [group]
    omega
  -- The text is cut at `(`, at `>` and at `)`, none of which is in an occurrence.
  rw [htext] at h
  rcases h.append_cons_cases hparen with hbefore | ⟨q, hpos, hopened⟩
  · exact Or.inl hbefore
  · rcases hopened.append_cons_cases hangle with hin | ⟨q', hq, hnamed⟩
    · exact absurd hin (Occurrence.noneIn_of_percent_notMem (by simpa using hname) _ _)
    · simp only [List.length_cons] at hq
      rcases hnamed.append_cons_cases hclose with hin | ⟨q'', hq', hbehind⟩
      · exact Or.inr (Or.inl ⟨q', by omega, hin⟩)
      · exact Or.inr (Or.inr ⟨q'', by omega, hbehind⟩)

namespace Tree

/-! ### Seams -/

/-- The places of the yield where a fragment that is put in bare begins or ends. -/
def seams (fieldsOnly : Bool) : Tree → List Nat
  | literal _ => []
  | reference cs o definition rest =>
    let fragment := definition.yield fieldsOnly
    let behind := (rest.seams fieldsOnly).map (cs.length + (wrap fieldsOnly o fragment).length + ·)
    match captureName? fieldsOnly o with
    | some name =>
      (definition.seams fieldsOnly).map (cs.length + (Mark.opening name).text.length + ·) ++ behind
    | none =>
      cs.length :: (definition.seams fieldsOnly).map (cs.length + ·) ++
        (cs.length + fragment.length) :: behind

/-- If all fragments are put into groups there are no seams. -/
theorem seams_false (t : Tree) : t.seams false = [] := by
  induction t with
  | literal cs => rfl
  | reference cs o d rest ihd ihrest =>
    have hcaptured : ∃ name, captureName? false o = some name := by
      unfold captureName?
      cases o.field <;> simp
    obtain ⟨name, hname⟩ := hcaptured
    simp [seams, hname, ihd, ihrest]

/-- A tree without references is that of a text without occurrences. -/
theorem IsOf.literal_inv {cs text : List Char} (h : (literal cs).IsOf text) : NoneIn cs := by
  have hcuts : Piece.Cuts (cs.map .char ++ []) text := by
    rw [List.append_nil]
    exact h
  exact hcuts.of_map_char_append.1

/-- The literal text in front of the first reference holds no occurrence, the reference is
    well-formed, and the remaining tree is that of the remaining text. -/
theorem IsOf.reference_inv {cs text : List Char} {o : Occurrence} {d rest : Tree}
    (h : (reference cs o d rest).IsOf text) :
    NoneIn cs ∧ o.WellFormed ∧ ∃ more, rest.IsOf more := by
  obtain ⟨hnone, more, -, hcuts⟩ := Piece.Cuts.of_map_char_append h
  obtain ⟨hwell, more, -, hrest⟩ := Piece.cuts_reference_iff.1 hcuts
  exact ⟨hnone, hwell, more, hrest⟩

/-- **Every occurrence in a yield stands across a seam.** -/
theorem exists_seam_of_at {l : Library} {t : Tree} {text : List Char} (hof : t.IsOf text)
    (hunfolds : t.Unfolds l) {fieldsOnly : Bool} {o : Occurrence} {pos : Nat}
    (hat : o.At (t.yield fieldsOnly) pos) :
    ∃ seam ∈ t.seams fieldsOnly, pos < seam ∧ seam < pos + o.text.length := by
  induction t generalizing text pos with
  | literal cs => exact absurd hat (hof.literal_inv pos o)
  | reference cs r d rest ihd ihrest =>
    obtain ⟨hnone, hwell, more, hrest⟩ := hof.reference_inv
    obtain ⟨⟨body, -, hd⟩, hdUnfolds, hrestUnfolds⟩ := hunfolds
    rw [yield, wrap_eq] at hat
    rw [seams, wrap_eq]
    cases hcapture : captureName? fieldsOnly r with
    | some name =>
      -- The ends of the group keep its fragment apart from what is around it.
      simp only [hcapture] at hat ⊢
      rcases at_group_cases (percent_notMem_captureName hwell hcapture) hat with
        hin | ⟨q, rfl, hin⟩ | ⟨q, rfl, hin⟩
      · exact absurd hin (hnone pos o)
      · obtain ⟨seam, hmem, hlt, hacross⟩ := ihd hd hdUnfolds hin
        refine ⟨_, List.mem_append_left _ (List.mem_map_of_mem hmem), ?_, ?_⟩ <;> omega
      · obtain ⟨seam, hmem, hlt, hacross⟩ := ihrest hrest hrestUnfolds hin
        refine ⟨_, List.mem_append_right _ (List.mem_map_of_mem hmem), ?_, ?_⟩ <;> omega
    | none =>
      -- A bare fragment has a seam at either end.
      simp only [hcapture, List.append_assoc] at hat ⊢
      rcases hat.append_cases with hin | ⟨hlt, hacross⟩ | ⟨q, hpos, hbehind⟩
      · exact absurd hin (hnone pos o)
      · exact ⟨cs.length, by simp, hlt, hacross⟩
      · rcases hbehind.append_cases with hin | ⟨hlt, hacross⟩ | ⟨q', hq, hin⟩
        · obtain ⟨seam, hmem, hlt, hacross⟩ := ihd hd hdUnfolds hin
          refine ⟨cs.length + seam, ?_, by omega, by omega⟩
          exact List.mem_append_left _ (List.mem_cons_of_mem _ (List.mem_map_of_mem hmem))
        · exact ⟨cs.length + (d.yield fieldsOnly).length, by simp, by omega, by omega⟩
        · obtain ⟨seam, hmem, hlt, hacross⟩ := ihrest hrest hrestUnfolds hin
          refine ⟨cs.length + (d.yield fieldsOnly).length + seam, ?_, by omega, by omega⟩
          exact List.mem_append_right _ (List.mem_cons_of_mem _ (List.mem_map_of_mem hmem))

/-- **A yield holds no occurrence just where no seam joins into one.** -/
theorem noneIn_yield_iff {l : Library} {t : Tree} {text : List Char} (hof : t.IsOf text)
    (hunfolds : t.Unfolds l) (fieldsOnly : Bool) :
    NoneIn (t.yield fieldsOnly) ↔ ∀ seam ∈ t.seams fieldsOnly,
      ¬ Joins ((t.yield fieldsOnly).take seam) ((t.yield fieldsOnly).drop seam) := by
  constructor
  · intro hnone seam _ hjoins
    obtain ⟨pos, o, hat, -⟩ := Occurrence.joins_iff.1 hjoins
    rw [List.take_append_drop] at hat
    exact hnone pos o hat
  · intro hjoins pos o hat
    obtain ⟨seam, hmem, hlt, hacross⟩ := exists_seam_of_at hof hunfolds hat
    refine hjoins seam hmem (Occurrence.joins_iff.2 ⟨pos, o, ?_, ?_⟩)
    · rwa [List.take_append_drop]
    · have hend := hat.add_length_le
      rw [List.length_take]
      omega

end Tree

/-- Pieces without references are joined as they are. -/
theorem ofPieces_map_char (fieldsOnly : Bool) (expand : Occurrence → Expansion) (cs : List Char) :
    ofPieces fieldsOnly expand (cs.map .char) = ⟨[], .ok cs⟩ := by
  induction cs with
  | nil => rfl
  | cons c cs ih => rw [List.map_cons, ofPieces, ih, Except.map]

end Expansion

namespace Library

/-- **A text without occurrences is its own expansion**, and no reference is opened. -/
theorem expand_of_noneIn {s : String} (h : NoneIn s.toList) (l : Library) (fieldsOnly : Bool) :
    l.expand fieldsOnly s = ⟨[], .ok s.toList⟩ := by
  rw [expand_eq, expandInside_eq, Piece.scan_eq_map_char_iff.2 h, Expansion.ofPieces_map_char]

end Library

namespace Compiler

open Expansion (Tree)

/-! ### Expanding once more -/

/-- **Only texts without occurrences are final**: their own expansion whatever they are expanded
    with. -/
theorem expand_self_iff {s : String} :
    (∀ c : Compiler, (c.expand s).value = .ok s) ↔ NoneIn s.toList := by
  constructor
  · intro h pos o hat
    -- Over the empty library no occurrence is expanded.
    have hempty := h ⟨.empty, true, {}, ⟨fun _ s => .error (.invalidExpression s "")⟩⟩
    rw [value_expand_eq_ok_iff, Library.expand_eq, Library.expandInside_eq] at hempty
    obtain ⟨fragment, hfragment⟩ := Expansion.isOk_outcome_ofPieces_iff.1 ⟨_, hempty⟩ o
      (Piece.reference_mem_scan_iff.2 ⟨pos, hat⟩)
    simp [Library.expandReference, Library.get?_empty] at hfragment
  · intro h c
    rw [value_expand_eq_ok_iff, Library.expand_of_noneIn h]

/-- A text that was expanded has a tree, which says where occurrences in it can stand. -/
theorem exists_tree_of_expand {c : Compiler} {expression expanded : String}
    (h : (c.expand expression).value = .ok expanded) :
    ∃ t : Tree, t.IsOf expression.toList ∧ t.Unfolds c.library ∧
      expanded.toList = t.yield c.fieldsOnly := by
  rw [value_expand_eq_ok_iff] at h
  obtain ⟨t, hof, hunfolds, hgives⟩ :=
    Library.exists_tree_of_expand h
  exact ⟨t, hof, hunfolds, Except.ok.inj (h.symm.trans hgives.outcome)⟩

/-- **Where every reference is captured, an expanded text is final.** No occurrence stands anywhere
    in it, so over every library, and whatever is captured, it is its own expansion and no reference
    is opened. -/
theorem expand_expanded_of_captureAll (c : Compiler) (hall : c.fieldsOnly = false)
    (expression expanded : String) (h : (c.expand expression).value = .ok expanded) :
    NoneIn expanded.toList ∧
    (∀ (l : Library) (fieldsOnly : Bool),
      l.expand fieldsOnly expanded = ⟨[], .ok expanded.toList⟩) ∧
    ∀ c' : Compiler, (c'.expand expanded).value = .ok expanded ∧
      ∀ m, (c'.compile expanded).value = .ok m → m.expression = expanded ∧ m.references = [] := by
  obtain ⟨t, hof, hunfolds, hyield⟩ := exists_tree_of_expand h
  have hnone : NoneIn expanded.toList := by
    -- Every fragment stands in a group, so there are no seams at all.
    rw [hyield, Tree.noneIn_yield_iff hof hunfolds, hall, Tree.seams_false]
    simp
  have hself := fun l fieldsOnly => Library.expand_of_noneIn hnone l fieldsOnly
  refine ⟨hnone, hself, fun c' => ⟨expand_self_iff.2 hnone c', ?_⟩⟩
  intro m hm
  obtain ⟨text, program, htext, -, rfl⟩ := compile_eq_ok_iff.1 hm
  obtain rfl : text = expanded := Except.ok.inj (htext.symm.trans (expand_self_iff.2 hnone c'))
  refine ⟨rfl, ?_⟩
  rw [hself]
  rfl

/-- Definitions that are parts of references, or nothing, or no reference after all. -/
def scraps : Compiler where
  library := Library.empty.insertAll
    [⟨"PERCENT", "%"⟩, ⟨"BRACES", "\x7bX\x7d"⟩, ⟨"OPENING", "%\x7b"⟩, ⟨"NOTHING", ""⟩,
      ⟨"LOWER", "%\x7blower\x7d"⟩]
  fieldsOnly := false
  options := {}
  engine := ⟨fun _ expression => .error (.invalidExpression expression "")⟩

/-- No reference comes about from the parts around the ends of groups. -/
theorem expand_expanded_of_captureAll_scraps :
    (scraps.expand ("%%\x7bNOTHING\x7d\x7bX\x7d%\x7bPERCENT\x7d%\x7bBRACES:b\x7d" ++
          "%\x7bOPENING\x7dX\x7d%\x7bLOWER\x7d")).value =
        .ok ("%(?<NOTHING>)\x7bX\x7d(?<PERCENT>%)(?<b>\x7bX\x7d)" ++
          "(?<OPENING>%\x7b)X\x7d(?<LOWER>%\x7blower\x7d)") ∧
      NoneIn ("%(?<NOTHING>)\x7bX\x7d(?<PERCENT>%)(?<b>\x7bX\x7d)" ++
          "(?<OPENING>%\x7b)X\x7d(?<LOWER>%\x7blower\x7d)").toList := by
  have h : (scraps.expand ("%%\x7bNOTHING\x7d\x7bX\x7d%\x7bPERCENT\x7d%\x7bBRACES:b\x7d" ++
        "%\x7bOPENING\x7dX\x7d%\x7bLOWER\x7d")).value =
      .ok ("%(?<NOTHING>)\x7bX\x7d(?<PERCENT>%)(?<b>\x7bX\x7d)" ++
        "(?<OPENING>%\x7b)X\x7d(?<LOWER>%\x7blower\x7d)") := by decide +kernel
  exact ⟨h, (expand_expanded_of_captureAll scraps rfl _ _ h).1⟩

/-- **Which expanded texts are final.** An expanded text holds an occurrence just where one stands
    across a seam, an end of a fragment that was put in bare; it is its own expansion, whatever it
    is expanded with, just where no seam joins what is around it into an occurrence. -/
theorem expand_self_iff_seams (c : Compiler) (expression expanded : String)
    (h : (c.expand expression).value = .ok expanded) :
    ∃ t : Tree, t.IsOf expression.toList ∧ t.Unfolds c.library ∧
      expanded.toList = t.yield c.fieldsOnly ∧
      (∀ pos o, Occurrence.At o expanded.toList pos →
        ∃ seam ∈ t.seams c.fieldsOnly, pos < seam ∧ seam < pos + o.text.length) ∧
      (NoneIn expanded.toList ↔ ∀ seam ∈ t.seams c.fieldsOnly,
        ¬ Joins (expanded.toList.take seam) (expanded.toList.drop seam)) ∧
      ((∀ c' : Compiler, (c'.expand expanded).value = .ok expanded) ↔
        ∀ seam ∈ t.seams c.fieldsOnly,
          ¬ Joins (expanded.toList.take seam) (expanded.toList.drop seam)) := by
  obtain ⟨t, hof, hunfolds, hyield⟩ := exists_tree_of_expand h
  have hnone := Tree.noneIn_yield_iff hof hunfolds c.fieldsOnly
  rw [← hyield] at hnone
  refine ⟨t, hof, hunfolds, hyield, ?_, hnone, expand_self_iff.trans hnone⟩
  intro pos o hat
  -- An occurrence clear of all seams would lie within one literal text.
  rw [hyield] at hat
  exact Tree.exists_seam_of_at hof hunfolds hat

/-- The same definitions where only fields are captured, so that fragments are put in bare. -/
def bareScraps : Compiler := { scraps with fieldsOnly := true }

/-- What stands in the first fragment and in the second one joins into a reference. -/
theorem expand_self_iff_seams_scraps :
    (bareScraps.expand "%\x7bPERCENT\x7d%\x7bBRACES\x7d").value = .ok "%\x7bX\x7d" ∧
      ∃ t : Tree, t.Unfolds bareScraps.library ∧ "%\x7bX\x7d".toList = t.yield true ∧
        ∃ seam ∈ t.seams true,
          Joins ("%\x7bX\x7d".toList.take seam) ("%\x7bX\x7d".toList.drop seam) := by
  have h : (bareScraps.expand "%\x7bPERCENT\x7d%\x7bBRACES\x7d").value = .ok "%\x7bX\x7d" := by
    decide +kernel
  obtain ⟨t, -, hunfolds, hyield, -, hnone, -⟩ := expand_self_iff_seams bareScraps _ _ h
  refine ⟨h, t, hunfolds, hyield, ?_⟩
  by_contra hseams
  simp only [not_exists, not_and] at hseams
  exact hnone.2 hseams 0 ⟨"X", none, none⟩ (Occurrence.at_zero_iff.2 ⟨[], by decide +kernel⟩)

/-- **An expanded text can hold a reference**, which fails when it is expanded once more. -/
theorem expand_leaves_occurrence :
    (bareScraps.expand "%\x7bPERCENT\x7d%\x7bBRACES\x7d").value = .ok "%\x7bX\x7d" ∧
      Occurrence.At ⟨"X", none, none⟩ "%\x7bX\x7d".toList 0 ∧
      (bareScraps.expand "%\x7bX\x7d").value = .error (.unknownPattern "X") :=
  ⟨by decide +kernel, Occurrence.at_zero_iff.2 ⟨[], by decide +kernel⟩, by decide +kernel⟩

end Compiler

end Grok
