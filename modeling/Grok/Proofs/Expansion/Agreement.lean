import Grok.Proofs.Expansion.Reachability

namespace Grok

/-!
# What an expansion depends on

An expansion reads a library at the names that its expression reaches, and nowhere else.

* `Library.AgreeFrom` — two libraries say the same about every name that a text reaches.
* `Library.expandInside_eq_of_agreeFrom` — two expansions in step: whatever names are open, and
  however many definitions besides each library holds, they run alike.
* `Library.Reaches.isName`, `Library.Reaches.mem_of_closed` — what can be reached at all.
* `Compiler.alikeOver_of_agree` — libraries that agree on what an expression reaches give the same
  expansion and the same matcher; other definitions do not matter, and an expression that can be
  expanded gains nothing from definitions for names that had none.
-/

namespace Library

/-- Two libraries say the same about every name that a text reaches in the first one. -/
def AgreeFrom (l l' : Library) (text : List Char) : Prop :=
  ∀ n, l.Reaches text n → l'.get? n = l.get? n

variable {l l' : Library} {text : List Char}

/-! ### Two expansions in step -/

/-- The libraries agree on the name of an occurrence, and from its definition on. -/
theorem AgreeFrom.of_at (h : l.AgreeFrom l' text) {pos : Nat} {o : Occurrence}
    (hat : o.At text pos) :
    l'.get? o.name = l.get? o.name ∧
      ∀ body, l.get? o.name = some body → l.AgreeFrom l' body.toList := by
  refine ⟨h _ ⟨_, ⟨pos, o, hat, rfl⟩, .refl⟩, ?_⟩
  rintro body hbody n ⟨m, hm, hreach⟩
  exact h n ⟨o.name, ⟨pos, o, hat, rfl⟩, .head ⟨body, hbody, hm⟩ hreach⟩

end Library

/-- Pieces are joined alike where their occurrences are expanded alike. -/
theorem Expansion.ofPieces_congr {fieldsOnly : Bool} {f g : Occurrence → Expansion}
    {ps : List Piece} (h : ∀ o, .reference o ∈ ps → f o = g o) :
    ofPieces fieldsOnly f ps = ofPieces fieldsOnly g ps := by
  induction ps with
  | nil => rfl
  | cons p ps ih =>
    have hps := ih fun o ho => h o (List.mem_cons_of_mem _ ho)
    cases p with
    | char c => rw [ofPieces, ofPieces, hps]
    | reference o => rw [ofPieces, ofPieces, h o List.mem_cons_self, hps]

namespace Library

variable {l l' : Library} {text : List Char}

/-- **Two expansions in step.** With the same names open, libraries that agree on what a text
    reaches expand it alike. -/
theorem expandInside_eq_of_agreeFrom {depth depth' : Nat} {stack : List String}
    (hstacked : l.Stacked depth stack) (hstacked' : l'.Stacked depth' stack)
    (hagree : l.AgreeFrom l' text) (fieldsOnly : Bool) :
    l'.expandInside fieldsOnly depth' stack text = l.expandInside fieldsOnly depth stack text := by
  -- The bounds on the depth differ with the sizes of the libraries; both leave room to go on.
  induction depth using Nat.strong_induction_on generalizing depth' stack text with
  | h depth ih =>
    rw [expandInside_eq, expandInside_eq]
    refine Expansion.ofPieces_congr fun o ho => ?_
    obtain ⟨pos, hat⟩ := Piece.reference_mem_scan_iff.1 ho
    obtain ⟨hsame, hinside⟩ := hagree.of_at hat
    rcases expandReference_cases hstacked fieldsOnly o with
      ⟨hopen, h⟩ | ⟨hclosed, hnone, h⟩ | ⟨hclosed, body, d, hbody, rfl, hdeeper, h⟩
    -- Both report the cycle: whether a name is open depends on the stack only.
    · rcases expandReference_cases hstacked' fieldsOnly o with
        ⟨-, h'⟩ | ⟨hclosed, -⟩ | ⟨hclosed, -⟩
      · rw [h, h']
      · exact absurd hopen hclosed
      · exact absurd hopen hclosed
    -- Both find no definition.
    · rcases expandReference_cases hstacked' fieldsOnly o with
        ⟨hopen, -⟩ | ⟨-, -, h'⟩ | ⟨-, body, d, hbody, -⟩
      · exact absurd hopen hclosed
      · rw [h, h']
      · rw [hsame, hnone] at hbody
        cases hbody
    -- Both go into the same body with the same name opened.
    · rcases expandReference_cases hstacked' fieldsOnly o with
        ⟨hopen, -⟩ | ⟨-, hnone, -⟩ | ⟨-, body', d', hbody', rfl, hdeeper', h'⟩
      · exact absurd hopen hclosed
      · rw [hsame, hbody] at hnone
        cases hnone
      · obtain rfl : body' = body := Option.some.inj (hbody'.symm.trans (hsame.trans hbody))
        rw [h, h', ih d (Nat.lt_succ_self d) hdeeper hdeeper' (hinside body' hbody)]

/-- Libraries that agree on what an expression reaches expand it alike. -/
theorem expand_eq_of_agreeFrom {expression : String} (h : l.AgreeFrom l' expression.toList)
    (fieldsOnly : Bool) : l'.expand fieldsOnly expression = l.expand fieldsOnly expression := by
  rw [expand_eq, expand_eq]
  exact expandInside_eq_of_agreeFrom (stacked_size_nil l) (stacked_size_nil l') h fieldsOnly

/-! ### What a text can reach -/

/-- What is reached has the form of a name: capital letters, digits and underscores. -/
theorem Reaches.isName {n : String} (h : l.Reaches text n) :
    DefinitionFile.isName n.toList = true := by
  have hmentions : ∀ {text : List Char} {n : String}, Mentions text n →
      DefinitionFile.isName n.toList = true := by
    rintro text n ⟨pos, o, ⟨hwell, -⟩, rfl⟩
    have hne := hwell.name_ne_nil
    have hall := List.all_eq_true.2 hwell.name_chars
    simp only [DefinitionFile.isName, hall, Bool.and_true]
    simpa using hne
  obtain ⟨m, hm, hreach⟩ := h
  rcases Relation.ReflTransGen.cases_tail hreach with rfl | ⟨_, -, body, -, hlast⟩
  · exact hmentions hm
  · exact hmentions hlast

/-- The names that a text refers to are those of the occurrences that the scanner reports. -/
theorem mentions_iff {n : String} :
    Mentions text n ↔ n ∈ (Piece.occurrences (Piece.scan text)).map (·.name) := by
  rw [List.mem_map]
  constructor
  · rintro ⟨pos, o, hat, rfl⟩
    refine ⟨o, List.mem_filterMap.2 ⟨.reference o, ?_, rfl⟩, rfl⟩
    exact Piece.reference_mem_scan_iff.2 ⟨pos, hat⟩
  · rintro ⟨o, ho, rfl⟩
    obtain ⟨p, hp, heq⟩ := List.mem_filterMap.1 ho
    cases p with
    | char c => cases heq
    | reference o' =>
      obtain rfl := Option.some.inj heq
      obtain ⟨pos, hat⟩ := Piece.reference_mem_scan_iff.1 hp
      exact ⟨pos, o', hat, rfl⟩

/-- What is reached is among names that hold those of the text and those of their own
    definitions. -/
theorem Reaches.mem_of_closed {names : List String} {n : String} (h : l.Reaches text n)
    (htext : ∀ m ∈ (Piece.occurrences (Piece.scan text)).map (·.name), m ∈ names)
    (hclosed : ∀ k ∈ names, ∀ body ∈ l.get? k,
      ∀ m ∈ (Piece.occurrences (Piece.scan body.toList)).map (·.name), m ∈ names) :
    n ∈ names := by
  obtain ⟨m, hm, hreach⟩ := h
  induction hreach with
  | refl => exact htext m (mentions_iff.1 hm)
  | tail _ hrefers ih =>
    obtain ⟨body, hbody, hmentions⟩ := hrefers
    exact hclosed _ ih body hbody _ (mentions_iff.1 hmentions)

/-- Definitions of names that a text does not reach change nothing on the way down from it. -/
theorem agreeFrom_insertAll {ds : List Definition}
    (h : ∀ d ∈ ds, ¬ l.Reaches text d.name) : l.AgreeFrom (l.insertAll ds) text := by
  intro n hn
  have hnone : Definition.lastBody? ds n = none := by
    rw [Definition.lastBody?_eq_none_iff]
    rintro d hd rfl
    exact h d hd hn
  rw [get?_insertAll, hnone, Option.none_or]

end Library

namespace Compiler

/-- Over another library an expression comes to the same: the same references are opened, the text
    or the error is the same, and so is the matcher. -/
structure AlikeOver (c : Compiler) (l : Library) (expression : String) : Prop where
  expansion : l.expand c.fieldsOnly expression = c.library.expand c.fieldsOnly expression
  expand : ({ c with library := l }).expand expression = c.expand expression
  compile : ({ c with library := l }).compile expression = c.compile expression

variable {c : Compiler} {l : Library} {expression : String}

/-- An expression is alike over libraries that agree on all it comes to. -/
theorem AlikeOver.of_agreeFrom (h : c.library.AgreeFrom l expression.toList) :
    c.AlikeOver l expression := by
  have hexpansion := Library.expand_eq_of_agreeFrom h c.fieldsOnly
  refine ⟨hexpansion, ?_, ?_⟩
  · simp only [Compiler.expand, hexpansion]
  · simp only [Compiler.compile, hexpansion]

/-- **An expansion depends on what the expression reaches, and on nothing else.** Libraries that
    agree on every name that is reached in the first one come to the same. So definitions of names
    that are not reached have no effect, nor has any change at names of another form than references
    have; and where an expression can be expanded, definitions for names that had none have no
    effect either. -/
theorem alikeOver_of_agree (c : Compiler) (expression : String) :
    (∀ l : Library, (∀ n, c.library.Reaches expression.toList n → l.get? n = c.library.get? n) →
      c.AlikeOver l expression) ∧
    (∀ ds : List Definition, (∀ d ∈ ds, ¬ c.library.Reaches expression.toList d.name) →
      c.AlikeOver (c.library.insertAll ds) expression) ∧
    (∀ l : Library, (∀ n, DefinitionFile.isName n.toList = true → l.get? n = c.library.get? n) →
      c.AlikeOver l expression) ∧
    ∀ l : Library, (∀ n body, c.library.get? n = some body → l.get? n = some body) →
      (∃ s, (c.expand expression).value = .ok s) → c.AlikeOver l expression := by
  refine ⟨fun l h => .of_agreeFrom h, fun ds h => .of_agreeFrom (Library.agreeFrom_insertAll h),
    fun l h => .of_agreeFrom fun n hn => h n hn.isName, ?_⟩
  intro l hmore hok
  rw [value_expand, Expansion.exists_map_eq_ok_iff,
    (Library.outcome_expand_iff c.library c.fieldsOnly expression).1, Library.clean_nil_iff] at hok
  refine .of_agreeFrom fun n hn => ?_
  -- Where the expansion succeeds, all that is reached is defined, and stays so.
  obtain ⟨body, hbody⟩ := Option.isSome_iff_exists.1 (hok n hn).1
  rw [hbody, hmore n body hbody]

/-- Neither a broken ring elsewhere, nor a name that cannot be referred to, nor one that was missing
    has an effect on what does not reach them. -/
theorem alikeOver_of_agree_rings :
    rings.AlikeOver (rings.library.insertAll [⟨"SNOT", "c"⟩, ⟨"leaf", "y"⟩]) "%\x7bTWICE\x7d" ∧
      rings.AlikeOver (rings.library.insertAll [⟨"leaf", "y"⟩]) "%\x7bSNOT\x7d" ∧
      rings.AlikeOver (rings.library.insertAll [⟨"NONE", "z"⟩]) "%\x7bTWICE\x7d" := by
  refine ⟨?_, ?_, ?_⟩
  · refine (alikeOver_of_agree rings _).2.1 _ ?_
    -- Only these two names are reached from the expression.
    intro d hd hreach
    have hmem : d.name ∈ ["TWICE", "LEAF"] :=
      hreach.mem_of_closed (by decide +kernel) (by decide +kernel)
    have hname : ∀ d ∈ ([⟨"SNOT", "c"⟩, ⟨"leaf", "y"⟩] : List Definition),
        d.name ∉ ["TWICE", "LEAF"] := by decide
    exact hname d hd hmem
  · refine (alikeOver_of_agree rings _).2.2.1 _ ?_
    intro n hn
    -- A name in small letters cannot be referred to.
    have hne : "leaf" ≠ n := by
      rintro rfl
      revert hn
      decide
    rw [Library.get?_insertAll, Definition.lastBody?_singleton, if_neg hne, Option.none_or]
  · refine (alikeOver_of_agree rings _).2.2.2 _ ?_
      ⟨"(?<TWICE>(?<LEAF>x)(?<LEAF>x))", by decide +kernel⟩
    intro n body hbody
    -- The new name has no definition yet, and all names that are reached have one.
    have hne : "NONE" ≠ n := by
      rintro rfl
      have hnone : rings.library.get? "NONE" = none := by decide +kernel
      rw [hnone] at hbody
      cases hbody
    rw [Library.get?_insertAll, Definition.lastBody?_singleton, if_neg hne, Option.none_or, hbody]

end Compiler

end Grok
