import Grok.Proofs.Expansion.Stack
import Mathlib.Data.List.Lex
import Mathlib.Logic.Relation

namespace Grok

/-!
# Which expressions can be expanded

The expansion sees one path of open definitions at a time. What it comes to is told by the graph of
references as a whole.

* `Library.Refers` is the graph: the definition of one name refers to another name.
  `Library.Reaches` says that a text leads to a name.
* `Library.Trail` — an occurrence that is met on the way down from a text, with the occurrences
  around it; its address orders the trails depth first and from left to right.
* `Library.Offends` — the name of an occurrence is open or undefined. `Library.FirstOffence` is the
  complaint about the first trail that ends so.
* `Library.outcome_expandInside` — an expansion fails with its first offence, and only then.
* `Compiler.expand_outcome_by_reachability` — hence an expression is expanded just where all names
  that it reaches are defined and none of them reaches itself.
-/

namespace Library

variable {l : Library}

/-- A text refers to a name. -/
def Mentions (text : List Char) (n : String) : Prop :=
  ∃ pos o, Occurrence.At o text pos ∧ o.name = n

/-- The definition of `a` refers to `b`. -/
def Refers (l : Library) (a b : String) : Prop :=
  ∃ body, l.get? a = some body ∧ Mentions body.toList b

/-- The references of a text lead to a name, at once or through definitions. -/
def Reaches (l : Library) (text : List Char) (n : String) : Prop :=
  ∃ m, Mentions text m ∧ Relation.ReflTransGen l.Refers m n

/-- An occurrence met on the way down from a text: its address, place by place, the occurrences
    whose definitions it stands in, the outermost first, and the occurrence itself. -/
inductive Trail (l : Library) : List Char → List Nat → List Occurrence → Occurrence → Prop where
  /-- in the text itself -/
  | here {text : List Char} {pos : Nat} {o : Occurrence} (h : o.At text pos) :
    Trail l text [pos] [] o
  /-- in the definition of an occurrence -/
  | inside {text : List Char} {pos : Nat} {o : Occurrence} {body : String} {address : List Nat}
      {around : List Occurrence} {p : Occurrence} (h : o.At text pos)
      (hbody : l.get? o.name = some body) (hp : Trail l body.toList address around p) :
      Trail l text (pos :: address) (o :: around) p

/-- With some names open, an occurrence cannot be expanded: its name is open, or it has no
    definition. -/
def Offends (l : Library) (open_ : List String) (o : Occurrence) : Prop :=
  o.name ∈ open_ ∨ l.get? o.name = none

/-- The complaint about such an occurrence. -/
def offence (open_ : List String) (o : Occurrence) : Error :=
  if o.name ∈ open_ then .cyclicPattern o.name else .unknownPattern o.name

/-- The names that are open at the end of a trail that starts with those on the stack. -/
def openNames (stack : List String) (around : List Occurrence) : List String :=
  around.map (·.name) ++ stack

/-- No trail ends in an offence. -/
def Clean (l : Library) (stack : List String) (text : List Char) : Prop :=
  ∀ address around o, l.Trail text address around o → ¬ l.Offends (openNames stack around) o

/-- `e` is the complaint about the first trail that ends in an offence. -/
def FirstOffence (l : Library) (stack : List String) (text : List Char) (e : Error) : Prop :=
  ∃ address around o, l.Trail text address around o ∧ l.Offends (openNames stack around) o ∧
    e = offence (openNames stack around) o ∧
    ∀ address' around' o', l.Trail text address' around' o' → address' < address →
      ¬ l.Offends (openNames stack around') o'

/-! ### Trails -/

/-- An address tells the trail. -/
theorem Trail.unique {text : List Char} {address : List Nat} {around around' : List Occurrence}
    {o o' : Occurrence} (h : l.Trail text address around o) (h' : l.Trail text address around' o') :
    around = around' ∧ o = o' := by
  induction h generalizing around' with
  | here hat =>
    cases h' with
    | here hat' => exact ⟨rfl, hat.unique hat'⟩
    | inside _ _ hp => cases hp
  | inside hat hbody hp ih =>
    cases h' with
    | here hat' => cases hp
    | inside hat' hbody' hp' =>
      obtain rfl := hat.unique hat'
      obtain rfl := Option.some.inj (hbody.symm.trans hbody')
      obtain ⟨rfl, rfl⟩ := ih hp'
      exact ⟨rfl, rfl⟩

/-- What a trail ends in is reached. -/
theorem Trail.reaches {text : List Char} {address : List Nat} {around : List Occurrence}
    {o : Occurrence} (h : l.Trail text address around o) : l.Reaches text o.name := by
  induction h with
  | here hat => exact ⟨_, ⟨_, _, hat, rfl⟩, .refl⟩
  | inside hat hbody _ ih =>
    obtain ⟨m, hm, hreach⟩ := ih
    exact ⟨_, ⟨_, _, hat, rfl⟩, .head ⟨_, hbody, hm⟩ hreach⟩

/-- The occurrences around the end of a trail are reached and defined, and lead on to the end. -/
theorem Trail.of_mem_around {text : List Char} {address : List Nat} {around : List Occurrence}
    {o : Occurrence} (h : l.Trail text address around o) {p : Occurrence} (hp : p ∈ around) :
    l.Reaches text p.name ∧ (l.get? p.name).isSome ∧ Relation.TransGen l.Refers p.name o.name := by
  induction h with
  | here hat => cases hp
  | inside hat hbody htrail ih =>
    obtain ⟨m, hm, hreach⟩ := htrail.reaches
    rcases List.mem_cons.1 hp with rfl | hp
    · exact ⟨⟨_, ⟨_, _, hat, rfl⟩, .refl⟩, by simp [hbody], .head' ⟨_, hbody, hm⟩ hreach⟩
    · obtain ⟨⟨m', hm', hreach'⟩, hdefined, hcycle⟩ := ih hp
      exact ⟨⟨_, ⟨_, _, hat, rfl⟩, .head ⟨_, hbody, hm'⟩ hreach'⟩, hdefined, hcycle⟩

/-- Every name that is reached ends a trail. -/
theorem exists_trail {text : List Char} {m n : String} (hm : Mentions text m)
    (h : Relation.ReflTransGen l.Refers m n) :
    ∃ address around o, l.Trail text address around o ∧ o.name = n := by
  induction h using Relation.ReflTransGen.head_induction_on generalizing text with
  | refl =>
    obtain ⟨pos, o, hat, rfl⟩ := hm
    exact ⟨_, _, o, .here hat, rfl⟩
  | head hrefers _ ih =>
    obtain ⟨pos, o, hat, rfl⟩ := hm
    obtain ⟨body, hbody, hmentions⟩ := hrefers
    obtain ⟨address, around, p, hp, rfl⟩ := ih hmentions
    exact ⟨_, _, p, .inside hat hbody hp, rfl⟩

/-- Every name that is reached and reaches itself ends a trail on which it is open. -/
theorem exists_trail_of_cycle {text : List Char} {m n : String} (hm : Mentions text m)
    (h : Relation.ReflTransGen l.Refers m n) (hcycle : Relation.TransGen l.Refers n n) :
    ∃ address around o, l.Trail text address around o ∧ o.name = n ∧ n ∈ around.map (·.name) := by
  induction h using Relation.ReflTransGen.head_induction_on generalizing text with
  | refl =>
    -- One round of the cycle leads from the definition of `n` back to `n`, which is open by then.
    obtain ⟨pos, o, hat, rfl⟩ := hm
    obtain ⟨k, ⟨body, hbody, hmentions⟩, hback⟩ := Relation.TransGen.head'_iff.1 hcycle
    obtain ⟨address, around, p, hp, hname⟩ := exists_trail hmentions hback
    exact ⟨_, _, p, .inside hat hbody hp, hname, by simp⟩
  | head hrefers _ ih =>
    obtain ⟨pos, o, hat, rfl⟩ := hm
    obtain ⟨body, hbody, hmentions⟩ := hrefers
    obtain ⟨address, around, p, hp, rfl, hopen⟩ := ih hmentions
    exact ⟨_, _, p, .inside hat hbody hp, rfl, List.mem_cons_of_mem _ hopen⟩

/-! ### Offences -/

/-- Which names are open counts, not their order. -/
theorem mem_openNames_cons {stack : List String} {around : List Occurrence} {o : Occurrence}
    {n : String} : n ∈ openNames stack (o :: around) ↔ n ∈ openNames (o.name :: stack) around := by
  simp only [openNames, List.map_cons, List.cons_append, List.mem_cons, List.mem_append]
  exact or_left_comm

/-- The names that are open count as a stack does. -/
theorem offends_openNames_cons {stack : List String} {around : List Occurrence} {o p : Occurrence} :
    l.Offends (openNames stack (o :: around)) p ↔
      l.Offends (openNames (o.name :: stack) around) p := by
  rw [Offends, Offends, mem_openNames_cons]

/-- They give the same offence, too. -/
theorem offence_openNames_cons {stack : List String} {around : List Occurrence} {o p : Occurrence} :
    offence (openNames stack (o :: around)) p = offence (openNames (o.name :: stack) around) p := by
  simp only [offence, mem_openNames_cons]

/-- An occurrence that names a closed definition is no offence. -/
theorem not_offends_nil {stack : List String} {o : Occurrence} {body : String}
    (hclosed : o.name ∉ stack) (hbody : l.get? o.name = some body) :
    ¬ l.Offends (openNames stack []) o := by
  rintro (hopen | hnone)
  · exact hclosed (by simpa [openNames] using hopen)
  · rw [hbody] at hnone
    cases hnone

/-- A text without an offence has no first one. -/
theorem Clean.not_firstOffence {stack : List String} {text : List Char} (h : l.Clean stack text)
    (e : Error) : ¬ l.FirstOffence stack text e := by
  rintro ⟨address, around, o, htrail, hoffends, -⟩
  exact h address around o htrail hoffends

/-- There is only one first offence. -/
theorem FirstOffence.unique {stack : List String} {text : List Char} {e e' : Error}
    (h : l.FirstOffence stack text e) (h' : l.FirstOffence stack text e') : e = e' := by
  obtain ⟨address, around, o, htrail, hoffends, rfl, hfirst⟩ := h
  obtain ⟨address', around', o', htrail', hoffends', rfl, hfirst'⟩ := h'
  rcases lt_trichotomy address address' with hlt | rfl | hlt
  · exact absurd hoffends (hfirst' _ _ _ htrail hlt)
  · obtain ⟨rfl, rfl⟩ := htrail.unique htrail'
    rfl
  · exact absurd hoffends' (hfirst _ _ _ htrail' hlt)

/-- Without names open at the start, a text is clean just where all that it reaches is defined and
    lies on no cycle. -/
theorem clean_nil_iff {text : List Char} :
    l.Clean [] text ↔
      ∀ n, l.Reaches text n → (l.get? n).isSome ∧ ¬ Relation.TransGen l.Refers n n := by
  constructor
  · rintro hclean n ⟨m, hm, hreach⟩
    constructor
    · -- A trail leads to the name, and would end in an offence without a definition.
      obtain ⟨address, around, o, htrail, rfl⟩ := exists_trail hm hreach
      rw [Option.isSome_iff_ne_none]
      intro hnone
      exact hclean _ _ _ htrail (Or.inr hnone)
    · intro hcycle
      -- Once around the cycle, the trail ends at a name that is open.
      obtain ⟨address, around, o, htrail, rfl, hopen⟩ := exists_trail_of_cycle hm hreach hcycle
      exact hclean _ _ _ htrail (Or.inl (List.mem_append_left _ hopen))
  · rintro h address around o htrail (hopen | hnone)
    · -- An open name is that of an occurrence around `o`, so it leads back to itself.
      obtain ⟨p, hp, hname⟩ := List.mem_map.1 (by simpa [openNames] using hopen)
      obtain ⟨hreach, -, hcycle⟩ := htrail.of_mem_around hp
      exact (h _ hreach).2 (hname ▸ hcycle)
    · have hdefined := (h _ htrail.reaches).1
      rw [hnone] at hdefined
      cases hdefined

/-! ### The outcome of an expansion -/

/-- The trails that start with an occurrence whose expansion succeeds end in no offence, if those in
    its definition do not. -/
theorem not_offends_of_expandReference_ok {depth : Nat} {stack : List String}
    (hstacked : l.Stacked depth stack) {fieldsOnly : Bool} {text : List Char}
    (ih : ∀ d < depth, ∀ (stack' : List String) (text' : List Char), l.Stacked d stack' →
      (∃ cs, (l.expandInside fieldsOnly d stack' text').outcome = .ok cs) → l.Clean stack' text')
    {pos : Nat} {o : Occurrence} (hat : o.At text pos)
    (hok : ∃ cs, (l.expandReference fieldsOnly depth stack o).outcome = .ok cs)
    {address : List Nat} {around : List Occurrence} {p : Occurrence}
    (htrail : l.Trail text (pos :: address) around p) : ¬ l.Offends (openNames stack around) p := by
  obtain ⟨cs, hok⟩ := hok
  -- Only an occurrence whose definition is expanded can succeed.
  rcases expandReference_cases hstacked fieldsOnly o with
    ⟨-, h⟩ | ⟨-, -, h⟩ | ⟨hclosed, body, d, hbody, rfl, hdeeper, h⟩
  · rw [h] at hok
    cases hok
  · rw [h] at hok
    cases hok
  · rw [h] at hok
    cases htrail with
    | here hat' =>
      obtain rfl := hat.unique hat'
      exact not_offends_nil hclosed hbody
    | inside hat' hbody' hp =>
      obtain rfl := hat.unique hat'
      obtain rfl := Option.some.inj (hbody.symm.trans hbody')
      -- Within the definition, the name counts as one more on the stack.
      rw [offends_openNames_cons]
      exact ih d (Nat.lt_succ_self d) _ _ hdeeper ⟨cs, hok⟩ _ _ _ hp

/-- A trail starts at an occurrence of the text. -/
theorem Trail.exists_at {text : List Char} {address : List Nat} {around : List Occurrence}
    {o : Occurrence} (h : l.Trail text address around o) :
    ∃ pos rest p, address = pos :: rest ∧ Occurrence.At p text pos := by
  cases h with
  | here hat => exact ⟨_, _, _, rfl, hat⟩
  | inside hat _ _ => exact ⟨_, _, _, rfl, hat⟩

/-- An occurrence whose expansion fails holds the first offence, if no trail that starts at an
    earlier place ends in one, and its definition fails with its own first offence. -/
theorem firstOffence_of_expandReference_error {depth : Nat} {stack : List String}
    (hstacked : l.Stacked depth stack) {fieldsOnly : Bool} {text : List Char}
    (ih : ∀ d < depth, ∀ (stack' : List String) (text' : List Char), l.Stacked d stack' →
      ∀ e, (l.expandInside fieldsOnly d stack' text').outcome = .error e →
        l.FirstOffence stack' text' e)
    {pos : Nat} {o : Occurrence} (hat : o.At text pos)
    (hearlier : ∀ pos' < pos, ∀ rest around p, l.Trail text (pos' :: rest) around p →
      ¬ l.Offends (openNames stack around) p)
    {e : Error} (he : (l.expandReference fieldsOnly depth stack o).outcome = .error e) :
    l.FirstOffence stack text e := by
  -- Nothing in front of the occurrence itself is an offence.
  have hfirst : ∀ address' around p, l.Trail text address' around p → address' < [pos] →
      ¬ l.Offends (openNames stack around) p := by
    intro address' around p htrail hlt
    obtain ⟨pos', rest, o', rfl, -⟩ := htrail.exists_at
    rcases List.cons_lt_cons_iff.1 hlt with hlt | ⟨-, hlt⟩
    · exact hearlier pos' hlt rest around p htrail
    · exact absurd hlt (List.not_lt_nil rest)
  rcases expandReference_cases hstacked fieldsOnly o with
    ⟨hopen, h⟩ | ⟨hclosed, hnone, h⟩ | ⟨hclosed, body, d, hbody, rfl, hdeeper, h⟩
  · rw [h] at he
    cases he
    exact ⟨[pos], [], o, .here hat, Or.inl (by simpa [openNames] using hopen),
      by simp [offence, openNames, hopen], hfirst⟩
  · rw [h] at he
    cases he
    exact ⟨[pos], [], o, .here hat, Or.inr hnone, by simp [offence, openNames, hclosed], hfirst⟩
  · rw [h] at he
    obtain ⟨address, around, p, htrail, hoffends, rfl, hinner⟩ :=
      ih d (Nat.lt_succ_self d) _ body.toList hdeeper e he
    refine ⟨pos :: address, o :: around, p, .inside hat hbody htrail,
      offends_openNames_cons.2 hoffends, offence_openNames_cons.symm, ?_⟩
    intro address' around' p' htrail' hlt
    -- An earlier trail starts at an earlier place, or at `o` and goes on into its definition.
    cases htrail' with
    | here hat' =>
      rcases List.cons_lt_cons_iff.1 hlt with hless | ⟨rfl, -⟩
      · exact hearlier _ hless _ _ _ (.here hat')
      · obtain rfl := hat.unique hat'
        exact not_offends_nil hclosed hbody
    | inside hat' hbody' hp' =>
      rcases List.cons_lt_cons_iff.1 hlt with hless | ⟨rfl, hless⟩
      · exact hearlier _ hless _ _ _ (.inside hat' hbody' hp')
      · obtain rfl := hat.unique hat'
        obtain rfl := Option.some.inj (hbody.symm.trans hbody')
        rw [offends_openNames_cons]
        exact hinner _ _ _ hp' hless

/-- **An expansion fails with its first offence, and only then.** -/
theorem outcome_expandInside {depth : Nat} {stack : List String} (hstacked : l.Stacked depth stack)
    (fieldsOnly : Bool) (text : List Char) :
    ((∃ cs, (l.expandInside fieldsOnly depth stack text).outcome = .ok cs) → l.Clean stack text) ∧
      ∀ e, (l.expandInside fieldsOnly depth stack text).outcome = .error e →
        l.FirstOffence stack text e := by
  induction depth using Nat.strong_induction_on generalizing stack text with
  | h depth ih =>
    have hclean : ∀ {pos : Nat} {o : Occurrence}, o.At text pos →
        (∃ cs, (l.expandReference fieldsOnly depth stack o).outcome = .ok cs) →
        ∀ {rest around p}, l.Trail text (pos :: rest) around p →
          ¬ l.Offends (openNames stack around) p :=
      fun hat hok _ _ _ htrail => not_offends_of_expandReference_ok hstacked
        (fun d hd stack' text' hstacked' => (ih d hd hstacked' text').1) hat hok htrail
    rw [expandInside_eq]
    -- The occurrences in front of the one that fails have been expanded, so their trails are clean.
    constructor
    · intro hok address around p htrail
      rw [Expansion.isOk_outcome_ofPieces_iff] at hok
      obtain ⟨pos, rest, o, rfl, hat⟩ := htrail.exists_at
      exact hclean hat (hok o (Piece.reference_mem_scan_iff.2 ⟨pos, hat⟩)) htrail
    · intro e herror
      obtain ⟨pos, o, hmem, he, hbefore⟩ :=
        (Expansion.outcome_ofPieces_eq_error_iff 0).1 herror
      refine firstOffence_of_expandReference_error hstacked
        (fun d hd stack' text' hstacked' => (ih d hd hstacked' text').2)
        (((Piece.cuts_scan text).at_iff pos o).2 hmem) ?_ he
      intro pos' hlt rest around p htrail
      obtain ⟨_, _, o', hcons, hat⟩ := htrail.exists_at
      obtain ⟨rfl, rfl⟩ := List.cons.inj hcons
      exact hclean hat (hbefore _ o' (((Piece.cuts_scan text).at_iff _ o').1 hat) hlt) htrail

/-- What an expansion comes to is a text, if there is no offence, or the complaint about the
    first. -/
theorem outcome_expand_iff (l : Library) (fieldsOnly : Bool) (expression : String) :
    ((∃ cs, (l.expand fieldsOnly expression).outcome = .ok cs) ↔ l.Clean [] expression.toList) ∧
      ∀ e, (l.expand fieldsOnly expression).outcome = .error e ↔
        l.FirstOffence [] expression.toList e := by
  obtain ⟨hok, herror⟩ := outcome_expandInside (stacked_size_nil l) fieldsOnly expression.toList
  rw [← expand_eq] at hok
  simp only [← expand_eq] at herror
  -- Both sides exclude each other, so it is enough to have one for either outcome.
  cases hout : (l.expand fieldsOnly expression).outcome with
  | ok cs =>
    have hclean := hok ⟨cs, hout⟩
    refine ⟨⟨fun _ => hclean, fun _ => ⟨cs, rfl⟩⟩, fun e => ⟨fun h => ?_, fun h => ?_⟩⟩
    · cases h
    · exact absurd h (hclean.not_firstOffence e)
  | error e =>
    have hfirst := herror e hout
    refine ⟨⟨fun h => ?_, fun h => ?_⟩, fun e' => ⟨fun h => ?_, fun h => ?_⟩⟩
    · obtain ⟨cs, h⟩ := h
      cases h
    · exact absurd hfirst (h.not_firstOffence e)
    · cases h
      exact hfirst
    · rw [hfirst.unique h]

/-- The name of a first offence is reached; it has no definition, or it reaches itself. -/
theorem FirstOffence.exists_name {text : List Char} {e : Error} (h : l.FirstOffence [] text e) :
    ∃ n, l.Reaches text n ∧
      (e = .unknownPattern n ∧ l.get? n = none ∨
        e = .cyclicPattern n ∧ (l.get? n).isSome ∧ Relation.TransGen l.Refers n n) := by
  obtain ⟨address, around, o, htrail, hoffends, rfl, -⟩ := h
  refine ⟨o.name, htrail.reaches, ?_⟩
  by_cases hopen : o.name ∈ openNames [] around
  · obtain ⟨p, hp, hname⟩ := List.mem_map.1 (by simpa [openNames] using hopen)
    obtain ⟨-, hdefined, hcycle⟩ := htrail.of_mem_around hp
    rw [hname] at hdefined hcycle
    exact Or.inr ⟨by simp [offence, hopen], hdefined, hcycle⟩
  · exact Or.inl ⟨by simp [offence, hopen], hoffends.resolve_left hopen⟩

end Library

namespace Compiler

/-- **Which expressions can be expanded.** An expression is expanded just where every name that it
    reaches has a definition and none of them reaches itself. An expansion fails with the complaint
    about the first occurrence, depth first and from left to right, whose name is open or undefined;
    the name complained about is reached, and it has no definition or reaches itself. -/
theorem expand_outcome_by_reachability (c : Compiler) (expression : String) :
    ((∃ s, (c.expand expression).value = .ok s) ↔
      ∀ n, c.library.Reaches expression.toList n →
        (c.library.get? n).isSome ∧ ¬ Relation.TransGen c.library.Refers n n) ∧
    (∀ e, (c.expand expression).value = .error e ↔
      c.library.FirstOffence [] expression.toList e) ∧
    ∀ e, (c.expand expression).value = .error e →
      ∃ n, c.library.Reaches expression.toList n ∧
        (e = .unknownPattern n ∧ c.library.get? n = none ∨
          e = .cyclicPattern n ∧ (c.library.get? n).isSome ∧
            Relation.TransGen c.library.Refers n n) := by
  obtain ⟨hok, herror⟩ := Library.outcome_expand_iff c.library c.fieldsOnly expression
  have herror' : ∀ e, (c.expand expression).value = .error e ↔
      c.library.FirstOffence [] expression.toList e := by
    intro e
    rw [value_expand, Expansion.map_eq_error_iff, herror]
  refine ⟨?_, herror', fun e he => ((herror' e).1 he).exists_name⟩
  rw [value_expand, Expansion.exists_map_eq_ok_iff, hok, Library.clean_nil_iff]

/-- Two definitions that refer to each other, and one that is used twice. -/
def rings : Compiler where
  library := Library.empty.insertAll
    [⟨"SNOT", "a%\x7bBADGER\x7d"⟩, ⟨"BADGER", "b%\x7bSNOT\x7d"⟩,
      ⟨"TWICE", "%\x7bLEAF\x7d%\x7bLEAF\x7d"⟩, ⟨"LEAF", "x"⟩]
  fieldsOnly := false
  options := {}
  engine := ⟨fun _ expression => .error (.invalidExpression expression "")⟩

/-- The ring is noticed where it closes, and before the undefined name behind it. -/
theorem expand_outcome_by_reachability_rings :
    (rings.expand "%\x7bTWICE\x7d%\x7bSNOT\x7d%\x7bNONE\x7d").value =
        .error (.cyclicPattern "SNOT") ∧
      ∃ n, rings.library.Reaches "%\x7bTWICE\x7d%\x7bSNOT\x7d%\x7bNONE\x7d".toList n ∧
        (Error.cyclicPattern "SNOT" = .unknownPattern n ∧ rings.library.get? n = none ∨
          Error.cyclicPattern "SNOT" = .cyclicPattern n ∧ (rings.library.get? n).isSome ∧
            Relation.TransGen rings.library.Refers n n) := by
  have h : (rings.expand "%\x7bTWICE\x7d%\x7bSNOT\x7d%\x7bNONE\x7d").value =
      .error (.cyclicPattern "SNOT") := by decide +kernel
  exact ⟨h, (expand_outcome_by_reachability rings _).2.2 _ h⟩

end Compiler

end Grok
