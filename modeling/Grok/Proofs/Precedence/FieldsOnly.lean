import Grok.Proofs.Expansion.Tree
import Grok.Proofs.Precedence.Reading
import Grok.Proofs.Precedence.Recorder
import Grok.Regex.Backtracking

namespace Grok

/-!
# Capturing only fields

A fragment is a group of its own if it is captured, and stands bare otherwise. So what a fragment is
to the expression around it may depend on what is captured.

* `Precedence.Lexer` cuts expressions into tokens, and `Engine.ReadsBy` says that an engine goes by
  precedence: what it finds depends on the shape of an expression and the meaning of its operators.
* `Library.ModesAgree` — under any such engine, an expression matches the same texts whether all
  references are captured or only fields.
* `Library.modesAgree_iff` — that is so exactly if the routes through both expansions begin with
  each other, and in particular if all fragments fit where they stand.
* `Compiler.not_found_in_both_modes` — it is not always so: `%{LETTER}c`, where a letter is
  `a|b`, matches `a` in one mode only.
-/

namespace Precedence

/-- Cuts an expression into tokens, unless it cannot be read. -/
abbrev Lexer : Type := List Char → Option (List Token)

/-- The shape of an expression, unless it cannot be read. -/
def Lexer.shape? (lexer : Lexer) (expression : List Char) : Option Shape :=
  (lexer expression).bind Precedence.shape?

end Precedence

open Precedence (Token Shape Ways Meanings Lexer Sign Fits)

/-! ### Engines that go by precedence -/

namespace Matcher

/-- The matcher finds a match in a text. -/
def Finds (m : Matcher) (text : String) : Prop := ∃ offsets, m.search text = .ok (some offsets)

/-- The search of a text is broken off. -/
def BreaksOff (m : Matcher) (text : String) : Prop := ∃ e, m.search text = .error e

end Matcher

/-- An engine goes by precedence on an expression: it compiles it only if it can be read, and a
    search that is not broken off finds something exactly if from one of the places of the text, as
    `starts` gives them, some place lies behind the shape of the expression. -/
def Engine.ReadsBy {State : Type} (engine : Engine) (options : SearchOptions) (lexer : Lexer)
    (M : Meanings State) (starts : String → List State) (expression : String) : Prop :=
  ∀ program, engine.compile options expression = .ok program →
    ∃ r, lexer.shape? expression.toList = some r ∧
      ∀ text found, program.search text = .ok found →
        (found.isSome ↔ ∃ s ∈ starts text, M.meaning r s ≠ [])

/-- An engine that does nothing else than to go by precedence. -/
def Precedence.engine {State : Type} (lexer : Lexer) (M : Meanings State)
    (starts : String → List State) : Engine where
  compile _ expression :=
    match lexer.shape? expression.toList with
    | none => .error (.invalidExpression expression "")
    | some r => .ok {
        namedGroups := []
        search := fun text =>
          .ok (if (starts text).any fun s => !(M.meaning r s).isEmpty then some [] else none) }

namespace Precedence

variable {State : Type} {lexer : Lexer} {M : Meanings State} {starts : String → List State}

/-- Such an engine goes by precedence on every expression. -/
theorem engine_readsBy (options : SearchOptions) (expression : String) :
    (engine lexer M starts).ReadsBy options lexer M starts expression := by
  intro program h
  unfold engine at h
  cases hshape : lexer.shape? expression.toList with
  | none => simp [hshape] at h
  | some r =>
    simp only [hshape, Except.ok.injEq] at h
    subst h
    refine ⟨r, rfl, ?_⟩
    intro text found hfound
    obtain rfl := Except.ok.inj hfound
    simp

/-- It compiles what can be read, and its searches are never broken off. -/
theorem exists_program (M : Meanings State) (starts : String → List State) {expression : String}
    {r : Shape} (h : lexer.shape? expression.toList = some r) (options : SearchOptions) :
    ∃ program, (engine lexer M starts).compile options expression = .ok program ∧
      ∀ text, ∃ found, program.search text = .ok found := by
  simp [engine, h]

end Precedence

/-! ### Both modes -/

namespace Expansion.Tree

/-- The tokens of an expansion, with the ends of the fragments that stand bare if only fields are
    captured; `lex` are the tokens of literal text. -/
def signs (lex : List Char → List Token) : Tree → List Sign
  | literal cs => (lex cs).map .token
  | reference cs o definition rest =>
    (lex cs).map .token ++
      (if o.field.isSome then .token .capture :: definition.signs lex ++ [.token .closing]
        else .enter :: definition.signs lex ++ [.leave]) ++
      rest.signs lex

end Expansion.Tree

namespace Library

/-- Under any engine that goes by precedence, an expression matches the same texts in both modes, as
    far as the searches are not broken off. -/
def ModesAgree (l : Library) (options : SearchOptions) (lexer : Lexer) (expression : String) :
    Prop :=
  ∀ (engine : Engine) (State : Type) (M : Meanings State) (starts : String → List State)
    (m n : Matcher),
    ((Compiler.mk l true options engine).compile expression).value = .ok m →
    ((Compiler.mk l false options engine).compile expression).value = .ok n →
    engine.ReadsBy options lexer M starts m.expression →
    engine.ReadsBy options lexer M starts n.expression →
    ∀ text, ¬ m.BreaksOff text → ¬ n.BreaksOff text → (m.Finds text ↔ n.Finds text)

end Library

namespace Compiler

variable {State : Type} {lexer : Lexer} {M : Meanings State} {starts : String → List State}

/-- What a matcher finds with such an engine is told by the shape of its expansion. -/
theorem exists_shape_of_compile {c : Compiler} {expression : String} {m : Matcher}
    (hm : (c.compile expression).value = .ok m)
    (hreads : c.engine.ReadsBy c.options lexer M starts m.expression) :
    ∃ cs r, (c.library.expand c.fieldsOnly expression).outcome = .ok cs ∧
      lexer.shape? cs = some r ∧
      ∀ text, ¬ m.BreaksOff text → (m.Finds text ↔ ∃ s ∈ starts text, M.meaning r s ≠ []) := by
  obtain ⟨expanded, program, hexpanded, hprogram, rfl⟩ := compile_eq_ok_iff.1 hm
  obtain ⟨r, hshape, hsearch⟩ := hreads program hprogram
  rw [value_expand] at hexpanded
  cases hout : (c.library.expand c.fieldsOnly expression).outcome with
  | error e => simp [hout, Except.map] at hexpanded
  | ok cs =>
    obtain rfl : String.ofList cs = expanded := by simpa [hout, Except.map] using hexpanded
    refine ⟨cs, r, rfl, by simpa [Matcher.ofProgram] using hshape, ?_⟩
    intro text hbreaks
    -- The search has an answer, as it does not break off.
    cases hfound : program.search text with
    | error e => exact absurd ⟨e, hfound⟩ hbreaks
    | ok found =>
      rw [← hsearch text found hfound, Option.isSome_iff_exists]
      simp [Matcher.Finds, Matcher.ofProgram, hfound]

/-- An expression whose expansion can be read is compiled by an engine that only goes by
    precedence, and no search is broken off. -/
theorem exists_matcher (M : Meanings State) (starts : String → List State) {l : Library}
    {fieldsOnly : Bool} {expression : String} {cs : List Char} {r : Shape}
    (hexpand : (l.expand fieldsOnly expression).outcome = .ok cs)
    (hshape : lexer.shape? cs = some r) (options : SearchOptions) :
    ∃ m, ((Compiler.mk l fieldsOnly options (Precedence.engine lexer M starts)).compile
        expression).value = .ok m ∧ ∀ text, ¬ m.BreaksOff text := by
  have hread : lexer.shape? (String.ofList cs).toList = some r := by simpa using hshape
  obtain ⟨program, hprogram, hsearch⟩ :=
    Precedence.exists_program M starts hread options
  refine ⟨_, compile_eq_ok_iff.2 ⟨String.ofList cs, program, ?_, hprogram, rfl⟩, ?_⟩
  · rw [value_expand, hexpand]
    rfl
  · rintro text ⟨e, he⟩
    obtain ⟨found, hfound⟩ := hsearch text
    rw [show program.search text = .error e from he] at hfound
    cases hfound

end Compiler

namespace Library

open Expansion (Tree)

/-- What an expansion gives is the yield of any tree of the expression. -/
theorem eq_yield_of_outcome {l : Library} {fieldsOnly : Bool} {expression : String} {cs : List Char}
    (hok : (l.expand fieldsOnly expression).outcome = .ok cs) {t : Tree}
    (hof : t.IsOf expression.toList) (hunfolds : t.Unfolds l) : cs = t.yield fieldsOnly := by
  obtain ⟨u, huOf, huUnfolds, hgives⟩ := exists_tree_of_expand hok
  obtain rfl := Tree.eq_of_isOf huOf huUnfolds hof hunfolds
  exact Except.ok.inj (hok.symm.trans hgives.outcome)

/-- Shapes whose routes begin with each other are found in the same texts. -/
theorem modesAgree_of_begins {l : Library} {options : SearchOptions} {lexer : Lexer}
    {expression : String}
    (h : ∀ cs ds r q, (l.expand true expression).outcome = .ok cs →
      (l.expand false expression).outcome = .ok ds → lexer.shape? cs = some r →
      lexer.shape? ds = some q → r.ways.Begins q.ways ∧ q.ways.Begins r.ways) :
    l.ModesAgree options lexer expression := by
  intro engine State M starts m n hm hn hmReads hnReads text hmText hnText
  obtain ⟨cs, r, hcs, hr, hmFinds⟩ := Compiler.exists_shape_of_compile hm hmReads
  obtain ⟨ds, q, hds, hq, hnFinds⟩ := Compiler.exists_shape_of_compile hn hnReads
  obtain ⟨hrq, hqr⟩ := h cs ds r q hcs hds hr hq
  rw [hmFinds text hmText, hnFinds text hnText]
  constructor
  · rintro ⟨s, hs, hne⟩
    exact ⟨s, hs, (Shape.begins_iff r q).1 hrq State M s hne⟩
  · rintro ⟨s, hs, hne⟩
    exact ⟨s, hs, (Shape.begins_iff q r).1 hqr State M s hne⟩

/-- Otherwise the operators can be given a meaning under which they are not. -/
theorem begins_of_modesAgree {l : Library} {options : SearchOptions} {lexer : Lexer}
    {expression : String} (h : l.ModesAgree options lexer expression) {cs ds : List Char}
    {r q : Shape} (hcs : (l.expand true expression).outcome = .ok cs)
    (hds : (l.expand false expression).outcome = .ok ds) (hr : lexer.shape? cs = some r)
    (hq : lexer.shape? ds = some q) : r.ways.Begins q.ways ∧ q.ways.Begins r.ways := by
  have hmeaning : ∀ (State : Type) (M : Meanings State) (s : State),
      M.meaning r s ≠ [] ↔ M.meaning q s ≠ [] := by
    intro State M s
    -- Searching every text from `s` alone tells whether something lies behind a shape from there.
    let starts : String → List State := fun _ => [s]
    obtain ⟨m, hm, hmText⟩ := Compiler.exists_matcher M starts hcs hr options
    obtain ⟨n, hn, hnText⟩ := Compiler.exists_matcher M starts hds hq options
    have hmReads : (Precedence.engine lexer M starts).ReadsBy options lexer M starts m.expression :=
      Precedence.engine_readsBy options m.expression
    have hnReads : (Precedence.engine lexer M starts).ReadsBy options lexer M starts n.expression :=
      Precedence.engine_readsBy options n.expression
    obtain ⟨cs', r', hcs', hr', hmFinds⟩ := Compiler.exists_shape_of_compile hm hmReads
    obtain ⟨ds', q', hds', hq', hnFinds⟩ := Compiler.exists_shape_of_compile hn hnReads
    obtain rfl : cs = cs' := Except.ok.inj (hcs.symm.trans hcs')
    obtain rfl : ds = ds' := Except.ok.inj (hds.symm.trans hds')
    obtain rfl : r = r' := Option.some.inj (hr.symm.trans hr')
    obtain rfl : q = q' := Option.some.inj (hq.symm.trans hq')
    have hagree := h _ State M starts m n hm hn hmReads hnReads "" (hmText "") (hnText "")
    rw [hmFinds "" (hmText ""), hnFinds "" (hnText "")] at hagree
    simpa [starts] using hagree
  rw [Shape.begins_iff, Shape.begins_iff]
  exact ⟨fun State M s => (hmeaning State M s).1, fun State M s => (hmeaning State M s).2⟩

/-- **An expression matches the same texts in both modes**, under any engine that goes by
    precedence, exactly if the routes through both of its expansions begin with each other. In
    particular, it does so if its fragments fit where they stand. -/
theorem modesAgree_iff (l : Library) (options : SearchOptions) (lexer : Lexer)
    (expression : String) :
    (l.ModesAgree options lexer expression ↔
      ∀ cs ds r q, (l.expand true expression).outcome = .ok cs →
        (l.expand false expression).outcome = .ok ds → lexer.shape? cs = some r →
        lexer.shape? ds = some q → r.ways.Begins q.ways ∧ q.ways.Begins r.ways) ∧
    ∀ (t : Tree) (lex : List Char → List Token) (r : Shape), t.IsOf expression.toList →
      t.Unfolds l →
      (∀ fieldsOnly, lexer (t.yield fieldsOnly) =
        some ((t.signs lex).flatMap (Sign.tokens fieldsOnly))) →
      Fits .whole (t.signs lex) r → l.ModesAgree options lexer expression := by
  refine ⟨⟨fun h _ _ _ _ => begins_of_modesAgree h, modesAgree_of_begins⟩, ?_⟩
  intro t lex shape hof hunfolds hlexer hfits
  refine modesAgree_of_begins ?_
  intro cs ds r q hcs hds hr hq
  obtain rfl := eq_yield_of_outcome hcs hof hunfolds
  obtain rfl := eq_yield_of_outcome hds hof hunfolds
  -- Where fragments fit, both expansions have the ways of the same shape.
  obtain ⟨r', hr', hrWays⟩ := hfits.exists_shape true
  obtain ⟨q', hq', hqWays⟩ := hfits.exists_shape false
  rw [Lexer.shape?, hlexer, Option.bind_some, hr', Option.some.injEq] at hr
  rw [Lexer.shape?, hlexer, Option.bind_some, hq', Option.some.injEq] at hq
  have hways : r.ways = q.ways := by rw [← hr, ← hq, hrWays, hqWays]
  rw [hways]
  exact ⟨Ways.Begins.refl _, Ways.Begins.refl _⟩

end Library

/-! ### A small dialect -/

namespace Precedence

/-- Cuts an expression of a small dialect into tokens; `inName` tells whether the name of a group is
    being read. -/
def dialectFrom : (inName : Bool) → List Char → Option (List Token)
  | true, [] => none
  | true, c :: cs => dialectFrom (c ≠ '>') cs
  | false, [] => some []
  | false, '(' :: '?' :: '<' :: cs => (dialectFrom true cs).map (.capture :: ·)
  | false, '(' :: '?' :: ':' :: cs => (dialectFrom false cs).map (.opening ['(', '?', ':'] :: ·)
  | false, c :: cs =>
    let token :=
      if c = '|' then .bar
      else if c = ')' then .closing
      else if c = '*' ∨ c = '+' ∨ c = '?' then .quantifier [c]
      else .atom [c]
    (dialectFrom false cs).map (token :: ·)

/-- The tokens of the small dialect. -/
def dialect : Lexer := dialectFrom false

/-- Repeats a step as often as possible, at most `count` times, and then less often. -/
def laps (step : List Char → List (List Char)) : (count : Nat) → List Char → List (List Char)
  | 0, s => [s]
  | count + 1, s => (step s).flatMap (laps step count) ++ [s]

/-- The small dialect on texts: a state is what is left of a text. -/
def onText : Meanings (List Char) where
  apply
    | .atom text, _, s => if text <+: s then [s.drop text.length] else []
    | .group _, inner, s => inner s
    | .repeated quantifier, inner, s =>
      if quantifier = ['*'] then laps inner s.length s
      else if quantifier = ['+'] then (inner s).flatMap (laps inner s.length)
      else inner s ++ [s]

end Precedence

namespace Library

open Expansion (Tree)

/-- A definition that is a group. -/
def letters : Library := empty.insertAll [⟨"LETTER", "(?:a|b)"⟩]

/-- A reference to it with a quantifier behind it. -/
def lettersTree : Tree :=
  .reference [] ⟨"LETTER", none, none⟩ (.literal "(?:a|b)".toList) (.literal "+c".toList)

/-- A group can be repeated, so the same texts match in both modes. -/
theorem modesAgree_iff_letters :
    ∃ m n : Matcher,
      ((Compiler.mk letters true {} (Precedence.engine Precedence.dialect Precedence.onText
        fun text => text.toList.tails)).compile "%\x7bLETTER\x7d+c").value = .ok m ∧
      ((Compiler.mk letters false {} (Precedence.engine Precedence.dialect Precedence.onText
        fun text => text.toList.tails)).compile "%\x7bLETTER\x7d+c").value = .ok n ∧
      ∀ text, m.Finds text ↔ n.Finds text := by
  have hof : lettersTree.IsOf "%\x7bLETTER\x7d+c".toList := Piece.cuts_iff.2 (by decide +kernel)
  have hunfolds : lettersTree.Unfolds letters :=
    ⟨⟨"(?:a|b)", by decide +kernel, Piece.cuts_iff.2 (by decide +kernel)⟩, trivial, trivial⟩
  have hlexer : ∀ fieldsOnly, Precedence.dialect (lettersTree.yield fieldsOnly) =
      some ((lettersTree.signs fun cs => (Precedence.dialect cs).getD []).flatMap
        (Sign.tokens fieldsOnly)) := by decide +kernel
  -- The fragment is a group of its own, and a group can be repeated.
  have hgroup : Fits .whole _ _ :=
    .either (.branch (.append .nil (.atom ['a']))) (.branch (.append .nil (.atom ['b'])))
  have hfits : Fits .whole _ _ := .branch (.append
    (.append .nil (.repeated (.single (.group ['(', '?', ':'] hgroup)) ['+'])) (.atom ['c']))
  have hagree := (modesAgree_iff letters {} Precedence.dialect "%\x7bLETTER\x7d+c").2 lettersTree
    (fun cs => (Precedence.dialect cs).getD []) _ hof hunfolds hlexer hfits
  have hbare : (letters.expand true "%\x7bLETTER\x7d+c").outcome = .ok "(?:a|b)+c".toList := by
    decide +kernel
  have hwrapped : (letters.expand false "%\x7bLETTER\x7d+c").outcome =
      .ok "(?<LETTER>(?:a|b))+c".toList := by
    decide +kernel
  -- Both expansions can be read, so there are matchers for them.
  have hbareRead : (Precedence.dialect.shape? "(?:a|b)+c".toList).isSome := by decide +kernel
  have hwrappedRead : (Precedence.dialect.shape? "(?<LETTER>(?:a|b))+c".toList).isSome := by
    decide +kernel
  obtain ⟨r, hr⟩ := Option.isSome_iff_exists.1 hbareRead
  obtain ⟨q, hq⟩ := Option.isSome_iff_exists.1 hwrappedRead
  obtain ⟨m, hm, hmText⟩ :=
    Compiler.exists_matcher Precedence.onText (fun text => text.toList.tails) hbare hr {}
  obtain ⟨n, hn, hnText⟩ :=
    Compiler.exists_matcher Precedence.onText (fun text => text.toList.tails) hwrapped hq {}
  refine ⟨m, n, hm, hn, ?_⟩
  intro text
  exact hagree _ _ Precedence.onText _ m n hm hn (Precedence.engine_readsBy {} m.expression)
    (Precedence.engine_readsBy {} n.expression) text (hmText text) (hnText text)

end Library

/-! ### A definition with alternatives -/

namespace Compiler

/-- A definition that is an alternation. -/
def alternation (fieldsOnly : Bool) : Compiler where
  library := Library.empty.insertAll [⟨"LETTER", "a|b"⟩]
  fieldsOnly := fieldsOnly
  options := {}
  engine := Regex.backtracking

/-- What a compiled expression comes to on a text. -/
theorem exists_matcher_of_search {c : Compiler} {expression text : String} {found : Bool}
    (h : (c.compile expression).value.map (fun m => (m.search text).map Option.isSome) =
      .ok (.ok found)) :
    ∃ m, (c.compile expression).value = .ok m ∧ ¬ m.BreaksOff text ∧
      (m.Finds text ↔ found = true) := by
  cases hm : (c.compile expression).value with
  | error e => simp [hm, Except.map] at h
  | ok m =>
    refine ⟨m, rfl, ?_⟩
    cases hsearch : m.search text with
    | error e => simp [hm, hsearch, Except.map] at h
    | ok offsets =>
      simp only [hm, hsearch, Except.map, Except.ok.injEq] at h
      subst h
      exact ⟨by simp [Matcher.BreaksOff, hsearch],
        by simp [Matcher.Finds, hsearch, Option.isSome_iff_exists]⟩

/-- **Not every expression matches the same texts in both modes**: where only fields are captured,
    what follows a reference to an alternation belongs to the last alternative alone. There is no
    number of a group in these texts that could mean another one. -/
theorem not_found_in_both_modes :
    ∃ m n : Matcher, ((alternation true).compile "%\x7bLETTER\x7dc").value = .ok m ∧
      ((alternation false).compile "%\x7bLETTER\x7dc").value = .ok n ∧
      ¬ m.BreaksOff "a" ∧ ¬ n.BreaksOff "a" ∧ m.Finds "a" ∧ ¬ n.Finds "a" := by
  have hbare : ((alternation true).compile "%\x7bLETTER\x7dc").value.map
      (fun m => (m.search "a").map Option.isSome) = .ok (.ok true) := by decide +kernel
  have hgroup : ((alternation false).compile "%\x7bLETTER\x7dc").value.map
      (fun m => (m.search "a").map Option.isSome) = .ok (.ok false) := by decide +kernel
  obtain ⟨m, hm, hmText, hmFinds⟩ := exists_matcher_of_search hbare
  obtain ⟨n, hn, hnText, hnFinds⟩ := exists_matcher_of_search hgroup
  exact ⟨m, n, hm, hn, hmText, hnText, hmFinds.2 rfl, fun h => Bool.false_ne_true (hnFinds.1 h)⟩

end Compiler

end Grok
