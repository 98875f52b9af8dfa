import Grok.Proofs.Expansion.Reachability
import Mathlib.Data.List.Chain

namespace Grok

/-!
# The calls of an expansion

Expanding a text calls for the expansion of the definitions that it refers to, and a definition may be
longer than the text that refers to it, or lead back to itself. What bounds the recursion is the stack
of open definitions.

* `Library.Runs` — the recursion with nothing to bound it: the calls that the pieces of a text lead
  to, and what they come to.
* `Library.expandOccurrence_cases` — what an occurrence leads to from where an expansion stands.
* `Library.exists_runs`, `Library.Runs.unique` — every text has one run, so the recursion ends;
  `Library.Runs.expandInto_eq` — and it comes to what the bounded one comes to.
* `Library.Nested` — a text is expanded inside of definitions, each of which is referred to by the
  one around it and is not open yet; `Library.Runs.nested` — every call of a run is nested so.
* `Compiler.calls_within_library` — hence no call is nested deeper than there are definitions, with
  the outermost call on top of that.
-/

namespace Library

/-- A call of the expansion: the number of calls that are active then, itself included; where the
    expansion stands and the text to expand; and where it stands on return, with the result. -/
structure Call where
  level : Nat
  entry : Progress
  text : List Char
  exit : Progress
  outcome : Except Error (List Char)

/-- The recursion with nothing to bound it. At a level, pieces are expanded from `p` on: they lead to
    the calls listed, outer ones before inner ones, and to a progress with a result. -/
inductive Runs (l : Library) (fieldsOnly : Bool) :
    Nat → Progress → List Piece → List Call → Progress → Except Error (List Char) → Prop where
  | nil {level : Nat} {p : Progress} : Runs l fieldsOnly level p [] [] p (.ok [])
  | char {level : Nat} {p q : Progress} {c : Char} {ps : List Piece} {calls : List Call}
      {outcome : Except Error (List Char)} (hrest : Runs l fieldsOnly level p ps calls q outcome) :
    Runs l fieldsOnly level p (.char c :: ps) calls q (outcome.map (c :: ·))
  /-- the definition is open -/
  | cyclic {level : Nat} {p : Progress} {o : Occurrence} {ps : List Piece}
      (hopen : o.name ∈ p.stack) :
    Runs l fieldsOnly level p (.reference o :: ps) [] (p.opening o) (.error (.cyclicPattern o.name))
  /-- there is no definition -/
  | unknown {level : Nat} {p : Progress} {o : Occurrence} {ps : List Piece}
      (hclosed : o.name ∉ p.stack) (hnone : l.get? o.name = none) :
    Runs l fieldsOnly level p (.reference o :: ps) [] (p.opening o)
      (.error (.unknownPattern o.name))
  /-- the expansion of the definition is called for and fails -/
  | failed {level : Nat} {p q : Progress} {o : Occurrence} {ps : List Piece} {body : String}
      {inner : List Call} {e : Error} (hclosed : o.name ∉ p.stack)
      (hbody : l.get? o.name = some body)
      (hinner : Runs l fieldsOnly (level + 1) ((p.opening o).push o.name) (Piece.scan body.toList)
        inner q (.error e)) :
    Runs l fieldsOnly level p (.reference o :: ps)
      (⟨level + 1, (p.opening o).push o.name, body.toList, q, .error e⟩ :: inner) q (.error e)
  /-- the expansion of the definition is called for, and then come the pieces behind -/
  | expanded {level : Nat} {p q r : Progress} {o : Occurrence} {ps : List Piece} {body : String}
      {inner behind : List Call} {fragment : List Char} {outcome : Except Error (List Char)}
      (hclosed : o.name ∉ p.stack) (hbody : l.get? o.name = some body)
      (hinner : Runs l fieldsOnly (level + 1) ((p.opening o).push o.name) (Piece.scan body.toList)
        inner q (.ok fragment))
      (hrest : Runs l fieldsOnly level q.pop ps behind r outcome) :
    Runs l fieldsOnly level p (.reference o :: ps)
      (⟨level + 1, (p.opening o).push o.name, body.toList, q, .ok fragment⟩ :: (inner ++ behind)) r
      (outcome.map (Expansion.wrap fieldsOnly o fragment ++ ·))

variable {l : Library} {fieldsOnly : Bool} {level depth : Nat} {p q r : Progress} {ps : List Piece}
  {calls calls' : List Call} {outcome outcome' : Except Error (List Char)}

/-- **There is one run** at most. -/
theorem Runs.unique (h : l.Runs fieldsOnly level p ps calls q outcome)
    (h' : l.Runs fieldsOnly level p ps calls' r outcome') :
    calls = calls' ∧ q = r ∧ outcome = outcome' := by
  -- Of the four ways to go on at an occurrence, the stack and the library leave only one.
  induction h generalizing calls' r outcome' with
  | nil =>
    cases h'
    exact ⟨rfl, rfl, rfl⟩
  | char _ ih =>
    cases h' with
    | char hrest' =>
      obtain ⟨rfl, rfl, rfl⟩ := ih hrest'
      exact ⟨rfl, rfl, rfl⟩
  | cyclic hopen =>
    cases h' with
    | cyclic => exact ⟨rfl, rfl, rfl⟩
    | unknown hclosed' => exact absurd hopen hclosed'
    | failed hclosed' => exact absurd hopen hclosed'
    | expanded hclosed' => exact absurd hopen hclosed'
  | unknown hclosed hnone =>
    cases h' with
    | cyclic hopen' => exact absurd hopen' hclosed
    | unknown => exact ⟨rfl, rfl, rfl⟩
    | failed _ hbody' => cases hnone.symm.trans hbody'
    | expanded _ hbody' => cases hnone.symm.trans hbody'
  | failed hclosed hbody _ ih =>
    cases h' with
    | cyclic hopen' => exact absurd hopen' hclosed
    | unknown _ hnone' => cases hnone'.symm.trans hbody
    | failed _ hbody' hinner' =>
      -- Both expand the same definition, and the inner runs end alike.
      obtain rfl := Option.some.inj (hbody.symm.trans hbody')
      obtain ⟨rfl, rfl, heq⟩ := ih hinner'
      rw [Except.error.inj heq]
      exact ⟨rfl, rfl, rfl⟩
    | expanded _ hbody' hinner' =>
      obtain rfl := Option.some.inj (hbody.symm.trans hbody')
      obtain ⟨-, -, heq⟩ := ih hinner'
      cases heq
  | expanded hclosed hbody _ _ ihinner ihrest =>
    cases h' with
    | cyclic hopen' => exact absurd hopen' hclosed
    | unknown _ hnone' => cases hnone'.symm.trans hbody
    | failed _ hbody' hinner' =>
      obtain rfl := Option.some.inj (hbody.symm.trans hbody')
      obtain ⟨-, -, heq⟩ := ihinner hinner'
      cases heq
    | expanded _ hbody' hinner' hrest' =>
      obtain rfl := Option.some.inj (hbody.symm.trans hbody')
      obtain ⟨rfl, rfl, heq⟩ := ihinner hinner'
      -- So the rest is run from the same place with the same stack.
      obtain ⟨rfl, rfl, rfl⟩ := ihrest hrest'
      obtain rfl := Except.ok.inj heq
      exact ⟨rfl, rfl, rfl⟩

/-! ### Every text has a run -/

/-- The expansion of one occurrence from where an expansion stands. -/
def expandOccurrence (l : Library) (fieldsOnly : Bool) (depth : Nat) (p : Progress)
    (o : Occurrence) : Progress × Except Error (List Char) :=
  let p := p.opening o
  if o.name ∈ p.stack then (p, .error (.cyclicPattern o.name))
  else
    match l.get? o.name with
    | none => (p, .error (.unknownPattern o.name))
    | some body =>
      match depth with
      | 0 => (p, .error (.cyclicPattern o.name))
      | depth + 1 =>
        match l.expandInto fieldsOnly depth (p.push o.name) body.toList with
        | (p, .error e) => (p, .error e)
        | (p, .ok fragment) => (p.pop, .ok fragment)

/-- An expansion goes through the pieces of its text. -/
theorem expandInto_eq (l : Library) (fieldsOnly : Bool) (depth : Nat) (p : Progress)
    (text : List Char) : l.expandInto fieldsOnly depth p text =
      Progress.expandPieces fieldsOnly (l.expandOccurrence fieldsOnly depth) p
        (Piece.scan text) := by
  rw [expandInto]
  rfl

/-- From one call to its return, occurrences are added, and after a success the stack is as it was. -/
theorem makes_of_expandInto {text : List Char}
    (h : l.expandInto fieldsOnly depth p text = (q, outcome)) :
    ∃ opened, p.Makes ⟨opened, outcome⟩ q := by
  obtain ⟨q', hq', hmakes⟩ := l.makes_expandInto fieldsOnly depth p text
  obtain ⟨rfl, hout⟩ := Prod.mk.inj (hq'.symm.trans h)
  rw [← hout]
  exact ⟨_, hmakes⟩

/-- When a definition has been expanded and its name is taken off, the stack is as it was. -/
theorem stack_pop_of_expandInto {o : Occurrence} {text cs : List Char}
    (h : l.expandInto fieldsOnly depth ((p.opening o).push o.name) text = (q, .ok cs)) :
    q.pop.stack = p.stack := by
  obtain ⟨opened, hmakes⟩ := makes_of_expandInto h
  rw [Progress.pop, hmakes.stack cs rfl]
  rfl

/-- **What an occurrence leads to.** Its definition is open, or there is none, or its definition is
    expanded on a stack with one name more; and then either that fails, or the name is taken off
    again. -/
theorem expandOccurrence_cases (hstacked : l.Stacked depth p.stack) (fieldsOnly : Bool)
    (o : Occurrence) :
    (o.name ∈ p.stack ∧ l.expandOccurrence fieldsOnly depth p o =
      (p.opening o, .error (.cyclicPattern o.name))) ∨
    (o.name ∉ p.stack ∧ l.get? o.name = none ∧ l.expandOccurrence fieldsOnly depth p o =
      (p.opening o, .error (.unknownPattern o.name))) ∨
    (o.name ∉ p.stack ∧ ∃ body d q, l.get? o.name = some body ∧ depth = d + 1 ∧
      l.Stacked d (o.name :: p.stack) ∧
      ((∃ e, l.expandInto fieldsOnly d ((p.opening o).push o.name) body.toList = (q, .error e) ∧
          l.expandOccurrence fieldsOnly depth p o = (q, .error e)) ∨
        ∃ fragment,
          l.expandInto fieldsOnly d ((p.opening o).push o.name) body.toList = (q, .ok fragment) ∧
          l.expandOccurrence fieldsOnly depth p o = (q.pop, .ok fragment) ∧
          q.pop.stack = p.stack)) := by
  have hopening : (p.opening o).stack = p.stack := rfl
  by_cases hmem : o.name ∈ p.stack
  · exact Or.inl ⟨hmem, by simp [expandOccurrence, hopening, hmem]⟩
  · refine Or.inr ?_
    cases hget : l.get? o.name with
    | none => exact Or.inl ⟨hmem, rfl, by simp [expandOccurrence, hopening, hmem, hget]⟩
    | some body =>
      -- There are fewer open names than definitions, so the depth is not used up.
      obtain ⟨d, rfl, hdeeper⟩ := hstacked.push (by simp [hget]) hmem
      refine Or.inr ⟨hmem, body, d, ?_⟩
      cases hinner : l.expandInto fieldsOnly d ((p.opening o).push o.name) body.toList with
      | mk q outcome =>
        refine ⟨q, rfl, rfl, hdeeper, ?_⟩
        cases outcome with
        | error e =>
          exact Or.inl ⟨e, rfl, by simp [expandOccurrence, hopening, hmem, hget, hinner]⟩
        | ok fragment =>
          exact Or.inr ⟨fragment, rfl, by simp [expandOccurrence, hopening, hmem, hget, hinner],
            stack_pop_of_expandInto hinner⟩

/-- The pieces of a text have a run, if the definitions that are opened for them do. -/
theorem exists_runs_expandPieces (hstacked : l.Stacked depth p.stack)
    (ih : ∀ d < depth, ∀ (level : Nat) (p : Progress) (text : List Char), l.Stacked d p.stack →
      ∃ calls, l.Runs fieldsOnly level p (Piece.scan text) calls
        (l.expandInto fieldsOnly d p text).1 (l.expandInto fieldsOnly d p text).2)
    (level : Nat) (ps : List Piece) :
    ∃ calls, l.Runs fieldsOnly level p ps calls
      (Progress.expandPieces fieldsOnly (l.expandOccurrence fieldsOnly depth) p ps).1
      (Progress.expandPieces fieldsOnly (l.expandOccurrence fieldsOnly depth) p ps).2 := by
  induction ps generalizing p with
  | nil => exact ⟨[], .nil⟩
  | cons piece ps ihps =>
    cases piece with
    | char c =>
      obtain ⟨calls, hruns⟩ := ihps hstacked
      exact ⟨calls, hruns.char⟩
    | reference o =>
      rw [Progress.expandPieces]
      rcases expandOccurrence_cases hstacked fieldsOnly o with
        ⟨hopen, h⟩ | ⟨hclosed, hnone, h⟩ | ⟨hclosed, body, d, q, hbody, rfl, hdeeper, h⟩
      · rw [h]
        exact ⟨[], .cyclic hopen⟩
      · rw [h]
        exact ⟨[], .unknown hclosed hnone⟩
      · obtain ⟨inner, hinner⟩ := ih d (Nat.lt_succ_self d) (level + 1) ((p.opening o).push o.name)
          body.toList hdeeper
        rcases h with ⟨e, hq, h⟩ | ⟨fragment, hq, h, hstack⟩
        · rw [hq] at hinner
          rw [h]
          exact ⟨_, .failed hclosed hbody hinner⟩
        · rw [hq] at hinner
          rw [h]
          -- The stack is as it was, so the pieces behind have a run too.
          obtain ⟨behind, hrest⟩ := ihps (hstack.symm ▸ hstacked)
          exact ⟨_, .expanded hclosed hbody hinner hrest⟩

/-- **Every text has a run**, and it comes to what the bounded recursion comes to: the bound is never
    what ends it. -/
theorem exists_runs (hstacked : l.Stacked depth p.stack) (fieldsOnly : Bool) (level : Nat)
    (text : List Char) :
    ∃ calls, l.Runs fieldsOnly level p (Piece.scan text) calls
      (l.expandInto fieldsOnly depth p text).1 (l.expandInto fieldsOnly depth p text).2 := by
  induction depth using Nat.strong_induction_on generalizing level p text with
  | h depth ih =>
    rw [expandInto_eq]
    exact exists_runs_expandPieces hstacked
      (fun d hd level p text hdeeper => ih d hd hdeeper level text) level (Piece.scan text)

/-- **What runs without a bound is what is computed with one**, if the bound covers the stack. -/
theorem Runs.expandInto_eq {text : List Char}
    (h : l.Runs fieldsOnly level p (Piece.scan text) calls q outcome)
    (hstacked : l.Stacked depth p.stack) :
    l.expandInto fieldsOnly depth p text = (q, outcome) := by
  obtain ⟨calls', h'⟩ := exists_runs hstacked fieldsOnly level text
  obtain ⟨-, rfl, rfl⟩ := h.unique h'
  rfl

/-! ### The stack at a call -/

/-- A text is expanded inside of the definitions on a stack, the innermost first: the expression
    inside of none, and a definition that is not open yet inside of the text that refers to it. -/
inductive Nested (l : Library) (expression : List Char) : List String → List Char → Prop where
  | outermost : Nested l expression [] expression
  | inside {stack : List String} {text : List Char} {n body : String}
      (h : Nested l expression stack text) (hmentions : Mentions text n) (hclosed : n ∉ stack)
      (hbody : l.get? n = some body) : Nested l expression (n :: stack) body.toList

variable {expression text : List Char} {stack : List String}

/-- Nested calls are about different names. -/
theorem Nested.nodup (h : l.Nested expression stack text) : stack.Nodup := by
  induction h with
  | outermost => exact List.nodup_nil
  | inside _ _ hclosed _ ih => exact List.nodup_cons.2 ⟨hclosed, ih⟩

/-- Each of these names has a definition. -/
theorem Nested.defined (h : l.Nested expression stack text) : ∀ n ∈ stack, (l.get? n).isSome := by
  induction h with
  | outermost => simp
  | inside _ _ _ hbody ih => exact List.forall_mem_cons.2 ⟨by simp [hbody], ih⟩

/-- Each definition refers to the one inside of it. -/
theorem Nested.isChain (h : l.Nested expression stack text) :
    stack.IsChain fun inner outer => l.Refers outer inner := by
  induction h with
  | outermost => exact .nil
  | inside h hmentions _ _ ih =>
    cases h with
    | outermost => exact .singleton _
    | inside _ _ _ hbody' => exact .cons_cons ⟨_, hbody', hmentions⟩ ih

/-- What is on the stack and what the library has besides. -/
theorem Nested.stacked (h : l.Nested expression stack text) :
    l.Stacked (l.size - stack.length) stack where
  nodup := h.nodup
  defined := h.defined
  length_add_depth := Nat.add_sub_cancel' (length_le_size h.nodup h.defined)

/-- **Every call is nested** in the definitions on its stack, and has a run of its own. -/
theorem Runs.nested (h : l.Runs fieldsOnly level p ps calls q outcome)
    (hnested : l.Nested expression p.stack text) (hlevel : level = p.stack.length + 1)
    (hps : ∀ o, .reference o ∈ ps → .reference o ∈ Piece.scan text) :
    ∀ call ∈ calls, l.Nested expression call.entry.stack call.text ∧
      call.level = call.entry.stack.length + 1 ∧
      ∃ inner, l.Runs fieldsOnly call.level call.entry (Piece.scan call.text) inner call.exit
        call.outcome := by
  -- The pieces change along the run, and so do the text and the stack from call to call.
  induction h generalizing text with
  | nil => simp
  | char _ ih => exact ih hnested hlevel fun o ho => hps o (List.mem_cons_of_mem _ ho)
  | cyclic => simp
  | unknown => simp
  | failed hclosed hbody hinner ih =>
    obtain ⟨pos, hat⟩ := Piece.reference_mem_scan_iff.1 (hps _ List.mem_cons_self)
    have hinside := hnested.inside ⟨pos, _, hat, rfl⟩ hclosed hbody
    have hdeeper := congrArg (· + 1) hlevel
    exact List.forall_mem_cons.2
      ⟨⟨hinside, hdeeper, _, hinner⟩, ih hinside hdeeper fun _ ho => ho⟩
  | expanded hclosed hbody hinner _ ihinner ihrest =>
    obtain ⟨pos, hat⟩ := Piece.reference_mem_scan_iff.1 (hps _ List.mem_cons_self)
    have hinside := hnested.inside ⟨pos, _, hat, rfl⟩ hclosed hbody
    have hdeeper := congrArg (· + 1) hlevel
    -- The pieces behind are expanded on the same stack again.
    have hstack := stack_pop_of_expandInto (hinner.expandInto_eq hinside.stacked)
    refine List.forall_mem_cons.2 ⟨⟨hinside, hdeeper, _, hinner⟩, fun call hcall => ?_⟩
    rcases List.mem_append.1 hcall with hcall | hcall
    · exact ihinner hinside hdeeper (fun _ ho => ho) call hcall
    · exact ihrest (hstack.symm ▸ hnested) (hstack.symm ▸ hlevel)
        (fun o ho => hps o (List.mem_cons_of_mem _ ho)) call hcall

/-- The outermost call is nested in nothing, and so every call of a run from the start is nested. -/
theorem Runs.nested_of_start
    (h : l.Runs fieldsOnly 1 .start (Piece.scan expression) calls q outcome) :
    ∀ call ∈ (⟨1, .start, expression, q, outcome⟩ : Call) :: calls,
      l.Nested expression call.entry.stack call.text ∧
      call.level = call.entry.stack.length + 1 ∧
      ∃ inner, l.Runs fieldsOnly call.level call.entry (Piece.scan call.text) inner call.exit
        call.outcome :=
  List.forall_mem_cons.2
    ⟨⟨.outermost, rfl, calls, h⟩, h.nested .outermost rfl fun _ ho => ho⟩

/-- What a call finds on the stack: no name twice, none without a definition, and each of them
    referred to by the one below it; so no more names than there are definitions. One call is active
    for each of them, and the outermost one. -/
structure Call.Within (l : Library) (call : Call) : Prop where
  nodup : call.entry.stack.Nodup
  defined : ∀ n ∈ call.entry.stack, (l.get? n).isSome
  refers : call.entry.stack.IsChain fun inner outer => l.Refers outer inner
  length_le_size : call.entry.stack.length ≤ l.size
  level_eq : call.level = call.entry.stack.length + 1

/-- So a call that is entered in this way stays within the library. -/
theorem Nested.within {call : Call} (h : l.Nested expression call.entry.stack call.text)
    (hlevel : call.level = call.entry.stack.length + 1) : call.Within l where
  nodup := h.nodup
  defined := h.defined
  refers := h.isChain
  length_le_size := length_le_size h.nodup h.defined
  level_eq := hlevel

end Library

namespace Compiler

open Library (Call)

/-- **The stack bounds the recursion.** The expansion of an expression has a run, though nothing
    bounds the recursion from outside, and this is what expanding and compiling go by. At every call
    of it the stack holds distinct names, all of them defined and each referred to by the one below
    it; so there are no more of them than definitions, and no more calls are active than that and
    one. On return from any call the occurrences that were opened stand behind those before, and
    after a success the stack is what it was. -/
theorem calls_within_library (c : Compiler) (expression : String) :
    (∃ calls q outcome, c.library.Runs c.fieldsOnly 1 .start (Piece.scan expression.toList) calls q
      outcome) ∧
    ∀ calls q outcome, c.library.Runs c.fieldsOnly 1 .start (Piece.scan expression.toList) calls q
        outcome →
      c.library.expand c.fieldsOnly expression = ⟨q.opened, outcome⟩ ∧
      ∀ call ∈ (⟨1, .start, expression.toList, q, outcome⟩ : Call) :: calls,
        call.Within c.library ∧ call.level ≤ c.library.size + 1 ∧
        (∀ cs, call.outcome = .ok cs → call.exit.stack = call.entry.stack) ∧
        call.entry.opened <+: call.exit.opened ∧
        c.library.expandInto c.fieldsOnly (c.library.size - call.entry.stack.length) call.entry
          call.text = (call.exit, call.outcome) := by
  have hstart : c.library.Stacked c.library.size Progress.start.stack :=
    c.library.stacked_size_nil
  constructor
  · obtain ⟨calls, hruns⟩ := Library.exists_runs hstart c.fieldsOnly 1 expression.toList
    exact ⟨calls, _, _, hruns⟩
  · intro calls q outcome hruns
    -- The computation with its bound is the run, as the stack is empty at the start.
    have hexpand : c.library.expandInto c.fieldsOnly c.library.size .start expression.toList =
        (q, outcome) := hruns.expandInto_eq hstart
    refine ⟨by rw [Library.expand, hexpand], fun call hcall => ?_⟩
    -- What holds of the first call is handed down to all others.
    obtain ⟨hnested, hlevel, inner, hinner⟩ := hruns.nested_of_start call hcall
    have hwithin := hnested.within hlevel
    have hlength := hwithin.length_le_size
    have hbounded := hinner.expandInto_eq hnested.stacked
    obtain ⟨opened, hmakes⟩ := Library.makes_of_expandInto hbounded
    exact ⟨hwithin, by omega, hmakes.stack, ⟨opened, hmakes.opened.symm⟩, hbounded⟩

/-- Two definitions that refer to each other, and nothing else. -/
def ring : Compiler where
  library := Library.empty.insertAll [⟨"SNOT", "%\x7bBADGER\x7d"⟩, ⟨"BADGER", "%\x7bSNOT\x7d"⟩]
  fieldsOnly := true
  options := {}
  engine := ⟨fun _ expression => .error (.invalidExpression expression "")⟩

/-- The calls of a reference to the first one: the definition of each is expanded once. -/
def ringCalls : List Call :=
  let first : Progress := ⟨[⟨"SNOT", none, none⟩], ["SNOT"]⟩
  let second : Progress :=
    ⟨[⟨"SNOT", none, none⟩, ⟨"BADGER", none, none⟩], ["BADGER", "SNOT"]⟩
  let last := second.opening ⟨"SNOT", none, none⟩
  [⟨2, first, "%\x7bBADGER\x7d".toList, last, .error (.cyclicPattern "SNOT")⟩,
    ⟨3, second, "%\x7bSNOT\x7d".toList, last, .error (.cyclicPattern "SNOT")⟩]

theorem runs_ring : ∃ q, ring.library.Runs ring.fieldsOnly 1 .start
    (Piece.scan "%\x7bSNOT\x7d".toList) ringCalls q (.error (.cyclicPattern "SNOT")) := by
  have hsnot : Piece.scan "%\x7bSNOT\x7d".toList = [.reference ⟨"SNOT", none, none⟩] := by
    decide +kernel
  have hbadger : Piece.scan "%\x7bBADGER\x7d".toList = [.reference ⟨"BADGER", none, none⟩] := by
    decide +kernel
  have hfirst : ring.library.get? "SNOT" = some "%\x7bBADGER\x7d" := by decide +kernel
  have hsecond : ring.library.get? "BADGER" = some "%\x7bSNOT\x7d" := by decide +kernel
  rw [hsnot]
  refine ⟨_, .failed (by decide) hfirst ?_⟩
  rw [hbadger]
  refine .failed (by decide) hsecond ?_
  rw [hsnot]
  exact .cyclic (by decide)

/-- The ring is noticed where it closes, and the bound is reached there. -/
theorem calls_within_library_ring :
    (∃ q, ring.library.Runs ring.fieldsOnly 1 .start (Piece.scan "%\x7bSNOT\x7d".toList) ringCalls q
      (.error (.cyclicPattern "SNOT"))) ∧
      ringCalls.map (·.level) = [2, 3] ∧ ring.library.size = 2 ∧
      ∀ call ∈ ringCalls, call.Within ring.library ∧ call.level ≤ ring.library.size + 1 := by
  obtain ⟨q, hruns⟩ := runs_ring
  obtain ⟨-, hall⟩ := (calls_within_library ring "%\x7bSNOT\x7d").2 ringCalls q _ hruns
  refine ⟨⟨q, hruns⟩, rfl, by decide +kernel, fun call hcall => ?_⟩
  obtain ⟨hwithin, hlevel, -⟩ := hall call (List.mem_cons_of_mem _ hcall)
  exact ⟨hwithin, hlevel⟩

end Compiler

end Grok
