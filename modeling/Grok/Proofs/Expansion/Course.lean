import Grok.Expansion

namespace Grok

/-!
# The course of an expansion

An expansion goes on from where the one before it stands, with the names of the definitions that are
being expanded on a stack. What it does is told by that stack alone, and it leaves the stack as it was.

* `Expansion.ofPieces` joins the expansions of the pieces of an expression.
* `Library.expandInside` is the expansion of a text inside of the definitions on a stack.
* `Progress.Makes` — from one state to another, an expansion adds what it opened and leaves the stack
  as it was, unless it fails.
* `Library.makes_expandInto` — a text is expanded from any state as it is inside of the definitions
  on its stack; `Library.expand_eq` — an expression is expanded inside of no definition.
-/

namespace Expansion

/-- Joins the expansions of pieces from left to right; `expand` is the expansion of one occurrence
    and includes the occurrence itself. The first fault ends it. -/
def ofPieces (fieldsOnly : Bool) (expand : Occurrence → Expansion) : List Piece → Expansion
  | [] => ⟨[], .ok []⟩
  | .char c :: ps =>
    let rest := ofPieces fieldsOnly expand ps
    ⟨rest.opened, rest.outcome.map (c :: ·)⟩
  | .reference o :: ps =>
    let inner := expand o
    match inner.outcome with
    | .error e => ⟨inner.opened, .error e⟩
    | .ok fragment =>
      let rest := ofPieces fieldsOnly expand ps
      ⟨inner.opened ++ rest.opened, rest.outcome.map (wrap fieldsOnly o fragment ++ ·)⟩

theorem exists_map_eq_ok_iff {α β : Type} {x : Except Error α} {f : α → β} :
    (∃ b, x.map f = .ok b) ↔ ∃ a, x = .ok a := by
  cases x <;> simp [Except.map]

end Expansion

namespace Library

/-- Expands a text inside of the definitions on the stack. `depth` bounds how many more definitions
    can be opened; the definitions that are not on the stack are no more than that, so with none
    left every defined name is on the stack. -/
def expandInside (l : Library) (fieldsOnly : Bool) :
    Nat → List String → List Char → Expansion
  | depth, stack, text =>
    Expansion.ofPieces fieldsOnly
      (fun o =>
        if o.name ∈ stack then ⟨[o], .error (.cyclicPattern o.name)⟩
        else
          match l.get? o.name with
          | none => ⟨[o], .error (.unknownPattern o.name)⟩
          | some body =>
            match depth with
            | 0 => ⟨[o], .error (.cyclicPattern o.name)⟩
            | depth + 1 =>
              let inner := l.expandInside fieldsOnly depth (o.name :: stack) body.toList
              ⟨o :: inner.opened, inner.outcome⟩)
      (Piece.scan text)

end Library

namespace Progress

/-- An expansion leads from `p` to `q`: its occurrences are added, and after a success the stack is
    the same. -/
structure Makes (p : Progress) (e : Expansion) (q : Progress) : Prop where
  opened : q.opened = p.opened ++ e.opened
  stack : ∀ cs, e.outcome = .ok cs → q.stack = p.stack

/-- An occurrence that is at fault by itself is opened and no more. -/
theorem makes_fault (p : Progress) (o : Occurrence) (e : Error) :
    p.Makes ⟨[o], .error e⟩ (p.opening o) where
  opened := rfl
  stack := by
    rintro cs ⟨⟩

/-- If single occurrences leave the stack as it was, so do the pieces of a text. -/
theorem makes_expandPieces {fieldsOnly : Bool} {stack : List String} {inner : Occurrence → Expansion}
    {expand : Progress → Occurrence → Progress × Except Error (List Char)}
    (hexpand : ∀ (p : Progress) (o : Occurrence), p.stack = stack →
      ∃ q, expand p o = (q, (inner o).outcome) ∧ p.Makes (inner o) q)
    (ps : List Piece) {p : Progress} (hp : p.stack = stack) :
    ∃ q, expandPieces fieldsOnly expand p ps =
        (q, (Expansion.ofPieces fieldsOnly inner ps).outcome) ∧
      p.Makes (Expansion.ofPieces fieldsOnly inner ps) q := by
  induction ps generalizing p with
  | nil => exact ⟨p, rfl, (List.append_nil _).symm, fun _ _ => rfl⟩
  | cons piece ps ih =>
    cases piece with
    | char c =>
      obtain ⟨q, hq, hmakes⟩ := ih hp
      rw [expandPieces, hq, Expansion.ofPieces]
      refine ⟨q, rfl, hmakes.opened, fun cs hcs => ?_⟩
      obtain ⟨rest, hrest⟩ := Expansion.exists_map_eq_ok_iff.1 ⟨cs, hcs⟩
      exact hmakes.stack rest hrest
    | reference o =>
      obtain ⟨q, hq, hmakes⟩ := hexpand p o hp
      rw [expandPieces, hq, Expansion.ofPieces]
      cases hfragment : (inner o).outcome with
      | error e => exact ⟨q, rfl, hmakes.opened, by rintro cs ⟨⟩⟩
      | ok fragment =>
        -- The occurrence has left the stack as it was, so what follows is expanded on it too.
        have hstack : q.stack = p.stack := hmakes.stack fragment hfragment
        obtain ⟨r, hr, hbehind⟩ := ih (hstack.trans hp)
        refine ⟨r, by dsimp only; rw [hr], ?_, fun cs hcs => ?_⟩
        · rw [hbehind.opened, hmakes.opened, List.append_assoc]
        · obtain ⟨rest, hrest⟩ := Expansion.exists_map_eq_ok_iff.1 ⟨cs, hcs⟩
          exact (hbehind.stack rest hrest).trans hstack

end Progress

namespace Library

/-- **An expansion is told by the stack**, whatever was expanded before, and it leaves the stack as
    it was. -/
theorem makes_expandInto (l : Library) (fieldsOnly : Bool) (depth : Nat) (p : Progress)
    (text : List Char) :
    ∃ q, l.expandInto fieldsOnly depth p text =
        (q, (l.expandInside fieldsOnly depth p.stack text).outcome) ∧
      p.Makes (l.expandInside fieldsOnly depth p.stack text) q := by
  induction depth using Nat.strongRecOn generalizing p text with
  | ind depth ih =>
    rw [expandInto, expandInside]
    refine Progress.makes_expandPieces (fun q o hq => ?_) _ rfl
    have hopening : (q.opening o).stack = p.stack := hq
    dsimp only
    rw [hopening]
    by_cases hmem : o.name ∈ p.stack
    · rw [if_pos hmem, if_pos hmem]
      exact ⟨_, rfl, q.makes_fault o _⟩
    · rw [if_neg hmem, if_neg hmem]
      cases l.get? o.name with
      | none => exact ⟨_, rfl, q.makes_fault o _⟩
      | some body =>
        cases depth with
        | zero => exact ⟨_, rfl, q.makes_fault o _⟩
        | succ depth =>
          -- The definition is expanded with its name on the stack, and then that is taken off.
          obtain ⟨r, hr, hmakes⟩ :=
            ih depth (Nat.lt_succ_self depth) ((q.opening o).push o.name) body.toList
          have hpush : ((q.opening o).push o.name).stack = o.name :: p.stack :=
            congrArg (o.name :: ·) hopening
          rw [hpush] at hr hmakes
          dsimp only
          rw [hr]
          have hopened : r.opened = q.opened ++
              o :: (l.expandInside fieldsOnly depth (o.name :: p.stack) body.toList).opened := by
            rw [hmakes.opened]
            exact (List.append_cons q.opened o _).symm
          cases hbody : (l.expandInside fieldsOnly depth (o.name :: p.stack) body.toList).outcome with
          | error e => exact ⟨r, rfl, hopened, by rintro cs ⟨⟩⟩
          | ok fragment =>
            refine ⟨r.pop, rfl, hopened, fun _ _ => ?_⟩
            rw [Progress.pop, hmakes.stack fragment hbody, hpush, List.tail_cons, hq]

/-- An expression is expanded inside of no definition. -/
theorem expand_eq (l : Library) (fieldsOnly : Bool) (expression : String) :
    l.expand fieldsOnly expression =
      l.expandInside fieldsOnly l.size [] expression.toList := by
  obtain ⟨q, hq, hmakes⟩ := l.makes_expandInto fieldsOnly l.size .start expression.toList
  rw [expand, hq]
  dsimp only
  rw [hmakes.opened]
  rfl

end Library

end Grok
