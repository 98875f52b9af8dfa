import Mathlib.Data.List.Basic

namespace Grok.Precedence

/-!
# Shapes of expressions

A shape says what the operators of a regular expression apply to, and leaves open what they mean.

* `Shape.ways` are the ways through a shape: what is tried in which order. `Ways.routes` are the
  single ways in it, each a sequence of steps.
* `Meanings` gives operators a meaning: from a state, the states behind them in the order in which
  they are tried. `Meanings.meaning` is the meaning of a shape, and `Meanings.meaning_eq_behind`
  says that it depends on the ways through the shape alone.
* `Ways.Begins` — every route of some ways begins with a route of others; then the others lead
  somewhere wherever the former do (`Meanings.behind_ne_nil_of_begins`).
-/

/-- What an expression is made of, apart from concatenation and alternation. -/
inductive Operator where
  /-- an atom; it applies to nothing -/
  | atom (text : List Char)
  /-- a group that does more than to capture, with what it starts with -/
  | group (opening : List Char)
  | repeated (quantifier : List Char)
  deriving DecidableEq, Repr

/-- What the operators of an expression apply to. -/
inductive Shape where
  | blank
  /-- one after the other -/
  | both (first second : Shape)
  /-- one or else the other -/
  | either (first second : Shape)
  | part (op : Operator) (inner : Shape)
  deriving DecidableEq, Repr

/-- What is tried one after the other: to stop, or an operator with the ways through what it applies
    to, and then any of the ways behind it. -/
inductive Ways where
  | none
  | stop (more : Ways)
  | step (op : Operator) (inner rest more : Ways)
  deriving DecidableEq, Repr

namespace Ways

/-- First the ones, then the others. -/
def append : Ways → Ways → Ways
  | none, vs => vs
  | stop more, vs => stop (more.append vs)
  | step op inner rest more, vs => step op inner rest (more.append vs)

/-- It does not matter how alternatives are grouped. -/
theorem append_assoc (us vs ws : Ways) : (us.append vs).append ws = us.append (vs.append ws) := by
  induction us with
  | none => rfl
  | stop more ih => simp only [append, ih]
  | step op inner rest more _ _ ih => simp only [append, ih]

/-- The single ways: each is a sequence of operators with the ways through what they apply to. -/
def routes : Ways → List (List (Operator × Ways))
  | none => []
  | stop more => [] :: more.routes
  | step op inner rest more => rest.routes.map ((op, inner) :: ·) ++ more.routes

/-- Every route begins with a route of `vs`. -/
def Begins (ws vs : Ways) : Prop := ∀ w ∈ ws.routes, ∃ v ∈ vs.routes, v <+: w

/-- Ways begin with themselves. -/
theorem Begins.refl (ws : Ways) : ws.Begins ws := fun w hw => ⟨w, hw, List.prefix_refl w⟩

end Ways

namespace Shape

/-- The ways through a shape, and then on as `k` says. -/
def through : Shape → Ways → Ways
  | blank, k => k
  | both first second, k => first.through (second.through k)
  | either first second, k => (first.through k).append (second.through k)
  | part op inner, k => .step op (inner.through (.stop .none)) k .none

/-- The ways through a shape. -/
def ways (r : Shape) : Ways := r.through (.stop .none)

end Shape

/-! ### Meanings -/

/-- What operators mean, given the meaning of what they apply to: from a state, the states behind
    them in the order in which they are tried. -/
structure Meanings (State : Type) where
  apply : Operator → (State → List State) → State → List State

namespace Meanings

variable {State : Type} (M : Meanings State)

/-- The states behind a shape. -/
def meaning : Shape → State → List State
  | .blank, s => [s]
  | .both first second, s => (meaning first s).flatMap (meaning second)
  | .either first second, s => meaning first s ++ meaning second s
  | .part op inner, s => M.apply op (meaning inner) s

/-- The states at the ends of some ways. -/
def behind : Ways → State → List State
  | .none, _ => []
  | .stop more, s => s :: behind more s
  | .step op inner rest more, s =>
    (M.apply op (behind inner) s).flatMap (behind rest) ++ behind more s

/-- The states at the end of a route. -/
def along : List (Operator × Ways) → State → List State
  | [], s => [s]
  | (op, inner) :: w, s => (M.apply op (M.behind inner) s).flatMap (along w)

/-- Behind alternatives lies what lies behind each of them, in their order. -/
theorem behind_append (ws vs : Ways) (s : State) :
    M.behind (ws.append vs) s = M.behind ws s ++ M.behind vs s := by
  induction ws with
  | none => rfl
  | stop more ih => simp only [Ways.append, behind, ih, List.cons_append]
  | step op inner rest more _ _ ih => simp only [Ways.append, behind, ih, List.append_assoc]

/-- Behind a shape that goes on lies what lies behind the places that the shape leads to. -/
theorem behind_through (r : Shape) (k : Ways) (s : State) :
    M.behind (r.through k) s = (M.meaning r s).flatMap (M.behind k) := by
  induction r generalizing k s with
  | blank => simp [Shape.through, meaning]
  | both first second ih₁ ih₂ =>
    have hsecond : M.behind (second.through k) =
        fun s => (M.meaning second s).flatMap (M.behind k) := funext (ih₂ k)
    rw [Shape.through, ih₁, hsecond, meaning, List.flatMap_assoc]
  | either first second ih₁ ih₂ =>
    rw [Shape.through, behind_append, ih₁, ih₂, meaning, List.flatMap_append]
  | part op inner ih =>
    have hinner : M.behind (inner.through (.stop .none)) = M.meaning inner := by
      funext s
      simp [ih, behind]
    rw [Shape.through, behind, hinner, behind, List.append_nil, meaning]

/-- **The meaning of a shape depends on the ways through it alone.** -/
theorem meaning_eq_behind (r : Shape) : M.meaning r = M.behind r.ways := by
  funext s
  simp [Shape.ways, behind_through, behind]

/-- A route can be followed by parts. -/
theorem along_append (v w : List (Operator × Ways)) (s : State) :
    M.along (v ++ w) s = (M.along v s).flatMap (M.along w) := by
  induction v generalizing s with
  | nil => simp [along]
  | cons x v ih =>
    have hv : M.along (v ++ w) = fun s => (M.along v s).flatMap (M.along w) := funext ih
    rw [List.cons_append, along, hv, along, List.flatMap_assoc]

/-- What is at the end of some ways is at the end of a route. -/
theorem mem_behind_iff (ws : Ways) (s t : State) :
    t ∈ M.behind ws s ↔ ∃ w ∈ ws.routes, t ∈ M.along w s := by
  induction ws generalizing s with
  | none => simp [behind, Ways.routes]
  | stop more ih => simp [behind, Ways.routes, ih, along]
  | step op inner rest more _ ihrest ihmore =>
    simp only [behind, Ways.routes, List.mem_append, List.mem_flatMap, ihrest, ihmore, List.mem_map,
      or_and_right, exists_or, exists_exists_and_eq_and, along]
    -- The routes behind the operator are tried from every state that it leaves.
    refine or_congr_left ⟨?_, ?_⟩
    · rintro ⟨u, hu, w, hw, ht⟩
      exact ⟨w, hw, u, hu, ht⟩
    · rintro ⟨w, hw, u, hu, ht⟩
      exact ⟨u, hu, w, hw, ht⟩

/-- **A route that begins with another one leads nowhere if that one does not.** -/
theorem behind_ne_nil_of_begins {ws vs : Ways} (h : ws.Begins vs) {s : State}
    (hs : M.behind ws s ≠ []) : M.behind vs s ≠ [] := by
  obtain ⟨t, ht⟩ := List.exists_mem_of_ne_nil _ hs
  obtain ⟨w, hw, ht⟩ := (M.mem_behind_iff ws s t).1 ht
  obtain ⟨v, hv, u, rfl⟩ := h w hw
  rw [along_append, List.mem_flatMap] at ht
  obtain ⟨t', ht', -⟩ := ht
  exact List.ne_nil_of_mem ((M.mem_behind_iff vs s t').2 ⟨v, hv, ht'⟩)

end Meanings

end Grok.Precedence
