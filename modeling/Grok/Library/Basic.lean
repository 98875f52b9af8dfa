import Grok.Error

namespace Grok

/-!
# Libraries of definitions

A `Library` is a table from names to the expressions they stand for, ordered by name.

* `Library.insert` adds a definition or replaces the one of the same name.
* `Library.get?` looks a name up, `Library.resolve` reports a name without a definition.
* `Library.get?_insert` says what an insertion changes.
-/

/-- A name and the expression it stands for. -/
structure Definition where
  name : String
  body : String
  deriving DecidableEq, Repr

namespace Definition

/-- Puts a definition into a list that is ordered by name, in place of one of the same name. -/
def insertInto (d : Definition) : List Definition → List Definition
  | [] => [d]
  | e :: es =>
    if d.name < e.name then d :: e :: es
    else if d.name = e.name then d :: es
    else e :: insertInto d es

/-- Every name that an insertion leaves behind was there before or is the new one. -/
theorem name_of_mem_insertInto {d x : Definition} {es : List Definition}
    (h : x ∈ insertInto d es) : x = d ∨ x ∈ es := by
  induction es with
  | nil => simpa [insertInto] using h
  | cons e es ih =>
    unfold insertInto at h
    split at h
    · simpa using h
    · split at h
      · rcases List.mem_cons.1 h with rfl | h
        · exact Or.inl rfl
        · exact Or.inr (List.mem_cons_of_mem _ h)
      · rcases List.mem_cons.1 h with rfl | h
        · exact Or.inr (List.mem_cons_self)
        · exact (ih h).imp_right (List.mem_cons_of_mem _)

/-- An insertion keeps the order. -/
theorem pairwise_insertInto (d : Definition) {es : List Definition}
    (h : es.Pairwise (·.name < ·.name)) : (insertInto d es).Pairwise (·.name < ·.name) := by
  induction es with
  | nil => simp [insertInto]
  | cons e es ih =>
    have hes := List.pairwise_cons.1 h
    unfold insertInto
    split
    · rename_i hlt
      refine List.pairwise_cons.2 ⟨fun x hx => ?_, h⟩
      rcases List.mem_cons.1 hx with rfl | hx
      · exact hlt
      · exact String.lt_trans hlt (hes.1 x hx)
    · split
      · rename_i heq
        exact List.pairwise_cons.2 ⟨fun x hx => heq ▸ hes.1 x hx, hes.2⟩
      · rename_i hlt hne
        refine List.pairwise_cons.2 ⟨fun x hx => ?_, ih hes.2⟩
        rcases name_of_mem_insertInto hx with rfl | hx
        · exact Decidable.byContradiction fun hge =>
            hne (String.le_antisymm (String.not_lt.1 hge) (String.not_lt.1 hlt))
        · exact hes.1 x hx

end Definition

/-- A table of definitions, at most one of a name. -/
structure Library where
  /-- The definitions, ordered by name. -/
  definitions : List Definition
  /-- The order is strict, so no name occurs twice. -/
  ordered : definitions.Pairwise (·.name < ·.name)

namespace Library

/-- A library without definitions. -/
def empty : Library := ⟨[], List.Pairwise.nil⟩

instance : Inhabited Library := ⟨empty⟩

/-- Adds a definition, in place of one of the same name. -/
def insert (l : Library) (d : Definition) : Library :=
  ⟨d.insertInto l.definitions, d.pairwise_insertInto l.ordered⟩

/-- Adds definitions from left to right. -/
def insertAll (l : Library) (ds : List Definition) : Library := ds.foldl insert l

/-- The expression a name stands for. -/
def get? (l : Library) (name : String) : Option String :=
  (l.definitions.find? fun d => d.name = name).map (·.body)

/-- Is there a definition of the name? -/
def contains (l : Library) (name : String) : Bool := (l.get? name).isSome

/-- The number of definitions. -/
def size (l : Library) : Nat := l.definitions.length

/-- Is there no definition at all? -/
def isEmpty (l : Library) : Bool := l.definitions.isEmpty

/-- The expression a name stands for, or the complaint that it stands for none. -/
def resolve (l : Library) (name : String) : Except Error String :=
  match l.get? name with
  | some body => .ok body
  | none => .error (.unknownPattern name)

end Library

/-- After an insertion the new name has the new body, and every other name what it had. -/
theorem Definition.find?_insertInto (d : Definition) {es : List Definition}
    (h : es.Pairwise (·.name < ·.name)) (n : String) :
    (d.insertInto es).find? (fun x => x.name = n) =
      if d.name = n then some d else es.find? fun x => x.name = n := by
  induction es with
  | nil => by_cases hn : d.name = n <;> simp [insertInto, hn]
  | cons e es ih =>
    have hes := List.pairwise_cons.1 h
    unfold insertInto
    split
    · by_cases hn : d.name = n <;> simp [hn]
    · split
      · rename_i heq
        by_cases hn : d.name = n
        · simp [hn]
        · have hen : e.name ≠ n := heq ▸ hn
          simp [hn, hen]
      · rename_i hne
        by_cases hen : e.name = n
        · have hdn : d.name ≠ n := fun hd => hne (hd.trans hen.symm)
          simp [hen, hdn]
        · simp [hen, ih hes.2]

namespace Library

theorem get?_empty (n : String) : empty.get? n = none := rfl

theorem get?_insert (l : Library) (d : Definition) (n : String) :
    (l.insert d).get? n = if d.name = n then some d.body else l.get? n := by
  unfold get? insert
  rw [Definition.find?_insertInto d l.ordered n]
  split <;> simp

end Library

end Grok
