import Grok.Proofs.Precedence.Shape

namespace Grok.Precedence

/-!
# Telling ways apart

Operators can be given a meaning that records what was applied to what. It tells all ways apart, so
ways that lead somewhere under the same meanings begin with each other.

* `Ways.records` is what the `recorder` leaves of some ways; `Ways.records_injective` — nothing is
  lost. Each operator leaves two records, or `x(y|z)` could not be told from `xy|xz`.
* `Shape.begins_iff` — a shape leads somewhere wherever another one does, whatever the operators
  mean, exactly if each route of the other one begins with a route of its own.
-/

/-- An operator that was applied, with the records of what it was applied to; `again` tells the two
    records of an operator apart. -/
inductive Record where
  | mk (op : Operator) (inner : List (List Record)) (again : Bool)

namespace Record

/-- Is it the second record of its operator? -/
def again : Record → Bool
  | mk _ _ again => again

end Record

namespace Ways

/-- The records at the ends of some ways. -/
def records : Ways → List (List Record)
  | none => []
  | stop more => [] :: more.records
  | step op inner rest more =>
    rest.records.map (.mk op inner.records false :: ·) ++
      (rest.records.map (.mk op inner.records true :: ·) ++ more.records)

/-- There is a way through everything that an operator applies to, and one behind each operator. -/
def Full : Ways → Prop
  | none => True
  | stop more => more.Full
  | step _ inner rest more =>
    (inner ≠ none ∧ inner.Full) ∧ (rest ≠ none ∧ rest.Full) ∧ more.Full

/-- A record whose first operator was recorded first. -/
def isFirst : List Record → Bool
  | [] => false
  | r :: _ => !r.again

/-- Something is recorded where there is a way. -/
theorem records_ne_nil {ws : Ways} (hfull : ws.Full) (h : ws ≠ none) : ws.records ≠ [] := by
  induction ws with
  | none => exact absurd rfl h
  | stop more => simp [records]
  | step op inner rest more _ ihrest =>
    have hrest : rest.records ≠ [] := ihrest hfull.2.1.2 hfull.2.1.1
    simp [records, hrest]

/-- The records of the ways behind the first operator stand in front of all others. -/
theorem takeWhile_records_step {op : Operator} {inner rest more : Ways} (hfull : rest.Full)
    (h : rest ≠ none) :
    (step op inner rest more).records.takeWhile isFirst =
      rest.records.map (.mk op inner.records false :: ·) := by
  obtain ⟨u, us, hrecords⟩ := List.exists_cons_of_ne_nil (records_ne_nil hfull h)
  have hall : ∀ w ∈ rest.records.map (Record.mk op inner.records false :: ·), isFirst w = true := by
    intro w hw
    obtain ⟨u, -, rfl⟩ := List.mem_map.1 hw
    rfl
  rw [records, List.takeWhile_append_of_pos hall, hrecords]
  simp [isFirst, Record.again]

/-- **Different ways leave different records.** -/
theorem records_injective {ws vs : Ways} (hws : ws.Full) (hvs : vs.Full)
    (h : ws.records = vs.records) : ws = vs := by
  induction ws generalizing vs with
  | none =>
    by_contra hne
    exact records_ne_nil hvs (Ne.symm hne) h.symm
  | stop more ih =>
    cases vs with
    | none => simp [records] at h
    | stop more' =>
      have hmore : more.records = more'.records := by simpa [records] using h
      have heq : more = more' := ih hws hvs hmore
      rw [heq]
    | step op inner rest more' =>
      obtain ⟨u, us, hrecords⟩ := List.exists_cons_of_ne_nil (records_ne_nil hvs.2.1.2 hvs.2.1.1)
      simp [records, hrecords] at h
  | step op inner rest more ihinner ihrest ihmore =>
    cases vs with
    | none => exact absurd h (records_ne_nil hws (by simp))
    | stop more' =>
      obtain ⟨u, us, hrecords⟩ := List.exists_cons_of_ne_nil (records_ne_nil hws.2.1.2 hws.2.1.1)
      simp [records, hrecords] at h
    | step op' inner' rest' more' =>
      obtain ⟨⟨-, hinner⟩, ⟨hrest, hrestFull⟩, hmore⟩ := hws
      obtain ⟨⟨-, hinner'⟩, ⟨hrest', hrestFull'⟩, hmore'⟩ := hvs
      -- The first block of both sides is the same, and tells operator, inner ways and rest.
      have hblock := congrArg (List.takeWhile isFirst) h
      rw [takeWhile_records_step hrestFull hrest,
        takeWhile_records_step hrestFull' hrest'] at hblock
      obtain ⟨u, us, hu⟩ := List.exists_cons_of_ne_nil (records_ne_nil hrestFull hrest)
      obtain ⟨u', us', hu'⟩ := List.exists_cons_of_ne_nil (records_ne_nil hrestFull' hrest')
      have hhead : Record.mk op inner.records false = Record.mk op' inner'.records false := by
        rw [hu, hu', List.map_cons, List.map_cons, List.cons.injEq, List.cons.injEq] at hblock
        exact hblock.1.1
      obtain ⟨rfl, hinnerRecords, -⟩ := Record.mk.inj hhead
      obtain rfl := ihinner hinner hinner' hinnerRecords
      have hrestRecords : rest.records = rest'.records := by
        refine List.map_injective_iff.2 ?_ hblock
        exact fun _ _ => List.tail_eq_of_cons_eq
      obtain rfl := ihrest hrestFull hrestFull' hrestRecords
      rw [records, records, List.append_cancel_left_eq, List.append_cancel_left_eq] at h
      rw [ihmore hmore hmore' h]

end Ways

/-- Alternatives are full if both of their sides are. -/
theorem Ways.full_append {ws vs : Ways} (hws : ws.Full) (hvs : vs.Full) : (ws.append vs).Full := by
  induction ws with
  | none => exact hvs
  | stop more ih => exact ih hws
  | step op inner rest more _ _ ih => exact ⟨hws.1, hws.2.1, ih hws.2.2⟩

theorem Ways.append_ne_none {ws vs : Ways} (h : ws ≠ .none) : ws.append vs ≠ .none := by
  cases ws with
  | none => exact absurd rfl h
  | stop more => simp [append]
  | step op inner rest more => simp [append]

/-- There is always a way through a shape. -/
theorem Shape.full_through (r : Shape) {k : Ways} (hfull : k.Full) (hne : k ≠ .none) :
    (r.through k).Full ∧ r.through k ≠ .none := by
  induction r generalizing k with
  | blank => exact ⟨hfull, hne⟩
  | both first second ih₁ ih₂ =>
    obtain ⟨hsecond, hsecondNe⟩ := ih₂ hfull hne
    exact ih₁ hsecond hsecondNe
  | either first second ih₁ ih₂ =>
    obtain ⟨hfirst, hfirstNe⟩ := ih₁ hfull hne
    exact ⟨Ways.full_append hfirst (ih₂ hfull hne).1, Ways.append_ne_none hfirstNe⟩
  | part op inner ih =>
    obtain ⟨hinner, hinnerNe⟩ := ih (show (Ways.stop .none).Full from trivial) (by simp)
    exact ⟨⟨⟨hinnerNe, hinner⟩, ⟨hne, hfull⟩, trivial⟩, by simp [through]⟩

/-- The ways of every shape are full. -/
theorem Shape.full_ways (r : Shape) : r.ways.Full :=
  (r.full_through (show (Ways.stop .none).Full from trivial) (by simp)).1

/-- What operators apply to can be passed on every route. -/
theorem Ways.full_of_mem_routes {ws : Ways} (h : ws.Full) {w : List (Operator × Ways)}
    (hw : w ∈ ws.routes) {x : Operator × Ways} (hx : x ∈ w) : x.2.Full := by
  induction ws generalizing w with
  | none => simp [routes] at hw
  | stop more ih =>
    rcases List.mem_cons.1 hw with rfl | hw
    · simp at hx
    · exact ih h hw hx
  | step op inner rest more _ ihrest ihmore =>
    rcases List.mem_append.1 hw with hw | hw
    · obtain ⟨u, hu, rfl⟩ := List.mem_map.1 hw
      rcases List.mem_cons.1 hx with rfl | hx
      · exact h.1.2
      · exact ihrest h.2.1.2 hu hx
    · exact ihmore h.2.2 hw hx

/-! ### The recorder -/

/-- A state of the recorder: what was recorded, or what is still expected. -/
inductive Trial where
  | recorded (records : List Record)
  | expected (steps : List (Operator × List (List Record)))

namespace Trial

/-- What was recorded. -/
def records? : Trial → Option (List Record)
  | recorded records => some records
  | expected _ => none

end Trial

open Classical in
/-- Records what is applied to what, or compares it with what is expected. -/
noncomputable def recorder : Meanings Trial where
  apply op inner
    | .recorded records =>
      let found := (inner (.recorded [])).filterMap Trial.records?
      [.recorded (records ++ [.mk op found false]), .recorded (records ++ [.mk op found true])]
    | .expected [] => []
    | .expected ((op', expected) :: steps) =>
      if op = op' ∧ (inner (.recorded [])).filterMap Trial.records? = expected then
        [.expected steps]
      else []

/-- What some ways leave is what their records say. -/
theorem behind_recorded (ws : Ways) (records : List Record) :
    recorder.behind ws (Trial.recorded records) =
      ws.records.map fun more => Trial.recorded (records ++ more) := by
  induction ws generalizing records with
  | none => rfl
  | stop more ih =>
    simp only [Meanings.behind, Ways.records, ih, List.map_cons, List.append_nil]
  | step op inner rest more ihinner ihrest ihmore =>
    -- Within an operator a new record is begun, and it tells the ways there.
    have hfound : (recorder.behind inner (Trial.recorded [])).filterMap Trial.records? =
        inner.records := by
      simp [ihinner, List.filterMap_map, Function.comp_def, Trial.records?]
    have happly : recorder.apply op (recorder.behind inner) (Trial.recorded records) =
        [Trial.recorded (records ++ [.mk op inner.records false]),
          Trial.recorded (records ++ [.mk op inner.records true])] := by
      rw [← hfound]
      rfl
    simp only [Meanings.behind, happly, List.flatMap_cons, List.flatMap_nil, List.append_nil,
      ihrest, ihmore, Ways.records, List.map_append, List.map_map, Function.comp_def, List.append_assoc,
      List.singleton_append]

/-- A route with the records of what its operators apply to. -/
def expectation (w : List (Operator × Ways)) : List (Operator × List (List Record)) :=
  w.map fun x => (x.1, x.2.records)

/-- A route leads somewhere from an expectation that begins with it, and from no other. -/
theorem along_expected_ne_nil_iff (w : List (Operator × Ways))
    (steps : List (Operator × List (List Record))) :
    recorder.along w (Trial.expected steps) ≠ [] ↔ expectation w <+: steps := by
  classical
  induction w generalizing steps with
  | nil => simp [Meanings.along, expectation]
  | cons x w ih =>
    obtain ⟨op, inner⟩ := x
    have hfound : (recorder.behind inner (Trial.recorded [])).filterMap Trial.records? =
        inner.records := by
      simp [behind_recorded, List.filterMap_map, Function.comp_def, Trial.records?]
    cases steps with
    | nil =>
      have happly : recorder.apply op (recorder.behind inner) (Trial.expected []) = [] := rfl
      simp [Meanings.along, happly, expectation]
    | cons y steps =>
      obtain ⟨op', expected⟩ := y
      have happly : recorder.apply op (recorder.behind inner)
            (Trial.expected ((op', expected) :: steps)) =
          if op = op' ∧ inner.records = expected then [Trial.expected steps] else [] := by
        rw [← hfound]
        rfl
      rw [Meanings.along, happly, expectation, List.map_cons, List.cons_prefix_cons, Prod.mk.injEq]
      -- A step is taken only if it is the expected one.
      by_cases h : op = op' ∧ inner.records = expected
      · rw [if_pos h, List.flatMap_singleton, ih, expectation]
        simp [h]
      · simp [h]

/-- Expectations tell routes apart. -/
theorem begins_of_expectation {v w : List (Operator × Ways)} (hv : ∀ x ∈ v, x.2.Full)
    (hw : ∀ x ∈ w, x.2.Full) (h : expectation v <+: expectation w) : v <+: w := by
  induction v generalizing w with
  | nil => exact List.nil_prefix
  | cons x v ih =>
    cases w with
    | nil => simp [expectation] at h
    | cons y w =>
      obtain ⟨op, inner⟩ := x
      obtain ⟨op', inner'⟩ := y
      simp only [expectation, List.map_cons, List.cons_prefix_cons, Prod.mk.injEq] at h
      obtain ⟨⟨rfl, hrecords⟩, h⟩ := h
      have hinner : inner.Full := hv _ List.mem_cons_self
      have hinner' : inner'.Full := hw _ List.mem_cons_self
      -- Full ways are told apart by what is recorded along them.
      obtain rfl := Ways.records_injective hinner hinner' hrecords
      have hrest := ih (fun x hx => hv x (List.mem_cons_of_mem _ hx))
        (fun x hx => hw x (List.mem_cons_of_mem _ hx)) h
      exact List.cons_prefix_cons.2 ⟨rfl, hrest⟩

/-- **The ways through one shape begin with those through another exactly if that one leads
    somewhere wherever the former does**, whatever the operators mean. -/
theorem Shape.begins_iff (r q : Shape) :
    r.ways.Begins q.ways ↔
      ∀ (State : Type) (M : Meanings State) (s : State),
        M.meaning r s ≠ [] → M.meaning q s ≠ [] := by
  simp only [Meanings.meaning_eq_behind]
  refine ⟨fun h _ M s => M.behind_ne_nil_of_begins h, ?_⟩
  intro h w hw
  -- The recorder is made to expect just this route; the other shape then has a route for it too.
  have hself : recorder.along w (Trial.expected (expectation w)) ≠ [] :=
    (along_expected_ne_nil_iff w _).2 (List.prefix_refl _)
  obtain ⟨t, ht⟩ := List.exists_mem_of_ne_nil _ hself
  have hr : recorder.behind r.ways (Trial.expected (expectation w)) ≠ [] :=
    List.ne_nil_of_mem ((recorder.mem_behind_iff _ _ t).2 ⟨w, hw, ht⟩)
  have hq := h Trial recorder (Trial.expected (expectation w)) hr
  obtain ⟨t', ht'⟩ := List.exists_mem_of_ne_nil _ hq
  obtain ⟨v, hv, ht'⟩ := (recorder.mem_behind_iff _ _ t').1 ht'
  have hprefix := (along_expected_ne_nil_iff v _).1 (List.ne_nil_of_mem ht')
  exact ⟨v, hv, begins_of_expectation (fun _ => Ways.full_of_mem_routes q.full_ways hv)
    (fun _ => Ways.full_of_mem_routes r.full_ways hw) hprefix⟩

end Grok.Precedence
