import Grok.Proofs.Regex.Calls
import Grok.Proofs.Regex.Words

namespace Grok.Regex

/-!
# Reading under another name

Two readings of one text that differ in the names of groups only go on in step, as long as the text
refers to none of the names in which they differ.

* `Alike` — two results are the same fault, or related values.
* `GroupNames.Twins`, `Reading.Twins` — the names, and the two readings.
* `Reading.Twins.openGroup`, `Reading.Twins.take` and so on — each step of one is a step of the
  other, and they are twins behind it.
* `Reading.Twins.run` — they stay twins up to the end of the text.
-/

/-! ### Results -/

/-- Two results are the same fault, or they are related. -/
inductive Alike {α β : Type} (R : α → β → Prop) : Except Fault α → Except Fault β → Prop where
  | error (e : Fault) : Alike R (.error e) (.error e)
  | ok {a : α} {b : β} (h : R a b) : Alike R (.ok a) (.ok b)

namespace Alike

variable {α β γ δ : Type} {R : α → β → Prop} {S : γ → δ → Prop} {x : Except Fault α}
  {y : Except Fault β}

/-- Results that are alike stay so if related values are gone on with alike. -/
theorem bind {f : α → Except Fault γ} {g : β → Except Fault δ} (h : Alike R x y)
    (hfg : ∀ a b, R a b → Alike S (f a) (g b)) : Alike S (x >>= f) (y >>= g) := by
  cases h with
  | error e => exact .error e
  | ok h => exact hfg _ _ h

/-- Where one of two such results is a value, the other is a related one. -/
theorem exists_ok (h : Alike R x y) {a : α} (hx : x = .ok a) : ∃ b, y = .ok b ∧ R a b := by
  cases h with
  | error e => cases hx
  | ok h =>
    obtain rfl := Except.ok.inj hx
    exact ⟨_, rfl, h⟩

/-- A result goes on in two ways that are alike. -/
theorem bind_same {z : Except Fault γ} {f : γ → Except Fault α} {g : γ → Except Fault β}
    (h : ∀ c, z = .ok c → Alike R (f c) (g c)) : Alike R (z >>= f) (z >>= g) := by
  cases z with
  | error e => exact .error e
  | ok c => exact h c rfl

end Alike

/-! ### Names of groups -/

namespace GroupNames

variable {names : GroupNames} {n w : List Char} {g : Nat}

/-- The first entry of a name counts. -/
theorem groups_cons {m : List Char} {gs : List Nat} :
    GroupNames.groups ((m, gs) :: names) w = if w = m then gs else names.groups w := by
  unfold GroupNames.groups
  rw [List.lookup_cons]
  by_cases h : w = m
  · simp [h]
  · simp [beq_eq_false_iff_ne.2 h, h]

/-- One more group of a name is added behind those it has, and other names keep theirs. -/
theorem groups_add : (names.add n g).groups w =
    if w = n then names.groups n ++ [g] else names.groups w := by
  induction names with
  | nil =>
    rw [GroupNames.add, groups_cons]
    rfl
  | cons e es ih =>
    obtain ⟨m, gs⟩ := e
    unfold GroupNames.add
    -- A name that is known already gets one more group.
    by_cases hm : m = n
    · subst hm
      simp only [if_true, groups_cons]
      split <;> rfl
    · simp only [hm, if_false, groups_cons, ih, Ne.symm hm]
      split
      · rename_i hw
        simp [hw, hm]
      · rfl

/-- No name is lost. -/
theorem mem_add (h : w ∈ names.map Prod.fst) : w ∈ (names.add n g).map Prod.fst := by
  induction names with
  | nil => cases h
  | cons e es ih =>
    unfold GroupNames.add
    split
    · exact h
    · rcases List.mem_cons.1 h with rfl | h
      · exact List.mem_cons_self
      · exact List.mem_cons_of_mem _ (ih h)

/-- Groups can be renumbered before or after they are looked up. -/
theorem groups_map (f : Nat → Nat) :
    GroupNames.groups (names.map fun (m, gs) => (m, gs.map f)) w = (names.groups w).map f := by
  induction names with
  | nil => rfl
  | cons e es ih =>
    rw [List.map_cons, groups_cons, groups_cons, ih]
    split <;> rfl

/-- Names of groups between which no name with the property tells. One list knows the name `s`, the
    other one `t`. -/
structure Twins (P : List Char → Prop) (s t : List Char) (names names' : GroupNames) : Prop where
  groups : ∀ w, P w → names'.groups w = names.groups w
  mem : s ∈ names.map Prod.fst
  mem' : t ∈ names'.map Prod.fst

namespace Twins

variable {P : List Char → Prop} {s t : List Char} {names' : GroupNames}

/-- Both lists hold a name, so neither of them is empty. -/
theorem ne_nil (h : Twins P s t names names') : names ≠ [] := by
  rintro rfl
  exact List.not_mem_nil h.mem

theorem ne_nil' (h : Twins P s t names names') : names' ≠ [] := by
  rintro rfl
  exact List.not_mem_nil h.mem'

/-- A group is added under one name to both. -/
theorem add (h : Twins P s t names names') (n : List Char) (g : Nat) :
    Twins P s t (names.add n g) (names'.add n g) where
  groups := by
    intro w hw
    rw [groups_add, groups_add, h.groups w hw]
    split
    · rename_i heq
      rw [← heq, h.groups w hw]
    · rfl
  mem := mem_add h.mem
  mem' := mem_add h.mem'

/-- The groups of both are renumbered. -/
theorem map (h : Twins P s t names names') (f : Nat → Nat) :
    Twins P s t (names.map fun (m, gs) => (m, gs.map f))
      (names'.map fun (m, gs) => (m, gs.map f)) where
  groups := by
    intro w hw
    rw [groups_map, groups_map, h.groups w hw]
  mem := by simpa using h.mem
  mem' := by simpa using h.mem'

end Twins

end GroupNames

namespace Reading

variable {P : List Char → Prop} {s t cs : List Char} {r r' : Reading}

/-- Two readings that differ in the names of groups only; all calls so far are by names with the
    property. -/
structure Twins (P : List Char → Prop) (s t : List Char) (r r' : Reading) : Prop where
  eq : r' = { r with names := r'.names }
  names : GroupNames.Twins P s t r.names r'.names
  level : r.level.CallsIn P
  outer : ∀ l ∈ r.outer, l.CallsIn P

/-- Twins that go on with the same rest of the text. -/
def Step (P : List Char → Prop) (s t cs : List Char) (a b : Reading × List Char) : Prop :=
  Twins P s t a.1 b.1 ∧ b.2 = a.2 ∧ a.2 <:+ cs

namespace Twins

/-- What is done to a reading without a look at the names is done to its twin. -/
theorem apply {f : Reading → Reading} (h : Twins P s t r r')
    (hnames : ∀ ns, f { r with names := ns } = { f r with names := ns })
    (hlevel : (f r).level.CallsIn P) (houter : ∀ l ∈ (f r).outer, l.CallsIn P) :
    Twins P s t (f r) (f r') := by
  have hr : (f r).names = r.names := by rw [hnames r.names]
  have hr' : f r' = { f r with names := r'.names } := by rw [h.eq, hnames]
  refine ⟨by rw [hr'], ?_, hlevel, houter⟩
  rw [hr, hr']
  exact h.names

/-- A node is put behind those of the current level. -/
theorem push (h : Twins P s t r r') {n : Node} (hn : n.CallsIn P) :
    Twins P s t (r.push n) (r'.push n) :=
  h.apply (f := fun r => r.push n) (fun _ => rfl) (h.level.pushAs _ hn) h.outer

/-- A level that has ended is put there as a single node. -/
theorem pushLevel (h : Twins P s t r r') {l : Level} (hl : l.CallsIn P) :
    Twins P s t (r.pushLevel l) (r'.pushLevel l) :=
  h.apply (f := fun r => r.pushLevel l) (fun _ => rfl) (h.level.pushAs _ (hl.close _)) h.outer

/-- A level without a condition starts without calls. -/
theorem callsIn_opening {opening : Opening} {modes : Modes}
    (h : ∀ c onlyNo, opening = .branches c onlyNo → c.CallsIn P) :
    Level.CallsIn P { opening := opening, modes := modes } where
  condition := h
  finished := by simp
  items := by simp

/-- A level is opened within the current one. -/
theorem openLevel (h : Twins P s t r r') {opening : Opening} (modes : Modes)
    (hopening : ∀ c onlyNo, opening = .branches c onlyNo → c.CallsIn P) :
    Twins P s t (r.openLevel opening modes) (r'.openLevel opening modes) :=
  h.apply (f := fun r => r.openLevel opening modes) (fun _ => rfl) (callsIn_opening hopening)
    (List.forall_mem_cons.2 ⟨h.level, h.outer⟩)

theorem modes_eq (h : Twins P s t r r') : r'.modes = r.modes := by rw [h.eq]

/-- A level is opened in the modes that hold. -/
theorem openHere (h : Twins P s t r r') {opening : Opening}
    (hopening : ∀ c onlyNo, opening = .branches c onlyNo → c.CallsIn P) :
    Twins P s t (r.openLevel opening r.modes) (r'.openLevel opening r'.modes) := by
  rw [h.modes_eq]
  exact h.openLevel _ hopening

theorem groups_eq (h : Twins P s t r r') : r'.groups = r.groups := by rw [h.eq]

theorem outer_eq (h : Twins P s t r r') : r'.outer = r.outer := by rw [h.eq]

theorem level_eq (h : Twins P s t r r') : r'.level = r.level := by rw [h.eq]

theorem slots_eq (h : Twins P s t r r') : r'.slots = r.slots := by rw [h.eq]

theorem depth_eq (h : Twins P s t r r') : r'.depth = r.depth := by rw [depth, depth, h.outer_eq]

theorem spelling_eq (h : Twins P s t r r') : r'.spelling = r.spelling := by
  rw [spelling, spelling, h.modes_eq]

/-- A group that captures is opened, with the same name or without any. -/
theorem openCapture (h : Twins P s t r r') (name : Option (List Char)) :
    Twins P s t (r.openCapture name) (r'.openCapture name) := by
  have hlevel : (r.openCapture name).level.CallsIn P := callsIn_opening (by simp)
  have houter : ∀ l ∈ (r.openCapture name).outer, l.CallsIn P :=
    List.forall_mem_cons.2 ⟨h.level, h.outer⟩
  cases name with
  | none => exact h.apply (f := fun r => r.openCapture none) (fun _ => rfl) hlevel houter
  | some n =>
    -- Both take the new name in, so `apply` does not say it.
    refine ⟨by rw [h.eq]; rfl, ?_, hlevel, houter⟩
    change GroupNames.Twins P s t (r.names.add n (r.groups + 1)) (r'.names.add n (r'.groups + 1))
    rw [h.groups_eq]
    exact h.names.add n (r.groups + 1)

end Twins

/-! ### Steps -/

variable {rest : List Char}

/-- A step of both that leaves the same end of the text. -/
theorem Twins.step (h : Twins P s t r r') (hrest : rest <:+ cs) :
    Alike (Step P s t cs) (.ok (r, rest)) (.ok (r', rest)) :=
  .ok ⟨h, rfl, hrest⟩

/-- What leaves an end of the tail leaves an end of the text. -/
theorem step_mono {cs' : List Char} {x y : Except Fault (Reading × List Char)}
    (h : Alike (Step P s t cs) x y) (hcs : cs <:+ cs') : Alike (Step P s t cs') x y := by
  cases h with
  | error e => exact .error e
  | ok h => exact .ok ⟨h.1, h.2.1, h.2.2.trans hcs⟩

/-- The modes of a group are read without a look at the names. -/
theorem Twins.readModes (h : Twins P s t r r') (modes : Modes) (off : Bool) (cs : List Char) :
    Alike (Step P s t cs) (r.readModes modes off cs) (r'.readModes modes off cs) := by
  induction cs generalizing modes off with
  | nil => exact .error _
  | cons c cs ih =>
    have htail : ∀ modes off,
        Alike (Step P s t (c :: cs)) (r.readModes modes off cs) (r'.readModes modes off cs) :=
      fun modes off => step_mono (ih modes off) (List.suffix_cons c cs)
    unfold Reading.readModes
    split <;> rename_i heq <;> cases heq
    · exact htail _ _
    · exact htail _ _
    · exact htail _ _
    · exact htail _ _
    · exact (h.openLevel modes (by simp)).step (List.suffix_cons _ cs)
    · exact (h.openLevel modes (by simp)).step (List.suffix_cons _ cs)
    · exact .error _

/-- Behind a condition come its branches, or nothing if it only checks a group. -/
theorem Twins.behindCondition (h : Twins P s t r r') {condition : Node}
    (hcondition : condition.CallsIn P) (checker : Bool) (cs : List Char) :
    Alike (Step P s t cs) (r.behindCondition condition checker cs)
      (r'.behindCondition condition checker cs) := by
  have hbranches : ∀ onlyNo, Twins P s t (r.openLevel (.branches condition onlyNo) r.modes)
      (r'.openLevel (.branches condition onlyNo) r'.modes) := by
    intro onlyNo
    refine h.openHere ?_
    rintro c onlyNo' heq
    obtain ⟨rfl, -⟩ := Opening.branches.inj heq
    exact hcondition
  -- The condition is all there is, or one branch is left out, or the branches follow.
  unfold Reading.behindCondition
  split
  · exact .error _
  · split
    · exact (h.push hcondition).step (List.suffix_cons _ _)
    · exact .error _
  · exact (hbranches true).step (List.suffix_cons _ _)
  · exact (hbranches false).step List.suffix_rfl

/-- A condition that is a reference checks the same group in both, as the text refers to none of the
    names that tell them apart. -/
theorem Twins.openCondition (h : Twins P s t r r')
    (hcs : ∀ w, RefersTo ('?' :: '(' :: cs) w → P w) :
    Alike (Step P s t cs) (r.openCondition cs) (r'.openCondition cs) := by
  have hopen : Twins P s t (r.openLevel .condition r.modes) (r'.openLevel .condition r'.modes) :=
    h.openHere (by simp)
  unfold Reading.openCondition
  split
  · exact .error _
  · exact .error _
  · rename_i c cs hne
    split
    · rename_i hc
      have hhead : ['?', '(', c] ∈ referenceHeads := by rcases hc with rfl | rfl <;> decide
      cases hname : Name.reference (Name.closing c) cs with
      | error e => exact .error e
      | ok a =>
        obtain ⟨name, level, written, rest⟩ := a
        have hresolve := Token.resolve_of_reference r.groups hhead (Name.closing_mem hc)
          (fun w hw => h.names.groups w (hcs w hw)) hname
        simp only
        rw [h.groups_eq, hresolve]
        refine .bind_same fun g hg => ?_
        have hrest : rest <:+ cs := Name.reference_suffix hname
        split
        · exact step_mono (h.behindCondition (by simp) true _) (by grind)
        · exact .error _
    · split
      · rename_i hc
        -- Here the reference is a number, so both look up the same group.
        cases hname : Name.reference ')' (c :: cs) with
        | error e => exact hopen.step List.suffix_rfl
        | ok a =>
          obtain ⟨name, level, written, rest⟩ := a
          have hresolve : Token.resolve r.groups r'.names name level =
              Token.resolve r.groups r.names name level :=
            Token.resolve_congr fun w hw => absurd hw (Name.ne_word_of_startsNumber hc hname w)
          simp only
          rw [h.groups_eq, hresolve]
          refine .bind_same fun g hg => ?_
          exact step_mono (h.behindCondition (by simp) true _) (Name.reference_suffix hname)
      · exact hopen.step List.suffix_rfl

/-- **A group of any kind is opened by both.** -/
theorem Twins.openGroup (h : Twins P s t r r') (hcs : ∀ w, RefersTo cs w → P w) :
    Alike (Step P s t cs) (r.openGroup cs) (r'.openGroup cs) := by
  have hdefinition : ∀ (close : Char) (inner : List Char), inner <:+ cs →
      Alike (Step P s t cs)
        ((Name.definition close inner).map fun a => (r.openCapture (some a.1), a.2))
        ((Name.definition close inner).map fun a => (r'.openCapture (some a.1), a.2)) := by
    intro close inner hinner
    cases hname : Name.definition close inner with
    | error e => exact .error e
    | ok a => exact (h.openCapture (some a.1)).step ((Name.definition_suffix hname).trans hinner)
  unfold Reading.openGroup
  split
  · exact .error _
  · split
    -- `(?~|)` is the only group that is complete at once.
    case h_8 rest =>
      have huncut := h.push (n := .uncut r.slots) (by simp [Node.uncut])
      have hslots := huncut.apply
        (f := fun q => { q with slots := r.slots + Node.absentSlots }) (fun _ => rfl)
        huncut.level huncut.outer
      rw [h.slots_eq]
      exact hslots.step (by grind)
    -- `(?<name>` and `(?'name'` give a name.
    case h_14 => exact hdefinition _ _ (by grind)
    case h_15 => exact hdefinition _ _ (by grind)
    -- `(?(` opens a condition, the only group that can refer to a name.
    case h_16 => exact step_mono (h.openCondition hcs) (by grind)
    case h_17 =>
      split
      · rw [h.modes_eq]
        exact step_mono (h.readModes _ _ _) (by grind)
      · exact .error _
    -- All others open a level, or they are no groups.
    all_goals first
      | exact .error _
      | exact (h.openHere (by simp)).step (by grind)
  · exact (h.openCapture none).step List.suffix_rfl

/-- Levels that take up the rest of the level around them end with it. -/
theorem Twins.closeFrom (h : Twins P s t r r') {ls : List Level} (hls : ∀ l ∈ ls, l.CallsIn P) :
    Twins P s t (closeRests.closeFrom r ls) (closeRests.closeFrom r' ls) := by
  induction ls generalizing r r' with
  | nil => exact h.apply (f := fun r => { r with outer := [] }) (fun _ => rfl) h.level (by simp)
  | cons l ls ih =>
    rw [List.forall_mem_cons] at hls
    unfold closeRests.closeFrom
    rw [h.level_eq]
    -- A level that takes up the rest ends here, too; any other one stays open.
    split
    · have hinner : Twins P s t { r with modes := r.level.modes, level := l }
          { r' with modes := r'.level.modes, level := l } :=
        h.apply (f := fun r => { r with modes := r.level.modes, level := l }) (fun _ => rfl) hls.1
          h.outer
      rw [h.level_eq] at hinner
      exact ih (hinner.pushLevel h.level) hls.2
    · have hrest : Twins P s t { r with outer := l :: ls } { r' with outer := l :: ls } :=
        h.apply (f := fun r => { r with outer := l :: ls }) (fun _ => rfl) h.level
          (List.forall_mem_cons.2 hls)
      rwa [h.level_eq] at hrest

/-- The same for all levels that are open. -/
theorem Twins.closeRests (h : Twins P s t r r') : Twins P s t r.closeRests r'.closeRests := by
  unfold Reading.closeRests
  rw [h.outer_eq]
  exact h.closeFrom h.outer

/-- **A group is closed by both.** -/
theorem Twins.closeGroup (h : Twins P s t r r') (cs : List Char) :
    Alike (Step P s t cs) (r.closeGroup cs) (r'.closeGroup cs) := by
  have hrests := h.closeRests
  unfold Reading.closeGroup
  simp only
  rw [hrests.outer_eq]
  generalize r.closeRests = r at hrests
  generalize r'.closeRests = r' at hrests
  split
  · exact .error _
  · rename_i l ls houter
    have hall := hrests.outer
    rw [houter, List.forall_mem_cons] at hall
    have hinner : Twins P s t { r with modes := r.level.modes, level := l, outer := ls }
        { r' with modes := r'.level.modes, level := l, outer := ls } :=
      hrests.apply (f := fun r => { r with modes := r.level.modes, level := l, outer := ls })
        (fun _ => rfl) hall.1 hall.2
    rw [hrests.level_eq] at hinner ⊢
    split
    -- A condition is followed by its branches.
    · have hclose : r.level.close r'.slots = r.level.close r.slots := by rw [hrests.slots_eq]
      rw [hclose]
      exact hinner.behindCondition (hrests.level.close _) false cs
    · exact (hinner.pushLevel hrests.level).step List.suffix_rfl

/-- Both read the same token: what it refers to has the same groups in both. -/
theorem Twins.next (h : Twins P s t r r') {skips skips' : Nat} (hskips : cs.length < skips)
    (hskips' : cs.length < skips') (hcs : ∀ w, RefersTo cs w → P w) :
    Token.next r'.modes r'.groups r'.names skips' cs =
      Token.next r.modes r.groups r.names skips cs := by
  rw [h.modes_eq, h.groups_eq]
  exact Token.next_congr hskips hskips' fun w hw => h.names.groups w (hcs w hw)

/-- Both read the same bytes of a character. -/
theorem Twins.bytes (h : Twins P s t r r') {skips skips' : Nat} (hskips : cs.length < skips)
    (hskips' : cs.length < skips') (hcs : ∀ w, RefersTo cs w → P w) (k : Nat) :
    r'.bytes skips' k cs = r.bytes skips k cs := by
  induction k generalizing cs with
  | zero => rfl
  | succ k ih =>
    unfold Reading.bytes
    rw [h.next hskips hskips' hcs]
    cases htoken : Token.next r.modes r.groups r.names skips cs with
    | error e => rfl
    | ok a =>
      obtain ⟨token, rest⟩ := a
      have hrest : rest <:+ cs := Token.next_suffix htoken
      have hle := hrest.length_le
      -- Only another byte goes on with the character.
      cases token <;> try rfl
      rename_i n
      simp only [bind, Except.bind]
      rw [ih (by omega) (by omega) fun w hw => hcs w (hw.of_suffix hrest)]

/-- These are taken off the head of the text. -/
theorem bytes_suffix {skips k : Nat} {a : List Nat × List Char}
    (h : r.bytes skips k cs = .ok a) : a.2 <:+ cs := by
  induction k generalizing cs a with
  | zero =>
    obtain rfl := Except.ok.inj h
    exact List.suffix_rfl
  | succ k ih =>
    obtain ⟨⟨token, rest⟩, htoken, h⟩ := bind_eq_ok_iff.1 h
    have hrest : rest <:+ cs := Token.next_suffix htoken
    cases token <;> try cases h
    obtain ⟨⟨ns, rest'⟩, hbytes, h⟩ := bind_eq_ok_iff.1 h
    obtain rfl := Except.ok.inj h
    exact (ih hbytes).trans hrest

/-- What a token adds to the current level. -/
theorem Twins.onLevel (h : Twins P s t r r') {l : Level} (hl : l.CallsIn P) :
    Alike (Step P s t cs) (.ok ({ r with level := l }, cs)) (.ok ({ r' with level := l }, cs)) :=
  (h.apply (f := fun r => { r with level := l }) (fun _ => rfl) hl h.outer).step List.suffix_rfl

/-- A token that is a node of its own. -/
theorem Twins.pushed (h : Twins P s t r r') {n : Node} (hn : n.CallsIn P) :
    Alike (Step P s t cs) (.ok (r.push n, cs)) (.ok (r'.push n, cs)) :=
  (h.push hn).step List.suffix_rfl

/-- **What a token does to one reading, it does to the other.** -/
theorem Twins.take (h : Twins P s t r r') {skips skips' : Nat} (hskips : cs.length < skips)
    (hskips' : cs.length < skips') (hcs : ∀ w, RefersTo cs w → P w) {token : Token}
    (htoken : ∀ w, token = .call (.name w) → P w) :
    Alike (Step P s t cs) (r.take skips token cs) (r'.take skips' token cs) := by
  unfold Reading.take
  -- Each token does the same to the two states, and what it pushes calls no other name.
  cases token with
  | stop => exact h.step List.suffix_rfl
  | openGroup => exact h.openGroup hcs
  | closeGroup => exact h.closeGroup cs
  | alternative =>
    simp only [h.level_eq]
    exact h.onLevel h.level.alternative
  | openBracket =>
    simp only [h.depth_eq, h.modes_eq]
    refine .bind_same ?_
    rintro ⟨set, rest⟩ hread
    exact (h.push (Node.callsIn_ofBracket _ _ _)).step (Bracket.read_suffix hread)
  | quantifier q possessive =>
    simp only [h.depth_eq, h.level_eq]
    refine .bind_same ?_
    intro l hl
    exact h.onLevel (h.level.quantify hl)
  | char c =>
    simp only [h.level_eq, h.spelling_eq]
    exact h.onLevel (h.level.letter _ _)
  | codes ns =>
    simp only [h.spelling_eq]
    split
    · exact h.pushed (by simp)
    · exact .error _
  | byte n =>
    simp only [h.bytes hskips hskips' hcs]
    refine .bind_same ?_
    rintro ⟨ns, rest⟩ hbytes
    simp only
    split
    · exact (h.push (by simp)).step (bytes_suffix hbytes)
    · exact .error _
  | call c =>
    refine h.pushed ?_
    cases c with
    | name w => exact htoken w rfl
    | number n written => trivial
    | group i recursive => trivial
  | any | backReference g =>
    simp only [h.modes_eq]
    exact h.pushed (by simp)
  | word | set | assertion | keep => exact h.pushed (by simp)
  | lineBreak => exact h.pushed (by simp [Node.lineBreak, Node.ofChars, Node.empty])
  | cluster => exact h.pushed (by simp [Node.cluster])

/-- **Twins stay twins.** Reading goes on alike up to the end of the text, whatever bounds are
    given for it, if they are enough. -/
theorem Twins.run (h : Twins P s t r r') {skips skips' fuel fuel' : Nat}
    (hskips : cs.length < skips) (hskips' : cs.length < skips') (hfuel : cs.length < fuel)
    (hfuel' : cs.length < fuel') (hcs : ∀ w, RefersTo cs w → P w) :
    Alike (Twins P s t) (r.run skips fuel cs) (r'.run skips' fuel' cs) := by
  induction fuel generalizing fuel' r r' cs with
  | zero => exact absurd hfuel (Nat.not_lt_zero _)
  | succ fuel ih =>
    obtain ⟨fuel', rfl⟩ := Nat.exists_eq_add_one_of_ne_zero (Nat.ne_zero_of_lt hfuel')
    unfold Reading.run
    rw [h.next hskips hskips' hcs, h.depth_eq]
    refine .bind_same ?_
    rintro ⟨token, rest⟩ htoken
    have hrest : rest <:+ cs := Token.next_suffix htoken
    have hle := hrest.length_le
    simp only
    split
    · exact .error _
    · split
      · exact .ok h
      · rename_i hstop
        -- Every token but the end takes something, so the bounds are enough for the rest too.
        have hlt : rest.length < cs.length := Token.length_next_lt htoken hstop
        have hrefers : ∀ w, RefersTo rest w → P w := fun w hw => hcs w (hw.of_suffix hrest)
        refine Alike.bind (h.take (by omega) (by omega) hrefers ?_) ?_
        · rintro w rfl
          exact hcs w (Token.refersTo_of_next htoken)
        · rintro ⟨q, tail⟩ ⟨q', tail'⟩ ⟨hq, htail, hsuffix⟩
          obtain rfl : tail = tail' := htail.symm
          have hle : tail.length ≤ rest.length := hsuffix.length_le
          change Alike (Twins P s t) (q.run skips fuel tail) (q'.run skips' fuel' tail)
          exact ih hq (by omega) (by omega) (by omega) (by omega) fun w hw =>
            hrefers w (hw.of_suffix hsuffix)

end Reading

end Grok.Regex
