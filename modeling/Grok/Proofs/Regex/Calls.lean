import Grok.Regex.Groups
import Grok.Regex.Parser

namespace Grok.Regex

/-!
# The names that calls stand for

While an expression is read, a call keeps the name of the group that it runs. Which names these are
is followed through all that is done to a tree.

* `Node.CallsIn` — all names that the calls of a tree stand for have some property.
* `Node.map_callsIn`, `Node.map_congr` and `Node.fold_congr` — replacing nodes, and what depends on
  the nodes of a tree only.
* `Node.callsIn_repeated`, `Node.callsIn_without` and so on — the trees that a reader builds call
  what their parts call.
-/

namespace Node

mutual

/-- All names that the calls of a tree stand for have the property. -/
def CallsIn (P : List Char → Prop) : Node → Prop
  | sequence ns => AllCallsIn P ns
  | alternatives ns => AllCallsIn P ns
  | quantified _ n => CallsIn P n
  | group n => CallsIn P n
  | capture _ _ n => CallsIn P n
  | atomic n => CallsIn P n
  | lookAhead _ n => CallsIn P n
  | lookBehind _ _ n => CallsIn P n
  | conditional c y n => CallsIn P c ∧ CallsIn P y ∧ CallsIn P n
  | provided c y => CallsIn P c ∧ CallsIn P y
  | fallback n m => CallsIn P n ∧ CallsIn P m
  | call (.name w) => P w
  | _ => True

/-- The same for several trees. -/
def AllCallsIn (P : List Char → Prop) : List Node → Prop
  | [] => True
  | n :: ns => CallsIn P n ∧ AllCallsIn P ns

end

variable {P : List Char → Prop} {n m : Node} {ns : List Node}

/-- Several trees have the property if each of them has it. -/
theorem allCallsIn_iff : AllCallsIn P ns ↔ ∀ n ∈ ns, n.CallsIn P := by
  induction ns with
  | nil => simp [AllCallsIn]
  | cons n ns ih => simp [AllCallsIn, ih]

attribute [simp] CallsIn allCallsIn_iff

/-! ### Going through a tree -/

mutual

/-- What is put in place of the nodes of a tree depends on nodes that call names with the property
    only, if these are replaced by such nodes. -/
theorem mapWithin_congr {f g : List Nat → Node → Node}
    (hfg : ∀ groups m, m.CallsIn P → f groups m = g groups m ∧ (f groups m).CallsIn P)
    (groups : List Nat) (n : Node) (h : n.CallsIn P) :
    n.mapWithin f groups = n.mapWithin g groups ∧ (n.mapWithin f groups).CallsIn P := by
  -- The parts are replaced first, and then the node is, with the new parts in it.
  cases n with
  | sequence ns | alternatives ns =>
    obtain ⟨heq, hns⟩ := mapAllWithin_congr hfg groups ns h
    rw [mapWithin, mapWithin, ← heq]
    exact hfg _ _ hns
  | capture i named n =>
    -- Within a group its number is known.
    obtain ⟨heq, hn⟩ := mapWithin_congr hfg (i :: groups) n h
    rw [mapWithin, mapWithin, ← heq]
    exact hfg _ _ hn
  | quantified _ n | group n | atomic n | lookAhead _ n | lookBehind _ _ n =>
    obtain ⟨heq, hn⟩ := mapWithin_congr hfg groups n h
    rw [mapWithin, mapWithin, ← heq]
    exact hfg _ _ hn
  | conditional c y n =>
    obtain ⟨hceq, hc⟩ := mapWithin_congr hfg groups c h.1
    obtain ⟨hyeq, hy⟩ := mapWithin_congr hfg groups y h.2.1
    obtain ⟨hneq, hn⟩ := mapWithin_congr hfg groups n h.2.2
    rw [mapWithin, mapWithin, ← hceq, ← hyeq, ← hneq]
    exact hfg _ _ ⟨hc, hy, hn⟩
  | provided c y =>
    obtain ⟨hceq, hc⟩ := mapWithin_congr hfg groups c h.1
    obtain ⟨hyeq, hy⟩ := mapWithin_congr hfg groups y h.2
    rw [mapWithin, mapWithin, ← hceq, ← hyeq]
    exact hfg _ _ ⟨hc, hy⟩
  | fallback n m =>
    obtain ⟨hneq, hn⟩ := mapWithin_congr hfg groups n h.1
    obtain ⟨hmeq, hm⟩ := mapWithin_congr hfg groups m h.2
    rw [mapWithin, mapWithin, ← hneq, ← hmeq]
    exact hfg _ _ ⟨hn, hm⟩
  | text | any | word | set | assertion | keep | backReference | matched | call | limit | fail =>
    exact hfg _ _ h

/-- The same for several trees. -/
theorem mapAllWithin_congr {f g : List Nat → Node → Node}
    (hfg : ∀ groups m, m.CallsIn P → f groups m = g groups m ∧ (f groups m).CallsIn P)
    (groups : List Nat) (ns : List Node) (h : AllCallsIn P ns) :
    mapAllWithin f groups ns = mapAllWithin g groups ns ∧
      AllCallsIn P (mapAllWithin f groups ns) := by
  cases ns with
  | nil => exact ⟨rfl, h⟩
  | cons n ns =>
    obtain ⟨hneq, hn⟩ := mapWithin_congr hfg groups n h.1
    obtain ⟨hnseq, hns⟩ := mapAllWithin_congr hfg groups ns h.2
    exact ⟨by rw [mapAllWithin, mapAllWithin, hneq, hnseq], hn, hns⟩

end

/-- Two replacements do the same to a tree if they agree on nodes that call such names. -/
theorem map_congr {f g : Node → Node} (hfg : ∀ m, m.CallsIn P → f m = g m ∧ (f m).CallsIn P)
    (hn : n.CallsIn P) : n.map f = n.map g :=
  (mapWithin_congr (fun _ m hm => hfg m hm) [] n hn).1

/-- A replacement that makes no other calls leaves a tree without other calls. -/
theorem map_callsIn {f : Node → Node} (hf : ∀ m, m.CallsIn P → (f m).CallsIn P)
    (hn : n.CallsIn P) : (n.map f).CallsIn P :=
  (mapWithin_congr (fun _ m hm => ⟨rfl, hf m hm⟩) [] n hn).2

mutual

/-- What a visit finds out depends on nodes that call names with the property only. -/
theorem fold_congr {α : Type} {f g : α → Node → α} (hfg : ∀ a m, m.CallsIn P → f a m = g a m)
    (a : α) (n : Node) (h : n.CallsIn P) : n.fold f a = n.fold g a := by
  -- A node is visited in front of its parts.
  cases n with
  | sequence ns | alternatives ns => rw [fold, fold, hfg _ _ h, foldAll_congr hfg _ ns h]
  | quantified _ n | group n | capture _ _ n | atomic n | lookAhead _ n | lookBehind _ _ n =>
    rw [fold, fold, hfg _ _ h, fold_congr hfg _ n h]
  | conditional c y n =>
    rw [fold, fold, hfg _ _ h, fold_congr hfg _ c h.1, fold_congr hfg _ y h.2.1,
      fold_congr hfg _ n h.2.2]
  | provided c y =>
    rw [fold, fold, hfg _ _ h, fold_congr hfg _ c h.1, fold_congr hfg _ y h.2]
  | fallback n m =>
    rw [fold, fold, hfg _ _ h, fold_congr hfg _ n h.1, fold_congr hfg _ m h.2]
  | text | any | word | set | assertion | keep | backReference | matched | call | limit | fail =>
    exact hfg _ _ h

/-- The same for several trees. -/
theorem foldAll_congr {α : Type} {f g : α → Node → α} (hfg : ∀ a m, m.CallsIn P → f a m = g a m)
    (a : α) (ns : List Node) (h : AllCallsIn P ns) : foldAll f a ns = foldAll g a ns := by
  cases ns with
  | nil => rfl
  | cons n ns => rw [foldAll, foldAll, fold_congr hfg _ n h.1, foldAll_congr hfg _ ns h.2]

end

/-! ### Building trees -/

/-- Alternatives call what each of them calls. -/
theorem callsIn_ofAlternatives (h : ∀ n ∈ ns, n.CallsIn P) : (ofAlternatives ns).CallsIn P := by
  unfold ofAlternatives
  split
  · exact h _ List.mem_cons_self
  · simpa using h

/-- So do parts that follow each other. -/
theorem callsIn_ofSequence (h : ∀ n ∈ ns, n.CallsIn P) : (ofSequence ns).CallsIn P := by
  unfold ofSequence
  split
  · exact h _ List.mem_cons_self
  · simpa using h

/-- Out of the groups around it, a node calls what it called within them. -/
theorem callsIn_bare (h : n.CallsIn P) : n.bare.CallsIn P := by
  fun_induction bare n with
  | case1 i n ih => exact ih h
  | case2 => exact h

/-- A repetition of a repetition calls what is repeated. -/
theorem callsIn_nested (outer inner : Quantifier) (h : n.CallsIn P) :
    (nested outer inner n).CallsIn P := by
  unfold nested
  repeat' split
  all_goals exact h

/-- Neither does a quantifier add a call, however it is merged with others. -/
theorem callsIn_repeated (q : Quantifier) (h : n.CallsIn P) : (repeated q n).CallsIn P := by
  unfold repeated
  repeat' split
  all_goals first | exact h | exact callsIn_nested _ _ h

/-- What a quantifier applies to and what it leaves in front are parts of the last node. -/
theorem callsIn_partLast (h : n.CallsIn P) :
    n.partLast.1.CallsIn P ∧ ∀ m ∈ n.partLast.2, m.CallsIn P := by
  unfold partLast
  repeat' split
  all_goals simp [h]

/-- What stands in a sequence stands in the nodes that it is joined of. -/
theorem callsIn_joined (h : ∀ n ∈ ns, n.CallsIn P) : (joined ns).CallsIn P := by
  unfold joined
  split
  · simp [empty]
  · exact h _ List.mem_cons_self
  · simp only [List.mem_cons, forall_eq_or_imp] at h
    simp only [CallsIn, allCallsIn_iff, List.mem_cons, forall_eq_or_imp, List.mem_flatMap]
    refine ⟨h.1, ?_⟩
    rintro m ⟨n, hn, hm⟩
    split at hm
    · have hns := h.2 _ hn
      simp only [CallsIn, allCallsIn_iff] at hns
      exact hns m hm
    · rw [List.mem_singleton.1 hm]
      exact h.2 n hn

/-- Joining texts that stand side by side leaves all other nodes as they are. -/
theorem callsIn_joinTexts (h : ∀ n ∈ ns, n.CallsIn P) : ∀ n ∈ joinTexts ns, n.CallsIn P := by
  fun_induction joinTexts ns <;> simp_all

/-- Cutting the text off before each step calls what is absent and what the steps call. -/
@[simp] theorem callsIn_cutting (slot whole : Nat) (q : Quantifier) (possessive open_ : Bool) :
    (cutting slot whole n q m possessive open_).CallsIn P ↔ n.CallsIn P ∧ m.CallsIn P := by
  cases possessive <;> cases open_ <;> simp [cutting]

/-- The same for steps over single characters. -/
@[simp] theorem callsIn_withoutSteps (slot : Nat) (q : Quantifier) (possessive : Bool) :
    (withoutSteps slot n q m possessive).CallsIn P ↔ n.CallsIn P ∧ m.CallsIn P := by
  simp [withoutSteps]

/-- What takes a text without a match of something calls that and what takes the text. -/
theorem callsIn_without (slot : Nat) {o : Option Node} (hn : n.CallsIn P)
    (ho : ∀ m ∈ o, m.CallsIn P) : (without slot n o).CallsIn P := by
  unfold without
  split
  · simpa using hn
  · rename_i m
    have hm : m.CallsIn P := ho m rfl
    split
    · rename_i q step possessive hstep
      have hstep : step.CallsIn P := by
        unfold characterRepetition? at hstep
        split at hstep <;> simp_all
      simp [hn, hstep]
    · simp [hn, hm]

/-- Cutting the text off where it starts to hold a match calls what the match calls. -/
theorem callsIn_cutOff (slot : Nat) (hn : n.CallsIn P) : (cutOff slot n).CallsIn P := by
  simp [cutOff, hn]

/-- Texts and sets hold no calls. -/
theorem callsIn_ofFolding (ms : List Nat) : (ofFolding ms).CallsIn P := by
  have happend : ∀ (ls : List Letter) (done : List Node), (∀ n ∈ done, n.CallsIn P) →
      ∀ n ∈ appendLetters ls done, n.CallsIn P := by
    intro ls done hdone
    unfold appendLetters
    split <;> simp_all
  refine callsIn_ofSequence ?_
  simp only [List.mem_reverse]
  refine List.foldlRecOn (motive := fun done => ∀ n ∈ done, CallsIn P n) ms _ ?_ ?_
  · simp
  · intro done hdone m hm
    split
    · exact happend _ _ hdone
    · simpa using hdone

/-- Neither does a bracket, which is a set of characters and of texts that these fold to. -/
theorem callsIn_ofBracket (ignoreCase negated : Bool) (s : CharSet) :
    (ofBracket ignoreCase negated s).CallsIn P := by
  unfold ofBracket
  split
  · simp
  · split
    · simp
    · refine callsIn_ofAlternatives ?_
      simp only [List.mem_cons, List.mem_append, List.mem_flatMap]
      rintro n (rfl | ⟨⟨ms, ns⟩, -, hn⟩ | ⟨⟨ms, ns⟩, -, hn⟩)
      · simp
      all_goals
        simp only at hn
        split at hn
        · obtain ⟨-, -, rfl⟩ := List.mem_map.1 hn
          exact callsIn_ofFolding ms
        · cases hn

end Node

namespace Level

/-- All names that the calls of a level stand for have the property. -/
structure CallsIn (P : List Char → Prop) (l : Level) : Prop where
  condition : ∀ c onlyNo, l.opening = .branches c onlyNo → c.CallsIn P
  finished : ∀ n ∈ l.finished, n.CallsIn P
  items : ∀ n ∈ l.items, n.CallsIn P

variable {P : List Char → Prop} {l : Level} {n : Node}

/-- A node is put on the level, whatever it ends in. -/
theorem CallsIn.pushAs (h : l.CallsIn P) (ending : Ending) (hn : n.CallsIn P) :
    (l.pushAs ending n).CallsIn P :=
  ⟨h.condition, h.finished, by simpa [Level.pushAs, hn] using h.items⟩

/-- A letter becomes a part of the text in front of it, or a text of its own. -/
theorem CallsIn.letter (h : l.CallsIn P) (c : Letter) (spelling : Spelling) :
    (l.letter c spelling).CallsIn P := by
  unfold Level.letter
  split
  · rename_i hitems
    refine ⟨h.condition, h.finished, ?_⟩
    have hall := h.items
    rw [hitems] at hall
    simpa using hall
  · exact h.pushAs _ (by simp)

/-- The current branch calls what its parts call. -/
theorem CallsIn.branch (h : l.CallsIn P) : l.branch.CallsIn P := by
  have hall : ∀ n ∈ l.items.reverse, n.CallsIn P := by simpa using h.items
  unfold Level.branch
  split
  · rename_i hitems
    rw [hitems] at hall
    refine Node.callsIn_joined ?_
    simpa [and_assoc] using hall
  · exact Node.callsIn_joined hall

/-- All branches call what their parts call. -/
theorem CallsIn.branches (h : l.CallsIn P) : ∀ n ∈ l.branches, n.CallsIn P := by
  simp only [Level.branches, List.mem_reverse, List.mem_cons, forall_eq_or_imp]
  exact ⟨h.branch, h.finished⟩

/-- A bar starts a new branch. -/
theorem CallsIn.alternative (h : l.CallsIn P) : l.alternative.CallsIn P where
  condition := h.condition
  finished := by
    simp only [Level.alternative, List.mem_cons, forall_eq_or_imp]
    exact ⟨h.branch, h.finished⟩
  items := by simp [Level.alternative]

/-- A quantifier repeats a part of what stands on the level. -/
theorem CallsIn.quantify (h : l.CallsIn P) {depth limit : Nat} {q : Quantifier} {possessive : Bool}
    {l' : Level} (hl : l.quantify depth limit q possessive = .ok l') : l'.CallsIn P := by
  have hall := h.items
  unfold Level.quantify at hl
  cases hitems : l.items with
  | nil => simp [hitems] at hl
  | cons n items =>
    rw [hitems, List.forall_mem_cons] at hall
    -- What is repeated, and what stays in front of it, are parts of the last node.
    have hparts : ∀ parts : Node × List Node,
        (if l.ending = .plain then (n, []) else n.partLast) = parts →
        parts.1.CallsIn P ∧ ∀ m ∈ parts.2, m.CallsIn P := by
      rintro parts rfl
      split
      · exact ⟨hall.1, by simp⟩
      · exact Node.callsIn_partLast hall.1
    simp only [hitems] at hl
    generalize (if l.ending = .plain then (n, []) else n.partLast) = parts at hl hparts
    obtain ⟨hlast, hbefore⟩ := hparts parts rfl
    split at hl
    · cases hl
    · split at hl
      · cases hl
      · split at hl
        · obtain rfl := Except.ok.inj hl
          exact ⟨h.condition, h.finished, List.forall_mem_cons.2 hall⟩
        · split at hl
          · cases hl
          · obtain rfl := Except.ok.inj hl
            have hrepeated := Node.callsIn_repeated q hlast
            refine ⟨h.condition, h.finished, ?_⟩
            simp only [List.mem_cons, List.mem_append]
            rintro m (rfl | hm | hm)
            · cases possessive
              · exact hrepeated
              · exact hrepeated
            · exact hbefore m hm
            · exact hall.2 m hm

/-- **A level becomes a node** that calls what its branches and its condition call. -/
theorem CallsIn.close (h : l.CallsIn P) (slot : Nat) : (l.close slot).CallsIn P := by
  have hall := h.branches
  have halternatives : (Node.ofAlternatives l.branches).CallsIn P :=
    Node.callsIn_ofAlternatives hall
  have hopening := h.condition
  unfold Level.close
  generalize l.branches = ns at hall halternatives
  cases hl : l.opening with
  | absent bar =>
    cases bar with
    | false =>
      rw [Opening.close]
      refine Node.callsIn_without slot halternatives ?_
      rintro m ⟨⟩
    | true =>
      rcases ns with _ | ⟨n, _ | ⟨m, ms⟩⟩
      · exact Node.callsIn_cutOff slot halternatives
      · exact Node.callsIn_cutOff slot halternatives
      · -- The first alternative is to be absent from what the others match.
        rw [List.forall_mem_cons] at hall
        rw [Opening.close]
        refine Node.callsIn_without slot hall.1 ?_
        rintro m ⟨⟩
        exact Node.callsIn_ofAlternatives hall.2
  | branches c onlyNo =>
    have hc := hopening c onlyNo hl
    cases onlyNo with
    | true =>
      rw [Opening.close]
      exact ⟨hc, by simp [Node.empty], halternatives⟩
    | false =>
      rcases ns with _ | ⟨y, _ | ⟨n, ns⟩⟩
      · exact ⟨hc, halternatives⟩
      · exact ⟨hc, halternatives⟩
      · -- The first alternative is the branch for yes, and the others are that for no.
        rw [List.forall_mem_cons] at hall
        exact ⟨hc, hall.1, Node.callsIn_ofAlternatives hall.2⟩
  | top | plain | group | rest | capture | atomic | lookAhead | lookBehind | condition =>
    exact halternatives

end Level

end Grok.Regex
