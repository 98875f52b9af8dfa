import Grok.Proofs.Regex.Twins
import Grok.Regex.Backtracking

namespace Grok.Regex

/-!
# Groups under another name

An expression that starts with a named group is read under two names. What comes behind the reader
looks up the names of calls and nothing else, so both expressions come to the same program as long
as nothing in the group refers to either name.

* `Name.startsWord`, `Name.refusal` — which names can be given to a group, and what is wrong with
  the others.
* `Resolved.settle_names` — once calls are looked up, names are only carried along.
* `Parsed.Twins` — two expressions that have been read and differ in the names of groups only.
* `compile_refused` — a name that does not start like one is refused, whatever stands in the group.
* `compile_alike`, `exists_compile_of_startsWord` — any other name can take the place of the one
  that the group has.
-/

/-! ### Reading a named group -/

namespace Name

variable {s cs : List Char}

/-- Is the text read as a name behind `(?<`? No character ends a name, and the first one does not
    open a look-behind. -/
def isReadable (s : List Char) : Bool :=
  (s.all fun d => d ≠ '>' ∧ d ≠ ')') && s.head?.any fun c => c ≠ '=' ∧ c ≠ '!'

/-- Does the text start like a name? Names start with a word character that is no digit. -/
def startsWord (s : List Char) : Bool := s.head?.any fun c => isWord c && !startsNumber c

/-- What is wrong with a name that does not start like one. -/
def refusal (s : List Char) : Fault :=
  if s.head?.any startsNumber then .invalidName s else .invalidNameChar s

/-- A name that is closed, with something behind it, stands or falls with its first character. -/
theorem definition_closed (hs : isReadable s = true) (hcs : cs ≠ []) :
    definition '>' (s ++ '>' :: cs) =
      if startsWord s then .ok (s, cs) else .error (refusal s) := by
  cases s with
  | nil => simp [isReadable] at hs
  | cons c part =>
    obtain ⟨⟨hc, -⟩, hpart⟩ : (c ≠ '>' ∧ c ≠ ')') ∧ ∀ d ∈ part, d ≠ '>' ∧ d ≠ ')' := by
      simpa [isReadable] using (Bool.and_eq_true_iff.1 hs).1
    -- The name ends at its `>`, as there is none within.
    have htake : (part ++ '>' :: cs).takeWhile (fun d => d ≠ '>' ∧ d ≠ ')') = part := by
      rw [List.takeWhile_append_of_pos (by simpa using hpart)]
      simp
    have hdrop : (part ++ '>' :: cs).dropWhile (fun d => d ≠ '>' ∧ d ≠ ')') = '>' :: cs := by
      rw [List.dropWhile_append_of_pos (by simpa using hpart)]
      simp
    have hrefused : refused part ('>' :: cs) = part := by
      obtain ⟨d, cs, rfl⟩ := List.exists_cons_of_ne_nil hcs
      rfl
    rw [List.cons_append, definition]
    simp only [htake, hdrop, hrefused, hc, if_false, closed, if_true]
    cases hnumber : startsNumber c <;> cases hword : isWord c <;>
      simp [startsWord, refusal, hnumber, hword]

end Name

/-- An expression that starts with a group of the name; `cs` is the text behind the name. -/
def startingGroup (name cs : List Char) : List Char := '(' :: '?' :: '<' :: (name ++ '>' :: cs)

namespace Reading

variable {c : Char} {cs : List Char}

/-- A named group is opened under the name that is read. -/
theorem openGroup_named (r : Reading) (hc : c ≠ '=' ∧ c ≠ '!') (cs : List Char) :
    r.openGroup ('?' :: '<' :: c :: cs) =
      (Name.definition '>' (c :: cs)).map fun a => (r.openCapture (some a.1), a.2) := by
  unfold openGroup
  grind

/-- Reading goes on behind the name, in the group. -/
theorem run_startingGroup {s : List Char} {skips fuel : Nat} (hs : Name.isReadable s = true)
    (hcs : cs ≠ []) :
    run (skips + 1) (fuel + 1) {} (startingGroup s cs) =
      if Name.startsWord s then run (skips + 1) fuel (openCapture {} (some s)) cs
      else .error (Name.refusal s) := by
  have hdefinition := Name.definition_closed hs hcs
  unfold startingGroup
  cases s with
  | nil => simp [Name.isReadable] at hs
  | cons c part =>
    -- Behind `(?<` stands a name, and no look-behind.
    have hhead : c ≠ '=' ∧ c ≠ '!' := by simpa using (Bool.and_eq_true_iff.1 hs).2
    rw [List.cons_append] at hdefinition ⊢
    have hnext : Token.next {} 0 [] (skips + 1) ('(' :: '?' :: '<' :: c :: (part ++ '>' :: cs)) =
        .ok (.openGroup, '?' :: '<' :: c :: (part ++ '>' :: cs)) := rfl
    have hdepth : ¬ maxDepth < depth {} := by decide
    have htake := openGroup_named {} hhead (part ++ '>' :: cs)
    rw [hdefinition] at htake
    rw [run, hnext]
    cases hstart : Name.startsWord (c :: part) <;>
      simp [bind, Except.bind, hdepth, take, htake, Except.map, hstart]

/-- The two readings are twins right behind the names. -/
theorem twins_openCapture (s t : List Char) :
    Twins (fun w => w ≠ s ∧ w ≠ t) s t (openCapture {} (some s)) (openCapture {} (some t)) where
  eq := rfl
  names := {
    groups := by
      rintro w ⟨hs, ht⟩
      change GroupNames.groups [(t, [1])] w = GroupNames.groups [(s, [1])] w
      rw [GroupNames.groups_cons, GroupNames.groups_cons, if_neg hs, if_neg ht]
    mem := List.mem_singleton_self s
    mem' := List.mem_singleton_self t }
  level := Twins.callsIn_opening (by simp)
  outer := by
    intro l hl
    obtain rfl := List.mem_singleton.1 hl
    exact Twins.callsIn_opening (by simp)

end Reading

/-! ### Names behind the reader

The checks and the settling take an expression whose calls are known by the numbers of their groups.
They hand the names on and never look at them. -/

namespace Resolved

variable {r : Resolved} {names : GroupNames}

/-- A search for a group that runs itself goes by the numbers of groups. -/
theorem find_names (target fuel : Nat) (entered : List Nat) (head : Bool) (n : Node) :
    Recursion.find { r with names := names } target fuel entered head n =
      Recursion.find r target fuel entered head n := by
  induction fuel generalizing entered head n with
  | zero => rfl
  | succ fuel ih =>
    -- A step looks at the target, the bodies and what may be empty, and goes on with less fuel.
    rw [Recursion.find.eq_def, Recursion.find.eq_def]
    simp only [ih]

/-- So does the check that no group runs itself without an end. -/
theorem check_names (r : Resolved) (names : GroupNames) :
    Recursion.check { r with names := names } = Recursion.check r := by
  simp only [Recursion.check, find_names]

/-- What fits into a look-behind is a matter of nodes. -/
theorem fitsBehind_names (negated : Bool) (fuel : Nat) :
    fitsBehind { r with names := names } negated fuel = fitsBehind r negated fuel := by
  induction fuel with
  | zero => rfl
  | succ fuel ih =>
    funext n
    rw [fitsBehind.eq_def, fitsBehind.eq_def]
    simp only [ih]

/-- The look-behind for a single length is made from the bodies of the groups. -/
theorem lookBehind?_names (bodies : Array Node) (negated : Bool) (n : Node) :
    lookBehind? { r with names := names } bodies negated n = lookBehind? r bodies negated n := rfl

mutual

/-- One for several lengths is taken apart into its alternatives. -/
theorem behind_names (bodies : Array Node) (negated : Bool) (n : Node) :
    behind { r with names := names } bodies negated n = behind r bodies negated n := by
  cases n with
  | alternatives ns =>
    simp only [behind, lookBehind?_names, behindAll_names bodies negated ns]
    rfl
  | _ => simp only [behind, lookBehind?_names]

/-- The same for several nodes. -/
theorem behindAll_names (bodies : Array Node) (negated : Bool) (ns : List Node) :
    behindAll { r with names := names } bodies negated ns = behindAll r bodies negated ns := by
  cases ns with
  | nil => rfl
  | cons n ns =>
    simp only [behindAll, behind_names bodies negated n, behindAll_names bodies negated ns]

end

mutual

/-- A node is settled along with its parts, none of which has a name. -/
theorem settleNode_names (inside : Bool) (n : Node) :
    settleNode { r with names := names } inside n = settleNode r inside n := by
  -- Names count for none of the nodes, so the parts decide.
  cases n with
  | sequence ns | alternatives ns => simp only [settleNode, settleAll_names inside ns]
  | quantified _ n | group n | capture _ _ n | atomic n | lookAhead _ n =>
    simp only [settleNode, settleNode_names inside n]
  | lookBehind negated back n =>
    simp only [settleNode, settleNode_names true n, fitsBehind_names, behind_names]
  | conditional c y n =>
    simp only [settleNode, settleNode_names inside c, settleNode_names inside y,
      settleNode_names inside n]
  | provided c y => simp only [settleNode, settleNode_names inside c, settleNode_names inside y]
  | fallback n m => simp only [settleNode, settleNode_names inside n, settleNode_names inside m]
  | text | any | word | set | assertion | keep | backReference | matched | call | limit | fail =>
    simp only [settleNode]

/-- The same for several nodes. -/
theorem settleAll_names (inside : Bool) (ns : List Node) :
    settleAll { r with names := names } inside ns = settleAll r inside ns := by
  cases ns with
  | nil => rfl
  | cons n ns => simp only [settleAll, settleNode_names inside n, settleAll_names inside ns]

end

/-- **Settling hands the names on** and does the same whatever they are. -/
theorem settle_names (r : Resolved) (names : GroupNames) :
    settle { r with names := names } = (settle r).map fun r => { r with names := names } := by
  simp only [settle, settleNode_names]
  cases (r.settleNode false r.node).run r.bodies <;> rfl

end Resolved

/-! ### Under two names -/

namespace Node

variable {P : List Char → Prop} {n : Node}

/-- Repetitions that lose the group between them are merged, without any new call. -/
theorem callsIn_mergeUnnamed (h : n.CallsIn P) : n.mergeUnnamed.CallsIn P := by
  refine map_callsIn ?_ h
  intro m hm
  split
  · rename_i q i n
    have hbare : n.bare.CallsIn P := callsIn_bare (by simpa using hm)
    split
    · rename_i hinner
      rw [hinner] at hbare
      exact callsIn_nested _ _ hbare
    · exact hm
  · exact hm

/-- Groups get new numbers, and calls stay as they are. -/
theorem callsIn_renumber (f : Nat → Nat) (h : n.CallsIn P) : (n.renumber f).CallsIn P := by
  refine map_callsIn ?_ (callsIn_mergeUnnamed h)
  intro m hm
  split
  all_goals exact hm

end Node

variable {P : List Char → Prop} {s t : List Char}

namespace Parsed

/-- Two expressions that have been read and differ in the names of groups only; all calls are by
    names with the property. -/
structure Twins (P : List Char → Prop) (s t : List Char) (p p' : Parsed) : Prop where
  eq : p' = { p with names := p'.names }
  names : GroupNames.Twins P s t p.names p'.names
  node : p.node.CallsIn P

namespace Twins

variable {p p' : Parsed}

theorem node_eq (h : Twins P s t p p') : p'.node = p.node := by rw [h.eq]

theorem groups_eq (h : Twins P s t p p') : p'.groups = p.groups := by rw [h.eq]

/-- Where groups have names, those without one no longer capture. -/
theorem nameOnly (h : Twins P s t p p') : Alike (Twins P s t) p.nameOnly p'.nameOnly := by
  -- Both know a name, so both drop the groups that have none.
  unfold Parsed.nameOnly
  rw [if_neg h.names.ne_nil, if_neg h.names.ne_nil', h.node_eq]
  split
  · exact .error _
  · simp only
    split
    · exact .error _
    · exact .ok ⟨rfl, h.names.map _, Node.callsIn_renumber _ h.node⟩

/-- The groups that back-references and conditions ask for exist in both or in neither. -/
theorem hasGroups_eq (h : Twins P s t p p') : p'.hasGroups = p.hasGroups := by
  rw [hasGroups, hasGroups, h.node_eq, h.groups_eq]

/-- A name that a call may use stands for the same group in both. -/
theorem callee_eq (h : Twins P s t p p') {c : Callee} (hc : (Node.call c).CallsIn P) :
    p'.callee c = p.callee c := by
  cases c with
  | number n written => rw [callee, callee, if_pos h.names.ne_nil, if_pos h.names.ne_nil']
  | name w => rw [callee, callee, h.names.groups w hc]
  | group i recursive => rfl

/-- So the calls of both become the same calls by number. -/
theorem resolveCalls_eq (h : Twins P s t p p') : p'.resolveCalls = p.resolveCalls := by
  have hfault : p'.callFault = p.callFault := by
    unfold callFault
    rw [h.node_eq]
    refine Node.fold_congr (P := P) ?_ _ _ h.node
    intro a m hm
    cases m <;> try rfl
    simp only [h.callee_eq hm]
  unfold resolveCalls
  rw [hfault, h.node_eq]
  -- Only calls are replaced, and both mean the same group by them.
  refine congrArg (fun n => p.callFault >>= fun _ => .ok n) (Node.map_congr (P := P) ?_ h.node)
  intro m hm
  cases m <;> try exact ⟨rfl, hm⟩
  simp [h.callee_eq hm]

/-- **Both are resolved alike**: only the names that are handed on differ. -/
theorem resolve (h : Twins P s t p p') :
    Alike (fun r r' => r' = { r with names := r'.names } ∧ t ∈ r'.names.map Prod.fst)
      p.resolve p'.resolve := by
  unfold Parsed.resolve
  refine .bind h.nameOnly ?_
  intro p p' hp
  simp only [hp.hasGroups_eq, hp.resolveCalls_eq, hp.groups_eq]
  split
  · exact .error _
  · refine .bind_same ?_
    intro n hn
    -- The calls are known now; the names are only put into the record.
    let r : Resolved := ⟨n.locate p.groups, p.groups, p.names, (n.locate p.groups).bodies p.groups,
      .ofBodies ((n.locate p.groups).bodies p.groups), (n.locate p.groups).called p.groups⟩
    change Alike _ (Recursion.check r >>= fun _ => .ok r)
      (Recursion.check { r with names := p'.names } >>= fun _ => .ok { r with names := p'.names })
    rw [Resolved.check_names]
    exact .bind_same fun _ _ => .ok ⟨rfl, hp.names.mem'⟩

end Twins

end Parsed

/-! ### Expressions that start with a named group -/

section StartingGroup

variable {cs : List Char} (hs : Name.isReadable s = true) (ht : Name.isReadable t = true)
  (hcs : cs ≠ [])

/-- Four characters stand around the name. -/
theorem length_startingGroup (s cs : List Char) :
    (startingGroup s cs).length = s.length + cs.length + 4 := by
  simp [startingGroup]
  omega

include hs hcs

/-- A name that does not start like one is refused, whatever stands in the group. -/
theorem compile_refused (hstart : Name.startsWord s = false) :
    compile (startingGroup s cs) = .error (Name.refusal s) := by
  unfold compile parse
  simp only [Reading.run_startingGroup hs hcs, hstart]
  rfl

variable (hnos : ¬ RefersTo cs s) (hnot : ¬ RefersTo cs t)

include ht hnos hnot

/-- The group is read alike under two names that nothing in it refers to. -/
theorem parse_alike (hstart : Name.startsWord s = true) (hstart' : Name.startsWord t = true) :
    Alike (Parsed.Twins (fun w => w ≠ s ∧ w ≠ t) s t) (parse (startingGroup s cs))
      (parse (startingGroup t cs)) := by
  have hlen := length_startingGroup s cs
  have hlen' := length_startingGroup t cs
  unfold parse
  refine Alike.bind (R := Reading.Twins (fun w => w ≠ s ∧ w ≠ t) s t) ?_ ?_
  -- Behind the name both read the same text, and it refers to neither name.
  · rw [Reading.run_startingGroup hs hcs, Reading.run_startingGroup ht hcs, if_pos hstart,
      if_pos hstart']
    refine (Reading.twins_openCapture s t).run (by omega) (by omega) (by omega) (by omega) ?_
    intro w hw
    refine ⟨?_, ?_⟩
    · rintro rfl
      exact hnos hw
    · rintro rfl
      exact hnot hw
  -- What is still open at the end is closed alike.
  · intro r r' h
    have hrests := h.closeRests
    simp only
    rw [hrests.outer_eq]
    generalize r.closeRests = r at hrests
    generalize r'.closeRests = r' at hrests
    split
    · refine .ok ⟨?_, hrests.names, ?_⟩
      · rw [hrests.groups_eq, hrests.level_eq, hrests.slots_eq]
      · refine Node.map_callsIn ?_ (hrests.level.close _)
        intro m hm
        split
        · simpa using Node.callsIn_joinTexts (by simpa using hm)
        · exact hm
    · exact .error _

/-- It is compiled to the same program. -/
theorem compile_alike (hstart : Name.startsWord s = true) (hstart' : Name.startsWord t = true) :
    Alike (fun c c' => c' = { c with names := c'.names } ∧ t ∈ c'.names.map Prod.fst)
      (compile (startingGroup s cs)) (compile (startingGroup t cs)) := by
  unfold compile
  refine .bind (parse_alike hs ht hcs hnos hnot hstart hstart') ?_
  intro p p' hp
  refine .bind hp.resolve ?_
  rintro r r' ⟨heq, hmem⟩
  rw [heq, Resolved.settle_names r r'.names]
  cases r.settle with
  | error e => exact .error e
  | ok settled => exact .ok ⟨rfl, hmem⟩

/-- Any name that starts like one can take the place of the name of the group. -/
theorem exists_compile_of_startsWord (hstart : Name.startsWord t = true) {c : Compiled}
    (hc : compile (startingGroup s cs) = .ok c) :
    ∃ c', compile (startingGroup t cs) = .ok c' ∧ c' = { c with names := c'.names } ∧
      t ∈ c'.names.map Prod.fst := by
  -- The expression compiles, so the name that it has starts like one.
  have hstart' : Name.startsWord s = true := by
    rw [← Bool.not_eq_false]
    intro hrefused
    rw [compile_refused hs hcs hrefused] at hc
    cases hc
  exact (compile_alike hs ht hcs hnos hnot hstart' hstart).exists_ok hc

end StartingGroup

/-- The names of groups do not bear on a search. -/
theorem Compiled.search_names (c : Compiled) (names : GroupNames) :
    search { c with names := names } = search c := rfl

end Grok.Regex
