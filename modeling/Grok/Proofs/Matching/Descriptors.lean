import Grok.Proofs.Matching.Extraction
import Mathlib.Data.List.Forall2
import Mathlib.Data.List.Sigma

namespace Grok

/-!
# The descriptors of a report

An engine reports its named groups in an order of its own, and the indexes of a name too. The fields
of a matcher are the same entries, each with its indexes in ascending order, and put in order
themselves.

* `CaptureGroup.Describes` — the descriptor of an entry, said without sorting;
  `CaptureGroup.describes_iff`: there is one.
* `CaptureGroup.Precedes` — entries are ordered by their lowest index, and those with the same one
  as they are reported; `CaptureGroup.Arrange` — descriptors of all entries in this order.
* `CaptureGroup.arrange_iff` — there is one such list, and it is the one that a matcher has.
* `CaptureGroup.Reordered` — two reports differ only in the order of the entries and of their
  indexes.
* `Matcher.groups_of_report` — so descriptors hold all that is reported and nothing else, and if
  each index belongs to one entry, neither order makes a difference to what is captured.
-/

namespace CaptureGroup

variable {references : List Reference}

/-! ### One entry -/

/-- A descriptor has the name of an entry, its indexes from the lowest to the highest, and the type
    that the name is looked up with. -/
structure Describes (references : List Reference) (entry : String × List Nat) (g : CaptureGroup) :
    Prop where
  name : g.name = entry.1
  perm : g.indexes.Perm entry.2
  ascending : g.indexes.Pairwise (· ≤ ·)
  type : g.type = typeOf references entry.1

/-- The descriptor that is made for an entry describes it. -/
theorem describes_ofReport (references : List Reference) (entry : String × List Nat) :
    Describes references entry (ofReport references entry) where
  name := rfl
  perm := List.mergeSort_perm _ _
  ascending := pairwise_indexes_ofReport references entry
  type := rfl

/-- **An entry has one descriptor.** -/
theorem describes_iff {entry : String × List Nat} {g : CaptureGroup} :
    Describes references entry g ↔ ofReport references entry = g := by
  constructor
  · intro h
    have hmade := describes_ofReport references entry
    -- Ascending indexes are told by which they are.
    have hindexes : (ofReport references entry).indexes = g.indexes :=
      List.Perm.eq_of_pairwise (fun a b _ _ => Nat.le_antisymm) hmade.ascending h.ascending
        (hmade.perm.trans h.perm.symm)
    obtain ⟨name, indexes, type⟩ := g
    obtain rfl : name = entry.1 := h.name
    obtain rfl : type = typeOf references entry.1 := h.type
    exact congrArg (fun is => (⟨entry.1, is, typeOf references entry.1⟩ : CaptureGroup)) hindexes
  · rintro rfl
    exact describes_ofReport references entry

/-- The lowest index of an entry; zero if it has none. -/
def lowest (entry : String × List Nat) : Nat := entry.2.min?.getD 0

/-- Its place is the lowest index of the entry. -/
theorem position_ofReport (references : List Reference) (entry : String × List Nat) :
    (ofReport references entry).position = lowest entry := by
  have hmade := describes_ofReport references entry
  unfold position lowest
  cases hindexes : (ofReport references entry).indexes with
  | nil =>
    have hnil : entry.2 = [] := (hindexes ▸ hmade.perm).nil_eq.symm
    rw [hnil]
    rfl
  | cons i rest =>
    have hmin : entry.2.min? = some i := by
      -- Indexes are in ascending order, so the first of them is the least.
      refine List.min?_eq_some_iff.2 ⟨hmade.perm.mem_iff.1 (by simp [hindexes]), fun j hj => ?_⟩
      have hj : j ∈ i :: rest := hindexes ▸ hmade.perm.mem_iff.2 hj
      rcases List.mem_cons.1 hj with rfl | hj
      · exact Nat.le_refl _
      · exact List.rel_of_pairwise_cons (hindexes ▸ hmade.ascending) hj
    rw [hmin]
    rfl

/-! ### All entries -/

/-- An entry, with its place in the report, comes in front of another one: its lowest index is
    lower, or it is the same and the entry is reported first. -/
def Precedes (a b : (String × List Nat) × Nat) : Prop :=
  lowest a.1 < lowest b.1 ∨ lowest a.1 = lowest b.1 ∧ a.2 < b.2

/-- Descriptors of all entries of a report, one for each, in the order of the entries. -/
def Arrange (references : List Reference) (report : List (String × List Nat))
    (gs : List CaptureGroup) : Prop :=
  ∃ order : List ((String × List Nat) × Nat), order.Perm report.zipIdx ∧ order.Pairwise Precedes ∧
    List.Forall₂ (fun entry g => Describes references entry.1 g) order gs

/-- The descriptors in the order in which a matcher has them. -/
def arranged (references : List Reference) (report : List (String × List Nat)) :
    List CaptureGroup :=
  (report.map (ofReport references)).mergeSort fun a b => a.position ≤ b.position

theorem key_le_trans {α : Type} (key : α → Nat) (a b c : α)
    (hab : decide (key a ≤ key b) = true) (hbc : decide (key b ≤ key c) = true) :
    decide (key a ≤ key c) = true := by
  simp only [decide_eq_true_eq] at hab hbc ⊢
  omega

theorem key_le_total {α : Type} (key : α → Nat) (a b : α) :
    (decide (key a ≤ key b) || decide (key b ≤ key a)) = true := by
  simp only [Bool.or_eq_true, decide_eq_true_eq]
  omega

/-- The entries of a report, with their places, in order. -/
theorem exists_order (report : List (String × List Nat)) :
    ∃ order : List ((String × List Nat) × Nat), order.Perm report.zipIdx ∧
      order.Pairwise Precedes ∧
      order.map (·.1) = report.mergeSort fun a b => lowest a ≤ lowest b := by
  refine ⟨report.zipIdx.mergeSort (List.zipIdxLE fun a b => lowest a ≤ lowest b),
    List.mergeSort_perm _ _, ?_, List.mergeSort_zipIdx⟩
  have hsorted := List.pairwise_mergeSort (List.zipIdxLE_trans (key_le_trans lowest))
    (List.zipIdxLE_total (key_le_total lowest)) report.zipIdx
  -- No place is there twice, so the order is strict.
  have hplaces : (report.zipIdx.mergeSort
      (List.zipIdxLE fun a b => lowest a ≤ lowest b)).Pairwise (·.2 ≠ ·.2) := by
    have hnodup := ((List.mergeSort_perm report.zipIdx
      (List.zipIdxLE fun a b => lowest a ≤ lowest b)).map (·.2)).nodup_iff.2
        (List.nodup_zipIdx_map_snd report)
    exact List.pairwise_map.1 hnodup
  refine (hsorted.and hplaces).imp ?_
  rintro a b ⟨hle, hne⟩
  unfold Precedes
  simp only [List.zipIdxLE, decide_eq_true_eq] at hle
  split at hle
  · split at hle
    · simp only [decide_eq_true_eq] at hle
      omega
    · omega
  · cases hle

/-- There is one order. -/
theorem eq_of_perm_of_precedes {order order' : List ((String × List Nat) × Nat)}
    (h : order.Pairwise Precedes) (h' : order'.Pairwise Precedes) (hperm : order.Perm order') :
    order = order' := by
  refine List.Perm.eq_of_pairwise (fun a b _ _ hab hba => ?_) h h' hperm
  unfold Precedes at hab hba
  omega

/-- **A report is arranged in one way**, and that is how a matcher has it. -/
theorem arrange_iff {report : List (String × List Nat)} {gs : List CaptureGroup} :
    Arrange references report gs ↔ arranged references report = gs := by
  obtain ⟨order, hperm, hordered, hmap⟩ := exists_order report
  -- The position of a descriptor is the lowest index of its entry, so it does not matter whether
  -- the entries are sorted or their descriptors.
  have harranged :
      arranged references report = order.map fun entry => ofReport references entry.1 := by
    have hsort := List.map_mergeSort (r := fun a b => decide (lowest a ≤ lowest b))
      (s := fun a b : CaptureGroup => decide (a.position ≤ b.position)) (f := ofReport references)
      (l := report) (fun a _ b _ => by rw [position_ofReport, position_ofReport])
    rw [arranged, ← hsort, ← hmap, List.map_map]
    rfl
  have hdescribes : ∀ order : List ((String × List Nat) × Nat),
      List.Forall₂ (fun entry g => Describes references entry.1 g) order gs ↔
        (order.map fun entry => ofReport references entry.1) = gs := by
    intro order
    simp only [describes_iff]
    rw [← List.forall₂_eq_eq_eq, List.forall₂_map_left_iff]
  rw [harranged]
  constructor
  · rintro ⟨order', hperm', hordered', hall⟩
    obtain rfl := eq_of_perm_of_precedes hordered' hordered (hperm'.trans hperm.symm)
    exact (hdescribes _).1 hall
  · intro h
    exact ⟨order, hperm, hordered, (hdescribes _).2 h⟩

/-! ### The order of a report -/

/-- Two reports have the same entries up to their order and the order of their indexes. -/
def Reordered (report report' : List (String × List Nat)) : Prop :=
  ∃ shuffled, report.Perm shuffled ∧
    List.Forall₂ (fun a b => a.1 = b.1 ∧ a.2.Perm b.2) shuffled report'

/-- The order of the indexes of an entry makes no difference to its descriptor. -/
theorem ofReport_eq_of_perm {a b : String × List Nat} (hname : a.1 = b.1) (hperm : a.2.Perm b.2) :
    ofReport references a = ofReport references b := by
  have hmade := describes_ofReport references a
  exact (describes_iff.1 ⟨hmade.name.trans hname, hmade.perm.trans hperm, hmade.ascending,
    hname ▸ hmade.type⟩).symm

/-- A report in another order gives the same descriptors in another order. -/
theorem Reordered.map_perm {report report' : List (String × List Nat)}
    (h : Reordered report report') :
    (report.map (ofReport references)).Perm (report'.map (ofReport references)) := by
  obtain ⟨shuffled, hperm, hall⟩ := h
  have hsame : shuffled.map (ofReport references) = report'.map (ofReport references) := by
    rw [← List.forall₂_eq_eq_eq, List.forall₂_map_left_iff, List.forall₂_map_right_iff]
    exact hall.imp fun a b h => ofReport_eq_of_perm h.1 h.2
  exact (hperm.map _).trans (List.Perm.of_eq hsame)

/-- An entry with indexes has its lowest one among them. -/
theorem lowest_mem {entry : String × List Nat} (h : entry.2 ≠ []) : lowest entry ∈ entry.2 := by
  obtain ⟨i, hi⟩ := Option.ne_none_iff_exists'.1 (mt List.min?_eq_none_iff.1 h)
  rw [lowest, hi]
  exact (List.min?_eq_some_iff.1 hi).1

/-- Entries that share no index are told apart by their lowest ones. -/
theorem eq_of_lowest_eq {report : List (String × List Nat)} (hne : ∀ entry ∈ report, entry.2 ≠ [])
    (hdisjoint : report.Pairwise fun a b => a.2.Disjoint b.2) {a b : String × List Nat}
    (ha : a ∈ report) (hb : b ∈ report) (h : lowest a = lowest b) : a = b := by
  by_contra hab
  have : Std.Symm fun a b : String × List Nat => a.2.Disjoint b.2 := ⟨fun _ _ => List.disjoint_symm⟩
  exact hdisjoint.forall ha hb hab (lowest_mem (hne a ha)) (h ▸ lowest_mem (hne b hb))

/-- Descriptors are arranged by their positions. -/
theorem pairwise_arranged (references : List Reference) (report : List (String × List Nat)) :
    (arranged references report).Pairwise fun a b => a.position ≤ b.position := by
  have hsorted : (arranged references report).Pairwise fun a b =>
      decide (a.position ≤ b.position) = true :=
    List.pairwise_mergeSort (key_le_trans position) (key_le_total position) _
  exact hsorted.imp of_decide_eq_true

/-- **Where no index is shared, neither order makes a difference.** -/
theorem arranged_eq_of_reordered {report report' : List (String × List Nat)}
    (hne : ∀ entry ∈ report, entry.2 ≠ [])
    (hdisjoint : report.Pairwise fun a b => a.2.Disjoint b.2) (h : Reordered report report') :
    arranged references report' = arranged references report := by
  have hperm : (arranged references report').Perm (arranged references report) :=
    (List.mergeSort_perm _ _).trans (h.map_perm.symm.trans (List.mergeSort_perm _ _).symm)
  -- Two descriptors at the same position come from entries with the same lowest index.
  refine List.Perm.eq_of_pairwise (fun g k hg hk hle hge => ?_)
    (pairwise_arranged references report') (pairwise_arranged references report) hperm
  obtain ⟨a, ha, rfl⟩ := List.mem_map.1 (List.mem_mergeSort.1 (hperm.mem_iff.1 hg))
  obtain ⟨b, hb, rfl⟩ := List.mem_map.1 (List.mem_mergeSort.1 hk)
  rw [position_ofReport, position_ofReport] at hle hge
  rw [eq_of_lowest_eq hne hdisjoint ha hb (Nat.le_antisymm hle hge)]

end CaptureGroup

namespace Matcher

open CaptureGroup (Arrange Reordered)

/-- **The descriptors of a matcher are what the engine reports**, with any references and any
    search: one for each entry, with its name and its indexes in ascending order, by the lowest
    index, and those with the same one as they are reported; there is only one such list.

    If all entries have indexes and share none, a report in another order, of the entries or of
    their indexes, makes the same descriptors. So whatever the search comes to, the same is
    captured, or the same text fails to convert first. -/
theorem groups_of_report (references : List Reference) (expression : String)
    (report : List (String × List Nat)) :
    (∀ search gs, Arrange references report gs ↔
      (ofProgram references expression ⟨report, search⟩).groups = gs) ∧
    ((∀ entry ∈ report, entry.2 ≠ []) → (report.Pairwise fun a b => a.2.Disjoint b.2) →
      ∀ report', Reordered report report' → ∀ search,
        let m := ofProgram references expression ⟨report, search⟩
        let m' := ofProgram references expression ⟨report', search⟩
        m'.groups = m.groups ∧ (∀ text, m'.captureText text = m.captureText text) ∧
          ∀ bytes, m'.captureBytes bytes = m.captureBytes bytes) := by
  refine ⟨fun search gs => CaptureGroup.arrange_iff, fun hne hdisjoint report' h search => ?_⟩
  intro m m'
  have hgroups : m'.groups = m.groups := CaptureGroup.arranged_eq_of_reordered hne hdisjoint h
  have hsame : m' = m :=
    congrArg (fun gs => (⟨references, expression, gs, search⟩ : Matcher)) hgroups
  exact ⟨hgroups, fun text => by rw [hsame], fun bytes => by rw [hsame]⟩

/-- A name without indexes and one with the index of the whole match, behind one with others. -/
def tied : List (String × List Nat) := [("b", [2, 1]), ("x", []), ("y", [0])]

/-- A number and a word, with a second entry for the number. -/
def shuffled : List (String × List Nat) := [("n", [5, 2]), ("w", [4]), ("n", [3, 1])]

/-- A match of two letters: the first is in the third group, and the other in the second. -/
def twoLetters : Offsets := [some (0, 2), none, some (1, 2), some (0, 1), none, none]

/-- What has no index stands with what has index zero, as they are reported. Neither entry for a
    number has got one; that with index 1 comes first in either order, and so it is its text that
    fails to convert. -/
theorem groups_of_report_shuffled :
    Arrange [] tied [⟨"x", [], .string⟩, ⟨"y", [0], .string⟩, ⟨"b", [1, 2], .string⟩] ∧
      Reordered shuffled [("w", [4]), ("n", [1, 3]), ("n", [2, 5])] ∧
      (ofProgram [⟨"NUM", some "n", .int⟩] "" ⟨[("w", [4]), ("n", [1, 3]), ("n", [2, 5])],
          fun _ => .ok (some twoLetters)⟩).captureText "xy" =
        .error (.typeConversion "n" "x" .int) := by
  have hreordered : Reordered shuffled [("w", [4]), ("n", [1, 3]), ("n", [2, 5])] :=
    ⟨[("w", [4]), ("n", [3, 1]), ("n", [5, 2])], by decide, by simp [List.Perm.swap]⟩
  refine ⟨?_, hreordered, ?_⟩
  · refine ((groups_of_report [] "" tied).1 (fun _ => .ok none) _).2 ?_
    simp [ofProgram, tied, CaptureGroup.ofReport, CaptureGroup.typeOf, CaptureGroup.position,
      List.mergeSort]
  · obtain ⟨-, htext, -⟩ := (groups_of_report [⟨"NUM", some "n", .int⟩] "" shuffled).2
      (by decide) (by simp [shuffled]) _ hreordered fun _ => .ok (some twoLetters)
    -- Both descriptors of `n` are refused, and that with index 1 stands in front.
    have hgroups : (ofProgram [⟨"NUM", some "n", .int⟩] ""
        ⟨shuffled, fun _ => .ok (some twoLetters)⟩).groups =
          [⟨"n", [1, 3], .int⟩, ⟨"n", [2, 5], .int⟩, ⟨"w", [4], .string⟩] := by
      simp [ofProgram, shuffled, CaptureGroup.ofReport, CaptureGroup.typeOf,
        CaptureGroup.position, List.mergeSort]
    rw [htext, captureText, hgroups]
    rfl

end Matcher

end Grok
