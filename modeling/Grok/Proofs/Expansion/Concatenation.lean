import Grok.Proofs.Expansion.Stack
import Grok.Proofs.Reference.Meeting

namespace Grok

/-!
# Expanding texts put together

Where no reference stands across the place where two texts meet, they are expanded one after the
other, as if each were alone.

* `Piece.scan_append` — the pieces of the whole are those of its parts.
* `Expansion.followedBy` — two expansions one after the other; `Expansion.ofPieces_append` — that is
  what the pieces of the parts come to.
* `Library.expand_append` — the whole is expanded as its parts are, one after the other.
* `Compiler.expand_eq_append` — what this says about faults, texts and references.
-/

open Occurrence (Joins)

namespace Occurrence

/-- Texts that do not join: every occurrence ends in the first one or starts in the second. -/
theorem not_joins_iff {a b : String} :
    ¬ Joins a.toList b.toList ↔ ∀ pos o, At o (a ++ b).toList pos →
      pos + o.text.length ≤ a.toList.length ∨ a.toList.length ≤ pos := by
  rw [joins_iff, ← String.toList_append]
  push Not
  refine forall₃_congr fun pos o _ => ?_
  omega

/-- A character that is in no occurrence keeps apart what is in front of it. -/
theorem not_joins_cons {a b : List Char} {c : Char} (hname : isNameChar c = false)
    (hfield : isFieldChar c = false) (hmark : c ∉ ['%', '\x7b', ':', '\x7d']) :
    ¬ Joins a (c :: b) := by
  rintro ⟨o, u, v, hwell, htext, -, hv, -, hbegins⟩
  refine hwell.notMem_text hname hfield hmark ?_
  cases v with
  | nil => exact absurd rfl hv
  | cons d v =>
    rw [htext, (List.cons_prefix_cons.1 hbegins).1]
    exact List.mem_append_right u List.mem_cons_self

end Occurrence

namespace Piece

variable {ps qs : List Piece} {a b : List Char}

/-- Behind the first pieces the sites are moved by the length of their text. -/
theorem sites_append (start : Nat) (ps qs : List Piece) :
    sites start (ps ++ qs) = sites start ps ++ sites (start + (ps.flatMap text).length) qs := by
  induction ps generalizing start with
  | nil => rfl
  | cons p ps ih =>
    cases p with
    | char c =>
      rw [List.cons_append, sites, sites, ih, List.flatMap_cons, text, List.length_append,
        List.length_singleton, Nat.add_assoc]
    | reference o =>
      rw [List.cons_append, sites, sites, ih, List.flatMap_cons, text, List.length_append,
        Nat.add_assoc, List.cons_append]

/-- **Pieces put together** cut the whole, if no occurrence stands across. -/
theorem Cuts.append (ha : Cuts ps a) (hb : Cuts qs b) (h : ¬ Joins a b) :
    Cuts (ps ++ qs) (a ++ b) := by
  refine ⟨by rw [List.flatMap_append, ha.flatMap_text, hb.flatMap_text], fun pos o => ?_⟩
  rw [sites_append, ha.flatMap_text, List.mem_append, mem_sites_add, ← ha.at_iff]
  simp only [← hb.at_iff]
  constructor
  · intro hat
    rcases hat.append_cases with hin | ⟨hlt, hacross⟩ | ⟨q, rfl, hin⟩
    · exact .inl hin
    · exact absurd (Occurrence.joins_iff.2 ⟨pos, o, hat, hlt, hacross⟩) h
    · exact .inr ⟨q, Nat.add_comm .., hin⟩
  · rintro (hin | ⟨q, rfl, hin⟩)
    · exact hin.append_left b
    · rw [Nat.add_comm]
      exact Occurrence.at_append_length.2 hin

/-- Texts that do not join are cut apart from each other. -/
theorem scan_append (h : ¬ Joins a b) : scan (a ++ b) = scan a ++ scan b :=
  (cuts_iff.1 ((cuts_scan a).append (cuts_scan b) h)).symm

end Piece

namespace Expansion

/-- Two expansions one after the other: the second one comes about only if the first succeeds. -/
def followedBy (e f : Expansion) : Expansion :=
  match e.outcome with
  | .error fault => ⟨e.opened, .error fault⟩
  | .ok cs => ⟨e.opened ++ f.opened, f.outcome.map (cs ++ ·)⟩

/-- An expansion of nothing changes nothing in front of another one. -/
theorem nil_followedBy (e : Expansion) : followedBy ⟨[], .ok []⟩ e = e := by
  obtain ⟨opened, outcome⟩ := e
  cases outcome with
  | error fault => rfl
  | ok cs => rfl

/-- It does not matter how expansions are grouped. -/
theorem followedBy_assoc (e f g : Expansion) :
    (e.followedBy f).followedBy g = e.followedBy (f.followedBy g) := by
  obtain ⟨eOpened, eOutcome⟩ := e
  obtain ⟨fOpened, fOutcome⟩ := f
  cases eOutcome with
  | error fault => rfl
  | ok cs =>
    cases fOutcome with
    | error fault => rfl
    | ok ds =>
      obtain ⟨gOpened, gOutcome⟩ := g
      cases gOutcome with
      | error fault => simp [followedBy, Except.map]
      | ok es => simp [followedBy, Except.map]

/-- The expansion of one piece. -/
def ofPiece (fieldsOnly : Bool) (expand : Occurrence → Expansion) : Piece → Expansion
  | .char c => ⟨[], .ok [c]⟩
  | .reference o => ⟨(expand o).opened, (expand o).outcome.map (wrap fieldsOnly o)⟩

/-- The first piece is expanded first. -/
theorem ofPieces_cons (fieldsOnly : Bool) (expand : Occurrence → Expansion) (p : Piece)
    (ps : List Piece) : ofPieces fieldsOnly expand (p :: ps) =
      (ofPiece fieldsOnly expand p).followedBy (ofPieces fieldsOnly expand ps) := by
  cases p with
  | char c => rfl
  | reference o =>
    rw [ofPieces, ofPiece, followedBy]
    cases (expand o).outcome with
    | error fault => rfl
    | ok fragment => rfl

/-- Pieces can be expanded by parts. -/
theorem ofPieces_append (fieldsOnly : Bool) (expand : Occurrence → Expansion) (ps qs : List Piece) :
    ofPieces fieldsOnly expand (ps ++ qs) =
      (ofPieces fieldsOnly expand ps).followedBy (ofPieces fieldsOnly expand qs) := by
  induction ps with
  | nil => exact (nil_followedBy _).symm
  | cons p ps ih => rw [List.cons_append, ofPieces_cons, ih, ofPieces_cons, followedBy_assoc]

end Expansion

namespace Library

/-- **Texts put together are expanded one after the other**, if no reference stands across. -/
theorem expandInside_append (l : Library) (fieldsOnly : Bool) (depth : Nat) (stack : List String)
    {a b : List Char} (h : ¬ Joins a b) :
    l.expandInside fieldsOnly depth stack (a ++ b) =
      (l.expandInside fieldsOnly depth stack a).followedBy
        (l.expandInside fieldsOnly depth stack b) := by
  rw [expandInside_eq, expandInside_eq, expandInside_eq, Piece.scan_append h,
    Expansion.ofPieces_append]

/-- **Texts that do not join are expanded one after the other.** -/
theorem expand_append (l : Library) (fieldsOnly : Bool) {a b : String}
    (h : ¬ Joins a.toList b.toList) :
    l.expand fieldsOnly (a ++ b) = (l.expand fieldsOnly a).followedBy (l.expand fieldsOnly b) := by
  rw [expand_eq, expand_eq, expand_eq, String.toList_append, expandInside_append l _ _ _ h]

end Library

namespace Compiler

/-- **Expansion distributes over texts put together.** Where no reference stands across the place
    where they meet, the whole fails with the fault of the first text if that fails, else with that
    of the second; and if both are expanded, it comes to the one text and then the other, and to the
    references of the one and then those of the other. What was opened before a fault, and what is
    reported about unknown types, is so too.

    So what was expanded before makes no difference: the names that are being expanded are the same
    again, and the second text is expanded from there as it would be in place of the first. -/
theorem expand_eq_append (c : Compiler) (a b : String)
    (h : ∀ pos o, Occurrence.At o (a ++ b).toList pos →
      pos + o.text.length ≤ a.toList.length ∨ a.toList.length ≤ pos) :
    (∀ e, (c.expand a).value = .error e →
      c.library.expand c.fieldsOnly (a ++ b) = c.library.expand c.fieldsOnly a ∧
        (c.expand (a ++ b)).value = .error e) ∧
    (∀ s, (c.expand a).value = .ok s →
      (c.library.expand c.fieldsOnly (a ++ b)).references =
        (c.library.expand c.fieldsOnly a).references ++
          (c.library.expand c.fieldsOnly b).references ∧
      (c.expand (a ++ b)).log = (c.expand a).log ++ (c.expand b).log ∧
      (∀ e, (c.expand b).value = .error e → (c.expand (a ++ b)).value = .error e) ∧
      (∀ t, (c.expand b).value = .ok t → (c.expand (a ++ b)).value = .ok (s ++ t)) ∧
      ∀ m, (c.compile (a ++ b)).value = .ok m → m.references =
        (c.library.expand c.fieldsOnly a).references ++
          (c.library.expand c.fieldsOnly b).references) ∧
    ∀ (depth : Nat) (p q : Progress) (s : List Char),
      c.library.expandInto c.fieldsOnly depth p a.toList = (q, .ok s) →
        q.stack = p.stack ∧
          (c.library.expandInto c.fieldsOnly depth q b.toList).2 =
            (c.library.expandInto c.fieldsOnly depth p b.toList).2 := by
  have happend := c.library.expand_append c.fieldsOnly (Occurrence.not_joins_iff.2 h)
  refine ⟨fun e he => ?_, fun s hs => ?_, fun depth p q s hq => ?_⟩
  · -- Where the first text fails, nothing of the second is expanded.
    rw [value_expand, Expansion.map_eq_error_iff] at he
    have hwhole : c.library.expand c.fieldsOnly (a ++ b) = c.library.expand c.fieldsOnly a := by
      rw [happend, Expansion.followedBy, he]
      dsimp only
      rw [← he]
    exact ⟨hwhole, by rw [value_expand, hwhole, he]; rfl⟩
  · -- Where it does not, the second is expanded behind it.
    rw [value_expand_eq_ok_iff] at hs
    rw [Expansion.followedBy, hs] at happend
    have hreferences : (c.library.expand c.fieldsOnly (a ++ b)).references =
        (c.library.expand c.fieldsOnly a).references ++
          (c.library.expand c.fieldsOnly b).references := by
      rw [happend]
      exact List.map_append
    refine ⟨hreferences, ?_, fun e he => ?_, fun t ht => ?_, fun m hm => ?_⟩
    · rw [expand, happend]
      exact List.flatMap_append
    · rw [value_expand, Expansion.map_eq_error_iff] at he
      rw [value_expand, happend, he]
      rfl
    · rw [value_expand_eq_ok_iff] at ht
      rw [value_expand_eq_ok_iff, happend, ht, String.toList_append]
      rfl
    · obtain ⟨expanded, program, -, -, rfl⟩ := compile_eq_ok_iff.1 hm
      exact hreferences
  · -- A success leaves the stack as it was, and the outcome depends on nothing else.
    obtain ⟨q', hq', hmakes⟩ := c.library.makes_expandInto c.fieldsOnly depth p a.toList
    rw [hq, Prod.mk.injEq] at hq'
    obtain ⟨rfl, hs⟩ := hq'
    have hstack : q.stack = p.stack := hmakes.stack s hs.symm
    refine ⟨hstack, ?_⟩
    obtain ⟨r, hr, -⟩ := c.library.makes_expandInto c.fieldsOnly depth q b.toList
    obtain ⟨r', hr', -⟩ := c.library.makes_expandInto c.fieldsOnly depth p b.toList
    rw [hr, hr', hstack]

/-- A definition that is used in both texts, one that refers to itself, and none for a third name. -/
def reused : Compiler where
  library := Library.empty.insertAll
    [⟨"A", "a%\x7bB\x7d"⟩, ⟨"B", "b"⟩, ⟨"LOOP", "%\x7bA\x7d%\x7bLOOP\x7d"⟩]
  fieldsOnly := false
  options := {}
  engine := ⟨fun _ expression => .error (.invalidExpression expression "")⟩

/-- The first text breaks off where a reference could go on. A definition that it has used can be
    used again in the second one, and a fault of the second counts only where the first has none. -/
theorem expand_eq_append_reused :
    (reused.expand ("%\x7bA\x7d%\x7bLOOP" ++ "(%\x7bA:f\x7d)")).value =
        .ok ("(?<A>a(?<B>b))%\x7bLOOP" ++ "((?<f>a(?<B>b)))") ∧
      (reused.expand ("%\x7bA\x7d%\x7bLOOP" ++ "(%\x7bLOOP\x7d)")).value =
        .error (.cyclicPattern "LOOP") ∧
      (reused.expand ("%\x7bC\x7d" ++ "(%\x7bLOOP\x7d)")).value = .error (.unknownPattern "C") := by
  have hpaused : (reused.expand "%\x7bA\x7d%\x7bLOOP").value = .ok "(?<A>a(?<B>b))%\x7bLOOP" := by
    decide +kernel
  have hfield : (reused.expand "(%\x7bA:f\x7d)").value = .ok "((?<f>a(?<B>b)))" := by
    decide +kernel
  have hloop : (reused.expand "(%\x7bLOOP\x7d)").value = .error (.cyclicPattern "LOOP") := by
    decide +kernel
  have hnone : (reused.expand "%\x7bC\x7d").value = .error (.unknownPattern "C") := by
    decide +kernel
  -- An opening parenthesis goes on with no occurrence.
  have hkept : ∀ a b : String, ¬ Joins a.toList ("(" ++ b).toList := fun a b => by
    rw [String.toList_append]
    exact Occurrence.not_joins_cons (by decide) (by decide) (by decide)
  have apart := fun a b => Occurrence.not_joins_iff.1 (hkept a b)
  refine ⟨?_, ?_, ?_⟩
  · exact ((expand_eq_append reused _ _ (apart _ "%\x7bA:f\x7d)")).2.1 _ hpaused).2.2.2.1 _ hfield
  · exact ((expand_eq_append reused _ _ (apart _ "%\x7bLOOP\x7d)")).2.1 _ hpaused).2.2.1 _ hloop
  · exact ((expand_eq_append reused _ _ (apart _ "%\x7bLOOP\x7d)")).1 _ hnone).2

end Compiler

end Grok
