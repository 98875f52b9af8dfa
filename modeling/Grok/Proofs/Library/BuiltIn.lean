import Grok.Proofs.Expansion.Agreement
import Grok.Proofs.Library.Overriding

namespace Grok

/-!
# The built-in definitions are never at fault

Built-in definitions refer to built-in definitions only, and never in a circle. What is put on top
of them may break both, and then it takes part in what goes wrong.

* `Reference.callees` — the names behind the openings of references in a text, whether or not a
  reference follows; those of the references are among them.
* `BuiltIn.Row` — a definition reduced to its name and what it calls. `BuiltIn.peel` drops the rows
  that call none of those left; a ring of calls is never dropped.
* `BuiltIn.exists_of_mentions`, `BuiltIn.no_ring` — the built-in definitions are closed, and no
  definitions among them call each other in a circle.
* `Layers.overlay` — the definitions on top of the built-in ones.
* `Compiler.fault_of_overlay` — an expansion fails by an unknown name only where the expression or a
  definition on top refers to it, and by a cycle only where one runs through a definition on top.
-/

namespace Reference

/-- The name behind the opening of a reference, as far as it goes. -/
def callee? : List Char → Option (List Char)
  | '%' :: '\x7b' :: rest => some (rest.takeWhile Occurrence.isNameChar)
  | _ => none

/-- The names behind the openings of references in a text. -/
def callees (text : List Char) : List (List Char) := text.tails.filterMap callee?

/-- The name of an occurrence is read at its opening. -/
theorem callee?_of_split? {o : Occurrence} {cs rest : List Char}
    (h : Occurrence.split? cs = some (o, rest)) : callee? cs = some o.name.toList := by
  unfold Occurrence.split? at h
  split at h
  · simp only at h
    split at h
    · cases h
    · obtain ⟨rfl, -⟩ := Prod.mk.inj (Option.some.inj h)
      rw [callee?, String.toList_ofList]
    · cases h
  · cases h

/-- What a text refers to is among what it calls. -/
theorem mem_callees_of_mentions {text : List Char} {n : String} (h : Library.Mentions text n) :
    n.toList ∈ callees text := by
  obtain ⟨pos, o, ⟨hwell, rest, hrest⟩, rfl⟩ := h
  refine List.mem_filterMap.2
    ⟨text.drop pos, (List.mem_tails _ _).2 (List.drop_suffix pos text), ?_⟩
  rw [← hrest]
  exact callee?_of_split? (Occurrence.split?_text_append hwell rest)

end Reference

namespace BuiltIn

/-! ### Rings of calls -/

/-- The name of a definition and what its body calls. -/
structure Row where
  name : List Char
  calls : List (List Char)

/-- The row of a definition. -/
def Row.of (d : Definition) : Row := ⟨d.name.toList, Reference.callees d.body.toList⟩

/-- Is every name that is called the name of a row? -/
def closed (rows : List Row) : Bool :=
  rows.all fun r => r.calls.all fun name => rows.any fun r' => r'.name == name

/-- Drops the rows that call none of the rows. -/
def peel (rows : List Row) : List Row :=
  rows.filter fun r => r.calls.any fun name => rows.any fun r' => r'.name == name

/-- Every name of a set has a row that calls a name of the set. -/
def Ring (rows : List Row) (names : List Char → Prop) : Prop :=
  ∀ name, names name → ∃ r ∈ rows, r.name = name ∧ ∃ callee ∈ r.calls, names callee

variable {rows : List Row} {names : List Char → Prop}

/-- A ring is not broken by dropping rows: what each of its names calls still has a row. -/
theorem Ring.peel (h : Ring rows names) : Ring (peel rows) names := by
  intro name hname
  obtain ⟨r, hr, hrname, callee, hcallee, hnames⟩ := h name hname
  obtain ⟨r', hr', hname', -⟩ := h callee hnames
  refine ⟨r, List.mem_filter.2 ⟨hr, ?_⟩, hrname, callee, hcallee, hnames⟩
  simp only [List.any_eq_true, beq_iff_eq]
  exact ⟨callee, hcallee, r', hr', hname'⟩

/-- However many rows are taken off, a ring of references stays. -/
theorem Ring.iterate_peel (h : Ring rows names) (k : Nat) : Ring (BuiltIn.peel^[k] rows) names := by
  induction k generalizing rows with
  | zero => exact h
  | succ k ih => exact ih h.peel

/-! ### The table of the built-in definitions -/

theorem map_of_nil : [].map Row.of = [] := rfl

theorem map_of_cons {name body : List Char} {ds : List Definition} (h : ds.map Row.of = rows) :
    (⟨String.ofList name, String.ofList body⟩ :: ds).map Row.of =
      ⟨name, Reference.callees body⟩ :: rows := by
  rw [List.map_cons, h, Row.of, String.toList_ofList, String.toList_ofList]

/-- A table that is checked in place of the rows it is equal to. -/
theorem checked_of_eq {ds : List Definition} (h : ds.map Row.of = rows)
    (hclosed : closed rows = true) (hpeel : (peel^[7] rows).isEmpty = true) :
    closed (ds.map Row.of) = true ∧ peel^[7] (ds.map Row.of) = [] := by
  rw [h]
  exact ⟨hclosed, List.isEmpty_iff.1 hpeel⟩

set_option maxRecDepth 4000 in
/-- The built-in definitions are closed, and nothing is left of them after dropping what calls none
    of the rest seven times. -/
theorem checked : closed (definitions.map Row.of) = true ∧
    peel^[7] (definitions.map Row.of) = [] := by
  apply checked_of_eq
  · -- The table is read off the definitions one by one, in characters.
    unfold definitions groups
    simp only [List.flatMap_cons, List.flatMap_nil, general, cloudServices, loadBalancer, webServer,
      applicationServer, systemLog, relationalStore, keyValueStore, scriptLogger, proxy,
      List.cons_append, List.nil_append]
    repeat' first | exact map_of_nil | apply map_of_cons
  · decide +kernel
  · decide +kernel

/-- **Built-in definitions refer to built-in definitions.** -/
theorem exists_of_mentions {d : Definition} (hd : d ∈ definitions) {n : String}
    (h : Library.Mentions d.body.toList n) : ∃ e ∈ definitions, e.name = n := by
  have hclosed := checked.1
  simp only [closed, List.all_eq_true, List.any_eq_true, List.mem_map, beq_iff_eq] at hclosed
  obtain ⟨r, ⟨e, he, rfl⟩, hname⟩ :=
    hclosed (Row.of d) ⟨d, hd, rfl⟩ n.toList (Reference.mem_callees_of_mentions h)
  exact ⟨e, he, String.toList_inj.1 hname⟩

/-- **Built-in definitions do not refer to each other in a circle**: there are no names each of
    which has a built-in definition that refers to one of them. -/
theorem no_ring {names : String → Prop}
    (h : ∀ n, names n → ∃ d ∈ definitions, d.name = n ∧
      ∃ m, Library.Mentions d.body.toList m ∧ names m) (n : String) : ¬ names n := by
  intro hn
  have hring : Ring (definitions.map Row.of) fun name => names (String.ofList name) := by
    intro name hname
    obtain ⟨d, hd, hdname, m, hm, hnames⟩ := h _ hname
    refine ⟨Row.of d, List.mem_map_of_mem hd, ?_, m.toList,
      Reference.mem_callees_of_mentions hm, by simpa using hnames⟩
    rw [Row.of, hdname, String.toList_ofList]
  have hpeeled := hring.iterate_peel 7
  rw [checked.2] at hpeeled
  obtain ⟨r, hr, -⟩ := hpeeled n.toList (by simpa using hn)
  cases hr

end BuiltIn

namespace Layers

variable {fs : FileSystem} {l : Layers} {library : Library}

/-- The definitions on top of the built-in ones, in the order of loading. -/
def overlay (fs : FileSystem) (l : Layers) : List Definition :=
  l.directories.flatMap (directoryDefinitions fs) ++ l.definitions

/-- Every body comes from the overlay or from a built-in definition. -/
theorem mem_overlay_or_builtIn (h : (l.build fs).value = .ok library) {n body : String}
    (hbody : library.get? n = some body) :
    ⟨n, body⟩ ∈ l.overlay fs ∨ ⟨n, body⟩ ∈ BuiltIn.definitions := by
  rw [eq_insertAll_of_build h, Library.get?_insertAll, Library.get?_empty, Option.or_none] at hbody
  have hmem := Definition.mem_of_lastBody?_eq_some hbody
  rw [inOrder, List.append_assoc] at hmem
  rcases List.mem_append.1 hmem with hmem | hmem
  · split at hmem
    · exact Or.inr hmem
    · cases hmem
  · exact Or.inl hmem

/-- Over the built-in definitions every built-in name has a definition. -/
theorem isSome_get?_of_builtIn (h : (l.build fs).value = .ok library) (hbuiltIn : l.builtIn = true)
    {d : Definition} (hd : d ∈ BuiltIn.definitions) : (library.get? d.name).isSome := by
  rw [eq_insertAll_of_build h, Library.get?_insertAll, Library.get?_empty, Option.or_none,
    Option.isSome_iff_ne_none, Ne, Definition.lastBody?_eq_none_iff]
  intro hnone
  refine hnone d ?_ rfl
  rw [inOrder, hbuiltIn, if_pos rfl, List.append_assoc]
  exact List.mem_append_left _ hd

end Layers

namespace Compiler

open Relation (TransGen)

variable {fs : FileSystem} {l : Layers} {c : Compiler} {expression n : String}

/-- What an expansion complains about is reached; it has no definition, or it reaches itself. -/
theorem exists_name_of_expand_error {e : Error} (h : (c.expand expression).value = .error e) :
    ∃ n, c.library.Reaches expression.toList n ∧
      (e = .unknownPattern n ∧ c.library.get? n = none ∨
        e = .cyclicPattern n ∧ (c.library.get? n).isSome ∧
          TransGen c.library.Refers n n) := by
  rw [value_expand, Expansion.map_eq_error_iff] at h
  exact (((Library.outcome_expand_iff c.library c.fieldsOnly expression).2 e).1 h).exists_name

/-- An unknown name stands in the expression or in a definition of the overlay. -/
theorem mentions_of_unknownPattern (hbuild : (l.build fs).value = .ok c.library)
    (hbuiltIn : l.builtIn = true) (h : (c.expand expression).value = .error (.unknownPattern n)) :
    Library.Mentions expression.toList n ∨
      ∃ d ∈ l.overlay fs, c.library.get? d.name = some d.body ∧
        Library.Mentions d.body.toList n := by
  obtain ⟨m, ⟨first, hfirst, hpath⟩, ⟨heq, hnone⟩ | ⟨heq, -⟩⟩ := exists_name_of_expand_error h
  · obtain rfl := Error.unknownPattern.inj heq
    -- The last step to the name leads out of a definition, which cannot be a built-in one.
    rcases hpath.cases_tail with rfl | ⟨k, -, body, hbody, hmentions⟩
    · exact Or.inl hfirst
    · rcases Layers.mem_overlay_or_builtIn hbuild hbody with hmem | hmem
      · exact Or.inr ⟨_, hmem, hbody, hmentions⟩
      · obtain ⟨e, he, rfl⟩ := BuiltIn.exists_of_mentions hmem hmentions
        have hsome := Layers.isSome_get?_of_builtIn hbuild hbuiltIn he
        rw [hnone] at hsome
        cases hsome
  · cases heq

/-- A cycle runs through a definition of the overlay. -/
theorem exists_overlay_of_cycle (hbuild : (l.build fs).value = .ok c.library)
    (hcycle : TransGen c.library.Refers n n) :
    ∃ d ∈ l.overlay fs, c.library.get? d.name = some d.body ∧
      TransGen c.library.Refers n d.name ∧ TransGen c.library.Refers d.name n := by
  by_contra hnone
  -- Otherwise the names on the cycle have built-in definitions that refer to each other.
  refine @BuiltIn.no_ring (fun m => TransGen c.library.Refers n m ∧ TransGen c.library.Refers m n)
    ?_ n ⟨hcycle, hcycle⟩
  rintro m ⟨hto, hback⟩
  obtain ⟨k, hrefers, hrest⟩ := TransGen.head'_iff.1 hback
  obtain ⟨body, hbody, hmentions⟩ := id hrefers
  rcases Layers.mem_overlay_or_builtIn hbuild hbody with hmem | hmem
  · exact absurd ⟨_, hmem, hbody, hto, hback⟩ hnone
  · exact ⟨_, hmem, rfl, k, hmentions, hto.tail hrefers, TransGen.trans_right hrest hcycle⟩

/-- A name that an expansion calls cyclic lies on a cycle through a definition of the overlay. -/
theorem exists_overlay_of_cyclicPattern (hbuild : (l.build fs).value = .ok c.library)
    (h : (c.expand expression).value = .error (.cyclicPattern n)) :
    ∃ d ∈ l.overlay fs, c.library.get? d.name = some d.body ∧
      TransGen c.library.Refers n d.name ∧ TransGen c.library.Refers d.name n := by
  obtain ⟨m, -, ⟨heq, -⟩ | ⟨heq, -, hcycle⟩⟩ := exists_name_of_expand_error h
  · cases heq
  · obtain rfl := Error.cyclicPattern.inj heq
    exact exists_overlay_of_cycle hbuild hcycle

/-- **The built-in definitions are never at fault.** Whatever is put on top of them, an expansion
    that fails with an unknown name fails at one that the expression refers to, or a definition on
    top; an expansion that fails with a cycle fails at a name on a cycle that runs through a
    definition on top. With nothing on top there are no cycles at all, and the only unknown names
    are those in the expression. -/
theorem fault_of_overlay (c : Compiler) (fs : FileSystem) (l : Layers)
    (hbuild : (l.build fs).value = .ok c.library) (hbuiltIn : l.builtIn = true)
    (expression n : String) :
    ((c.expand expression).value = .error (.unknownPattern n) →
      Library.Mentions expression.toList n ∨
        ∃ d ∈ l.overlay fs, c.library.get? d.name = some d.body ∧
          Library.Mentions d.body.toList n) ∧
    ((c.expand expression).value = .error (.cyclicPattern n) →
      ∃ d ∈ l.overlay fs, c.library.get? d.name = some d.body ∧
        TransGen c.library.Refers n d.name ∧ TransGen c.library.Refers d.name n) ∧
    (l.directories = [] → l.definitions = [] →
      (c.expand expression).value ≠ .error (.cyclicPattern n) ∧
      ((c.expand expression).value = .error (.unknownPattern n) →
        Library.Mentions expression.toList n)) := by
  refine ⟨mentions_of_unknownPattern hbuild hbuiltIn, exists_overlay_of_cyclicPattern hbuild, ?_⟩
  -- With nothing on top, no definition on top can be at fault.
  intro hdirectories hdefinitions
  have hempty : ∀ d, d ∉ l.overlay fs := by simp [Layers.overlay, hdirectories, hdefinitions]
  constructor
  · intro h
    obtain ⟨d, hd, -⟩ := exists_overlay_of_cyclicPattern hbuild h
    exact hempty d hd
  · intro h
    rcases mentions_of_unknownPattern hbuild hbuiltIn h with hmentions | ⟨d, hd, -⟩
    · exact hmentions
    · exact absurd hd (hempty d)

/-- A definition that closes a circle in the middle of built-in ones, and a broken one. -/
def overlaid : Layers where
  definitions := [⟨"USERNAME", "%\x7bUSER\x7d"⟩, ⟨"BROKEN", "%\x7bNONE\x7d"⟩]

/-- The same definitions, with only the built-in one that they refer to. -/
def circle : Library :=
  Library.empty.insertAll (⟨"USER", "%\x7bUSERNAME\x7d"⟩ :: overlaid.definitions)

/-- A compiler over the layers. -/
def overlaidCompiler : Compiler :=
  { rings with library := Library.empty.insertAll (overlaid.inOrder ⟨fun _ => .error .notFound⟩) }

/-- The small library says what the large one says about the names that can be reached. -/
theorem agreeFrom_circle {text : List Char}
    (htext : ∀ m ∈ (Piece.occurrences (Piece.scan text)).map (·.name),
      m ∈ ["USER", "USERNAME", "BROKEN", "NONE"]) :
    circle.AgreeFrom overlaidCompiler.library text := by
  intro n hn
  have hmem : n ∈ ["USER", "USERNAME", "BROKEN", "NONE"] :=
    hn.mem_of_closed htext (by decide +kernel)
  have hagree : ∀ n ∈ ["USER", "USERNAME", "BROKEN", "NONE"],
      Definition.lastBody? (overlaid.inOrder ⟨fun _ => .error .notFound⟩) n = circle.get? n := by
    decide +kernel
  rw [overlaidCompiler, Library.get?_insertAll, Library.get?_empty, Option.or_none, hagree n hmem]

/-- The circle runs through the new body of `USERNAME`, and the unknown name stands in `BROKEN`. -/
theorem fault_of_overlay_circle :
    (overlaidCompiler.expand "%\x7bUSER\x7d").value = .error (.cyclicPattern "USER") ∧
    (∃ d ∈ overlaid.definitions, TransGen overlaidCompiler.library.Refers "USER" d.name ∧
      TransGen overlaidCompiler.library.Refers d.name "USER") ∧
    (overlaidCompiler.expand "%\x7bBROKEN\x7d").value = .error (.unknownPattern "NONE") ∧
    (Library.Mentions "%\x7bBROKEN\x7d".toList "NONE" ∨
      ∃ d ∈ overlaid.definitions, Library.Mentions d.body.toList "NONE") := by
  have hbuild : (overlaid.build ⟨fun _ => .error .notFound⟩).value =
      .ok overlaidCompiler.library := rfl
  -- Only what is reached from the expression counts, and that is a small library.
  have hcyclic : (overlaidCompiler.expand "%\x7bUSER\x7d").value =
      .error (.cyclicPattern "USER") := by
    rw [value_expand, Library.expand_eq_of_agreeFrom (agreeFrom_circle (by decide +kernel))]
    decide +kernel
  have hunknown : (overlaidCompiler.expand "%\x7bBROKEN\x7d").value =
      .error (.unknownPattern "NONE") := by
    rw [value_expand, Library.expand_eq_of_agreeFrom (agreeFrom_circle (by decide +kernel))]
    decide +kernel
  obtain ⟨-, hcycle, -⟩ := fault_of_overlay overlaidCompiler _ overlaid hbuild rfl
    "%\x7bUSER\x7d" "USER"
  obtain ⟨hmentions, -, -⟩ := fault_of_overlay overlaidCompiler _ overlaid hbuild rfl
    "%\x7bBROKEN\x7d" "NONE"
  obtain ⟨d, hd, -, hring⟩ := hcycle hcyclic
  refine ⟨hcyclic, ⟨d, hd, hring⟩, hunknown, ?_⟩
  rcases hmentions hunknown with h | ⟨d, hd, -, h⟩
  · exact Or.inl h
  · exact Or.inr ⟨d, hd, h⟩

end Compiler

end Grok
