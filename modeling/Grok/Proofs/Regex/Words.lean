import Grok.Proofs.Regex.Rest

namespace Grok.Regex

/-!
# The names that an expression refers to

An expression refers to a group by its name in a call, in a back-reference and in a condition.
Nothing else that is read depends on the names that groups have been given.

* `RefersTo` — a reference to a name stands in a text.
* `Name.prefix_of_reference`, `Name.prefix_of_callee` — a name that is read stands at the head.
* `Token.next_congr` — the next token is the same whatever the groups are called that the text does
  not refer to.
* `Token.refersTo_of_next`, `Token.length_next_lt` — a call by name is a reference in the text, and
  every token takes something.
-/

/-- What opens a reference to a group by its name: a back-reference, a call, or a condition. -/
def referenceHeads : List (List Char) :=
  [['\\', 'k', '<'], ['\\', 'k', '\''], ['\\', 'g', '<'], ['\\', 'g', '\''], ['?', '(', '<'],
    ['?', '(', '\'']]

/-- What ends the name in a reference: what closes it, or the sign of a level. -/
def referenceEnds : List Char := ['>', '\'', '+', '-']

/-- A reference to the name stands in the text. -/
def RefersTo (text w : List Char) : Prop :=
  ∃ head ∈ referenceHeads, ∃ d ∈ referenceEnds, head ++ w ++ [d] <:+: text

instance (text w : List Char) : Decidable (RefersTo text w) :=
  decidable_of_iff (referenceHeads.any fun head => referenceEnds.any fun d =>
    decide (head ++ w ++ [d] <:+: text)) (by simp [RefersTo])

variable {cs text w : List Char}

/-- What an end of a text refers to, the text refers to. -/
theorem RefersTo.of_suffix (h : RefersTo cs w) (hcs : cs <:+ text) : RefersTo text w := by
  obtain ⟨head, hhead, d, hd, hinfix⟩ := h
  exact ⟨head, hhead, d, hd, hinfix.trans hcs.isInfix⟩

/-- A word with a mark in front and an end behind it is referred to. -/
theorem RefersTo.of_head {head : List Char} {d : Char} (hhead : head ∈ referenceHeads)
    (hd : d ∈ referenceEnds) (h : w ++ [d] <+: cs) : RefersTo (head ++ cs) w := by
  refine ⟨head, hhead, d, hd, ?_⟩
  rw [List.append_assoc]
  exact ((List.prefix_append_right_inj head).2 h).isInfix

/-! ### Reading names -/

namespace Name

variable {close : Char}

/-- The character that closes a name ends a reference. -/
theorem closing_mem {o : Char} (h : o = '<' ∨ o = '\'') : closing o ∈ referenceEnds := by
  rcases h with rfl | rfl <;> decide

/-- A number is no word. -/
theorem number_ne_word {written digits : List Char} {c : Char} :
    number written c digits ≠ .ok (.word w) := by
  unfold number
  grind

/-- Behind a name comes the end of the reference or a level. -/
theorem mem_of_level? {name all : List Char} {a : Option Int × List Char}
    (h : reference.level? close name all cs = .ok a) :
    ∃ d rest, cs = d :: rest ∧ (d = close ∨ d ≠ ')') := by
  unfold reference.level? at h
  grind

/-- A run of characters ends in front of the first one that does not belong to it. -/
theorem append_prefix_of_dropWhile {p : Char → Bool} {d : Char} {rest : List Char}
    (h : cs.dropWhile p = d :: rest) : p d = false ∧ cs.takeWhile p ++ [d] <+: cs := by
  have hcs : cs.takeWhile p ++ d :: rest = cs := by
    rw [← h]
    exact List.takeWhile_append_dropWhile
  refine ⟨?_, rest, by simpa using hcs⟩
  have hhead := List.head?_dropWhile_not p cs
  simpa [h] using hhead

/-- The name in a reference stands at the head of it, in front of what ends it. -/
theorem prefix_of_reference {level : Option Int} {written rest : List Char}
    (h : reference close cs = .ok (.word w, level, written, rest)) :
    ∃ d, (d = close ∨ d = '+' ∨ d = '-') ∧ w ++ [d] <+: cs := by
  unfold reference at h
  split at h
  · cases h
  · rename_i c cs
    simp only at h
    split at h
    · cases h
    · split at h
      · cases h
      · split at h
        · cases h
        · obtain ⟨⟨level', rest'⟩, hlevel, h⟩ := bind_eq_ok_iff.1 h
          split at h
          · obtain ⟨name, hname, h⟩ := bind_eq_ok_iff.1 h
            obtain ⟨rfl, -⟩ := Prod.mk.inj (Except.ok.inj h)
            -- A number, which is no word.
            exact absurd hname number_ne_word
          · obtain ⟨name, hname, h⟩ := bind_eq_ok_iff.1 h
            obtain ⟨rfl, -⟩ := Prod.mk.inj (Except.ok.inj h)
            -- A word, with a level or the closing character behind it.
            obtain rfl := Name.word.inj (Except.ok.inj hname)
            obtain ⟨d, tail, htail, hd⟩ := mem_of_level? hlevel
            obtain ⟨hstop, hprefix⟩ := append_prefix_of_dropWhile htail
            refine ⟨d, ?_, (List.prefix_append_right_inj [c]).2 hprefix⟩
            grind

/-- What starts like a number is no name. -/
theorem ne_word_of_startsNumber {c : Char} {name : Name} {level : Option Int}
    {written rest : List Char} (hc : startsNumber c = true)
    (h : reference close (c :: cs) = .ok (name, level, written, rest)) (w : List Char) :
    name ≠ .word w := by
  rintro rfl
  unfold reference at h
  grind [bind_eq_ok_iff, number_ne_word]

/-- A name is closed by the character that it asks for. -/
theorem eq_of_closed {c : Char} {part rest : List Char} {a : List Char}
    (h : closed close c part cs = .ok (a, rest)) : a = c :: part ∧ cs = close :: rest := by
  unfold closed at h
  grind

/-- So does the name in a call. -/
theorem prefix_of_callee {written rest : List Char}
    (h : callee close cs = .ok (.word w, written, rest)) : w ++ [close] <+: cs := by
  unfold callee at h
  split at h
  · cases h
  · rename_i c cs
    simp only at h
    split at h
    · cases h
    · split at h
      · obtain ⟨⟨written', rest'⟩, hclosed, h⟩ := bind_eq_ok_iff.1 h
        split at h
        · obtain ⟨name, hname, h⟩ := bind_eq_ok_iff.1 h
          obtain ⟨rfl, -⟩ := Prod.mk.inj (Except.ok.inj h)
          -- A number, which is no word.
          exact absurd hname number_ne_word
        · obtain ⟨name, hname, h⟩ := bind_eq_ok_iff.1 h
          obtain ⟨rfl, -⟩ := Prod.mk.inj (Except.ok.inj h)
          obtain rfl := Name.word.inj (Except.ok.inj hname)
          obtain ⟨rfl, htail⟩ := eq_of_closed hclosed
          obtain ⟨-, hprefix⟩ := append_prefix_of_dropWhile htail
          exact (List.prefix_append_right_inj [c]).2 hprefix
      · cases h

end Name

/-! ### Reading tokens -/

namespace Token

variable {modes : Modes} {groups : Nat} {names names' : GroupNames}

/-- The groups that a reference means depend on the groups of its name. -/
theorem resolve_congr {name : Name} {level : Option Int}
    (h : ∀ w, name = .word w → names'.groups w = names.groups w) :
    resolve groups names' name level = resolve groups names name level := by
  cases name with
  | word w => rw [resolve, resolve, h w rfl]
  | absolute n => rfl
  | relative n => rfl

/-- The groups that a reference means depend on the groups of a name that the text refers to. -/
theorem resolve_of_reference (groups : Nat) {head : List Char} {close : Char}
    (hhead : head ∈ referenceHeads)
    (hclose : close ∈ referenceEnds)
    (h : ∀ w, RefersTo (head ++ cs) w → names'.groups w = names.groups w) {name : Name}
    {level : Option Int} {written rest : List Char}
    (hname : Name.reference close cs = .ok (name, level, written, rest)) :
    resolve groups names' name level = resolve groups names name level := by
  refine resolve_congr ?_
  rintro w rfl
  obtain ⟨d, hd, hprefix⟩ := Name.prefix_of_reference hname
  refine h w (.of_head hhead ?_ hprefix)
  rcases hd with rfl | rfl | rfl
  · exact hclose
  · decide
  · decide

/-- An escape depends on the names that the text refers to only. -/
theorem escaped_congr (h : ∀ w, RefersTo ('\\' :: cs) w → names'.groups w = names.groups w) :
    escaped groups names' cs = escaped groups names cs := by
  cases cs with
  | nil => rfl
  | cons c rest =>
    unfold escaped
    simp only
    split
    case h_12 o inner =>
      split
      · rename_i ho
        have hhead : ['\\', 'k', o] ∈ referenceHeads := by rcases ho with rfl | rfl <;> decide
        cases hname : Name.reference (Name.closing o) inner with
        | error e => rfl
        | ok a =>
          have hresolve := resolve_of_reference groups hhead (Name.closing_mem ho) h hname
          simp only [bind, Except.bind, hresolve]
      · rfl
    -- No other escape looks at the names.
    all_goals rfl

/-- **The next token** is the same whatever the groups are called that the text does not refer to,
    and however many blanks may be skipped, if they are enough. -/
theorem next_congr {skips skips' : Nat} (hskips : cs.length < skips) (hskips' : cs.length < skips')
    (h : ∀ w, RefersTo cs w → names'.groups w = names.groups w) :
    next modes groups names' skips' cs = next modes groups names skips cs := by
  induction skips generalizing skips' cs with
  | zero => exact absurd hskips (Nat.not_lt_zero _)
  | succ skips ih =>
    obtain ⟨skips', rfl⟩ := Nat.exists_eq_add_one_of_ne_zero (Nat.ne_zero_of_lt hskips')
    have hbehind : ∀ {c : Char} {tail rest : List Char}, cs = c :: tail → rest <:+ tail →
        next modes groups names' skips' rest = next modes groups names skips rest := by
      rintro c tail rest rfl hrest
      have hle := hrest.length_le
      rw [List.length_cons] at hskips hskips'
      exact ih (by omega) (by omega) fun w hw => h w (hw.of_suffix (suffix_of_tail hrest))
    unfold next
    split
    case h_2 rest => exact escaped_congr h
    case h_9 rest =>
      cases hcomment : afterComment rest with
      | error e => rfl
      | ok rest' => exact hbehind rfl (by grind)
    case h_15 c rest =>
      split
      · exact hbehind rfl (by grind)
      · split
        · exact hbehind rfl List.suffix_rfl
        · rfl
    -- No other token looks at the names, and nothing is skipped in front of it.
    all_goals rfl

/-- A number is not read as a call. -/
theorem fst_ofNumeric_ne_call (letter : Char) (a : Escape.Numeric × List Char) (c : Callee) :
    (ofNumeric letter a).1 ≠ call c := by
  unfold ofNumeric
  split <;> simp

/-- A name that a call runs a group by is the one that has been read. -/
theorem eq_word_of_callee {name : Name} {written : List Char}
    (h : callee groups name written = .ok (.name w)) : name = .word w := by
  unfold callee at h
  grind

/-- An escape that calls a group by a name refers to it. -/
theorem refersTo_of_escaped {rest : List Char}
    (h : escaped groups names cs = .ok (call (.name w), rest)) : RefersTo ('\\' :: cs) w := by
  unfold escaped at h
  split at h
  · cases h
  · split at h
    -- Of all escapes only `\g` calls a group.
    case h_13 o inner =>
      split at h
      · rename_i ho
        obtain ⟨⟨name, written, rest'⟩, hname, h⟩ := bind_eq_ok_iff.1 h
        obtain ⟨c, hc, h⟩ := bind_eq_ok_iff.1 h
        simp only [Except.ok.injEq, Prod.mk.injEq, call.injEq] at h
        obtain ⟨rfl, -⟩ := h
        obtain rfl := eq_word_of_callee hc
        have hhead : ['\\', 'g', o] ∈ referenceHeads := by rcases ho with rfl | rfl <;> decide
        exact .of_head hhead (Name.closing_mem ho) (Name.prefix_of_callee hname)
      · cases h
    all_goals grind [bind_eq_ok_iff, map_eq_ok_iff, fst_ofNumeric_ne_call]

/-- Nor is a quantifier. -/
theorem fst_suffix_ne_call (q : Quantifier) (plus : Bool) (cs : List Char) (c : Callee) :
    (suffix q plus cs).1 ≠ call c := by
  unfold suffix
  grind

/-- Nor is an interval. -/
theorem interval_ne_call {c : Callee} {rest : List Char} :
    interval cs ≠ .ok (some (call c, rest)) := by
  intro h
  unfold interval at h
  obtain ⟨⟨low, rest⟩, hlow, h⟩ := bind_eq_ok_iff.1 h
  simp only at h
  split at h
  · obtain ⟨⟨high, rest⟩, hhigh, h⟩ := bind_eq_ok_iff.1 h
    grind [fst_suffix_ne_call]
  · cases h
  · cases h

/-- A call runs a group by its number, or by a name that the text refers to. -/
theorem refersTo_of_next {skips : Nat} {rest : List Char}
    (h : next modes groups names skips cs = .ok (call (.name w), rest)) : RefersTo cs w := by
  fun_induction next modes groups names skips cs
  case case3 => exact refersTo_of_escaped h
  case case8 =>
    obtain ⟨o, ho, h⟩ := map_eq_ok_iff.1 h
    cases o with
    | none => cases h
    | some a =>
      obtain rfl : a = _ := h
      exact absurd ho interval_ne_call
  case case10 ih =>
    obtain ⟨rest', hrest', h⟩ := bind_eq_ok_iff.1 h
    exact (ih rest' h).of_suffix (by grind)
  case case16 ih => exact (ih h).of_suffix (by grind)
  case case17 ih => exact (ih h).of_suffix (by grind)
  all_goals grind [fst_suffix_ne_call]

/-- Every token but the end takes something. -/
theorem length_next_lt {skips : Nat} {a : Token × List Char}
    (h : next modes groups names skips cs = .ok a) (ha : a.1 ≠ stop) :
    a.2.length < cs.length := by
  have hbehind : ∀ {c : Char} {tail : List Char}, a.2 <:+ tail → a.2.length < (c :: tail).length :=
    fun hsuffix => Nat.lt_succ_of_le hsuffix.length_le
  cases skips with
  | zero =>
    rw [next] at h
    grind
  | succ skips =>
    unfold next at h
    split at h
    · grind
    all_goals
      refine hbehind ?_
      grind [bind_eq_ok_iff, map_eq_ok_iff, interval_getD_suffix]

end Token

end Grok.Regex
