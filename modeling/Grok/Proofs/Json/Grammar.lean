import Grok.Json.Reader
import Grok.Proofs.Text.Numeral

namespace Grok.Json

/-!
# The grammar of flat objects

The JSON texts of objects whose members are strings, integers or booleans, as relations between
what is written and what it stands for. This is the grammar of JSON without blanks, and without
escapes for characters beyond `U+FFFF`.

* `Json.WritesObject` — a text is an object with these members.
* `Json.not_control_of_writesObject` — there are no control characters in such a text.
* `Json.readObject_of_writes` — it is read as the object that it was written for, so it stands for
  no other (`Json.eq_of_writesObject`).
* `Json.writesObject_objectText` — what is written for an object is such a text.
-/

/-! ### Strings -/

/-- The letters that stand for a character behind a backslash. -/
def letterEscapes : List (Char × Char) :=
  [('"', '"'), ('\\', '\\'), ('/', '/'), ('b', '\x08'), ('f', '\x0c'), ('n', '\n'), ('r', '\r'),
    ('t', '\t')]

/-- A hexadecimal digit, in either letter case, and its value. -/
def HexDigit (n : Nat) (c : Char) : Prop :=
  "0123456789abcdef".toList[n]? = some c ∨ "0123456789ABCDEF".toList[n]? = some c

/-- What follows a backslash: a letter, or `u` and the number of the character. -/
inductive WritesEscape : Char → List Char → Prop where
  | letter {l x : Char} (h : (l, x) ∈ letterEscapes) : WritesEscape x [l]
  | code {x p q r s : Char} {a b c d : Nat} (hp : HexDigit a p) (hq : HexDigit b q)
      (hr : HexDigit c r) (hs : HexDigit d s) (hx : x.toNat = ((a * 16 + b) * 16 + c) * 16 + d) :
    WritesEscape x ['u', p, q, r, s]

/-- A character of a string: itself, unless it is a control character, a quote or a backslash, or
    an escape. -/
inductive WritesChar : Char → List Char → Prop where
  | plain {x : Char} (hcontrol : 32 ≤ x.toNat) (hquote : x ≠ '"') (hbackslash : x ≠ '\\') :
    WritesChar x [x]
  | escaped {x : Char} {cs : List Char} (h : WritesEscape x cs) : WritesChar x ('\\' :: cs)

/-- The characters of a string. -/
inductive WritesChars : List Char → List Char → Prop where
  | nil : WritesChars [] []
  | cons {x : Char} {xs cs ds : List Char} (hx : WritesChar x cs) (hxs : WritesChars xs ds) :
    WritesChars (x :: xs) (cs ++ ds)

/-- A string between quotes. -/
inductive WritesString : String → List Char → Prop where
  | quoted {s : String} {cs : List Char} (h : WritesChars s.toList cs) :
    WritesString s ('"' :: (cs ++ ['"']))

/-! ### Objects -/

/-- Digits, with no zero in front of others. -/
structure Numeral (ds : List Char) : Prop where
  ne_nil : ds ≠ []
  isDigit : ∀ c ∈ ds, c.isDigit = true
  eq_zero : ds.head? = some '0' → ds = ['0']

/-- An integer: a numeral, with a minus sign if it is negative. -/
inductive WritesInteger : Int → List Char → Prop where
  | bare {ds : List Char} (h : Numeral ds) : WritesInteger (Nat.ofDigitChars 10 ds 0) ds
  | minus {ds : List Char} (h : Numeral ds) :
    WritesInteger (-(Nat.ofDigitChars 10 ds 0 : Int)) ('-' :: ds)

/-- A value: a boolean, an integer or a string. -/
inductive WritesScalar : Scalar → List Char → Prop where
  | true : WritesScalar (.boolean true) "true".toList
  | false : WritesScalar (.boolean false) "false".toList
  | integer {n : Int} {cs : List Char} (h : WritesInteger n cs) : WritesScalar (.integer n) cs
  | text {s : String} {cs : List Char} (h : WritesString s cs) : WritesScalar (.text s) cs

/-- A member: its name and its value. -/
inductive WritesMember : String × Scalar → List Char → Prop where
  | pair {name : String} {v : Scalar} {ns vs : List Char} (hname : WritesString name ns)
      (hvalue : WritesScalar v vs) : WritesMember (name, v) (ns ++ ':' :: vs)

/-- Members with commas between them. -/
inductive WritesMembers : Object → List Char → Prop where
  | one {m : String × Scalar} {cs : List Char} (h : WritesMember m cs) : WritesMembers [m] cs
  | more {m : String × Scalar} {o : Object} {cs ds : List Char} (hm : WritesMember m cs)
      (ho : WritesMembers o ds) : WritesMembers (m :: o) (cs ++ ',' :: ds)

/-- An object: its members between braces. -/
inductive WritesObject : Object → List Char → Prop where
  | empty : WritesObject [] ['{', '}']
  | members {o : Object} {cs : List Char} (h : WritesMembers o cs) :
    WritesObject o ('{' :: (cs ++ ['}']))

/-! ### No control characters -/

theorem HexDigit.lt {n : Nat} {c : Char} (h : HexDigit n c) : n < 16 := by
  rcases h with h | h <;> exact (List.getElem?_eq_some_iff.1 h).1

/-- The reader gives a digit the value it has, and no digit is a control character. -/
theorem HexDigit.value {n : Nat} {c : Char} (h : HexDigit n c) :
    hexValue? c = some n ∧ 32 ≤ c.toNat := by
  have hn := h.lt
  rcases h with h | h <;> interval_cases n <;> cases h <;> decide

/-- There are no control characters in an escape, whatever it stands for. -/
theorem not_control_of_writesEscape {x : Char} {cs : List Char} (h : WritesEscape x cs) :
    ∀ c ∈ cs, 32 ≤ c.toNat := by
  cases h with
  | @letter l x h =>
    have hletters : ∀ m ∈ letterEscapes, 32 ≤ m.1.toNat := by decide
    simpa using hletters _ h
  | code hp hq hr hs hx =>
    simp only [List.forall_mem_cons]
    exact ⟨by decide, hp.value.2, hq.value.2, hr.value.2, hs.value.2, by simp⟩

/-- Nor does a string. -/
theorem not_control_of_writesString {s : String} {cs : List Char} (h : WritesString s cs) :
    ∀ c ∈ cs, 32 ≤ c.toNat := by
  obtain ⟨h⟩ := h
  have hchars : ∀ {xs ds}, WritesChars xs ds → ∀ c ∈ ds, 32 ≤ c.toNat := by
    intro xs ds h
    induction h with
    | nil => simp
    | cons hx _ ih =>
      refine List.forall_mem_append.2 ⟨?_, ih⟩
      cases hx with
      | plain hcontrol => simpa using hcontrol
      | escaped h => exact List.forall_mem_cons.2 ⟨by decide, not_control_of_writesEscape h⟩
  simp only [List.forall_mem_cons, List.forall_mem_append]
  exact ⟨by decide, hchars h, by decide, by simp⟩

theorem le_toNat_of_isDigit {c : Char} (h : c.isDigit = true) : 48 ≤ c.toNat ∧ c.toNat ≤ 57 := by
  simp only [Char.isDigit, Bool.and_eq_true, decide_eq_true_eq] at h
  exact ⟨UInt32.le_iff_toNat_le.1 h.1, UInt32.le_iff_toNat_le.1 h.2⟩

/-- Nor does any other value. -/
theorem not_control_of_writesScalar {v : Scalar} {cs : List Char} (h : WritesScalar v cs) :
    ∀ c ∈ cs, 32 ≤ c.toNat := by
  cases h with
  | true => simp
  | false => simp
  | integer h =>
    have hdigits : ∀ {ds}, Numeral ds → ∀ c ∈ ds, 32 ≤ c.toNat := fun h c hc =>
      le_trans (by decide) (le_toNat_of_isDigit (h.isDigit c hc)).1
    cases h with
    | bare h => exact hdigits h
    | minus h => exact List.forall_mem_cons.2 ⟨by decide, hdigits h⟩
  | text h => exact not_control_of_writesString h

/-- **There are no control characters in the text of an object**, so no line ends in it. -/
theorem not_control_of_writesObject {o : Object} {cs : List Char} (h : WritesObject o cs) :
    ∀ c ∈ cs, 32 ≤ c.toNat := by
  have hmember : ∀ {m ds}, WritesMember m ds → ∀ c ∈ ds, 32 ≤ c.toNat := by
    rintro m ds ⟨hname, hvalue⟩
    simp only [List.forall_mem_cons, List.forall_mem_append]
    exact ⟨not_control_of_writesString hname, by decide, not_control_of_writesScalar hvalue⟩
  have hmembers : ∀ {o ds}, WritesMembers o ds → ∀ c ∈ ds, 32 ≤ c.toNat := by
    intro o ds h
    induction h with
    | one h => exact hmember h
    | more hm _ ih =>
      simp only [List.forall_mem_cons, List.forall_mem_append]
      exact ⟨hmember hm, by decide, ih⟩
  -- Between members there are commas, and braces around them.
  cases h with
  | empty => simp
  | members h =>
    simp only [List.forall_mem_cons, List.forall_mem_append]
    exact ⟨by decide, hmembers h, by decide, by simp⟩

/-! ### Reading -/

/-- An escape is read as the character that it stands for. -/
theorem readEscape_append {x : Char} {cs : List Char} (h : WritesEscape x cs) (rest : List Char) :
    readEscape (cs ++ rest) = some (x, rest) := by
  cases h with
  | @letter l x h =>
    have hletters : ∀ m ∈ letterEscapes, m.1 ≠ 'u' ∧ unescape? m.1 = some m.2 := by decide
    obtain ⟨hu, hx⟩ := hletters _ h
    simp [readEscape, hu, hx]
  | code hp hq hr hs hx =>
    simp [readEscape, hp.value.1, hq.value.1, hr.value.1, hs.value.1, ← hx]

/-- **A string is read up to its closing quote.** The fuel is the length of what is left. -/
theorem readQuoted_append {xs cs : List Char} (h : WritesChars xs cs) {fuel : Nat}
    (hfuel : cs.length < fuel) (rest : List Char) :
    readQuoted fuel (cs ++ '"' :: rest) = some (xs, rest) := by
  -- A character takes one from the fuel, and at least one from the text.
  induction h generalizing fuel with
  | nil =>
    obtain ⟨fuel, rfl⟩ := Nat.exists_eq_succ_of_ne_zero (Nat.ne_zero_of_lt hfuel)
    simp [readQuoted]
  | @cons x xs cs ds hx hxs ih =>
    obtain ⟨fuel, rfl⟩ := Nat.exists_eq_succ_of_ne_zero (Nat.ne_zero_of_lt hfuel)
    cases hx with
    | plain hcontrol hquote hbackslash =>
      have htail := @ih fuel (by simpa using hfuel)
      simp [readQuoted, hquote, hbackslash, Nat.not_lt.2 hcontrol, htail]
    | escaped h =>
      have htail := @ih fuel (by simp at hfuel; omega)
      simp [readQuoted, readEscape_append h, htail]

/-- A string is read with both of its quotes. -/
theorem readString_append {s : String} {cs : List Char} (h : WritesString s cs)
    (rest : List Char) : readString (cs ++ rest) = some (s, rest) := by
  obtain ⟨h⟩ := h
  rename_i cs
  have hfuel : cs.length < (cs ++ '"' :: rest).length + 1 := by
    rw [List.length_append]
    omega
  have hread := readQuoted_append h hfuel rest
  rw [List.cons_append, List.append_assoc, List.singleton_append, readString, hread]
  simp only [Option.map_some, String.ofList_toList]

/-- A numeral is read as its number. -/
theorem ofLiteral?_of_writes {n : Int} {cs : List Char} (h : WritesInteger n cs) :
    Integer.ofLiteral? cs = some n := by
  have hdigits : ∀ {ds}, Numeral ds →
      Integer.ofDigits? ds = some (Nat.ofDigitChars 10 ds 0) := by
    intro ds h
    have hall : ds.all Char.isDigit = true := List.all_eq_true.2 h.isDigit
    rw [Integer.ofDigits?, if_pos ⟨h.ne_nil, hall⟩, Digits.value_eq_ofDigitChars]
  cases h with
  | bare h =>
    obtain ⟨d, ds, rfl⟩ := List.exists_cons_of_ne_nil h.ne_nil
    have hd : d.isDigit = true := h.isDigit d List.mem_cons_self
    have hminus : d ≠ '-' := Digits.ne_of_isDigit hd rfl
    have hplus : d ≠ '+' := Digits.ne_of_isDigit hd rfl
    simp [Integer.ofLiteral?, hminus, hplus, hdigits h]
  | minus h => simp [Integer.ofLiteral?, hdigits h]

/-- An integer is a word: digits, perhaps behind a minus sign. -/
theorem word_of_writesInteger {n : Int} {cs : List Char} (h : WritesInteger n cs) :
    cs ≠ [] ∧ ∀ c ∈ cs, c = '-' ∨ c.isDigit = true := by
  cases h with
  | bare h => exact ⟨h.ne_nil, fun c hc => .inr (h.isDigit c hc)⟩
  | minus h =>
    exact ⟨List.cons_ne_nil _ _,
      List.forall_mem_cons.2 ⟨.inl rfl, fun c hc => .inr (h.isDigit c hc)⟩⟩

/-- What is written for a boolean or an integer is read as a word: it does not start as a string
    does, and has neither a comma nor a brace in it. -/
theorem bareValue?_of_writes {v : Scalar} {cs : List Char} (h : WritesScalar v cs)
    (hv : ∀ s, v ≠ .text s) :
    bareValue? cs = some v ∧ (∀ c ∈ cs, isBare c = true) ∧ cs ≠ [] ∧ '"' ∉ cs := by
  cases h with
  | true => exact ⟨rfl, by simp [isBare], by decide, by decide⟩
  | false => exact ⟨rfl, by simp [isBare], by decide, by decide⟩
  | text => exact absurd rfl (hv _)
  | @integer n cs h =>
    obtain ⟨hne, hword⟩ := word_of_writesInteger h
    have hbare : ∀ c ∈ cs, isBare c = true := by
      intro c hc
      rcases hword c hc with rfl | hdigit
      · rfl
      · have hcomma : c ≠ ',' := Digits.ne_of_isDigit hdigit rfl
        have hbrace : c ≠ '}' := Digits.ne_of_isDigit hdigit rfl
        simp [isBare, hcomma, hbrace]
    -- None of the words that stand for other values is one of an integer.
    have hother : ∀ (x : Char) {word : List Char}, x ∈ word → x ≠ '-' → x.isDigit = false →
        cs ≠ word := by
      rintro x word hx hminus hdigit rfl
      rcases hword x hx with rfl | hx
      · exact hminus rfl
      · rw [hdigit] at hx
        cases hx
    have htrue : cs ≠ "true".toList := hother 'e' (by decide) (by decide) rfl
    have hfalse : cs ≠ "false".toList := hother 'e' (by decide) (by decide) rfl
    refine ⟨?_, hbare, hne, fun hmem => hother '"' hmem (by decide) rfl rfl⟩
    rw [bareValue?, if_neg htrue, if_neg hfalse, ofLiteral?_of_writes h]

/-- A value is read up to the comma or the brace behind it. -/
theorem readScalar_append {v : Scalar} {cs rest : List Char} {x : Char} (h : WritesScalar v cs)
    (hx : isBare x = false) : readScalar (cs ++ x :: rest) = some (v, x :: rest) := by
  -- A string has an end of its own; a word is told from what follows by the character behind it.
  by_cases hv : ∃ s, v = .text s
  · obtain ⟨s, rfl⟩ := hv
    cases h with
    | text h => rw [readScalar, readString_append h]
  · obtain ⟨hvalue, hbare, hne, hquote⟩ := bareValue?_of_writes h fun s hs => hv ⟨s, hs⟩
    have hstring : readString (cs ++ x :: rest) = none := by
      obtain ⟨c, cs, rfl⟩ := List.exists_cons_of_ne_nil hne
      have hc : c ≠ '"' := fun hc => hquote (hc ▸ List.mem_cons_self)
      rw [List.cons_append, readString]
      rintro cs hcs
      exact hc (List.cons.inj hcs).1
    have hword : (cs ++ x :: rest).takeWhile isBare = cs := by
      rw [List.takeWhile_append_of_pos hbare, List.takeWhile_cons_of_neg (by simp [hx]),
        List.append_nil]
    have hrest : (cs ++ x :: rest).dropWhile isBare = x :: rest := by
      rw [List.dropWhile_append_of_pos hbare, List.dropWhile_cons_of_neg (by simp [hx])]
    rw [readScalar, hstring]
    simp only [hword, hrest, hvalue, Option.map_some]

/-- A member is read in two steps, up to the comma or the brace behind it. -/
theorem readMember_append {m : String × Scalar} {cs : List Char} (h : WritesMember m cs) {x : Char}
    (hx : isBare x = false) (rest : List Char) :
    ∃ ds, readString (cs ++ x :: rest) = some (m.1, ':' :: ds) ∧
      readScalar ds = some (m.2, x :: rest) := by
  obtain ⟨hname, hvalue⟩ := h
  rename_i name v ns vs
  refine ⟨vs ++ x :: rest, ?_, readScalar_append hvalue hx⟩
  rw [List.append_assoc, List.cons_append, readString_append hname]

/-- **The members are read one after the other.** The fuel is the length of what is left. -/
theorem readMembers_append {o : Object} {cs : List Char} (h : WritesMembers o cs) {fuel : Nat}
    (hfuel : cs.length < fuel) : readMembers fuel (cs ++ ['}']) = some o := by
  induction h generalizing fuel with
  | one h =>
    obtain ⟨fuel, rfl⟩ := Nat.exists_eq_succ_of_ne_zero (Nat.ne_zero_of_lt hfuel)
    obtain ⟨ds, hname, hvalue⟩ := readMember_append h (x := '}') rfl []
    simp [readMembers, hname, hvalue]
  | @more m o cs ds hm ho ih =>
    obtain ⟨fuel, rfl⟩ := Nat.exists_eq_succ_of_ne_zero (Nat.ne_zero_of_lt hfuel)
    obtain ⟨es, hname, hvalue⟩ := readMember_append hm (x := ',') rfl (ds ++ ['}'])
    have htail : readMembers fuel (ds ++ ['}']) = some o := by
      rw [List.length_append, List.length_cons] at hfuel
      exact ih (by omega)
    rw [List.append_assoc, List.cons_append]
    simp [readMembers, hname, hvalue, htail]

/-- **A text is read as the object that it was written for.** -/
theorem readObject_of_writes {o : Object} {cs : List Char} (h : WritesObject o cs) :
    readObject cs = some o := by
  cases h with
  | empty => rfl
  | @members o cs h =>
    have hfuel : cs.length < (cs ++ ['}']).length + 1 := by
      rw [List.length_append]
      omega
    have hne : cs ≠ [] := by
      cases h with
      | one h =>
        obtain ⟨-, -⟩ := h
        simp
      | more => simp
    rw [readObject, readMembers_append h hfuel]
    exact fun hclose => hne (List.append_left_eq_self.1 hclose)

/-- So a text stands for one object only. -/
theorem eq_of_writesObject {o o' : Object} {cs : List Char} (h : WritesObject o cs)
    (h' : WritesObject o' cs) : o = o' :=
  Option.some_inj.1 ((readObject_of_writes h).symm.trans (readObject_of_writes h'))

/-! ### Writing -/

/-- The digit that is written is the one in small letters. -/
theorem hexDigit_hexDigit : ∀ n < 16, HexDigit n (hexDigit n) := by
  intro n hn
  interval_cases n <;> exact .inl rfl

/-- A character is escaped where it has to be. -/
theorem writesChar_escape (x : Char) : WritesChar x (escape x) := by
  have hletter : ∀ {l y : Char}, (l, y) ∈ letterEscapes → WritesChar y ['\\', l] :=
    fun h => .escaped (.letter h)
  unfold escape
  -- Seven characters have a letter of their own.
  iterate 7
    split
    · rename_i h
      subst h
      exact hletter (by decide)
  rename_i hquote hbackslash _ _ _ _ _
  split
  · rename_i hcontrol
    have hzero : HexDigit 0 '0' := .inl rfl
    exact .escaped <| .code hzero hzero (hexDigit_hexDigit _ (by omega))
      (hexDigit_hexDigit _ (by omega)) (by omega)
  · rename_i hcontrol
    exact .plain (by omega) hquote hbackslash

/-- What is written for a string is one, whatever characters it holds. -/
theorem writesString_quote (s : String) : WritesString s (quote s) := by
  refine .quoted ?_
  induction s.toList with
  | nil => exact .nil
  | cons x xs ih =>
    rw [List.flatMap_cons]
    exact .cons (writesChar_escape x) ih

/-- No zero is written in front of other digits. -/
theorem numeral_ofNat (n : Nat) : Numeral (Digits.ofNat n) where
  ne_nil := Digits.ofNat_ne_nil n
  isDigit := fun _ => Digits.isDigit_of_mem_ofNat
  eq_zero := by
    intro hhead
    rcases Digits.ofNat_cases n with hzero | ⟨d, ds, hds, hd⟩
    · exact hzero
    · rw [hds, List.head?_cons, Option.some_inj] at hhead
      exact absurd hhead hd

/-- What is written for an integer is its numeral. -/
theorem writesInteger_ofInt (n : Int) : WritesInteger n (Digits.ofInt n) := by
  have hvalue : Nat.ofDigitChars 10 (Digits.ofNat n.natAbs) 0 = n.natAbs := Digits.value_ofNat _
  unfold Digits.ofInt
  split
  · have h := WritesInteger.minus (numeral_ofNat n.natAbs)
    have hn : -(n.natAbs : Int) = n := by omega
    rwa [hvalue, hn] at h
  · have h := WritesInteger.bare (numeral_ofNat n.natAbs)
    have hn : (n.natAbs : Int) = n := by omega
    rwa [hvalue, hn] at h

/-- What is written for any other value than a real number follows the grammar, in every style. -/
theorem writesScalar_encode {v : Scalar} (h : ∀ x, v ≠ .real x) (style : Style) :
    WritesScalar v (v.encode style) := by
  cases v with
  | boolean b =>
    cases b with
    | true => exact .true
    | false => exact .false
  | integer n => exact .integer (writesInteger_ofInt n)
  | real x => exact absurd rfl (h x)
  | text s => exact .text (writesString_quote s)

/-- Members are written in their order, with a comma behind each but the last. -/
theorem writesMembers_membersText {style : Style} {m : String × Scalar} {o : Object}
    (h : ∀ k ∈ m :: o, WritesMember k (memberText style k)) :
    WritesMembers (m :: o) (membersText style (m :: o)) := by
  induction o generalizing m with
  | nil => exact .one (h m List.mem_cons_self)
  | cons n o ih =>
    exact .more (h m List.mem_cons_self) (ih fun k hk => h k (List.mem_cons_of_mem _ hk))

/-- **What is written for an object is an object**, with its members in the order of the style, if
    there are no real numbers in it. -/
theorem writesObject_objectText {o : Object} (h : ∀ m ∈ o, ∀ x, m.2 ≠ .real x) (style : Style) :
    WritesObject (style.order o) (objectText style o) := by
  have hmember : ∀ m ∈ style.order o, WritesMember m (memberText style m) := fun m hm =>
    .pair (writesString_quote m.1)
      (writesScalar_encode (h m ((style.order_perm o).mem_iff.1 hm)) style)
  unfold objectText
  cases horder : style.order o with
  | nil => exact .empty
  | cons m ms => exact .members (writesMembers_membersText (horder ▸ hmember))

end Grok.Json
