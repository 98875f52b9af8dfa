import Grok.Text.Utf8
import Mathlib.Data.List.Basic

namespace Grok.Utf8

/-!
# Slices of a text at byte offsets

Offsets count bytes, a text is a list of characters.

* `Utf8.length_encode` — the bytes of a text are as many as the widths of its characters add up to.
* `Utf8.Between` — a part of a text lies between two byte offsets; `Utf8.OnBoundary` — an offset
  falls between two characters.
* `Utf8.slice?_eq_some_iff` — a slice is the part between its offsets.
* `Utf8.exists_between_iff` — there is such a part just where the offsets are in order and both on
  boundaries, and then there is one only (`Utf8.Between.unique`).
-/

/-- In the text, `part` starts at byte `start` and ends at byte `stop`. -/
def Between (text : List Char) (start stop : Nat) (part : List Char) : Prop :=
  ∃ before after, text = before ++ part ++ after ∧ (encode before).length = start ∧
    (encode (before ++ part)).length = stop

/-- A character of the text starts at byte `n`, or the text ends there. -/
def OnBoundary (text : List Char) (n : Nat) : Prop :=
  ∃ before after, text = before ++ after ∧ (encode before).length = n

/-! ### Lengths in bytes -/

theorem width_pos (c : Char) : 0 < width c := Char.utf8Size_pos c

/-- The bytes of two texts stand behind each other. -/
theorem encode_append (cs ds : List Char) : encode (cs ++ ds) = encode cs ++ encode ds :=
  List.flatMap_append

/-- The numbers of bytes add up. -/
theorem byteLength_append (cs ds : List Char) :
    byteLength (cs ++ ds) = byteLength cs + byteLength ds := by
  induction cs with
  | nil => simp [byteLength]
  | cons c cs ih => simp only [List.cons_append, byteLength, ih, Nat.add_assoc]

/-- A text has as many bytes as its characters have together. -/
theorem length_encode (cs : List Char) : (encode cs).length = byteLength cs := by
  induction cs with
  | nil => rfl
  | cons c cs ih =>
    rw [encode, List.flatMap_cons, List.length_append, String.length_utf8EncodeChar, byteLength,
      ← ih]
    rfl

/-- Every character has a byte. -/
theorem eq_nil_of_byteLength_eq_zero {cs : List Char} (h : byteLength cs = 0) : cs = [] := by
  cases cs with
  | nil => rfl
  | cons c cs =>
    have hpos := width_pos c
    rw [byteLength] at h
    omega

/-! ### Cutting at an offset -/

/-- A text is cut at an offset where its head has that many bytes. -/
theorem splitAt?_eq_some_iff {n : Nat} {cs head rest : List Char} :
    splitAt? n cs = some (head, rest) ↔ cs = head ++ rest ∧ byteLength head = n := by
  induction cs generalizing n head with
  | nil =>
    cases n with
    | zero =>
      simp only [splitAt?, Option.some.injEq, Prod.mk.injEq, List.nil_eq, List.append_eq_nil_iff]
      constructor
      · rintro ⟨rfl, rfl⟩
        exact ⟨⟨rfl, rfl⟩, rfl⟩
      · rintro ⟨⟨rfl, rfl⟩, -⟩
        exact ⟨rfl, rfl⟩
    | succ n =>
      simp only [splitAt?, List.nil_eq, List.append_eq_nil_iff]
      constructor
      · intro h
        cases h
      · rintro ⟨⟨rfl, -⟩, h⟩
        cases h
  | cons c cs ih =>
    cases n with
    | zero =>
      rw [splitAt?]
      constructor
      · rintro h
        cases h
        exact ⟨rfl, rfl⟩
      · rintro ⟨hcs, hzero⟩
        obtain rfl := eq_nil_of_byteLength_eq_zero hzero
        rw [hcs]
        rfl
    | succ n =>
      have hpos := width_pos c
      rw [splitAt?]
      cases head with
      | nil =>
        -- An offset behind the first character has that character in front.
        have hzero : byteLength [] ≠ n + 1 := by simp [byteLength]
        simp only [hzero, and_false, iff_false]
        split
        · simp
        · simp
      | cons d head =>
        by_cases hfits : width c ≤ n + 1
        · rw [if_pos hfits, Option.map_eq_some_iff]
          simp only [List.cons_append, List.cons.injEq, byteLength]
          constructor
          · rintro ⟨⟨front, back⟩, hcut, heq⟩
            obtain ⟨⟨rfl, rfl⟩, rfl⟩ : (c = d ∧ front = head) ∧ back = rest := by simpa using heq
            obtain ⟨rfl, hlength⟩ := ih.1 hcut
            exact ⟨⟨rfl, rfl⟩, by omega⟩
          · rintro ⟨⟨rfl, rfl⟩, hlength⟩
            exact ⟨(head, rest), ih.2 ⟨rfl, by omega⟩, rfl⟩
        · rw [if_neg hfits]
          simp only [List.cons_append, List.cons.injEq, byteLength, reduceCtorEq, false_iff]
          rintro ⟨⟨rfl, -⟩, hlength⟩
          omega

/-! ### Slices -/

/-- **A slice is the part of the text between its offsets.** -/
theorem slice?_eq_some_iff {start stop : Nat} {text part : List Char} :
    slice? start stop text = some part ↔ Between text start stop part := by
  simp only [Between, length_encode, byteLength_append]
  unfold slice?
  constructor
  · intro h
    split at h
    · rename_i hle
      -- The text is split at the start, and the rest at the length of the slice.
      obtain ⟨⟨before, rest⟩, hbefore, h⟩ := Option.bind_eq_some_iff.1 h
      obtain ⟨⟨part', after⟩, hpart, h⟩ := Option.bind_eq_some_iff.1 h
      obtain rfl : part' = part := by simpa using h
      obtain ⟨rfl, hstart⟩ := splitAt?_eq_some_iff.1 hbefore
      obtain ⟨rfl, hstop⟩ := splitAt?_eq_some_iff.1 hpart
      exact ⟨before, after, by rw [List.append_assoc], hstart, by omega⟩
    · cases h
  · rintro ⟨before, after, rfl, hstart, hstop⟩
    have hbefore : splitAt? start (before ++ part ++ after) = some (before, part ++ after) :=
      splitAt?_eq_some_iff.2 ⟨List.append_assoc .., hstart⟩
    have hpart : splitAt? (stop - start) (part ++ after) = some (part, after) :=
      splitAt?_eq_some_iff.2 ⟨rfl, by omega⟩
    rw [if_pos (by omega), hbefore]
    simp [hpart]

/-- Between two offsets lies one part only. -/
theorem Between.unique {text part part' : List Char} {start stop : Nat}
    (h : Between text start stop part) (h' : Between text start stop part') : part = part' :=
  Option.some.inj ((slice?_eq_some_iff.2 h).symm.trans (slice?_eq_some_iff.2 h'))

/-- No boundary lies behind the end. -/
theorem OnBoundary.le {text : List Char} {n : Nat} (h : OnBoundary text n) :
    n ≤ (encode text).length := by
  obtain ⟨before, after, rfl, rfl⟩ := h
  rw [encode_append, List.length_append]
  omega

/-- **There is a part between two offsets** if they are in order and on boundaries, and else there
    is none. -/
theorem exists_between_iff {text : List Char} {start stop : Nat} :
    (∃ part, Between text start stop part) ↔
      start ≤ stop ∧ OnBoundary text start ∧ OnBoundary text stop := by
  constructor
  · rintro ⟨part, before, after, rfl, hstart, hstop⟩
    refine ⟨?_, ⟨before, part ++ after, List.append_assoc .., hstart⟩, ⟨_, after, rfl, hstop⟩⟩
    rw [encode_append, List.length_append] at hstop
    omega
  · rintro ⟨hle, ⟨before, rest, htext, hstart⟩, ⟨long, after, htext', hstop⟩⟩
    -- The shorter of the two heads is the start of the longer one.
    rcases List.append_eq_append_iff.1 (htext.symm.trans htext') with
      ⟨part, rfl, -⟩ | ⟨more, rfl, rfl⟩
    · exact ⟨part, before, after, htext', hstart, hstop⟩
    · rw [length_encode, byteLength_append] at hstart
      rw [length_encode] at hstop
      obtain rfl : more = [] := eq_nil_of_byteLength_eq_zero (by omega)
      refine ⟨[], long, rest, by simpa using htext', ?_, ?_⟩
      · rw [length_encode]
        omega
      · rw [List.append_nil, length_encode]
        exact hstop

end Grok.Utf8
