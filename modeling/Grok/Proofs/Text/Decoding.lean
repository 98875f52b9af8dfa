import Grok.Proofs.Text.Slice
import Mathlib.Data.List.Infix
import Mathlib.Data.List.TakeWhile
import Mathlib.Tactic.SplitIfs

namespace Grok.Utf8

/-!
# Decoding with replacement

Any byte sequence is read as a text: its well-formed characters, and a replacement character for
each maximal ill-formed part.

* `Utf8.IllFormedPart` — what a maximal ill-formed part is, and `Utf8.Replaces` — a text reads a
  byte sequence so. Both are told by the bytes of characters alone.
* `Utf8.Continues` — the ranges of the bytes of a character (`Utf8.encodeChar_cases`,
  `Utf8.begins_cons_iff`).
* `Utf8.parts_cases` — the cut takes a character or a maximal ill-formed part off the front.
* `Utf8.replaces_iff` — decoding gives the one text that reads the bytes.
* `Utf8.decode?_eq_some_iff` — the strict decoder reads just the bytes of texts.
* `Utf8.decodeLossy_encode` — decoding the bytes of a text gives it back.
-/

/-! ### Ill-formed parts -/

/-- The bytes are the start of a character. -/
def Begins (bs : List UInt8) : Prop := ∃ c, bs <+: String.utf8EncodeChar c

/-- A maximal ill-formed part in front of the rest: no character stands there, and of what is the
    start of one the part is the longest, a single byte if there is none. -/
structure IllFormedPart (part rest : List UInt8) : Prop where
  ne_nil : part ≠ []
  no_char : ∀ c, ¬ String.utf8EncodeChar c <+: part ++ rest
  begins : part.length = 1 ∨ Begins part
  longest : ∀ bs, bs <+: part ++ rest → part.length < bs.length → ¬ Begins bs

/-- The text reads the bytes: characters as they are, and each maximal ill-formed part as one
    replacement character. -/
inductive Replaces : List UInt8 → List Char → Prop where
  | nil : Replaces [] []
  | char (c : Char) {bs : List UInt8} {cs : List Char} :
      Replaces bs cs → Replaces (String.utf8EncodeChar c ++ bs) (c :: cs)
  | illFormed {part bs : List UInt8} {cs : List Char} :
      IllFormedPart part bs → Replaces bs cs → Replaces (part ++ bs) (replacement :: cs)

/-- No character is the start of another one. -/
theorem encodeChar_append_inj {c d : Char} {bs ds : List UInt8}
    (h : String.utf8EncodeChar c ++ bs = String.utf8EncodeChar d ++ ds) : c = d ∧ bs = ds := by
  have hread : ∀ (c : Char) (bs : List UInt8),
      (String.utf8EncodeChar c ++ bs).toByteArray.utf8DecodeChar? 0 = some c := by
    intro c bs
    rw [List.toByteArray_append]
    exact ByteArray.utf8DecodeChar?_utf8EncodeChar_append
  obtain rfl : c = d := by
    have hsome := hread c bs
    rw [h, hread d ds] at hsome
    exact (Option.some.inj hsome).symm
  exact ⟨rfl, List.append_cancel_left h⟩

/-- In front of a byte sequence there is one maximal ill-formed part at most. -/
theorem IllFormedPart.append_inj {part part' rest rest' : List UInt8} (h : IllFormedPart part rest)
    (h' : IllFormedPart part' rest') (heq : part ++ rest = part' ++ rest') :
    part = part' ∧ rest = rest' := by
  have not_longer : ∀ {p q r s : List UInt8}, IllFormedPart p r → IllFormedPart q s →
      p ++ r = q ++ s → q.length ≤ p.length := by
    intro p q r s hp hq hpq
    by_contra hlt
    have hlong := hp.longest q (hpq ▸ List.prefix_append q s) (by omega)
    have hpos := List.length_pos_iff.2 hp.ne_nil
    rcases hq.begins with hone | hbegins
    · omega
    · exact hlong hbegins
  exact List.append_inj heq
    (Nat.le_antisymm (not_longer h' h heq.symm) (not_longer h h' heq))

/-! ### Sequences of several bytes -/

/-- What stands behind the first byte `b` of a character of `n + 1` bytes, as far as it goes. The
    second byte keeps clear of sequences that are too long for their character, of surrogates, and of
    what is beyond the last code point. -/
structure Continues (b : UInt8) (n : Nat) (t : List UInt8) : Prop where
  first : (n = 1 ∧ 0xC2 ≤ b.toNat ∧ b.toNat ≤ 0xDF) ∨ (n = 2 ∧ 0xE0 ≤ b.toNat ∧ b.toNat ≤ 0xEF) ∨
    (n = 3 ∧ 0xF0 ≤ b.toNat ∧ b.toNat ≤ 0xF4)
  length_le : t.length ≤ n
  behind : ∀ x ∈ t, 0x80 ≤ x.toNat ∧ x.toNat ≤ 0xBF
  second : ∀ x ∈ t.head?, (b.toNat = 0xE0 → 0xA0 ≤ x.toNat) ∧ (b.toNat = 0xED → x.toNat ≤ 0x9F) ∧
    (b.toNat = 0xF0 → 0x90 ≤ x.toNat) ∧ (b.toNat = 0xF4 → x.toNat ≤ 0x8F)

variable {b low high : UInt8} {n : Nat} {t bs : List UInt8}

/-- What continues a character continues it also where less is known of it. -/
theorem Continues.of_prefix {u : List UInt8} (h : Continues b n t) (hu : u <+: t) :
    Continues b n u where
  first := h.first
  length_le := hu.length_le.trans h.length_le
  behind x hx := h.behind x (hu.subset hx)
  second x hx := by
    refine h.second x ?_
    obtain ⟨v, rfl⟩ := hu
    cases u with
    | nil => cases hx
    | cons y u => exact hx

/-- A first byte says how many bytes it leads. -/
theorem Continues.length_unique {m : Nat} {u : List UInt8} (h : Continues b n t)
    (h' : Continues b m u) : n = m := by
  have hn := h.first
  have hm := h'.first
  omega

/-- A character that is not complete goes on. -/
theorem Continues.exists_concat (h : Continues b n t) (hlt : t.length < n) :
    ∃ x, Continues b n (t ++ [x]) := by
  have hfirst := h.first
  cases t with
  | nil =>
    -- The lowest byte that may come second.
    refine ⟨if b.toNat = 0xE0 then 0xA0 else if b.toNat = 0xF0 then 0x90 else 0x80, h.first,
      hlt, ?_, ?_⟩
    · simp only [List.nil_append, List.mem_cons, List.not_mem_nil, or_false, forall_eq]
      split_ifs <;> simp
    · simp only [List.nil_append, List.head?_cons, Option.mem_def, Option.some.injEq, forall_eq']
      split_ifs <;> simp <;> omega
  | cons y t =>
    -- The lowest byte that may come later.
    refine ⟨0x80, h.first, ?_, ?_, h.second⟩
    · rw [List.length_append]
      exact hlt
    · intro x hx
      rcases List.mem_append.1 hx with hx | hx
      · exact h.behind x hx
      · rw [List.mem_singleton.1 hx]
        decide

/-- Whatever continues a character is the start of one. -/
theorem Continues.exists_complete (h : Continues b n t) :
    ∃ u, t <+: u ∧ Continues b n u ∧ u.length = n := by
  induction hm : n - t.length generalizing t with
  | zero => exact ⟨t, List.prefix_rfl, h, by have := h.length_le; omega⟩
  | succ m ih =>
    obtain ⟨x, hx⟩ := h.exists_concat (by omega)
    obtain ⟨u, hu, hcontinues, hlength⟩ := ih hx (by
      rw [List.length_append, List.length_singleton]
      omega)
    exact ⟨u, (List.prefix_append t [x]).trans hu, hcontinues, hlength⟩

/-! ### The bytes of a character -/

theorem toNat_ofNat {v : Nat} (hv : v.isValidChar) : (Char.ofNat v).toNat = v := by
  rw [Char.ofNat, dif_pos hv]
  rfl

theorem toNat_byte {v : Nat} (hv : v < 256) : (UInt8.ofNat v).toNat = v := by
  rw [UInt8.toNat_ofNat', Nat.mod_eq_of_lt hv]

theorem byte_eq_iff {v : Nat} {x : UInt8} (hv : v < 256) : UInt8.ofNat v = x ↔ v = x.toNat := by
  rw [← UInt8.toNat_inj, toNat_byte hv]

/-- The bytes of a code point, by the number of bytes that it takes. -/
theorem encodeChar_ofNat {v : Nat} (hv : v.isValidChar) :
    String.utf8EncodeChar (Char.ofNat v) =
      if v ≤ 127 then [UInt8.ofNat v]
      else if v ≤ 2047 then [UInt8.ofNat (v / 64 % 32 + 192), UInt8.ofNat (v % 64 + 128)]
      else if v ≤ 65535 then
        [UInt8.ofNat (v / 4096 % 16 + 224), UInt8.ofNat (v / 64 % 64 + 128),
          UInt8.ofNat (v % 64 + 128)]
      else
        [UInt8.ofNat (v / 262144 % 8 + 240), UInt8.ofNat (v / 4096 % 64 + 128),
          UInt8.ofNat (v / 64 % 64 + 128), UInt8.ofNat (v % 64 + 128)] := by
  have hnumber : (Char.ofNat v).val.toNat = v := toNat_ofNat hv
  simp only [String.utf8EncodeChar, hnumber]

/-- A byte below `0x80` is a character by itself. -/
theorem encodeChar_ascii (hb : b.toNat < 0x80) :
    String.utf8EncodeChar (Char.ofNat b.toNat) = [b] := by
  have hvalid : b.toNat.isValidChar := .inl (by omega)
  rw [encodeChar_ofNat hvalid, if_pos (by omega), UInt8.ofNat_toNat]

/-- **The bytes of a code point are those that it was read from.** -/
theorem Continues.encodeChar_codePoint (h : Continues b n t) (hn : t.length = n) :
    String.utf8EncodeChar (Char.ofNat (codePoint b t)) = b :: t := by
  have hbehind := h.behind
  have hsecond := h.second
  -- By the number of bytes, which the first byte tells.
  rcases h.first with ⟨rfl, hlo, hhi⟩ | ⟨rfl, hlo, hhi⟩ | ⟨rfl, hlo, hhi⟩
  · obtain ⟨x, rfl⟩ := List.length_eq_one_iff.1 hn
    simp only [List.mem_cons, List.not_mem_nil, or_false, forall_eq] at hbehind
    have hcode : codePoint b [x] = 64 * (b.toNat % 32) + x.toNat % 64 := rfl
    have hvalid : (codePoint b [x]).isValidChar := by
      rw [hcode]
      left
      omega
    rw [encodeChar_ofNat hvalid, hcode, if_neg (by omega), if_pos (by omega)]
    simp only [List.cons.injEq, and_true]
    rw [byte_eq_iff (by omega), byte_eq_iff (by omega)]
    omega
  · obtain ⟨x, y, rfl⟩ := List.length_eq_two.1 hn
    simp only [List.mem_cons, List.not_mem_nil, or_false, forall_eq_or_imp, forall_eq] at hbehind
    simp only [List.head?_cons, Option.mem_def, Option.some.injEq, forall_eq'] at hsecond
    have hcode : codePoint b [x, y] =
        64 * (64 * (b.toNat % 16) + x.toNat % 64) + y.toNat % 64 := rfl
    have hvalid : (codePoint b [x, y]).isValidChar := by
      rw [hcode, Nat.isValidChar]
      omega
    rw [encodeChar_ofNat hvalid, hcode, if_neg (by omega), if_neg (by omega), if_pos (by omega)]
    simp only [List.cons.injEq, and_true]
    rw [byte_eq_iff (by omega), byte_eq_iff (by omega), byte_eq_iff (by omega)]
    omega
  · obtain ⟨x, y, z, rfl⟩ := List.length_eq_three.1 hn
    simp only [List.mem_cons, List.not_mem_nil, or_false, forall_eq_or_imp, forall_eq] at hbehind
    simp only [List.head?_cons, Option.mem_def, Option.some.injEq, forall_eq'] at hsecond
    have hcode : codePoint b [x, y, z] =
        64 * (64 * (64 * (b.toNat % 8) + x.toNat % 64) + y.toNat % 64) + z.toNat % 64 := rfl
    have hvalid : (codePoint b [x, y, z]).isValidChar := by
      rw [hcode, Nat.isValidChar]
      omega
    rw [encodeChar_ofNat hvalid, hcode, if_neg (by omega), if_neg (by omega), if_neg (by omega)]
    simp only [List.cons.injEq, and_true]
    rw [byte_eq_iff (by omega), byte_eq_iff (by omega), byte_eq_iff (by omega),
      byte_eq_iff (by omega)]
    omega

/-- **The bytes of a character** are a single one below `128`, or a first byte and all that it
    leads. -/
theorem encodeChar_cases (c : Char) :
    (∃ b, b.toNat < 0x80 ∧ String.utf8EncodeChar c = [b]) ∨
      ∃ b n t, Continues b n t ∧ t.length = n ∧ String.utf8EncodeChar c = b :: t := by
  have hvalid : c.val.toNat < 0xD800 ∨ 0xDFFF < c.val.toNat ∧ c.val.toNat < 0x110000 := c.valid
  unfold String.utf8EncodeChar
  dsimp only
  generalize c.val.toNat = v at hvalid
  -- The code point tells the number of bytes, and its range that of each byte.
  split_ifs
  · refine .inl ⟨_, ?_, rfl⟩
    rw [toNat_byte (by omega)]
    omega
  · refine .inr ⟨_, 1, _, ⟨.inl ⟨rfl, ?_⟩, by simp, ?_, ?_⟩, rfl, rfl⟩
    · rw [toNat_byte (by omega)]
      omega
    · simp only [List.mem_cons, List.not_mem_nil, or_false, forall_eq]
      rw [toNat_byte (by omega)]
      omega
    · simp only [List.head?_cons, Option.mem_def, Option.some.injEq, forall_eq']
      rw [toNat_byte (by omega), toNat_byte (by omega)]
      omega
  · refine .inr ⟨_, 2, _, ⟨.inr (.inl ⟨rfl, ?_⟩), by simp, ?_, ?_⟩, rfl, rfl⟩
    · rw [toNat_byte (by omega)]
      omega
    · simp only [List.mem_cons, List.not_mem_nil, or_false, forall_eq_or_imp, forall_eq]
      rw [toNat_byte (by omega), toNat_byte (by omega)]
      omega
    · simp only [List.head?_cons, Option.mem_def, Option.some.injEq, forall_eq']
      rw [toNat_byte (by omega), toNat_byte (by omega)]
      omega
  · refine .inr ⟨_, 3, _, ⟨.inr (.inr ⟨rfl, ?_⟩), by simp, ?_, ?_⟩, rfl, rfl⟩
    · rw [toNat_byte (by omega)]
      omega
    · simp only [List.mem_cons, List.not_mem_nil, or_false, forall_eq_or_imp, forall_eq]
      rw [toNat_byte (by omega), toNat_byte (by omega), toNat_byte (by omega)]
      omega
    · simp only [List.head?_cons, Option.mem_def, Option.some.injEq, forall_eq']
      rw [toNat_byte (by omega), toNat_byte (by omega)]
      omega

/-- **What is the start of a character**: a single byte below `128`, or a first byte and some of
    what it leads. -/
theorem begins_cons_iff :
    Begins (b :: t) ↔ (b.toNat < 0x80 ∧ t = []) ∨ ∃ n, Continues b n t := by
  constructor
  · rintro ⟨c, hc⟩
    rcases encodeChar_cases c with ⟨a, ha, hbytes⟩ | ⟨a, n, u, hu, -, hbytes⟩
    · rw [hbytes, List.cons_prefix_cons, List.prefix_nil] at hc
      exact .inl ⟨hc.1 ▸ ha, hc.2⟩
    · rw [hbytes, List.cons_prefix_cons] at hc
      exact .inr ⟨n, hc.1 ▸ hu.of_prefix hc.2⟩
  · rintro (⟨hb, rfl⟩ | ⟨n, ht⟩)
    · exact ⟨Char.ofNat b.toNat, encodeChar_ascii hb ▸ List.prefix_rfl⟩
    · obtain ⟨u, htu, hu, hlength⟩ := ht.exists_complete
      refine ⟨Char.ofNat (codePoint b u), ?_⟩
      rw [hu.encodeChar_codePoint hlength, List.cons_prefix_cons]
      exact ⟨rfl, htu⟩

/-! ### The front of a byte sequence -/

/-- The ranges of first bytes as numbers. -/
theorem leading?_eq (b : UInt8) :
    leading? b =
      if 0xC2 ≤ b.toNat ∧ b.toNat ≤ 0xDF then some (0x80, 0xBF, 1)
      else if b.toNat = 0xE0 then some (0xA0, 0xBF, 2)
      else if b.toNat = 0xED then some (0x80, 0x9F, 2)
      else if 0xE1 ≤ b.toNat ∧ b.toNat ≤ 0xEF then some (0x80, 0xBF, 2)
      else if b.toNat = 0xF0 then some (0x90, 0xBF, 3)
      else if 0xF1 ≤ b.toNat ∧ b.toNat ≤ 0xF3 then some (0x80, 0xBF, 3)
      else if b.toNat = 0xF4 then some (0x80, 0x8F, 3)
      else none := by
  have hnumber : ∀ n : UInt8, b = n ↔ b.toNat = n.toNat := fun n => UInt8.toNat_inj.symm
  simp only [leading?, UInt8.le_iff_toNat_le, hnumber, UInt8.reduceToNat]

/-- A byte that leads no sequence is too low or too high for that. -/
theorem leading?_eq_none (h : leading? b = none) : b.toNat < 0xC2 ∨ 0xF4 < b.toNat := by
  rw [leading?_eq] at h
  split_ifs at h
  omega

/-- A byte that leads one starts it, and sets the range of the second byte. -/
theorem leading?_eq_some (h : leading? b = some (low, high, n)) :
    Continues b n [] ∧
    low.toNat = (if b.toNat = 0xE0 then 0xA0 else if b.toNat = 0xF0 then 0x90 else 0x80) ∧
    high.toNat = (if b.toNat = 0xED then 0x9F else if b.toNat = 0xF4 then 0x8F else 0xBF) := by
  rw [leading?_eq] at h
  have hnil : ((n = 1 ∧ 0xC2 ≤ b.toNat ∧ b.toNat ≤ 0xDF) ∨
      (n = 2 ∧ 0xE0 ≤ b.toNat ∧ b.toNat ≤ 0xEF) ∨ (n = 3 ∧ 0xF0 ≤ b.toNat ∧ b.toNat ≤ 0xF4)) →
      Continues b n [] := fun hfirst => ⟨hfirst, Nat.zero_le n, by simp, by simp⟩
  split_ifs at h <;> cases h <;> refine ⟨hnil (by omega), ?_, ?_⟩ <;> split_ifs <;>
    first | rfl | omega

/-- The range of the bytes behind the first two. -/
theorem isContinuation_iff {x : UInt8} :
    isContinuation x = true ↔ 0x80 ≤ x.toNat ∧ x.toNat ≤ 0xBF := by
  simp only [isContinuation, Bool.and_eq_true, decide_eq_true_eq, UInt8.le_iff_toNat_le]
  rfl

/-- What a first byte leads, in the ranges that the cut looks at. -/
theorem continues_cons_iff {x : UInt8} (h : leading? b = some (low, high, n)) :
    Continues b n (x :: t) ↔
      (low ≤ x ∧ x ≤ high) ∧ t.length ≤ n - 1 ∧ ∀ y ∈ t, isContinuation y = true := by
  obtain ⟨hnil, hlow, hhigh⟩ := leading?_eq_some h
  have hfirst := hnil.first
  simp only [UInt8.le_iff_toNat_le, hlow, hhigh, isContinuation_iff]
  constructor
  · intro ht
    have hx := ht.behind x List.mem_cons_self
    have hsecond := ht.second x rfl
    have hlength := ht.length_le
    rw [List.length_cons] at hlength
    refine ⟨?_, by omega, fun y hy => ht.behind y (List.mem_cons_of_mem _ hy)⟩
    -- The range of the second byte depends on the first one.
    split_ifs <;> omega
  · rintro ⟨hx, hlength, ht⟩
    refine ⟨hfirst, by rw [List.length_cons]; omega, ?_, ?_⟩
    · rintro y (_ | ⟨_, hy⟩)
      · split_ifs at hx <;> omega
      · exact ht y hy
    · simp only [List.head?_cons, Option.mem_def, Option.some.injEq, forall_eq']
      split_ifs at hx <;> omega

/-- **The cut takes all that belongs to a first byte.** -/
theorem continues_tail (h : leading? b = some (low, high, n)) (bs : List UInt8) :
    tail low high n bs <+: bs ∧ Continues b n (tail low high n bs) ∧
      ∀ u, u <+: bs → Continues b n u → u <+: tail low high n bs := by
  have hnil := (leading?_eq_some h).1
  cases bs with
  | nil => exact ⟨List.prefix_rfl, hnil, fun u hu _ => hu⟩
  | cons x bs =>
    rw [tail]
    split_ifs with hx
    · refine ⟨?_, ?_, ?_⟩
      · rw [List.cons_prefix_cons]
        exact ⟨rfl, (List.takeWhile_prefix _).trans (List.take_prefix _ _)⟩
      · refine (continues_cons_iff h).2 ⟨hx, ?_, fun y hy => List.mem_takeWhile_imp hy⟩
        exact (List.takeWhile_prefix _).length_le.trans (List.length_take_le _ _)
      · rintro (_ | ⟨y, u⟩) hu hcontinues
        · exact List.nil_prefix
        · obtain ⟨rfl, v, rfl⟩ := List.cons_prefix_cons.1 hu
          obtain ⟨-, hlength, hall⟩ := (continues_cons_iff h).1 hcontinues
          -- What is no longer than the bytes looked at, and consists of such bytes, is taken.
          rw [List.take_append, List.take_of_length_le hlength, List.takeWhile_append_of_pos hall,
            List.cons_prefix_cons]
          exact ⟨rfl, List.prefix_append _ _⟩
    · refine ⟨List.nil_prefix, hnil, ?_⟩
      rintro (_ | ⟨y, u⟩) hu hcontinues
      · exact List.nil_prefix
      · obtain ⟨rfl, -⟩ := List.cons_prefix_cons.1 hu
        exact absurd ((continues_cons_iff h).1 hcontinues).1 hx

/-- Bytes of a part that has been reported are passed over. -/
theorem partsFrom_eq (skip : Nat) (bs : List UInt8) : partsFrom skip bs = parts (bs.drop skip) := by
  induction skip generalizing bs with
  | zero => rfl
  | succ skip ih =>
    cases bs with
    | nil => rfl
    | cons b bs => exact ih bs

/-- A character behind a byte that is none by itself begins with that byte. -/
theorem exists_continues_of_prefix (hb : 0x80 ≤ b.toNat) {c : Char}
    (hc : String.utf8EncodeChar c <+: b :: bs) :
    ∃ n u, Continues b n u ∧ u.length = n ∧ u <+: bs := by
  rcases encodeChar_cases c with ⟨a, ha, hbytes⟩ | ⟨a, n, u, hu, hlength, hbytes⟩
  · rw [hbytes, List.cons_prefix_cons] at hc
    obtain rfl := hc.1
    omega
  · rw [hbytes, List.cons_prefix_cons] at hc
    exact ⟨n, u, hc.1 ▸ hu, hlength, hc.2⟩

/-- From `0x80` on, what begins like a character continues its first byte. -/
theorem exists_continues_of_begins (hb : 0x80 ≤ b.toNat) (h : Begins (b :: t)) :
    ∃ n, Continues b n t := by
  rcases begins_cons_iff.1 h with ⟨hlt, -⟩ | h
  · omega
  · exact h

/-- A byte that leads nothing is ill-formed by itself. -/
theorem illFormedPart_singleton (hb : 0x80 ≤ b.toNat) (h : leading? b = none) :
    IllFormedPart [b] bs := by
  have hnone : ∀ n u, ¬ Continues b n u := by
    intro n u hu
    have hfirst := hu.first
    have hrange := leading?_eq_none h
    omega
  refine ⟨List.cons_ne_nil b [], ?_, .inl rfl, ?_⟩
  · intro c hc
    obtain ⟨n, u, hu, -, -⟩ := exists_continues_of_prefix hb hc
    exact hnone n u hu
  · rintro (_ | ⟨a, u⟩) hfront hlength hbegins
    · cases hlength
    · obtain ⟨rfl, -⟩ := List.cons_prefix_cons.1 hfront
      obtain ⟨n, hu⟩ := exists_continues_of_begins hb hbegins
      exact hnone n u hu

/-- The start of a character that does not go on is ill-formed. -/
theorem Continues.illFormedPart {rest : List UInt8} (h : Continues b n t) (hlt : t.length < n)
    (hlongest : ∀ u, u <+: t ++ rest → Continues b n u → u <+: t) :
    IllFormedPart (b :: t) rest := by
  have hb : 0x80 ≤ b.toNat := by
    have hfirst := h.first
    omega
  refine ⟨List.cons_ne_nil b t, ?_, .inr (begins_cons_iff.2 (.inr ⟨n, h⟩)), ?_⟩
  · intro c hc
    -- A character there would go on with more bytes than the longest continuation has.
    obtain ⟨m, u, hu, hlength, hfront⟩ := exists_continues_of_prefix hb hc
    obtain rfl := h.length_unique hu
    have hle := (hlongest u hfront hu).length_le
    omega
  · rintro (_ | ⟨a, u⟩) hau hlength hbegins
    · cases hlength
    · obtain ⟨rfl, hfront⟩ := List.cons_prefix_cons.1 hau
      obtain ⟨m, hu⟩ := exists_continues_of_begins hb hbegins
      obtain rfl := h.length_unique hu
      have hle := (hlongest u hfront hu).length_le
      rw [List.length_cons, List.length_cons] at hlength
      omega

/-- **One step of the cut**: a character, or a maximal ill-formed part. -/
theorem parts_cases (hbs : bs ≠ []) :
    (∃ c rest, bs = String.utf8EncodeChar c ++ rest ∧ parts bs = some c :: parts rest) ∨
      ∃ part rest, bs = part ++ rest ∧ IllFormedPart part rest ∧
        parts bs = none :: parts rest := by
  obtain ⟨b, bs, rfl⟩ := List.exists_cons_of_ne_nil hbs
  rw [parts, partsFrom]
  split_ifs with hascii
  · refine .inl ⟨Char.ofNat b.toNat, bs, ?_, rfl⟩
    rw [encodeChar_ascii (UInt8.lt_iff_toNat_lt.1 hascii)]
    rfl
  · have hb : 0x80 ≤ b.toNat := UInt8.le_iff_toNat_le.1 (UInt8.not_lt.1 hascii)
    -- A byte from `128` on leads no sequence, or one that is complete or breaks off.
    cases hleading : leading? b with
    | none => exact .inr ⟨[b], bs, rfl, illFormedPart_singleton hb hleading, rfl⟩
    | some range =>
      obtain ⟨low, high, n⟩ := range
      obtain ⟨hfront, htail, hlongest⟩ := continues_tail hleading bs
      dsimp only
      generalize tail low high n bs = t at hfront htail hlongest
      obtain ⟨rest, rfl⟩ := hfront
      rw [partsFrom_eq, List.drop_left]
      split_ifs with hcomplete
      · refine .inl ⟨Char.ofNat (codePoint b t), rest, ?_, rfl⟩
        rw [htail.encodeChar_codePoint hcomplete, List.cons_append]
      · have hlt : t.length < n := Nat.lt_of_le_of_ne htail.length_le hcomplete
        exact .inr ⟨b :: t, rest, rfl, htail.illFormedPart hlt hlongest, rfl⟩

/-- A character in front is cut off. -/
theorem parts_encodeChar_append (c : Char) (rest : List UInt8) :
    parts (String.utf8EncodeChar c ++ rest) = some c :: parts rest := by
  have hne : String.utf8EncodeChar c ++ rest ≠ [] := by
    rcases encodeChar_cases c with ⟨b, -, hc⟩ | ⟨b, n, t, -, -, hc⟩
    · rw [hc]
      exact List.cons_ne_nil b rest
    · rw [hc]
      exact List.cons_ne_nil b (t ++ rest)
  rcases parts_cases hne with ⟨d, rest', heq, hparts⟩ | ⟨part, rest', heq, hpart, -⟩
  · obtain ⟨rfl, rfl⟩ := encodeChar_append_inj heq
    exact hparts
  · exact absurd (heq ▸ List.prefix_append _ _) (hpart.no_char c)

/-- A maximal ill-formed part in front is cut off. -/
theorem IllFormedPart.parts_append {part rest : List UInt8} (h : IllFormedPart part rest) :
    parts (part ++ rest) = none :: parts rest := by
  rcases parts_cases (List.append_ne_nil_of_left_ne_nil h.ne_nil rest) with
    ⟨c, rest', heq, -⟩ | ⟨part', rest', heq, h', hparts⟩
  · exact absurd (heq ▸ List.prefix_append _ _) (h.no_char c)
  · obtain ⟨-, rfl⟩ := h.append_inj h' heq
    exact hparts

/-! ### Whole byte sequences -/

/-- The text starts with the first part, or with what stands for it. -/
theorem decodeLossy_of_parts {part : Option Char} {rest : List UInt8}
    (h : parts bs = part :: parts rest) :
    decodeLossy bs = part.getD replacement :: decodeLossy rest := by
  rw [decodeLossy, h, List.map_cons]
  rfl

/-- The bytes have a reading. -/
theorem replaces_decodeLossy (bs : List UInt8) : Replaces bs (decodeLossy bs) := by
  induction hn : bs.length using Nat.strongRecOn generalizing bs with
  | ind n ih =>
    by_cases hbs : bs = []
    · subst hbs
      exact .nil
    · rcases parts_cases hbs with ⟨c, rest, rfl, hparts⟩ | ⟨part, rest, rfl, hpart, hparts⟩
      · rw [decodeLossy_of_parts hparts]
        have hpos := Char.utf8Size_pos c
        rw [List.length_append, String.length_utf8EncodeChar] at hn
        exact .char c (ih _ (by omega) rest rfl)
      · rw [decodeLossy_of_parts hparts]
        have hpos := List.length_pos_iff.2 hpart.ne_nil
        rw [List.length_append] at hn
        exact .illFormed hpart (ih _ (by omega) rest rfl)

/-- **Decoding reads the bytes**: it gives the one text in which each character is as it is, and each
    maximal ill-formed part one replacement character. -/
theorem replaces_iff {cs : List Char} : Replaces bs cs ↔ cs = decodeLossy bs := by
  constructor
  · intro h
    induction h with
    | nil => rfl
    | char c _ ih =>
      rw [decodeLossy_of_parts (parts_encodeChar_append c _), ih]
      rfl
    | illFormed hpart _ ih =>
      rw [decodeLossy_of_parts hpart.parts_append, ih]
      rfl
  · rintro rfl
    exact replaces_decodeLossy bs

/-! ### Well-formed sequences -/

/-- The bytes of a text are cut into its characters. -/
theorem parts_encode (cs : List Char) : parts (encode cs) = cs.map some := by
  induction cs with
  | nil => rfl
  | cons c cs ih =>
    rw [encode, List.flatMap_cons, ← encode, parts_encodeChar_append, ih, List.map_cons]

/-- So decoding them gives the text back. -/
theorem decodeLossy_encode (cs : List Char) : decodeLossy (encode cs) = cs := by
  rw [decodeLossy, parts_encode, List.map_map]
  exact List.map_id cs

/-- A sequence that is cut into characters consists of their bytes. -/
theorem eq_encode_of_parts {cs : List Char} (h : parts bs = cs.map some) : bs = encode cs := by
  induction cs generalizing bs with
  | nil =>
    -- Bytes are cut into one part at least.
    by_contra hbs
    rcases parts_cases hbs with ⟨c, rest, -, hparts⟩ | ⟨part, rest, -, -, hparts⟩
    · rw [hparts] at h
      cases h
    · rw [hparts] at h
      cases h
  | cons c cs ih =>
    have hbs : bs ≠ [] := by
      rintro rfl
      cases h
    rcases parts_cases hbs with ⟨d, rest, rfl, hparts⟩ | ⟨part, rest, -, -, hparts⟩
    · rw [hparts, List.map_cons] at h
      obtain ⟨hd, hrest⟩ := List.cons.inj h
      rw [encode, List.flatMap_cons, ← encode, ← ih hrest, Option.some.inj hd]
    · rw [hparts] at h
      cases h

/-- All characters of a cut, if nothing in it is ill-formed. -/
theorem mapM_id_eq_some_iff {ps : List (Option Char)} {cs : List Char} :
    ps.mapM id = some cs ↔ ps = cs.map some := by
  induction ps generalizing cs with
  | nil => cases cs <;> simp
  | cons p ps ih =>
    rw [List.mapM_cons]
    cases p with
    | none => cases cs <;> simp
    | some c =>
      simp only [id, Option.bind_eq_bind, Option.bind_some, Option.pure_def,
        Option.bind_eq_some_iff, ih, Option.some.injEq]
      cases cs with
      | nil => simp
      | cons d cs => simp [and_comm, eq_comm]

/-- **The strict decoder reads just the bytes of texts.** -/
theorem decode?_eq_some_iff {cs : List Char} : decode? bs = some cs ↔ bs = encode cs := by
  rw [decode?, mapM_id_eq_some_iff]
  exact ⟨eq_encode_of_parts, fun h => h ▸ parts_encode cs⟩

/-- Where the strict decoder gives a text, so does decoding with replacement. -/
theorem decodeLossy_of_decode? {cs : List Char} (h : decode? bs = some cs) :
    decodeLossy bs = cs := by
  rw [decode?_eq_some_iff.1 h, decodeLossy_encode]

end Grok.Utf8
