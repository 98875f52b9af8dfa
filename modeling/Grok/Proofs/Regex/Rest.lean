import Grok.Regex.Parser
import Mathlib.Data.List.Infix

namespace Grok.Regex

/-!
# What readers leave

A reader takes something off the head of an expression. What it leaves is an end of what it was
given: it neither skips back nor makes anything up. There is one lemma for each reader, from the
numbers in escapes up to `Token.next`, and each follows from those of the readers it calls.

* `suffix_of_…` — the ends of texts, in the form in which `grind` follows them through a reader.
* `Escape.…_suffix`, `Name.…_suffix`, `Bracket.read_suffix` — the parts of tokens.
* `Token.next_suffix` — a token.
-/

/-! ### Results -/

/-- Two steps succeed if the first one does, and the second one on what it gives. -/
theorem bind_eq_ok_iff {α β : Type} {x : Except Fault α} {f : α → Except Fault β} {b : β} :
    x >>= f = .ok b ↔ ∃ a, x = .ok a ∧ f a = .ok b := by
  cases x <;> simp [bind, Except.bind]

/-- Only a result can be changed, and a failure stays one. -/
theorem map_eq_ok_iff {α β : Type} {x : Except Fault α} {f : α → β} {b : β} :
    x.map f = .ok b ↔ ∃ a, x = .ok a ∧ f a = b := by
  cases x <;> simp [Except.map]

theorem throw_eq_error {α : Type} (e : Fault) : (throw e : Except Fault α) = .error e := rfl

/-- Nothing is done behind a failure. -/
theorem error_bind {α β : Type} (e : Fault) (f : α → Except Fault β) :
    ((.error e : Except Fault α) >>= f) = .error e := rfl

/-! ### Ends of texts -/

section Suffix

variable {l cs : List Char} {c : Char}

/-- An end of the tail is an end of the text. -/
@[grind ←] theorem suffix_of_tail (h : l <:+ cs) : l <:+ c :: cs := h.trans (List.suffix_cons c cs)

/-- What follows the first character of an end is an end, too. -/
@[grind →] theorem suffix_of_cons (h : c :: l <:+ cs) : l <:+ cs := (List.suffix_cons c l).trans h

/-- Characters may be dropped before the end starts. -/
@[grind →] theorem suffix_of_drop {n : Nat} (h : l <:+ cs.drop n) : l <:+ cs :=
  h.trans (List.drop_suffix n cs)

/-- They may be dropped by a property as well. -/
@[grind →] theorem suffix_of_dropWhile {p : Char → Bool} (h : l <:+ cs.dropWhile p) : l <:+ cs :=
  h.trans (List.dropWhile_suffix p)

attribute [grind →] List.IsSuffix.trans

attribute [grind! .] List.dropWhile_suffix List.drop_suffix

/-- Digits are taken off the head. -/
@[grind! .] theorem split_suffix (cs : List Char) : (Digits.split cs).2 <:+ cs :=
  List.dropWhile_suffix _

end Suffix

/-! ### Escapes -/

namespace Escape

variable {cs : List Char}

/-- So are those of an escape, of which there are at most `most`. -/
@[grind! .] theorem splitDigits_suffix (base most : Nat) (cs : List Char) :
    (splitDigits base most cs).2 <:+ cs :=
  List.drop_suffix _ cs

/-- The code points behind the first one in braces, with the closing brace. -/
@[grind →]
theorem more_suffix {base most fuel : Nat} {ranges : Bool} {place : Place} {ps : List Point}
    {a : List Point × List Char} (h : more base most ranges fuel place ps cs = .ok a) :
    a.2 <:+ cs := by
  fun_induction more base most ranges fuel place ps cs <;> grind

/-- A number in braces. -/
@[grind →]
theorem braced?_suffix {base most : Nat} {around : Surroundings} {a : List Point × List Char}
    (h : braced? base most around cs = some (.ok a)) : a.2 <:+ cs := by
  unfold braced? at h
  grind

/-- An octal number, which has no braces. -/
@[grind! .] theorem octal_suffix (most : Nat) (cs : List Char) : (octal most cs).2 <:+ cs :=
  splitDigits_suffix 8 most cs

/-- The code points of a number in braces or the digits of one without. -/
@[grind →]
theorem points_suffix {around : Surroundings} {base most : Nat} {inner : List Char}
    {a : Numeric × List Char} (h : numeric.points around cs base most inner = .ok a)
    (hinner : inner <:+ cs) : a.2 <:+ cs := by
  unfold numeric.points at h
  grind

/-- An escape by a number. -/
@[grind →]
theorem numeric_suffix {c : Char} {around : Surroundings} {a : Numeric × List Char}
    (h : numeric c around cs = .ok a) : a.2 <:+ cs := by
  unfold numeric at h
  grind

mutual

/-- A character that a letter names, or a control or meta character, behind a backslash. -/
theorem controlled_suffix {cs : List Char} {a : Nat × List Char} (h : controlled cs = .ok a) :
    a.2 <:+ cs := by
  unfold controlled at h
  split at h
  · cases h
  · split at h
    · cases h
    · cases h
    · obtain ⟨b, hb, h⟩ := bind_eq_ok_iff.1 h
      -- A meta character may be made of another escape.
      have hsuffix := controlled_suffix hb
      grind
    · grind
    · cases h
  · split at h
    · cases h
    · have hsuffix := control_suffix h
      grind
    · cases h
  · have hsuffix := control_suffix h
    grind
  · grind
termination_by cs.length

/-- The character that a control character is made of. -/
theorem control_suffix {cs : List Char} {a : Nat × List Char} (h : control cs = .ok a) :
    a.2 <:+ cs := by
  unfold control at h
  split at h
  · cases h
  · grind
  · obtain ⟨b, hb, h⟩ := bind_eq_ok_iff.1 h
    have hsuffix := controlled_suffix hb
    grind
  · grind
termination_by cs.length

end

attribute [grind →] controlled_suffix control_suffix

/-- The name of a property of characters, in braces. -/
@[grind →]
theorem property_suffix {negated : Bool} {a : CharSet × List Char}
    (h : property negated cs = .ok a) : a.2 <:+ cs := by
  unfold property at h
  grind

end Escape

/-! ### Names -/

namespace Name

variable {close : Char} {cs : List Char}

/-- The end of a name. -/
@[grind →]
theorem closed_suffix {c : Char} {part : List Char} {a : List Char × List Char}
    (h : closed close c part cs = .ok a) : a.2 <:+ cs := by
  unfold closed at h
  grind

/-- The name that a group is given. -/
@[grind →]
theorem definition_suffix {a : List Char × List Char} (h : definition close cs = .ok a) :
    a.2 <:+ cs := by
  unfold definition at h
  grind

/-- The name or the number of a group that is called. -/
@[grind →]
theorem callee_suffix {a : Name × List Char × List Char} (h : callee close cs = .ok a) :
    a.2.2 <:+ cs := by
  unfold callee at h
  grind [bind_eq_ok_iff]

/-- The level of recursion that a reference may ask for. -/
@[grind →]
theorem level?_suffix {name all : List Char} {a : Option Int × List Char}
    (h : reference.level? close name all cs = .ok a) : a.2 <:+ cs := by
  unfold reference.level? at h
  grind

/-- The name or the number of a group that is referred back to, with its level. -/
@[grind →]
theorem reference_suffix {a : Name × Option Int × List Char × List Char}
    (h : reference close cs = .ok a) : a.2.2.2 <:+ cs := by
  unfold reference at h
  grind [bind_eq_ok_iff]

end Name

/-! ### Brackets -/

namespace Bracket

variable {cs : List Char} {around : Escape.Surroundings}

/-- A class of characters between `[:` and `:]`. -/
@[grind →]
theorem named_suffix {a : CharSet × List Char} (h : named cs = .ok a) : a.2 <:+ cs := by
  unfold named at h
  grind

/-- Which token a number is does not change what it leaves. -/
@[grind =]
theorem snd_ofNumeric (letter : Char) (base : Nat) (a : Escape.Numeric × List Char) :
    (escaped.ofNumeric letter base a).2 = a.2 := by
  unfold escaped.ofNumeric
  split <;> rfl

/-- An escape within a bracket. -/
@[grind →]
theorem escaped_suffix {a : Token × List Char} (h : escaped around cs = .ok a) : a.2 <:+ cs := by
  unfold escaped at h
  grind [bind_eq_ok_iff, map_eq_ok_iff]

/-- A token within a bracket. -/
@[grind →]
theorem next_suffix {a : Token × List Char} (h : next around cs = .ok a) : a.2 <:+ cs := by
  unfold next at h
  grind [map_eq_ok_iff]

/-- The bytes of a character, each of which is an escape. -/
@[grind →]
theorem bytes_suffix {base k : Nat} {a : List Nat × List Char} (h : bytes base k cs = .ok a) :
    a.2 <:+ cs := by
  fun_induction bytes base k cs generalizing a <;> grind [bind_eq_ok_iff]

/-- A character that is given by its bytes. -/
@[grind →]
theorem character_suffix {d : Draft} {n base : Nat} {a : Draft × List Char}
    (h : character d n base cs = .ok a) : a.2 <:+ cs := by
  unfold character at h
  grind [bind_eq_ok_iff]

/-- Brackets hold brackets, so both readers are followed at once. -/
theorem readInner_parts_suffix (fuel : Nat) :
    (∀ {depth cs a}, readInner depth fuel cs = .ok a → a.2 <:+ cs) ∧
      ∀ {depth d token cs a}, parts depth fuel d token cs = .ok a → a.2 <:+ cs := by
  induction fuel with
  | zero =>
    constructor
    · intro depth cs a h
      rw [readInner] at h
      cases h
    · intro depth d token cs a h
      rw [parts] at h
      cases h
  | succ fuel ih =>
    obtain ⟨hinner, hparts⟩ := ih
    constructor
    · intro depth cs a h
      unfold readInner at h
      simp only [throw_eq_error, error_bind] at h
      grind [bind_eq_ok_iff]
    · intro depth d token cs a h
      cases token <;> simp only [parts, bind_eq_ok_iff, throw_eq_error] at h <;>
        grind [bind_eq_ok_iff]

/-- **A bracket** is read up to the one that closes it. -/
@[grind →]
theorem read_suffix {depth : Nat} {a : CharSet × List Char} (h : read depth cs = .ok a) :
    a.2 <:+ cs :=
  (readInner_parts_suffix _).1 h

end Bracket

/-! ### Tokens -/

namespace Token

variable {cs : List Char}

/-- What follows a quantifier and changes it. -/
@[grind! .]
theorem suffix_suffix (q : Quantifier) (plus : Bool) (cs : List Char) :
    (suffix q plus cs).2 <:+ cs := by
  unfold suffix
  grind

/-- A bound of an interval. -/
@[grind →]
theorem count_suffix {a : Option Nat × List Char} (h : count cs = .ok a) : a.2 <:+ cs := by
  unfold count at h
  grind

/-- An interval, up to its closing brace. -/
@[grind →]
theorem interval_suffix {a : Token × List Char} (h : interval cs = .ok (some a)) : a.2 <:+ cs := by
  unfold interval at h
  obtain ⟨⟨low, rest⟩, hlow, h⟩ := bind_eq_ok_iff.1 h
  simp only at h
  split at h
  · obtain ⟨⟨high, rest⟩, hhigh, h⟩ := bind_eq_ok_iff.1 h
    grind
  · grind
  · grind

/-- A brace that starts no interval stands for itself. -/
theorem interval_getD_suffix {o : Option (Token × List Char)} {t : Token}
    (h : interval cs = .ok o) : (o.getD (t, cs)).2 <:+ cs := by
  cases o with
  | none => exact List.suffix_rfl
  | some a => exact interval_suffix h

/-- As within brackets, the token does not change what is left. -/
@[grind =]
theorem snd_ofNumeric (letter : Char) (a : Escape.Numeric × List Char) :
    (ofNumeric letter a).2 = a.2 := by
  unfold ofNumeric
  split <;> rfl

variable {modes : Modes} {groups : Nat} {names : GroupNames} {skips : Nat}

/-- An escape outside of brackets. -/
@[grind →]
theorem escaped_suffix {a : Token × List Char} (h : escaped groups names cs = .ok a) :
    a.2 <:+ cs := by
  unfold escaped at h
  grind [bind_eq_ok_iff, map_eq_ok_iff]

/-- A comment is passed over up to the parenthesis that closes it. -/
@[grind →]
theorem afterComment_suffix {a : List Char} (h : afterComment cs = .ok a) : a <:+ cs := by
  fun_induction afterComment cs <;> grind

/-- **A token is taken off the head** of an expression. -/
@[grind →]
theorem next_suffix {a : Token × List Char} (h : next modes groups names skips cs = .ok a) :
    a.2 <:+ cs := by
  fun_induction next modes groups names skips cs <;>
    grind [bind_eq_ok_iff, map_eq_ok_iff, interval_getD_suffix]

end Token

end Grok.Regex
