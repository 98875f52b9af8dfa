import Grok.Text.Utf8

namespace Grok.Regex

/-!
# Letters

The texts of an expression are made of letters. Nearly all letters are characters. But an expression
may also write code points that belong to no character, and bytes that make up none: such a letter
matches nothing.

* `Letter.ofChar` and `Letter.ofCode` are the letters of a character and of a code point.
* `Letter.char?` is the character that a letter stands for.
-/

/-- A letter of a text: a code point, and the number of bytes that it is written in. -/
structure Letter where
  code : Nat
  width : Nat
  deriving DecidableEq, Repr, Inhabited

namespace Letter

/-- The largest code point that four bytes can hold. -/
def maxCode : Nat := 0x1FFFFF

/-- The letter of a character. -/
def ofChar (c : Char) : Letter := ⟨c.toNat, Utf8.width c⟩

/-- The letter of a code point that four bytes can hold. -/
def ofCode (n : Nat) : Letter :=
  ⟨n, if n < 0x80 then 1 else if n < 0x800 then 2 else if n < 0x10000 then 3 else 4⟩

/-- The character that the letter stands for: it has the code point and is written in as many
    bytes. -/
def char? (l : Letter) : Option Char :=
  let c := Char.ofNat l.code
  if ofChar c = l then some c else none

/-- The first of its bytes. -/
def lead (l : Letter) : Nat :=
  match l.width with
  | 2 => 0xC0 + l.code / 0x40
  | 3 => 0xE0 + l.code / 0x1000
  | 4 => 0xF0 + l.code / 0x40000
  | _ => l.code

/-- The number of bytes of letters one after the other. -/
def totalWidth (ls : List Letter) : Nat := ls.foldl (fun n l => n + l.width) 0

end Letter

end Grok.Regex
