import Grok.Text.Digits
import Grok.Unicode.Hidden

namespace Grok

/-!
# Quoted texts

A text in a message stands between quotes, and what would not show is written as an escape.

* `Quoted.isVisible` tells which characters show by themselves.
* `Quoted.encode` is the text between quotes.
-/

namespace Quoted

/-- Characters that are always written as an escape, ready for bisection. -/
def escapedFinder : CharSet.Finder := Unicode.hidden.finder

/-- Does a character show by itself? The answer for ASCII is spelled out. -/
def isVisible (c : Char) : Bool :=
  if c.toNat < 128 then 32 ≤ c.toNat && c.toNat < 127 else !escapedFinder.contains c

/-- A number in lower-case hexadecimal notation. -/
def hexadecimal (n : Nat) : List Char := Nat.toDigits 16 n

/-- The written form of one character. -/
def escape (c : Char) : List Char :=
  if c = '\x00' then ['\\', '0']
  else if c = '\t' then ['\\', 't']
  else if c = '\r' then ['\\', 'r']
  else if c = '\n' then ['\\', 'n']
  else if c = '\\' then ['\\', '\\']
  else if c = '"' then ['\\', '"']
  else if isVisible c then [c]
  else ['\\', 'u', '\x7b'] ++ hexadecimal c.toNat ++ ['\x7d']

/-- A text between quotes. -/
def encode (cs : List Char) : List Char := '"' :: cs.flatMap escape ++ ['"']

end Quoted

end Grok
