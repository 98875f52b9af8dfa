import Grok.Unicode.Class

namespace Grok.Regex

/-!
# Word characters

Outside of brackets, in names and at word boundaries, the superscripts and fractions among the first
256 code points are word characters too.
-/

/-- The superscripts and fractions among the first 256 code points. -/
def latinNumbers : CharSet := ⟨[⟨0xB2, 0xB3⟩, ⟨0xB9, 0xB9⟩, ⟨0xBC, 0xBE⟩]⟩

/-- Word characters outside of brackets. -/
def word : CharSet := Unicode.word.union latinNumbers

/-- Is `c` a word character outside of brackets? -/
def isWord (c : Char) : Bool := Unicode.isWord c || latinNumbers.contains c

end Grok.Regex
