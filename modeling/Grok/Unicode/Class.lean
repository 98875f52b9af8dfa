import Grok.Unicode.Category
import Grok.Unicode.Core

namespace Grok.Unicode

/-!
# Classes of characters

The classes that expressions refer to by a short name, made of general categories and derived
properties, and the two of them that texts are cut by: word characters and white space.
-/

/-- All marks. -/
def mark : CharSet := (nonspacingMark.union spacingMark).union enclosingMark

/-- All punctuation categories. -/
def punctuation : CharSet :=
  [connectorPunctuation, dashPunctuation, openPunctuation, closePunctuation, initialPunctuation,
    finalPunctuation, otherPunctuation].foldl CharSet.union .empty

/-- All symbol categories. -/
def symbol : CharSet :=
  [mathSymbol, currencySymbol, modifierSymbol, otherSymbol].foldl CharSet.union .empty

/-- Code points that are assigned to a character or reserved for private use. -/
def assigned : CharSet :=
  [uppercaseLetter, lowercaseLetter, titlecaseLetter, modifierLetter, otherLetter, mark,
    decimalNumber, letterNumber, otherNumber, punctuation, symbol, spaceSeparator, lineSeparator,
    paragraphSeparator, control, format, surrogate, privateUse].foldl CharSet.union .empty

/-- Code points without a character. -/
def unassigned : CharSet := assigned.complement

/-- The first 128 code points. -/
def ascii : CharSet := ⟨[⟨0, 0x7F⟩]⟩

/-- Letters and decimal digits. -/
def alphanumeric : CharSet := alphabetic.union decimalNumber

/-- The blank and the tab, and the other space separators. -/
def blank : CharSet := spaceSeparator.union (.single 9)

/-- Characters with a visible shape. -/
def graph : CharSet :=
  (((whiteSpace.union control).union unassigned).union surrogate).complement

/-- Visible characters and space separators. -/
def print : CharSet := graph.union spaceSeparator

/-- What is written besides letters, digits and blanks: punctuation and symbols. -/
def punct : CharSet := punctuation.union symbol

/-- The hexadecimal digits. -/
def hexDigit : CharSet := ⟨[⟨0x30, 0x39⟩, ⟨0x41, 0x46⟩, ⟨0x61, 0x66⟩]⟩

/-- Characters of words: letters, marks, decimal digits and connector punctuation. -/
def word : CharSet := (alphanumeric.union mark).union connectorPunctuation

/-- The word characters, ready for bisection. -/
def wordFinder : CharSet.Finder := word.finder

/-- Is `c` a character of words? The answer for ASCII is spelled out. -/
def isWord (c : Char) : Bool :=
  if c.toNat < 128 then c.isAlphanum || c == '_' else wordFinder.contains c

/-- Is `c` white space? -/
def isWhiteSpace (c : Char) : Bool := whiteSpace.contains c

end Grok.Unicode
