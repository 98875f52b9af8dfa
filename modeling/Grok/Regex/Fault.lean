import Grok.Text.Utf8

namespace Grok.Regex

/-!
# Faults of expressions

Why a regular expression is rejected, by cause; `Fault.message` words it.
-/

/-- Why an expression is rejected. -/
inductive Fault where
  /-- the expression ends behind a backslash -/
  | endAtEscape
  /-- the expression ends within a meta character -/
  | endAtMeta
  /-- the expression ends within a control character -/
  | endAtControl
  /-- a meta character is not written `\M-x` -/
  | metaForm
  /-- a control character is not written `\C-x` -/
  | controlForm
  /-- a group or a braced escape is not closed -/
  | openParenthesis
  /-- a closing parenthesis closes no group -/
  | closeParenthesis
  /-- the expression ends at the head of a group -/
  | endInGroup
  /-- the head of a group is none of the known ones -/
  | unknownGroup
  /-- a group name is empty -/
  | emptyName
  /-- a group name starts like a number, or is not closed -/
  | invalidName (name : List Char)
  /-- a group name holds a character that names may not hold -/
  | invalidNameChar (name : List Char)
  /-- a reference to a name that no group carries -/
  | undefinedName (name : List Char)
  /-- a call of a group that does not exist -/
  | undefinedGroup (name : List Char)
  /-- a call of a name that several groups carry -/
  | ambiguousCall (name : List Char)
  /-- a back-reference to a group that does not exist -/
  | invalidBackReference
  /-- groups are referred to by number, though some have names -/
  | numberedReference
  /-- a quantifier has nothing to repeat -/
  | nothingToRepeat
  /-- a quantifier repeats something that consumes nothing -/
  | invalidRepeat
  /-- a repetition count is too large -/
  | repeatTooLarge
  /-- a number is too large -/
  | numberTooLarge
  /-- a bracket holds nothing -/
  | emptyBracket
  /-- a bracket is not closed -/
  | openBracket
  /-- a range in a bracket ends before it starts -/
  | emptyRange
  /-- a range in a bracket ends with a class -/
  | classEndsRange
  /-- a range in a bracket starts with a class -/
  | classStartsRange
  /-- a bracket refers to an unknown named class -/
  | unknownClass
  /-- an escape refers to an unknown property -/
  | unknownProperty (name : List Char)
  /-- a number stands for no character -/
  | invalidCodePoint
  /-- a number has too many digits -/
  | codePointTooLong
  /-- bytes break off within a character -/
  | shortByteSequence
  /-- a look-behind holds what it must not hold -/
  | invalidLookBehind
  /-- of an alternative of a look-behind nothing is left -/
  | vanishingLookBehind
  /-- a group calls itself without an end -/
  | endlessRecursion
  /-- an expression is a condition without branches -/
  | invalidConditional
  /-- groups or brackets are nested too deep -/
  | nestingTooDeep
  deriving DecidableEq, Repr

namespace Fault

/-- The number of bytes of a name that a message shows. -/
def shownBytes : Nat := 27

/-- A name in a message: a long one is cut. There is none if the cut parts a character. -/
def shown? (name : List Char) : Option String :=
  if Utf8.byteLength name ≤ shownBytes then some (String.ofList name)
  else (Utf8.slice? 0 shownBytes name).map fun part => String.ofList part ++ "..."

/-- A message about a name. -/
def about (before : String) (name : List Char) (after : String) : String :=
  match shown? name with
  | some s => before ++ s ++ after
  | none => "Onig error string was invalid UTF-8"

/-- The wording of a fault. -/
def message : Fault → String
  | endAtEscape => "end pattern at escape"
  | endAtMeta => "end pattern at meta"
  | endAtControl => "end pattern at control"
  | metaForm => "invalid meta-code syntax"
  | controlForm => "invalid control-code syntax"
  | openParenthesis => "end pattern with unmatched parenthesis"
  | closeParenthesis => "unmatched close parenthesis"
  | endInGroup => "end pattern in group"
  | unknownGroup => "undefined group option"
  | emptyName => "group name is empty"
  | invalidName name => about "invalid group name <" name ">"
  | invalidNameChar name => about "invalid char in group name <" name ">"
  | undefinedName name => about "undefined name <" name "> reference"
  | undefinedGroup name => about "undefined group <" name "> reference"
  | ambiguousCall name => about "multiplex definition name <" name "> call"
  | invalidBackReference => "invalid backref number/name"
  | numberedReference => "numbered backref/call is not allowed. (use name)"
  | nothingToRepeat => "target of repeat operator is not specified"
  | invalidRepeat => "target of repeat operator is invalid"
  | repeatTooLarge => "too big number for repeat range"
  | numberTooLarge => "too big number"
  | emptyBracket => "empty char-class"
  | openBracket => "premature end of char-class"
  | emptyRange => "empty range in char class"
  | classEndsRange => "char-class value at end of range"
  | classStartsRange => "unmatched range specifier in char-class"
  | unknownClass => "invalid POSIX bracket type"
  | unknownProperty name => about "invalid character property name \x7b" name "\x7d"
  | invalidCodePoint => "invalid code point value"
  | codePointTooLong => "too long wide-char value"
  | shortByteSequence => "too short multibyte code string"
  | invalidLookBehind => "invalid pattern in look-behind"
  | vanishingLookBehind => "undefined error code"
  | endlessRecursion => "never ending recursion"
  | invalidConditional => "invalid if-else syntax"
  | nestingTooDeep => "parse depth limit over"

/-- The reason that an engine gives. -/
def reason (f : Fault) : String := "Oniguruma error: " ++ f.message

end Fault

end Grok.Regex
