import Grok.Json.Basic
import Grok.Number.Decimal
import Grok.Number.Integer

namespace Grok

/-!
# Reading flat JSON objects

The inverse of the writer: `Json.readObject` accepts an object whose members are strings, numbers
or booleans, written without blanks, and gives back its members in order. Words that stand for
numbers that are not finite are no JSON and are not read.
-/

namespace Json

/-- The value of a hexadecimal digit. -/
def hexValue? (c : Char) : Option Nat :=
  if c.isDigit then some (c.toNat - '0'.toNat)
  else if 'a' ≤ c ∧ c ≤ 'f' then some (c.toNat - 'a'.toNat + 10)
  else if 'A' ≤ c ∧ c ≤ 'F' then some (c.toNat - 'A'.toNat + 10)
  else none

/-- The character that an escape with a single letter stands for. -/
def unescape? (c : Char) : Option Char :=
  if c = '"' ∨ c = '\\' ∨ c = '/' then some c
  else if c = 'b' then some '\x08'
  else if c = 'f' then some '\x0c'
  else if c = 'n' then some '\n'
  else if c = 'r' then some '\r'
  else if c = 't' then some '\t'
  else none

/-- The character behind a backslash, and what follows its escape. -/
def readEscape : List Char → Option (Char × List Char)
  | 'u' :: a :: b :: c :: d :: cs => do
    let a ← hexValue? a
    let b ← hexValue? b
    let c ← hexValue? c
    let d ← hexValue? d
    some (Char.ofNat (((a * 16 + b) * 16 + c) * 16 + d), cs)
  | c :: cs => (unescape? c).map fun x => (x, cs)
  | [] => none

/-- The characters up to the closing quote, and what follows it. -/
def readQuoted : Nat → List Char → Option (List Char × List Char)
  | 0, _ => none
  | _ + 1, [] => none
  | fuel + 1, c :: cs =>
    if c = '"' then some ([], cs)
    else if c = '\\' then do
      let (x, cs) ← readEscape cs
      let (xs, cs) ← readQuoted fuel cs
      some (x :: xs, cs)
    else if c.toNat < 32 then none
    else do
      let (xs, cs) ← readQuoted fuel cs
      some (c :: xs, cs)

/-- A string with its quotes, and what follows it. -/
def readString : List Char → Option (String × List Char)
  | '"' :: cs => (readQuoted (cs.length + 1) cs).map fun (s, cs) => (String.ofList s, cs)
  | _ => none

/-- The characters of a value that is not a string: all up to a comma or a closing brace. -/
def isBare (c : Char) : Bool := c != ',' && c != '}'

/-- A value that is not a string. -/
def bareValue? (word : List Char) : Option Scalar :=
  if word = "true".toList then some (.boolean true)
  else if word = "false".toList then some (.boolean false)
  else
    match Integer.ofLiteral? word with
    | some n => some (.integer n)
    | none => (Floating.Format.double.ofLiteral? word).map .real

/-- A value, and what follows it. -/
def readScalar (cs : List Char) : Option (Scalar × List Char) :=
  match readString cs with
  | some (s, cs) => some (.text s, cs)
  | none => (bareValue? (cs.takeWhile isBare)).map fun v => (v, cs.dropWhile isBare)

/-- The members of an object that is not empty, up to the closing brace. -/
def readMembers : Nat → List Char → Option Object
  | 0, _ => none
  | fuel + 1, cs => do
    let (name, cs) ← readString cs
    match cs with
    | ':' :: cs =>
      let (value, cs) ← readScalar cs
      match cs with
      | ['}'] => some [(name, value)]
      | ',' :: cs => (readMembers fuel cs).map ((name, value) :: ·)
      | _ => none
    | _ => none

/-- Reads a whole text as an object. -/
def readObject : List Char → Option Object
  | ['{', '}'] => some []
  | '{' :: cs => readMembers (cs.length + 1) cs
  | _ => none

end Json

end Grok
