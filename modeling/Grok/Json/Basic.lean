import Grok.Number.Shortest
import Grok.Text.Digits

namespace Grok

/-!
# JSON text of flat objects

Captured fields are written as one flat JSON object per record.

* `Json.Scalar` is a member's value, `Json.Object` a list of members.
* `Json.Style` is what the members leave open about their text.
* `Json.quote` escapes what has to be escaped and nothing else.
* `Json.Scalar.encode` and `Json.objectText` write values and objects without any blanks.
-/

namespace Json

/-- The value of an object's member. -/
inductive Scalar where
  | boolean (b : Bool)
  | integer (n : Int)
  | real (x : Floating)
  | text (s : String)
  deriving DecidableEq, Inhabited

/-- An object: its members in order. -/
abbrev Object := List (String × Scalar)

/-- What an object leaves open about its text. -/
structure Style where
  /-- The order in which the members are written. -/
  order : Object → Object
  /-- Each member is written, and only once. -/
  order_perm : ∀ o, (order o).Perm o
  /-- What stands for a number that is not finite: JSON has no form for it. -/
  nonfinite : Floating → List Char

/-- The style where none is asked for: members as they come, and a word for all numbers that are not
    finite. No property of lines depends on the word. -/
def Style.plain : Style where
  order := id
  order_perm := .refl
  nonfinite _ := "nonfinite".toList

/-- The digit of `n < 16` in lower-case hexadecimal notation. -/
def hexDigit (n : Nat) : Char := Nat.digitChar n

/-- The escape of one character: the quote and the backslash, the control characters that have a
    short form, and the other characters below a blank as `\u00xx`. -/
def escape (c : Char) : List Char :=
  if c = '"' then ['\\', '"']
  else if c = '\\' then ['\\', '\\']
  else if c = '\x08' then ['\\', 'b']
  else if c = '\x0c' then ['\\', 'f']
  else if c = '\n' then ['\\', 'n']
  else if c = '\r' then ['\\', 'r']
  else if c = '\t' then ['\\', 't']
  else if c.toNat < 32 then
    ['\\', 'u', '0', '0', hexDigit (c.toNat / 16), hexDigit (c.toNat % 16)]
  else [c]

/-- A text between quotes. -/
def quote (s : String) : List Char := '"' :: s.toList.flatMap escape ++ ['"']

/-- The text of a number: the shortest digits of a 64-bit float. What is not finite is left to the
    style. -/
def realText (style : Style) : Floating → List Char
  | .finite negative m e => Floating.Format.double.write .compact (.finite negative m e)
  | x => style.nonfinite x

namespace Scalar

/-- The JSON text of a value. -/
def encode (v : Scalar) (style : Style := .plain) : List Char :=
  match v with
  | .boolean true => "true".toList
  | .boolean false => "false".toList
  | .integer n => Digits.ofInt n
  | .real x => realText style x
  | .text s => quote s

end Scalar

/-- The text of one member. -/
def memberText (style : Style) (m : String × Scalar) : List Char :=
  quote m.1 ++ ':' :: m.2.encode style

/-- The members of an object, separated by commas. -/
def membersText (style : Style) : Object → List Char
  | [] => []
  | [m] => memberText style m
  | m :: ms => memberText style m ++ ',' :: membersText style ms

/-- The text of an object. -/
def objectText (style : Style) (o : Object) : List Char :=
  '{' :: membersText style (style.order o) ++ ['}']

end Json

end Grok
