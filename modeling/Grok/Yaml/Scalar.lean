import Grok.Number.Decimal
import Grok.Number.Shortest
import Grok.Text.Quoted
import Grok.Yaml.Event

namespace Grok.Yaml

/-!
# What scalars stand for

A plain scalar may be more than a text: nothing, a truth value, or a number. A tag can ask for one of
these in other styles as well.

* `Scalar.boolean?` and `Scalar.unsigned?` read a scalar as a value of a type.
* `Shape` describes a node in messages, and `Scalar.shape` is the one of a scalar.
-/

/-- The tags of the types that scalars can have. -/
inductive CoreTag where
  | boolean
  | integer
  | real
  | null
  deriving DecidableEq, Repr

namespace CoreTag

/-- The text of a tag. -/
def text : CoreTag → List Char
  | boolean => "tag:yaml.org,2002:bool".toList
  | integer => "tag:yaml.org,2002:int".toList
  | real => "tag:yaml.org,2002:float".toList
  | null => "tag:yaml.org,2002:null".toList

/-- What a scalar with the tag has to be. -/
def expectation : CoreTag → String
  | boolean => "a boolean"
  | integer => "an integer"
  | real => "a float"
  | null => "null"

/-- The tag of a text. -/
def ofText? (cs : List Char) : Option CoreTag :=
  [boolean, integer, real, null].find? fun t => t.text = cs

end CoreTag

/-! ### Literals -/

namespace Literal

/-- Does the text say that there is nothing? -/
def isNull (cs : List Char) : Bool :=
  ["null", "Null", "NULL", "~"].any fun s => s.toList = cs

/-- The truth value that a text denotes. -/
def boolean? (cs : List Char) : Option Bool :=
  if ["true", "True", "TRUE"].any fun s => s.toList = cs then some true
  else if ["false", "False", "FALSE"].any fun s => s.toList = cs then some false
  else none

/-- Is this a sign? -/
def isSign (c : Char) : Bool := c == '+' || c == '-'

/-- A text without a plus sign in front. -/
def dropPlus : List Char → List Char
  | '+' :: cs => cs
  | cs => cs

/-- Are these digits with a needless zero in front? Such a text is no number. -/
def isPadded (cs : List Char) : Bool :=
  let body := if cs.head?.any isSign then cs.tail else cs
  1 < body.length && body.head? == some '0' && body.all Char.isDigit

/-- The number that digits denote in a base of at most sixteen. -/
def digits? (base : Nat) (cs : List Char) : Option Nat :=
  if cs = [] then none
  else cs.foldlM (fun n c => (hexValue? c).bind fun d =>
    if d < base then some (base * n + d) else none) 0

/-- The number that a text without a sign denotes; its base is marked by a letter behind a zero. -/
def magnitude? : List Char → Option Nat
  | '0' :: 'x' :: cs => digits? 16 cs
  | '0' :: 'o' :: cs => digits? 8 cs
  | '0' :: 'b' :: cs => digits? 2 cs
  | cs => digits? 10 cs

/-- The number that a text denotes, with or without a plus sign. -/
def unsigned? (cs : List Char) : Option Nat := if isPadded cs then none else magnitude? (dropPlus cs)

/-- The number that a text with a minus sign denotes. -/
def negative? : List Char → Option Int
  | '-' :: cs => if isPadded cs then none else (magnitude? cs).map fun n => -(n : Int)
  | _ => none

/-- The float that a text denotes, unless it is too large for one. -/
def real? (cs : List Char) : Option Floating :=
  let body := dropPlus cs
  let among (words : List String) (cs : List Char) : Bool := words.any fun s => s.toList = cs
  if cs.head? = some '+' ∧ body.head?.any isSign then none
  else if among [".inf", ".Inf", ".INF"] body then some (.infinite false)
  else if among ["-.inf", "-.Inf", "-.INF"] cs then some (.infinite true)
  else if among [".nan", ".NaN", ".NAN"] cs then some .nan
  else
    match Floating.Format.double.ofLiteral? body with
    | some (.finite negative m e) => some (.finite negative m e)
    | _ => none

end Literal

/-! ### Shapes -/

/-- What a node is, in messages. -/
inductive Shape where
  | unit
  | boolean (b : Bool)
  | integer (n : Int)
  /-- an integer that needs more than 64 bits, and the name of a type that holds it -/
  | wide (n : Int) (type : String)
  | real (x : Floating)
  | string (cs : List Char)
  | sequence
  | map
  deriving DecidableEq

namespace Shape

/-- Floats in messages are written positionally, whole numbers with `.0`. -/
def realLayout : Floating.Layout := ⟨none, none, ['.', '0']⟩

/-- The wording of a shape. -/
def text : Shape → String
  | unit => "unit value"
  | boolean b => if b then "boolean `true`" else "boolean `false`"
  | integer n => "integer `" ++ String.ofList (Digits.ofInt n) ++ "`"
  | wide n type => "integer `" ++ String.ofList (Digits.ofInt n) ++ "` as " ++ type
  | real x =>
    "floating point `" ++ String.ofList (Floating.Format.double.write realLayout x) ++ "`"
  | string cs => "string " ++ String.ofList (Quoted.encode cs)
  | sequence => "sequence"
  | map => "map"

/-- The shape of an integer literal, unless it needs more than 128 bits. -/
def integer? (cs : List Char) : Option Shape :=
  match Literal.unsigned? cs, Literal.negative? cs with
  | some n, _ =>
    if n < Nat.pow 2 64 then some (.integer n)
    else if n < Nat.pow 2 128 then some (.wide n "u128")
    else none
  | none, some n =>
    if -(Nat.pow 2 63 : Int) ≤ n then some (.integer n)
    else if -(Nat.pow 2 127 : Int) ≤ n then some (.wide n "i128")
    else none
  | none, none => none

/-- The shape of a plain scalar without a tag. -/
def ofPlain (cs : List Char) : Shape :=
  if cs = [] ∨ Literal.isNull cs then .unit
  else
    match Literal.boolean? cs with
    | some b => .boolean b
    | none =>
      match integer? cs with
      | some s => s
      | none =>
        match if Literal.isPadded cs then none else Literal.real? cs with
        | some x => .real x
        | none => .string cs

/-- The shape of a text under the tag of a type, if it is a literal of that type. -/
def ofTagged? (t : CoreTag) (cs : List Char) : Option Shape :=
  match t with
  | .boolean => (Literal.boolean? cs).map .boolean
  | .integer => integer? cs
  | .real => (Literal.real? cs).map .real
  | .null => if Literal.isNull cs then some .unit else none

end Shape

namespace Scalar

/-- Is this a scalar that is neither marked nor written at all? -/
def isEmpty (s : Scalar) : Bool := s.style == .plain && s.text.isEmpty

/-- Can the scalar be read as a value of the tag's type? It can if it is plain, or if it is a
    literal scalar with the tag. -/
def mayBe (s : Scalar) (t : CoreTag) : Bool :=
  s.style == .plain || (s.style == .literal && s.tag == some t.text)

/-- The truth value of a scalar. -/
def boolean? (s : Scalar) : Option Bool :=
  if s.mayBe .boolean then Literal.boolean? s.text else none

/-- The number of a scalar, if 64 bits hold it. -/
def unsigned? (s : Scalar) : Option UInt64 :=
  if s.mayBe .integer then
    (Literal.unsigned? s.text).bind fun n => if n < Nat.pow 2 64 then some (.ofNat n) else none
  else none

/-- The shape of a scalar. The error is the tag that its text is no literal of. -/
def shape (s : Scalar) : Except CoreTag Shape :=
  match s.tag with
  | none => .ok (if s.style = .plain then .ofPlain s.text else .string s.text)
  | some tag =>
    match CoreTag.ofText? tag with
    | some t =>
      match Shape.ofTagged? t s.text with
      | some shape => .ok shape
      | none => .error t
    | none =>
      .ok (if tag.head? = some '!' ∧ s.style = .plain then .ofPlain s.text else .string s.text)

/-- Does the scalar say that a value is left out? The error is the tag that its text contradicts. -/
def isAbsent (s : Scalar) : Except CoreTag Bool :=
  if s.style ≠ .plain then .ok false
  else
    match s.tag with
    | none => .ok (s.text.isEmpty || Literal.isNull s.text)
    | some tag =>
      if tag = CoreTag.null.text then
        if Literal.isNull s.text then .ok true else .error .null
      else .ok false

end Scalar

end Grok.Yaml
