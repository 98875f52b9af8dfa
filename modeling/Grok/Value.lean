import Grok.Duration.Literal
import Grok.Json.Basic
import Grok.Number.Decimal
import Grok.Number.Integer

namespace Grok

/-!
# Typed values

A captured field is declared with a type and its text is converted to a value of that type.

* `ValueType.ofName?` looks a type up by its name, ignoring the case of ASCII letters.
* `ValueType.convert` reads a text as a literal of the type; a string is any text.
* `Value.text` prints a value, `Value.json` is its value in JSON.
-/

/-- The type a field is declared with. -/
inductive ValueType where
  /-- an integer of 16 bits -/
  | short
  /-- an integer of 32 bits -/
  | int
  /-- an integer of 64 bits -/
  | long
  /-- a floating-point number of 32 bits -/
  | float
  /-- a floating-point number of 64 bits -/
  | double
  /-- `true` or `false` -/
  | boolean
  /-- the text itself -/
  | string
  /-- a length of time -/
  | duration
  deriving DecidableEq, Repr, Inhabited

namespace ValueType

/-- All types. -/
def all : List ValueType := [.short, .int, .long, .float, .double, .boolean, .string, .duration]

/-- The name a type is declared by. -/
def name : ValueType → String
  | .short => "short"
  | .int => "int"
  | .long => "long"
  | .float => "float"
  | .double => "double"
  | .boolean => "boolean"
  | .string => "string"
  | .duration => "duration"

instance : ToString ValueType := ⟨name⟩

/-- The type of a name, whatever the case of its ASCII letters. -/
def ofName? (s : String) : Option ValueType :=
  let lower := s.toList.map Char.toLower
  all.find? fun t => t.name.toList = lower

/-- The type of a name, or a default for an unknown one. -/
def ofNameD (s : String) (default : ValueType) : ValueType := (ofName? s).getD default

/-- The complaint about an unknown name. -/
def unknownNameMessage (s : String) : String := "Unknown grok type `" ++ s ++ "`"

end ValueType

/-- A converted value. -/
inductive Value where
  | short (n : Int16)
  | int (n : Int32)
  | long (n : Int64)
  | float (x : Floating)
  | double (x : Floating)
  | boolean (b : Bool)
  | string (s : String)
  | duration (d : Duration)
  deriving DecidableEq, Inhabited

namespace Value

/-- The type a value was converted to. -/
def valueType : Value → ValueType
  | .short _ => .short
  | .int _ => .int
  | .long _ => .long
  | .float _ => .float
  | .double _ => .double
  | .boolean _ => .boolean
  | .string _ => .string
  | .duration _ => .duration

/-- The text of a string value. -/
def asString? : Value → Option String
  | .string s => some s
  | _ => none

/-- The printed form: integers and floats positionally, durations in seconds. -/
def text : Value → List Char
  | .short n => Digits.ofInt n.toInt
  | .int n => Digits.ofInt n.toInt
  | .long n => Digits.ofInt n.toInt
  | .float x => Floating.Format.single.write .plain x
  | .double x => Floating.Format.double.write .plain x
  | .boolean b => (if b then "true" else "false").toList
  | .string s => s.toList
  | .duration d => d.text

/-- The value in JSON: integers of any width are integers, floats are widened to 64 bits, and a
    duration is its number of nanoseconds, or its text where 64 bits cannot hold that. -/
def json : Value → Json.Scalar
  | .short n => .integer n.toInt
  | .int n => .integer n.toInt
  | .long n => .integer n.toInt
  | .float x => .real (Floating.Format.double.widen x)
  | .double x => .real x
  | .boolean b => .boolean b
  | .string s => .text s
  | .duration d =>
    match d.nanoseconds64? with
    | some n => .integer n
    | none => .text (String.ofList d.text)

/-- The interchange encoding of a float that is not a NaN: the number of bits and the bits. -/
def bits? : Value → Option (Nat × Nat)
  | .float x => (Floating.Format.single.bits? x).map fun b => (32, b)
  | .double x => (Floating.Format.double.bits? x).map fun b => (64, b)
  | _ => none

end Value

namespace ValueType

/-- The value a text denotes, if it is a literal of the type. -/
def convert (t : ValueType) (s : String) : Option Value :=
  let cs := s.toList
  match t with
  | .short => (Integer.short? cs).map .short
  | .int => (Integer.int? cs).map .int
  | .long => (Integer.long? cs).map .long
  | .float => (Floating.Format.single.ofLiteral? cs).map .float
  | .double => (Floating.Format.double.ofLiteral? cs).map .double
  | .boolean =>
    if s = "true" then some (.boolean true)
    else if s = "false" then some (.boolean false)
    else none
  | .string => some (.string s)
  | .duration => (Duration.parse cs).map .duration

end ValueType

end Grok
