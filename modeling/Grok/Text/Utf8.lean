namespace Grok

/-!
# UTF-8

A byte sequence is cut into well-formed characters and maximal ill-formed parts.

* `Utf8.parts` is the cut.
* `Utf8.decode?` decodes well-formed sequences only.
* `Utf8.decodeLossy` decodes any sequence; each ill-formed part becomes one replacement character.
* `Utf8.width` is the number of bytes of a character, and `Utf8.lead` the first of them.
* `Utf8.slice?` cuts a text at byte offsets.
-/

namespace Utf8

/-- What stands for an ill-formed part. -/
def replacement : Char := '\uFFFD'

/-- The range of the second byte and the number of bytes after the first, by the first byte of a
    sequence that is longer than one byte. -/
def leading? (b : UInt8) : Option (UInt8 × UInt8 × Nat) :=
  if 0xC2 ≤ b ∧ b ≤ 0xDF then some (0x80, 0xBF, 1)
  else if b = 0xE0 then some (0xA0, 0xBF, 2)
  else if b = 0xED then some (0x80, 0x9F, 2)
  else if 0xE1 ≤ b ∧ b ≤ 0xEF then some (0x80, 0xBF, 2)
  else if b = 0xF0 then some (0x90, 0xBF, 3)
  else if 0xF1 ≤ b ∧ b ≤ 0xF3 then some (0x80, 0xBF, 3)
  else if b = 0xF4 then some (0x80, 0x8F, 3)
  else none

/-- Does a byte continue a sequence? -/
def isContinuation (b : UInt8) : Bool := 0x80 ≤ b && b ≤ 0xBF

/-- The bytes that follow the first byte of a sequence, as far as they belong to it: the second
    byte has a range of its own. -/
def tail (low high : UInt8) (n : Nat) : List UInt8 → List UInt8
  | [] => []
  | b :: bs =>
    if low ≤ b ∧ b ≤ high then b :: (bs.take (n - 1)).takeWhile isContinuation else []

/-- The code point of a sequence. -/
def codePoint (first : UInt8) (rest : List UInt8) : Nat :=
  let bits := match rest.length with
    | 1 => first.toNat % 32
    | 2 => first.toNat % 16
    | _ => first.toNat % 8
  rest.foldl (fun n b => 64 * n + b.toNat % 64) bits

/-- A character, or `none` for an ill-formed part. The first argument is the number of bytes that
    belong to the part reported last. -/
def partsFrom : Nat → List UInt8 → List (Option Char)
  | _, [] => []
  | skip + 1, _ :: bs => partsFrom skip bs
  | 0, b :: bs =>
    if b < 0x80 then some (Char.ofNat b.toNat) :: partsFrom 0 bs
    else
      match leading? b with
      | none => none :: partsFrom 0 bs
      | some (low, high, n) =>
        let rest := tail low high n bs
        let part := if rest.length = n then some (Char.ofNat (codePoint b rest)) else none
        part :: partsFrom rest.length bs

/-- The characters and the ill-formed parts of a byte sequence. -/
def parts (bs : List UInt8) : List (Option Char) := partsFrom 0 bs

/-- The text of a well-formed sequence. -/
def decode? (bs : List UInt8) : Option (List Char) := (parts bs).mapM id

/-- The text of any sequence, with a replacement character for each ill-formed part. -/
def decodeLossy (bs : List UInt8) : List Char := (parts bs).map fun c => c.getD replacement

/-- The bytes of a text. -/
def encode (cs : List Char) : List UInt8 := cs.flatMap String.utf8EncodeChar

/-- The number of bytes of a character. -/
def width (c : Char) : Nat := c.utf8Size

/-- The first byte of a character. -/
def lead (c : Char) : Nat :=
  let n := c.toNat
  if n < 0x80 then n
  else if n < 0x800 then 0xC0 + n / 0x40
  else if n < 0x10000 then 0xE0 + n / 0x1000
  else 0xF0 + n / 0x40000

/-- The number of bytes of a text. -/
def byteLength : List Char → Nat
  | [] => 0
  | c :: cs => width c + byteLength cs

/-- The text before and after a byte offset, if that lies on a character boundary. -/
def splitAt? : Nat → List Char → Option (List Char × List Char)
  | 0, cs => some ([], cs)
  | _ + 1, [] => none
  | n + 1, c :: cs =>
    if width c ≤ n + 1 then (splitAt? (n + 1 - width c) cs).map fun (a, b) => (c :: a, b)
    else none

/-- The text between two byte offsets, if both lie on character boundaries in this order. -/
def slice? (start stop : Nat) (cs : List Char) : Option (List Char) :=
  if start ≤ stop then do
    let (_, rest) ← splitAt? start cs
    let (part, _) ← splitAt? (stop - start) rest
    some part
  else none

end Utf8

end Grok
