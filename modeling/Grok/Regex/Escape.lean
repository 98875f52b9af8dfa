import Grok.Regex.Fault
import Grok.Regex.Letter
import Grok.Unicode.Property

namespace Grok.Regex

/-!
# Escapes

What a backslash and the characters behind it stand for, as far as it is the same within and outside
of brackets.

* `Escape.numeric` reads a number, `\x41`, `\u0041` or `\x{41 42}`.
* `Escape.controlled` reads control and meta characters and the letters that name a character.
* `Escape.property` reads a property, `\p{Greek}`.
* `Escape.bytesToLetter?` puts letters together that are written as bytes.
-/

namespace Escape

/-- The value of a digit of any base up to sixteen. -/
def digitValue? (c : Char) : Option Nat :=
  if c.isDigit then some (c.toNat - '0'.toNat)
  else if 'a' ≤ c ∧ c ≤ 'f' then some (c.toNat - 'a'.toNat + 10)
  else if 'A' ≤ c ∧ c ≤ 'F' then some (c.toNat - 'A'.toNat + 10)
  else none

/-- Is `c` a digit of the base? -/
def isDigit (base : Nat) (c : Char) : Bool := (digitValue? c).any (· < base)

/-- The leading digits of a text, at most `most` of them, and what follows. -/
def splitDigits (base most : Nat) (cs : List Char) : List Char × List Char :=
  let ds := (cs.take most).takeWhile (isDigit base)
  (ds, cs.drop ds.length)

/-- The number that digits stand for. -/
def value (base : Nat) (ds : List Char) : Nat :=
  ds.foldl (fun n c => base * n + (digitValue? c).getD 0) 0

/-- The largest number that fits a code point's place. -/
def maxCode : Nat := 0xFFFFFFFF

/-- Does a digit follow another one so closely that a number of the base is too long? Octal numbers
    count all decimal digits. -/
def prolongs (base : Nat) (c : Char) : Bool := isDigit (max base 10) c

/-- A code point in braces, or the hyphen between two of them. -/
inductive Point where
  | code (n : Nat)
  | range
  deriving DecidableEq, Repr

/-- What may stand next between braces: `hyphen` tells whether a range may go on here, `digit`
    whether the last character was a digit, `isOpen` whether a range lacks its end. -/
structure Place where
  hyphen : Bool
  digit : Bool
  isOpen : Bool

/-- Reads the code points behind the first one up to the closing brace; the points come in reverse
    order. Ranges are allowed within brackets only. -/
def more (base most : Nat) (ranges : Bool) :
    Nat → Place → List Point → List Char → Except Fault (List Point × List Char)
  | 0, _, _, _ => .error .invalidCodePoint
  | fuel + 1, at_, ps, cs =>
    match cs with
    | [] => .error .invalidCodePoint
    | '\x7d' :: rest =>
      if at_.isOpen ∨ ps.length ≤ 1 then .error .invalidCodePoint else .ok (ps.reverse, rest)
    | c :: rest =>
      if c = ' ' ∨ c = '\n' then more base most ranges fuel { at_ with digit := false } ps rest
      else if c = '-' ∧ ranges ∧ at_.hyphen then
        more base most ranges fuel ⟨false, false, true⟩ (.range :: ps) rest
      else if at_.digit then
        .error (if prolongs base c then .codePointTooLong else .invalidCodePoint)
      else
        match splitDigits base most cs with
        | ([], _) => .error .invalidCodePoint
        | (ds, rest) =>
          if maxCode < value base ds then .error .numberTooLarge
          else more base most ranges fuel ⟨!at_.isOpen, true, false⟩ (.code (value base ds) :: ps) rest

/-- Where the code points in braces stand: outside of brackets, where they form no ranges, within
    them, or behind the hyphen of a range, where the first one cannot start another. -/
inductive Surroundings where
  | outside
  | bracket
  | rangeEnd
  deriving DecidableEq, Repr

/-- Reads code points behind an opening brace. There are none if no digit follows. -/
def braced? (base most : Nat) (around : Surroundings) (cs : List Char) :
    Option (Except Fault (List Point × List Char)) :=
  let (ds, rest) := splitDigits base most cs
  if maxCode < value base ds then some (.error .numberTooLarge)
  else if rest.head?.any (prolongs base) then some (.error .codePointTooLong)
  else if ds = [] then none
  else
    match rest with
    | '\x7d' :: rest => some (.ok ([.code (value base ds)], rest))
    | rest => some (more base most (around ≠ .outside) (rest.length + 1) ⟨around = .bracket, false, false⟩
        [.code (value base ds)] rest)

/-- What a number behind a backslash stands for. -/
inductive Numeric where
  /-- code points -/
  | points (ps : List Point)
  /-- a byte of a character -/
  | byte (n : Nat)
  /-- no number: the letter stands for itself -/
  | letter
  deriving DecidableEq, Repr

/-- Reads an octal number of at most `most` digits, of which the lowest eight bits count; without a
    digit it is zero. -/
def octal (most : Nat) (cs : List Char) : Numeric × List Char :=
  let (ds, rest) := splitDigits 8 most cs
  (.byte (value 8 ds % 256), rest)

/-- Reads what follows `\x`, `\o` or `\u`. -/
def numeric (c : Char) (around : Surroundings) (cs : List Char) :
    Except Fault (Numeric × List Char) :=
  match c, cs with
  | 'x', '\x7b' :: inner => points 16 8 inner
  | 'o', '\x7b' :: inner => points 8 11 inner
  | 'x', _ :: _ =>
    let (ds, rest) := splitDigits 16 2 cs
    .ok (.byte (value 16 ds), rest)
  | 'u', _ :: _ =>
    let (ds, rest) := splitDigits 16 4 cs
    if ds.length < 4 then .error .invalidCodePoint else .ok (.points [.code (value 16 ds)], rest)
  | _, _ => .ok (.letter, cs)
where
  /-- Code points in braces; without one the letter stands for itself. -/
  points (base most : Nat) (inner : List Char) : Except Fault (Numeric × List Char) :=
    match braced? base most around inner with
    | none => .ok (.letter, cs)
    | some (.ok (ps, rest)) => .ok (.points ps, rest)
    | some (.error e) => .error e

/-- The character that a letter names. -/
def named (c : Char) : Nat :=
  match c with
  | 'n' => 0x0A
  | 't' => 0x09
  | 'r' => 0x0D
  | 'f' => 0x0C
  | 'a' => 0x07
  | 'b' => 0x08
  | 'e' => 0x1B
  | 'v' => 0x0B
  | c => c.toNat

mutual

/-- Reads what stands for one character behind a backslash: a letter that names one, a control
    character `\C-x` or `\cx`, or a meta character `\M-x`. -/
def controlled : List Char → Except Fault (Nat × List Char)
  | [] => .error .endAtEscape
  | 'M' :: cs =>
    match cs with
    | [] => .error .endAtMeta
    | '-' :: [] => .error .endAtMeta
    | '-' :: '\\' :: rest => do
      let (n, rest) ← controlled rest
      .ok (n % 256 ||| 0x80, rest)
    | '-' :: c :: rest => .ok (c.toNat % 256 ||| 0x80, rest)
    | _ :: _ => .error .metaForm
  | 'C' :: cs =>
    match cs with
    | [] => .error .endAtControl
    | '-' :: rest => control rest
    | _ :: _ => .error .controlForm
  | 'c' :: cs => control cs
  | c :: rest => .ok (named c, rest)

/-- Reads the character that a control character is made of. -/
def control : List Char → Except Fault (Nat × List Char)
  | [] => .error .endAtControl
  | '?' :: rest => .ok (0x7F, rest)
  | '\\' :: rest => do
    let (n, rest) ← controlled rest
    .ok (n &&& 0x9F, rest)
  | c :: rest => .ok (c.toNat &&& 0x9F, rest)

end

/-- The end of a property name, and the characters that such names may not hold. -/
def endsProperty (c : Char) : Bool := ['\x7d', '(', ')', '\x7b', '|'].contains c

/-- Reads a property behind its opening brace. -/
def property (negated : Bool) (cs : List Char) : Except Fault (CharSet × List Char) :=
  let (negated, cs) := match cs with
    | '^' :: cs => (!negated, cs)
    | cs => (negated, cs)
  let name := cs.takeWhile fun c => !endsProperty c
  match cs.dropWhile fun c => !endsProperty c with
  | '\x7d' :: rest =>
    match Unicode.property? name with
    | some s => .ok (s.negateIf negated, rest)
    | none => .error (.unknownProperty name)
  | _ => .error .openParenthesis

/-- The class of a letter behind a backslash, as brackets hold it. -/
def letterClass? (c : Char) : Option CharSet :=
  match c with
  | 'w' => some Unicode.word
  | 'W' => some Unicode.word.complement
  | 'd' => some Unicode.decimalNumber
  | 'D' => some Unicode.decimalNumber.complement
  | 's' => some Unicode.whiteSpace
  | 'S' => some Unicode.whiteSpace.complement
  | 'h' => some Unicode.hexDigit
  | 'H' => some Unicode.hexDigit.complement
  | _ => none

/-- The number of bytes that a first byte announces. -/
def byteCount (b : Nat) : Nat :=
  if b < 0xC0 then 1 else if b < 0xE0 then 2 else if b < 0xF0 then 3 else if b < 0xF5 then 4 else 1

/-- The letter that bytes stand for. The first one is no continuation, and all others are; the code
    point need not be one of a character. -/
def bytesToLetter? : List Nat → Option Letter
  | [] => none
  | b :: bs =>
    let isTail := fun (n : Nat) => 0x80 ≤ n && n < 0xC0
    if isTail b ∨ !bs.all isTail then none
    else
      let head := if bs = [] then b else b % Nat.pow 2 (6 - bs.length)
      some ⟨bs.foldl (fun n t => 64 * n + t % 64) head, bs.length + 1⟩

end Escape

end Grok.Regex
