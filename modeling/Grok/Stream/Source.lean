import Grok.Error

namespace Grok

/-!
# Sources of records

A `Source` delivers bytes in pieces and may fail behind the last of them. Its records are the
stretches between line feeds, wherever the pieces are cut.

* `Source.lines` are the lines that end in a line feed, and the rest behind the last of them.
* `Source.records` are the records that can be delivered: the rest counts only if nothing failed.
* `Source.limit` makes a source fail once a number of bytes has gone through.
-/

/-- The byte that ends a line. -/
def lineFeed : UInt8 := 10

/-- The byte that is dropped at the end of a line. -/
def carriageReturn : UInt8 := 13

/-- What a reader delivers: pieces of bytes, and how it ends. -/
structure Source where
  pieces : List (List UInt8)
  /-- The failure behind the last piece; `none` for the end of the input. -/
  failure : Option StreamError := none
  deriving DecidableEq, Repr, Inhabited

namespace Source

/-- Cuts bytes after every line feed: the lines without their line feeds, and the rest. -/
def cut : List UInt8 → List (List UInt8) × List UInt8
  | [] => ([], [])
  | b :: bs =>
    let (lines, rest) := cut bs
    if b = lineFeed then ([] :: lines, rest)
    else
      match lines with
      | [] => ([], b :: rest)
      | line :: lines => ((b :: line) :: lines, rest)

/-- The lines of a sequence of pieces: the rest of one piece is continued by the next one. -/
def linesFrom (rest : List UInt8) : List (List UInt8) → List (List UInt8) × List UInt8
  | [] => ([], rest)
  | piece :: pieces =>
    match cut piece with
    | ([], more) => linesFrom (rest ++ more) pieces
    | (line :: lines, more) =>
      let (later, last) := linesFrom more pieces
      ((rest ++ line) :: lines ++ later, last)

/-- The lines that end in a line feed, and what follows the last of them. -/
def lines (s : Source) : List (List UInt8) × List UInt8 := linesFrom [] s.pieces

/-- A line without the carriage return at its end, if there is one. -/
def dropReturn (line : List UInt8) : List UInt8 :=
  if line.getLast? = some carriageReturn then line.dropLast else line

/-- The records that a source delivers. What follows the last line feed is a record of its own,
    unless it is empty or was broken off by a failure. -/
def records (s : Source) : List (List UInt8) :=
  let (lines, rest) := s.lines
  (lines ++ if rest = [] ∨ s.failure.isSome then [] else [rest]).map dropReturn

/-- Cuts bytes into pieces of `size + 1` bytes; the first argument bounds their number. -/
def chop (size : Nat) : Nat → List UInt8 → List (List UInt8)
  | 0, _ => []
  | _, [] => []
  | count + 1, bs => bs.take (size + 1) :: chop size count (bs.drop (size + 1))

/-- A source of the given bytes, in pieces of `size + 1` bytes. -/
def ofBytes (size : Nat) (bytes : List UInt8) : Source := ⟨chop size bytes.length bytes, none⟩

/-- The first `n` bytes of a sequence of pieces. -/
def takeBytes : Nat → List (List UInt8) → List (List UInt8)
  | _, [] => []
  | n, piece :: pieces =>
    if n = 0 then []
    else if n ≤ piece.length then [piece.take n]
    else piece :: takeBytes (n - piece.length) pieces

/-- A source that fails once `n` bytes have gone through, also if nothing would follow them. -/
def limit (n : Nat) (cause : StreamError) (s : Source) : Source :=
  if n ≤ s.pieces.flatten.length then ⟨takeBytes n s.pieces, some cause⟩ else s

end Source

end Grok
