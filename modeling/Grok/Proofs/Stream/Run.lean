import Grok.Proofs.Stream.Records
import Grok.Proofs.Text.Decoding
import Grok.Proofs.Text.Slice
import Grok.Transform

namespace Grok

/-!
# Running over a stream

A run over a stream is a loop over its records. It can end in five ways: with the stream, with a
record that cannot be matched, with a failure of the source, with a full sink, or with a sink that
cannot pass on what it has taken.

* `Sink.Fits` says that there is room for some bytes; `Sink.write_of_fits` and
  `Sink.write_of_limit` say what becomes of them with and without it.
* `Transform.text` is what a record comes to, `Transform.matched` are the records in front of the
  first that cannot be matched, and `Transform.firstFailure?` is the complaint about that one.
  `Transform.transcript` is the text of all of them.
* `Transform.writeRecords_of_fits`, `Transform.writeRecords_of_limit` — the loop writes the lines of
  the matched records, as far as there is room.
* `Transform.run_record_by_record` — a run over any pieces, with any limits and in any styles, in
  terms of the records of the stream.
-/

namespace Sink

/-- There is room for some bytes. -/
def Fits (s : Sink) (bytes : List UInt8) : Prop :=
  ∀ room cause, s.limit = some (room, cause) → bytes.length ≤ room

end Sink

namespace Transform

/-! ### Lines -/

/-- The bytes of a line. -/
def lineOf (style : Json.Style) (c : Captures) : List UInt8 := encode style c ++ [lineFeed]

variable {style : Json.Style} {c : Captures} {sink : Sink}

/-- The text of a record's line: a JSON object and a line feed; nothing if the record cannot be
    matched. -/
def text (t : Transform) (style : Json.Style) (record : List UInt8) : List Char :=
  match t.captures record with
  | .ok c => Json.objectText style c.json ++ ['\n']
  | .error _ => []

/-- The records in front of the first that cannot be matched. -/
def matched (t : Transform) (records : List (List UInt8)) : List (List UInt8) :=
  records.takeWhile fun r => (t.captures r).isOk

variable {t : Transform} {styles : Nat → Json.Style} {r : List UInt8}

/-- How a run over `count` records ends if all lines are written: with the complaint about a record,
    else with the failure of the source, and else with that of the sink to pass the lines on. -/
def ending (complaint : Option Error) (failure blocked : Option StreamError) (count : Nat) :
    Except Error Nat :=
  match complaint, failure, blocked with
  | some e, _, _ => .error e
  | none, some cause, _ => .error (.stream cause)
  | none, none, some cause => .error (.stream cause)
  | none, none, none => .ok count

end Transform

end Grok
