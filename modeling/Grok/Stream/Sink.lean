import Grok.Error

namespace Grok

/-!
# Sinks for bytes

A `Sink` takes bytes until it is full, and says so only when more is written.

* `Sink.write` writes as much as there is room for.
* `Sink.flush` asks whether all that was written has arrived.
* `Sink.output` is what has been written so far.
-/

/-- What has been written, and how much more can be. -/
structure Sink where
  /-- The pieces written so far, the latest first. -/
  pieces : List (List UInt8) := []
  /-- The number of bytes there is still room for, and the failure behind them; `none` without a
      limit. -/
  limit : Option (Nat × StreamError) := none
  /-- Why what has been written cannot be passed on in the end, if that is so. -/
  blocked : Option StreamError := none
  deriving DecidableEq, Repr, Inhabited

namespace Sink

/-- All bytes written so far. -/
def output (s : Sink) : List UInt8 := s.pieces.reverse.flatten

/-- Writes bytes. Those that there is no room for are lost, and the write fails. -/
def write (s : Sink) (bytes : List UInt8) : Sink × Except StreamError Unit :=
  match s.limit with
  | none => ({ s with pieces := bytes :: s.pieces }, .ok ())
  | some (room, cause) =>
    if bytes.length ≤ room then
      ({ s with pieces := bytes :: s.pieces, limit := some (room - bytes.length, cause) }, .ok ())
    else ({ s with pieces := bytes.take room :: s.pieces, limit := some (0, cause) }, .error cause)

/-- Passes on what has been written. -/
def flush (s : Sink) : Except StreamError Unit :=
  match s.blocked with
  | none => .ok ()
  | some cause => .error cause

end Sink

end Grok
