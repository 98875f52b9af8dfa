import Grok.Compiler
import Grok.Config.Basic
import Grok.Stream.Sink
import Grok.Stream.Source

namespace Grok

/-!
# Transforming records

A `Transform` matches records against several expressions and collects the fields.

* `Transform.build` compiles the expressions of a configuration.
* `Transform.captures` matches one record: either the first matching expression alone counts, or
  later expressions overwrite the fields of earlier ones.
* `Transform.run` matches the records of a source one after the other and writes a line of JSON for
  each. What an object leaves open about its text may turn out differently for each record.
-/

/-- Compiled expressions and how they are combined. -/
structure Transform where
  matchers : List Matcher
  /-- Does the first match end the search for more fields? -/
  firstMatchOnly : Bool

namespace Transform

/-- Compiles expressions in their order; the first failure ends it. -/
def compileAll (c : Compiler) : List String → Attempt (List Matcher)
  | [] => .ofExcept (.ok [])
  | e :: es =>
    Attempt.andThen (c.compile e) fun m =>
    Attempt.andThen (compileAll c es) fun ms =>
    .ofExcept (.ok (m :: ms))

/-- The layers of definitions that a configuration asks for. -/
def layers (config : Config) : Layers where
  directories := config.directories
  definitions := config.definitions.definitions

/-- Loads the library of a configuration and compiles its expressions. -/
def build (fs : FileSystem) (engine : Engine) (config : Config) : Attempt Transform :=
  if config.expressions = [] then .ofExcept (.error .missingConfiguration)
  else
    Attempt.andThen ((layers config).build fs) fun library =>
    let compiler : Compiler :=
      ⟨library, config.fieldsOnly, ⟨config.retryLimit.map UInt32.toNat⟩, engine⟩
    Attempt.andThen (compileAll compiler config.expressions) fun matchers =>
    .ofExcept (.ok ⟨matchers, config.firstMatchOnly⟩)

/-- Adds the fields that matchers capture in a record to those found so far. -/
def capturesFrom (firstMatchOnly : Bool) (record : List UInt8) (found : Captures) :
    List Matcher → Except Error Captures
  | [] => .ok found
  | m :: ms =>
    match m.captureBytes record with
    | .error e => .error e
    | .ok none => capturesFrom firstMatchOnly record found ms
    | .ok (some captures) =>
      let found := found.merge captures
      if firstMatchOnly then .ok found else capturesFrom firstMatchOnly record found ms

/-- The fields of a record, none if no expression matches. -/
def captures (t : Transform) (record : List UInt8) : Except Error Captures :=
  capturesFrom t.firstMatchOnly record [] t.matchers

/-- The bytes of the JSON object of a record's fields. -/
def encode (style : Json.Style) (c : Captures) : List UInt8 :=
  Utf8.encode (Json.objectText style c.json)

/-- Writes the fields of a record and a line feed. -/
def writeLine (style : Json.Style) (c : Captures) (sink : Sink) :
    Sink × Except StreamError Unit :=
  match sink.write (encode style c) with
  | (sink, .error e) => (sink, .error e)
  | (sink, .ok ()) => sink.write [lineFeed]

/-- Matches records and writes their lines, counting from `count` on. The first failure ends it. -/
def writeRecords (t : Transform) (styles : Nat → Json.Style) (sink : Sink) (count : Nat) :
    List (List UInt8) → Sink × Except Error Nat
  | [] => (sink, .ok count)
  | r :: rs =>
    match t.captures r with
    | .error e => (sink, .error e)
    | .ok c =>
      match writeLine (styles count) c sink with
      | (sink, .error e) => (sink, .error (.stream e))
      | (sink, .ok ()) => writeRecords t styles sink (count + 1) rs

/-- Matches all records of a source, writes their lines to a sink and counts them; `styles` gives
    the style of each line. A failure of the source shows after all records in front of it, and one
    to pass the lines on at the end. -/
def run (t : Transform) (source : Source) (sink : Sink)
    (styles : Nat → Json.Style := fun _ => .plain) : Logged (Sink × Except Error Nat) :=
  match writeRecords t styles sink 0 source.records, source.failure with
  | (sink, .error e), _ => ⟨[], sink, .error e⟩
  | (sink, .ok _), some cause => ⟨[], sink, .error (.stream cause)⟩
  | (sink, .ok n), none =>
    match sink.flush with
    | .error cause => ⟨[], sink, .error (.stream cause)⟩
    | .ok () => ⟨[⟨.debug, "Transformed " ++ toString n ++ " records"⟩], sink, .ok n⟩

end Transform

end Grok
