import Grok.Library.Layers
import Grok.Matcher

namespace Grok

/-!
# Compiling grok expressions

`Compiler.compile` expands an expression over a library and hands the result to an engine.
-/

/-- What expressions are compiled with. -/
structure Compiler where
  library : Library
  /-- Are only references with a field captured? -/
  fieldsOnly : Bool
  options : SearchOptions
  engine : Engine

namespace Compiler

/-- The expanded expression. -/
def expand (c : Compiler) (expression : String) : Attempt String :=
  let e := c.library.expand c.fieldsOnly expression
  ⟨e.messages, e.outcome.map String.ofList⟩

/-- The matcher of an expression. -/
def compile (c : Compiler) (expression : String) : Attempt Matcher :=
  let e := c.library.expand c.fieldsOnly expression
  Attempt.andThen (.report (⟨.trace, "Starting to compile grok expression: " ++ expression⟩ ::
    e.messages)) fun _ =>
  Attempt.andThen (.ofExcept (e.outcome.map String.ofList)) fun expanded =>
  Attempt.andThen (.report [⟨.trace, "Grok expression compiled to regex: " ++ expanded⟩]) fun _ =>
  Attempt.andThen (.ofExcept (c.engine.compile c.options expanded)) fun program =>
  let matcher := Matcher.ofProgram e.references expanded program
  Attempt.andThen (.report [⟨.debug, "Compiled grok matcher with " ++ toString matcher.groups.length ++
    " capture groups from " ++ toString matcher.references.length ++ " pattern references"⟩]) fun _ =>
  .ofExcept (.ok matcher)

end Compiler

end Grok
