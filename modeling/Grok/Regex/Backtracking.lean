import Grok.Engine
import Grok.Regex.Landmark
import Grok.Regex.Machine

namespace Grok.Regex

/-!
# The backtracking engine

`backtracking` is the engine that expressions are compiled with: it reads an expression, checks it,
compiles it to a program, and runs that on texts, from the places that its outlook leaves.
-/

/-- How many instructions of a run may fail unless the options say otherwise. -/
def defaultRetryLimit : Nat := 10000000

/-- The reason for which a run gives up. -/
def exhaustedReason : String := "Oniguruma error: retry-limit-in-match over"

/-- A compiled expression: its program, where its matches may start, and the names of its groups. -/
structure Compiled where
  program : Program
  outlook : Outlook
  names : GroupNames

/-- Reads and checks an expression and compiles it. -/
def compile (expression : List Char) : Except Fault Compiled := do
  let parsed ← parse expression
  let settled ← (← parsed.resolve).settle
  .ok ⟨.ofResolved settled, settled.node.outlook, settled.names⟩

/-- The number of bytes before each place of a text. -/
def byteOffsets (text : Array Char) : Array Nat :=
  text.foldl (fun (offsets, n) c => (offsets.push (n + Utf8.width c), n + Utf8.width c)) (#[0], 0)
    |>.1

namespace Compiled

/-- The named groups. -/
def namedGroups (c : Compiled) : List (String × List Nat) :=
  c.names.map fun (name, groups) => (String.ofList name, groups)

/-- The first match in a text: the byte offsets of all groups. -/
def search (c : Compiled) (limit : Nat) (text : String) : Except Error (Option Offsets) :=
  let chars := text.toList.toArray
  match c.program.search chars limit (c.outlook.starts text.toList) with
  | .failed => .ok none
  | .exhausted => .error (.matchInterrupted exhaustedReason)
  | .matched t =>
    let offsets := byteOffsets chars
    .ok (some ((c.program.places t).map fun place =>
      place.map fun (start, stop) => (offsets.getD start 0, offsets.getD stop 0)))

end Compiled

/-- The engine. -/
def backtracking : Engine where
  compile options expression :=
    match compile expression.toList with
    | .error fault => .error (.invalidExpression expression fault.reason)
    | .ok c => .ok {
        namedGroups := c.namedGroups
        search := c.search (options.retryLimit.getD defaultRetryLimit) }

end Grok.Regex
