import Grok.Library.Basic

namespace Grok

/-!
# Configurations

A `Config` says which expressions records are matched against and how.

* `Config.expressions` are the expressions in effect.
-/

/-- Which expressions are matched and how. -/
structure Config where
  /-- The only expression, if there is one. -/
  pattern : Option String := none
  /-- The expressions to try in order, unless there is an only one. -/
  patterns : List String := []
  /-- Directories of further definition files. -/
  directories : List String := []
  /-- Definitions that override all others. -/
  definitions : Library := .empty
  /-- Are only references with a field captured? -/
  fieldsOnly : Bool := true
  /-- Does the first expression that matches end the search for more fields? -/
  firstMatchOnly : Bool := true
  /-- The limit on retries of a search. -/
  retryLimit : Option UInt32 := none

namespace Config

instance : Inhabited Config := ⟨{}⟩

/-- The expressions in effect. -/
def expressions (c : Config) : List String :=
  match c.pattern with
  | some p => [p]
  | none => c.patterns

end Config

end Grok
