import Grok.Error

namespace Grok

/-!
# Engines

An engine compiles an expanded expression and searches texts for it. Matching needs nothing else of
it, so any value of `Engine` will do.

* `Offsets` are the byte offsets of the groups after a search; group 0 is the whole match.
* `Engine.Program` is a compiled expression: its named groups and its search.
-/

/-- Start and end of every group, `none` for a group that took no part in the match. -/
abbrev Offsets : Type := List (Option (Nat × Nat))

namespace Offsets

/-- The offsets of a group, if there is such a group and it took part. -/
def group? (o : Offsets) (index : Nat) : Option (Nat × Nat) := o[index]?.join

end Offsets

/-- Options of a search. -/
structure SearchOptions where
  /-- The number of times that a match attempt may go back to an alternative; zero for no limit,
      and `none` for the limit of the engine. -/
  retryLimit : Option Nat := none
  deriving DecidableEq, Repr, Inhabited

/-- A compiled expression. -/
structure Engine.Program where
  /-- The named groups with all the indexes that carry the name. -/
  namedGroups : List (String × List Nat)
  /-- The offsets of the first match in a text, `none` without a match. -/
  search : String → Except Error (Option Offsets)

/-- A regular expression engine. -/
structure Engine where
  compile : SearchOptions → String → Except Error Engine.Program

end Grok
