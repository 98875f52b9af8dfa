import Grok.Regex.Syntax

namespace Grok.Regex

/-!
# Matches of nothing

Which expressions may match without taking any text. Back-references and calls may if the groups do
that they refer to, so a table of the groups goes along.

* `Node.mayBeEmpty` tells it of a tree.
* `EmptyGroups.ofBodies` is the table for the bodies of the groups.
-/

/-- By number: may the group match without taking any text? -/
abbrev EmptyGroups : Type := Array Bool

namespace EmptyGroups

/-- May the group match without taking any text? -/
def holds (table : EmptyGroups) (i : Nat) : Bool := table.getD i true

end EmptyGroups

namespace Node

mutual

/-- May the expression match without taking any text? -/
def mayBeEmpty (table : EmptyGroups) : Node → Bool
  | sequence ns => allMayBeEmpty table ns
  | alternatives ns => anyMayBeEmpty table ns
  | text ls _ => ls.isEmpty
  | any _ => false
  | word _ => false
  | set _ => false
  | backReference r _ => r.inside || r.groups.any table.holds
  | call (.group i _) => table.holds i
  | quantified q n => q.lower = 0 || mayBeEmpty table n
  | group n => mayBeEmpty table n
  | capture _ _ n => mayBeEmpty table n
  | atomic n => mayBeEmpty table n
  | conditional c y n => (mayBeEmpty table c && mayBeEmpty table y) || mayBeEmpty table n
  | fallback n m => mayBeEmpty table n || mayBeEmpty table m
  | fail => false
  | provided _ _ => true
  | call (.number _ _) => true
  | call (.name _) => true
  | matched _ => true
  | assertion _ => true
  | keep => true
  | lookAhead _ _ => true
  | lookBehind _ _ _ => true
  | limit _ => true

/-- May all expressions match without taking any text? -/
def allMayBeEmpty (table : EmptyGroups) : List Node → Bool
  | [] => true
  | n :: ns => mayBeEmpty table n && allMayBeEmpty table ns

/-- May one of the expressions match without taking any text? -/
def anyMayBeEmpty (table : EmptyGroups) : List Node → Bool
  | [] => false
  | n :: ns => mayBeEmpty table n || anyMayBeEmpty table ns

end

/-- Does the expression refer to groups? -/
def refersToGroups (n : Node) : Bool :=
  n.fold (fun b m => b || match m with
    | backReference _ _ => true
    | call _ => true
    | _ => false) false

end Node

/-- The table for the groups with these bodies: what they refer to is looked up in the table of the
    round before, and a group that contains itself counts as empty in the first round. -/
def EmptyGroups.ofBodies (bodies : Array Node) : EmptyGroups :=
  let references := (bodies.toList.filter Node.refersToGroups).length
  (List.range (references + 1)).foldl (fun table _ => bodies.map (Node.mayBeEmpty table))
    (bodies.map fun _ => true)

end Grok.Regex
