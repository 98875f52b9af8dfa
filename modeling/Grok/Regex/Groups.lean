import Grok.Regex.Emptiness
import Grok.Regex.Parser

namespace Grok.Regex

/-!
# Groups and what refers to them

What can be checked only when the whole expression is known.

* `Parsed.nameOnly` drops the groups without a name from an expression that has named ones.
* `Parsed.resolveCalls` looks up the groups that calls run.
* `Recursion.check` tells whether a group can call itself without an end.
* `Parsed.resolve` does all of it.
-/

/-- An expression whose references are known to be sound. -/
structure Resolved where
  node : Node
  /-- The number of groups. -/
  groups : Nat
  names : GroupNames
  /-- The bodies of the groups; the whole expression is the body of group 0. -/
  bodies : Array Node
  emptyGroups : EmptyGroups
  /-- The groups that calls run. -/
  called : List Nat

namespace Node

/-- Refers the expression to a group by its number? -/
def isNumbered : Node → Bool
  | backReference r _ => !r.byName
  | matched r => !r.byName
  | _ => false

/-- Does a node of the tree have the property? -/
def any? (p : Node → Bool) (n : Node) : Bool := n.fold (fun b m => b || p m) false

/-- The named groups in the order of their numbers. -/
def namedGroups (n : Node) : List Nat :=
  (n.fold (fun gs m => match m with
    | capture i true _ => i :: gs
    | _ => gs) []).mergeSort

/-- A node without the groups around it that have no name. -/
def bare : Node → Node
  | capture _ false n => bare n
  | n => n

/-- Repeats groups without a name as if they were plain: a repetition in such a group is a
    repetition of a repetition. -/
def mergeUnnamed (n : Node) : Node :=
  n.map fun
    | quantified q (capture i false n) =>
      match n.bare with
      | quantified inner body => nested q inner body
      | _ => quantified q (capture i false n)
    | n => n

/-- Replaces the numbers of groups; groups without a name become plain. -/
def renumber (f : Nat → Nat) (n : Node) : Node :=
  n.mergeUnnamed.map fun
    | capture i true n => capture (f i) true n
    | capture _ false n => n
    | backReference r folded => backReference { r with groups := r.groups.map f } folded
    | matched r => matched { r with groups := r.groups.map f }
    | n => n

/-- The groups that calls run, once they are known. -/
def calls (n : Node) : List Nat :=
  n.fold (fun gs m => match m with
    | call (.group i _) => if gs.contains i then gs else i :: gs
    | _ => gs) []

/-- The expression without what is repeated no times. -/
def live (n : Node) : Node :=
  n.map fun
    | quantified q n => if q.upper = some 0 then empty else quantified q n
    | n => n

/-- The groups with their bodies. -/
def captures (n : Node) : List (Nat × Node) :=
  n.fold (fun cs m => match m with
    | capture i _ body => (i, body) :: cs
    | _ => cs) []

/-- The bodies of the groups up to a number by their numbers. -/
def bodies (n : Node) (groups : Nat) : Array Node :=
  n.captures.foldl (fun bs (i, body) => bs.setIfInBounds i body)
    ((Array.replicate (groups + 1) empty).setIfInBounds 0 n)

end Node

namespace Parsed

/-- Once a group has a name, groups without one do not capture, and numbers are no references. -/
def nameOnly (p : Parsed) : Except Fault Parsed :=
  if p.names = [] then .ok p
  else if p.node.any? Node.isNumbered then .error .numberedReference
  else
    let named := p.node.namedGroups
    let f := fun i => named.idxOf i + 1
    let node := p.node.renumber f
    if node.any? Node.isTooOften then .error .repeatTooLarge
    else .ok ⟨node, named.length, p.names.map fun (n, gs) => (n, gs.map f)⟩

/-- Do all back-references and conditions refer to groups that exist? -/
def hasGroups (p : Parsed) : Bool :=
  !p.node.any? fun
    | .backReference r _ => r.groups.any (p.groups < ·)
    | .matched r => r.groups.any (p.groups < ·)
    | _ => false

/-- The group that a call runs. -/
def callee (p : Parsed) : Callee → Except Fault Nat
  | .number n written =>
    if p.names ≠ [] then .error .numberedReference
    else if p.groups < n then .error (.undefinedGroup written)
    else .ok n
  | .name w =>
    match p.names.groups w with
    | [] => .error (.undefinedName w)
    | [g] => .ok g
    | _ => .error (.ambiguousCall w)
  | .group i _ => .ok i

/-- What is wrong with the first call that is not sound. -/
def callFault (p : Parsed) : Except Fault Unit :=
  p.node.fold (fun r m => do
    r
    match m with
    | .call c => (p.callee c).map fun _ => ()
    | _ => .ok ()) (.ok ())

/-- Looks up the groups that calls run. -/
def resolveCalls (p : Parsed) : Except Fault Node := do
  p.callFault
  .ok (p.node.map fun
    | .call c => .call (.group ((p.callee c).toOption.getD 0) false)
    | n => n)

end Parsed

/-- What can be reached from some things in any number of steps, themselves included. Each thing
    that is looked at costs one unit of fuel. -/
def reachable (step : Nat → List Nat) :
    (fuel : Nat) → (pending : List Nat) → (found : List Nat) → List Nat
  | 0, _, found => found
  | _ + 1, [], found => found
  | fuel + 1, i :: pending, found =>
    if found.contains i then reachable step fuel pending found
    else reachable step fuel (step i ++ pending) (i :: found)

namespace Node

/-- More steps than it takes to follow all calls in a tree with so many groups. -/
def callFuel (n : Node) (groups : Nat) : Nat := (n.size + 1) * (groups + 2)

/-- Notes where references stand: calls that lead to a group around them, and back-references inside
    of their group. The whole expression counts as group 0. -/
def locate (n : Node) (groups : Nat) : Node :=
  let bodies := n.bodies groups
  let inner := bodies.map fun b => b.captures.map (·.1) ++ b.calls
  let reach := fun i => reachable (fun j => inner.getD j []) (n.callFuel groups) [i] []
  n.mapWithin (fun around m => match m with
    | call (.group i _) => call (.group i ((reach i).any around.contains))
    | backReference r folded => backReference { r with inside := r.groups.any around.contains } folded
    | matched r => matched { r with inside := r.groups.any around.contains }
    | m => m) [0]

/-- The groups that calls run, unless only what is repeated no times holds such calls. -/
def called (n : Node) (groups : Nat) : List Nat :=
  let inner := (n.bodies groups).map calls
  reachable (fun i => inner.getD i []) (n.callFuel groups) n.live.calls []

end Node

/-! ### Endless recursion -/

/-- What is known about the way from a group to a call of the group. -/
structure Recursion where
  /-- There is such a way. -/
  possible : Bool
  /-- Every match goes there. -/
  certain : Bool
  /-- Nothing is consumed on the way. -/
  endless : Bool

namespace Recursion

/-- No call. -/
def none : Recursion := ⟨false, false, false⟩

/-- Looks for calls of `target` in a node; `entered` are the groups that the way passes through, and
    `head` tells whether nothing has been consumed. Each step into a part costs one unit of fuel. -/
def find (r : Resolved) (target : Nat) :
    (fuel : Nat) → (entered : List Nat) → (head : Bool) → Node → Recursion
  | 0, _, _, _ => none
  | fuel + 1, entered, head, n =>
    let enter (i : Nat) (body : Node) : Recursion :=
      if entered.contains i then none
      else if i = target then ⟨true, true, head⟩
      else find r target fuel (i :: entered) head body
    let consumes (n : Node) : Bool := !n.mayBeEmpty r.emptyGroups
    match n with
    | .sequence ns =>
      (ns.foldl (fun (found, head) n =>
        if found.endless then (found, head)
        else
          let f := find r target fuel entered head n
          (⟨found.possible || f.possible, found.certain || f.certain, f.endless⟩,
            head && !consumes n)) (none, head)).1
    | .alternatives ns =>
      ns.foldl (fun found n =>
        if found.endless then found
        else
          let f := find r target fuel entered head n
          ⟨found.possible || f.possible, found.certain && f.certain, f.endless⟩) ⟨false, true, false⟩
    | .quantified q n =>
      if q.upper = some 0 then none
      else
        let f := find r target fuel entered head n
        { f with certain := f.certain && q.lower ≠ 0 }
    | .conditional c y n =>
      let f := find r target fuel entered head c
      if f.endless then f
      else
        let g := find r target fuel entered (head && !consumes c) y
        if g.endless then g
        else
          let h := find r target fuel entered head n
          if h.endless then h
          else ⟨f.possible || g.possible || h.possible,
            (f.certain || g.certain) && h.certain, false⟩
    | .provided c y =>
      let f := find r target fuel entered head c
      if f.endless then f
      else
        let g := find r target fuel entered (head && !consumes c) y
        if g.endless then g else ⟨f.possible || g.possible, false, false⟩
    | .fallback n m =>
      let f := find r target fuel entered head n
      if f.endless then f
      else
        let g := find r target fuel entered head m
        ⟨f.possible || g.possible, f.certain && g.certain, g.endless⟩
    | .capture i _ n => enter i n
    | .call (.group i _) => enter i (r.bodies.getD i .empty)
    | .group n => find r target fuel entered head n
    | .atomic n => find r target fuel entered head n
    | .lookAhead _ n => find r target fuel entered head n
    | .lookBehind _ _ n => find r target fuel entered head n
    | _ => none

/-- Refuses groups that call themselves without an end. -/
def check (r : Resolved) : Except Fault Unit :=
  let fuel := r.node.callFuel r.groups
  if r.called.any fun g =>
      let f := find r g fuel [] true (r.bodies.getD g .empty)
      f.certain || f.endless then .error .endlessRecursion
  else .ok ()

end Recursion

/-- Checks everything that refers to groups. -/
def Parsed.resolve (p : Parsed) : Except Fault Resolved := do
  let p ← p.nameOnly
  if !p.hasGroups then throw .invalidBackReference
  let node := (← p.resolveCalls).locate p.groups
  let bodies := node.bodies p.groups
  let r : Resolved :=
    ⟨node, p.groups, p.names, bodies, .ofBodies bodies, node.called p.groups⟩
  Recursion.check r
  .ok r

end Grok.Regex
