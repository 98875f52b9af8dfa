import Grok.Regex.Groups

namespace Grok.Regex

/-!
# Settling an expression

What is decided once all groups are known: texts without regard to case become choices, texts that are
repeated a few times are written out, and look-behinds learn how far to go back.

* `Extent` is how many characters an expression takes up; `Node.extent` finds it out.
* `Node.narrowAll` fixes the repetitions at the start of a look-behind.
* `Resolved.behind` is what becomes of a look-behind.
* `Resolved.settle` settles the whole expression.
-/

/-- How many characters a match takes up, and whether the least number is known to suffice. -/
structure Extent where
  least : Nat
  most : Option Nat
  sure : Bool
  deriving DecidableEq, Repr, Inhabited

namespace Extent

/-- Exactly `n` characters. -/
def exactly (n : Nat) : Extent := ⟨n, some n, true⟩

/-- Any number of characters. -/
def unknown : Extent := ⟨0, none, false⟩

/-- Is there one number only? -/
def isExact (e : Extent) : Bool := e.most == some e.least

/-- Not known to suffice. -/
def unsure (e : Extent) : Extent := { e with sure := false }

/-- One after the other. -/
def add (e f : Extent) : Extent :=
  ⟨e.least + f.least, e.most.bind fun m => f.most.map (m + ·), e.sure && f.sure⟩

/-- One or the other. -/
def or (e f : Extent) : Extent where
  least := min e.least f.least
  most := e.most.bind fun m => f.most.map (max m)
  sure := if f.least < e.least then f.sure else e.sure || (e.least == f.least && f.sure)

/-- Repeated. -/
def times (q : Quantifier) (e : Extent) : Extent :=
  ⟨q.lower * e.least, q.upper.bind fun u => e.most.map (u * ·), e.sure⟩

end Extent

namespace Node

/-- The extent of an expression; `bodies` are the groups and `entered` those around it. There is
    none if the expression holds a text that has not been settled. Each step into a part costs one
    unit of fuel. -/
def extent? (bodies : Array Node) :
    (fuel : Nat) → (entered : List Nat) → Node → Option Extent
  | 0, _, _ => some .unknown
  | fuel + 1, entered, n =>
    let enter (i : Nat) (body : Node) : Option Extent :=
      if entered.contains i then some .unknown
      else (extent? bodies fuel (i :: entered) body).map Extent.unsure
    match n with
    | sequence ns => ns.foldlM (fun e n => (extent? bodies fuel entered n).map e.add) (.exactly 0)
    | alternatives [] => some (.exactly 0)
    | alternatives (n :: ns) => do
      let e ← extent? bodies fuel entered n
      ns.foldlM (fun e n => (extent? bodies fuel entered n).map e.or) e
    | text ls spelling => if spelling = .folded then none else some (.exactly ls.length)
    | any _ => some (.exactly 1)
    | word _ => some (.exactly 1)
    | set _ => some (.exactly 1)
    | quantified q n =>
      if q.upper = some 0 ∧ q.lower = 0 then some (.exactly 0)
      else (extent? bodies fuel entered n).map (.times q)
    | group n => extent? bodies fuel entered n
    | atomic n => extent? bodies fuel entered n
    | capture i _ n => enter i n
    | call (.group i recursive) => if recursive then some .unknown else enter i (bodies.getD i empty)
    | call _ => some .unknown
    | backReference r _ =>
      if r.inside then some (if r.level.isSome then .unknown else ⟨0, some 0, false⟩)
      else
        match r.groups with
        | [] => some (.exactly 0)
        | i :: is => do
          let e ← enter i (bodies.getD i empty)
          is.foldlM (fun e i => (enter i (bodies.getD i empty)).map e.or) e
    | conditional c y n => do
      let e ← extent? bodies fuel entered c
      let f ← extent? bodies fuel entered y
      (extent? bodies fuel entered n).map (e.add f).or
    | provided c y => do
      let e ← extent? bodies fuel entered c
      (extent? bodies fuel entered y).map fun f => (e.add f).or (.exactly 0)
    | fallback n m => do
      let e ← extent? bodies fuel entered n
      (extent? bodies fuel entered m).map e.or
    | keep => some (.exactly 0)
    | limit _ => some (.exactly 0)
    | fail => some (.exactly 0)
    | matched _ => some (Extent.exactly 0).unsure
    | assertion _ => some (Extent.exactly 0).unsure
    | lookAhead _ _ => some (Extent.exactly 0).unsure
    | lookBehind _ _ _ => some (Extent.exactly 0).unsure

/-! ### Narrowing -/

/-- What a repetition at the start of a look-behind becomes, as it need not take more than the
    least: a fixed repetition. Other nodes stay. -/
def narrow : Node → Node
  | quantified q n => if repeatsCharacters n then quantified { q with upper := some q.lower } n
    else quantified q n
  | n => n
where
  /-- Does it take characters or the text of a group? -/
  repeatsCharacters : Node → Bool
    | text _ _ => true
    | any _ => true
    | word _ => true
    | set _ => true
    | backReference _ _ => true
    | _ => false

/-- Is nothing left of it? -/
def isGone : Node → Bool
  | quantified q n => q.upper == some 0 && narrow.repeatsCharacters n
  | _ => false

/-- Narrows the first of some nodes that stays, and all that vanish before it. -/
def narrowFirst : List Node → Option (List Node)
  | [] => none
  | n :: ns =>
    if n.narrow.isGone then (narrowFirst ns).map (n.narrow :: ·) else some (n.narrow :: ns)

/-- Narrows an alternative of a look-behind. -/
def narrowAlternative : Node → Except Fault Node
  | sequence ns =>
    match narrowFirst ns with
    | some ms => .ok (sequence ms)
    | none => .error .vanishingLookBehind
  | n => .ok n.narrow

/-- Narrows all alternatives of a look-behind. -/
def narrowAll : Node → Except Fault Node
  | alternatives ns => (ns.mapM narrowAlternative).map alternatives
  | n => narrowAlternative n

end Node

namespace Resolved

/-! ### Look-behind -/

/-- The longest text that a look-behind goes back. -/
def maxLookBehind : Nat := 65535

/-- Does a node fit into a look-behind? It holds no look-ahead, no end of the text and nothing that
    changes that end for good, and a negated one holds no group. Each step into a part costs one
    unit of fuel. -/
def fitsBehind (r : Resolved) (negated : Bool) : (fuel : Nat) → Node → Bool
  | 0, _ => true
  | fuel + 1, n =>
    match n with
    | .sequence ns => ns.all (fitsBehind r negated fuel)
    | .alternatives ns => ns.all (fitsBehind r negated fuel)
    | .quantified q n => q.upper = some 0 || fitsBehind r negated fuel n
    | .group n => fitsBehind r negated fuel n
    | .atomic n => fitsBehind r negated fuel n
    | .lookBehind _ _ n => fitsBehind r negated fuel n
    | .conditional c y n =>
      fitsBehind r negated fuel c && fitsBehind r negated fuel y && fitsBehind r negated fuel n
    | .provided c y => fitsBehind r negated fuel c && fitsBehind r negated fuel y
    | .fallback n m => fitsBehind r negated fuel n && fitsBehind r negated fuel m
    | .capture _ _ n => !negated && fitsBehind r negated fuel n
    | .call (.group i recursive) =>
      recursive || (!negated && fitsBehind r negated fuel (r.bodies.getD i .empty))
    | .lookAhead _ _ => false
    | .limit (.endAt _ open_) => !open_
    | .limit .clear => false
    | .assertion .textEnd => false
    | .assertion .lastLineEnd => false
    | _ => true

/-- Does a look-behind hold a call, or a group that is called or referred to? -/
def isUsed (r : Resolved) (n : Node) : Bool :=
  let referred := r.node.referredGroups
  n.live.any? fun
    | .call _ => true
    | .capture i _ _ => referred.contains i || r.called.contains i
    | _ => false

/-- The extent of an expression. -/
def extentOf? (r : Resolved) (bodies : Array Node) (n : Node) : Option Extent :=
  n.extent? bodies (r.node.callFuel r.groups + n.size) []

/-- The look-behind for an expression of one length only. One that surely holds without going back
    holds everywhere. There is none if lengths differ. -/
def lookBehind? (r : Resolved) (bodies : Array Node) (negated : Bool) (n : Node) :
    Except Fault (Option Node) :=
  match r.extentOf? bodies n with
  | none => .error .invalidLookBehind
  | some e =>
    if maxLookBehind < e.least ∨ e.most.any (maxLookBehind < ·) then .error .invalidLookBehind
    else if e.least = 0 ∧ e.sure ∧ !r.isUsed n then .ok (some (if negated then .fail else .empty))
    else if e.isExact then .ok (some (.lookBehind negated e.least n))
    else .ok none

mutual

/-- What becomes of a look-behind: alternatives of different lengths are looked for one by one. The
    first of them may have alternatives of its own. -/
def behind (r : Resolved) (bodies : Array Node) (negated : Bool) : Node → Except Fault Node
  | .alternatives ns => do
    match ← r.lookBehind? bodies negated (.alternatives ns) with
    | some n => .ok n
    | none =>
      if (ns.drop 1).all fun n => (r.extentOf? bodies n).any Extent.isExact then do
        let ms ← behindAll r bodies negated ns
        .ok (if negated then .sequence ms else .alternatives ms)
      else .error .invalidLookBehind
  | n => do
    match ← r.lookBehind? bodies negated n with
    | some n => .ok n
    | none => .error .invalidLookBehind

/-- What becomes of look-behinds for each of some nodes. -/
def behindAll (r : Resolved) (bodies : Array Node) (negated : Bool) :
    List Node → Except Fault (List Node)
  | [] => .ok []
  | n :: ns => do
    let m ← behind r bodies negated n
    let ms ← behindAll r bodies negated ns
    .ok (m :: ms)

end

/-! ### All nodes -/

/-- The longest text that a repetition is written out to, in bytes. -/
def maxWritten : Nat := 100

/-- A repetition; that of a text a few times is written out. -/
def written (q : Quantifier) (n : Node) : Node :=
  match n with
  | .text ls spelling =>
    if q.isCount ∧ 1 < q.lower ∧ q.lower ≤ maxWritten ∧
        Letter.totalWidth ls * q.lower ≤ maxWritten then
      .text (List.replicate q.lower ls).flatten spelling
    else .quantified q n
  | n => .quantified q n

mutual

/-- Settles a node. The state holds the bodies of the groups, settled as far as they have been
    passed; `inside` tells whether the node stands in a look-behind. -/
def settleNode (r : Resolved) (inside : Bool) : Node → StateT (Array Node) (Except Fault) Node
  | .sequence ns => return .sequence (← settleAll r inside ns)
  | .alternatives ns => return .alternatives (← settleAll r inside ns)
  | .text ls spelling =>
    return match spelling with
      | .folded => if inside then .singleVariants ls else .variants ls
      | _ => .text ls spelling
  | .quantified q n => return written q (← settleNode r inside n)
  | .group n => return .group (← settleNode r inside n)
  | .capture i named n => do
    let m ← settleNode r inside n
    modify fun bodies => bodies.setIfInBounds i m
    return .capture i named m
  | .atomic n => return .atomic (← settleNode r inside n)
  | .lookAhead negated n => return .lookAhead negated (← settleNode r inside n)
  | .lookBehind negated _ n => do
    if !r.fitsBehind negated (r.node.callFuel r.groups) n then throw .invalidLookBehind
    let m ← settleNode r true n
    r.behind (← get) negated (← m.narrowAll)
  | .conditional c y n => do
    let c ← settleNode r inside c
    let y ← settleNode r inside y
    return .conditional c y (← settleNode r inside n)
  | .provided c y => do
    let c ← settleNode r inside c
    return .provided c (← settleNode r inside y)
  | .fallback n m => do
    let n ← settleNode r inside n
    return .fallback n (← settleNode r inside m)
  | n => return n

/-- Settles nodes one after the other. -/
def settleAll (r : Resolved) (inside : Bool) :
    List Node → StateT (Array Node) (Except Fault) (List Node)
  | [] => return []
  | n :: ns => do
    let m ← settleNode r inside n
    return m :: (← settleAll r inside ns)

end

/-- Settles an expression. -/
def settle (r : Resolved) : Except Fault Resolved := do
  let (n, bodies) ← (r.settleNode false r.node).run r.bodies
  .ok { r with node := n, bodies := bodies.setIfInBounds 0 n }

end Resolved

end Grok.Regex
