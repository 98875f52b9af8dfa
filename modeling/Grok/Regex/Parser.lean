import Grok.Regex.Absent
import Grok.Regex.Bracket
import Grok.Regex.Repetition
import Grok.Regex.Token
import Grok.Regex.Variants

namespace Grok.Regex

/-!
# Reading expressions

An expression is read token by token. What is still open is kept as a list of levels, the innermost
first: the top level, and a level for each open group.

* `Level` is an open level: how it was opened, its finished alternatives, and the nodes of the
  current one.
* `Level.quantify` applies a quantifier to what stands before it.
* `Reading` is the state: the levels, the modes, and the groups and names so far.
* `Reading.take` takes one token.
* `parse` reads a whole expression.
-/

/-- How a level was opened, which tells what becomes of its content. -/
inductive Opening where
  /-- the whole expression -/
  | top
  /-- `(?:…)` -/
  | plain
  /-- `(?i:…)` -/
  | group
  /-- `(?i)…`, which ends with the level around it -/
  | rest
  | capture (index : Nat) (named : Bool)
  | atomic
  | lookAhead (negated : Bool)
  | lookBehind (negated : Bool)
  /-- `(?~…)`, or `(?~|…)` with a bar -/
  | absent (bar : Bool)
  /-- the condition of a conditional -/
  | condition
  /-- the branches of a conditional; only the second if the first is left out -/
  | branches (condition : Node) (onlyNo : Bool)

/-- How the last node of an alternative came about, which tells what goes on with it. -/
inductive Ending where
  /-- letters side by side: one more letter joins them -/
  | letters
  /-- a plain group: a quantifier repeats all of it -/
  | plain
  /-- anything else: of a text, a quantifier repeats the last letter -/
  | other
  deriving DecidableEq, Repr

/-- An open level. -/
structure Level where
  opening : Opening
  /-- The modes around it. -/
  modes : Modes
  /-- The alternatives before the current one, the last one first. -/
  finished : List Node := []
  /-- The nodes of the current alternative, the last one first. -/
  items : List Node := []
  ending : Ending := .other
  /-- Was the first text of the alternative parted by a quantifier? The parts stay together. -/
  parted : Bool := false
  /-- The number of quantifiers on the last node. -/
  quantifiers : Nat := 0

/-- Nodes one after the other, of which all but the first are taken apart into their own parts. -/
def Node.joined : List Node → Node
  | [] => .empty
  | [n] => n
  | n :: ns => .sequence (n :: ns.flatMap fun
      | .sequence ms => ms
      | m => [m])

/-- The last letter of a text, and what stands before it. Other nodes stay whole. -/
def Node.partLast : Node → Node × List Node
  | .text ls spelling =>
    if 1 < ls.length then
      (.text (ls.drop (ls.length - 1)) spelling, [.text ls.dropLast spelling])
    else (.text ls spelling, [])
  | n => (n, [])

namespace Level

/-- The current alternative. -/
def branch (l : Level) : Node :=
  match l.parted, l.items.reverse with
  | true, a :: b :: ns => .joined (.sequence [a, b] :: ns)
  | _, ns => .joined ns

/-- The alternatives. -/
def branches (l : Level) : List Node := (l.branch :: l.finished).reverse

/-- Appends a node that came about in some way. -/
def pushAs (ending : Ending) (l : Level) (n : Node) : Level :=
  { l with items := n :: l.items, ending := ending, quantifiers := 0 }

/-- Appends a node. -/
def push (l : Level) (n : Node) : Level := l.pushAs .other n

/-- Appends a letter. -/
def letter (l : Level) (c : Letter) (spelling : Spelling) : Level :=
  match l.ending, l.items with
  | .letters, .text ls s :: items => { l with items := .text (ls ++ [c]) s :: items }
  | _, _ => l.pushAs .letters (.text [c] spelling)

/-- Ends the current alternative. -/
def alternative (l : Level) : Level :=
  { l with
    finished := l.branch :: l.finished
    items := []
    ending := .other
    parted := false
    quantifiers := 0 }

/-- Applies a quantifier to the last node, `depth` levels deep. -/
def quantify (l : Level) (depth limit : Nat) (q : Quantifier) (possessive : Bool) :
    Except Fault Level :=
  match l.items with
  | [] => .error .nothingToRepeat
  | n :: items =>
    if n.isUnrepeatable then .error .invalidRepeat
    else if limit < depth + l.quantifiers + 1 then .error .nestingTooDeep
    else if q.lower = 1 ∧ q.upper = some 1 then
      .ok { l with ending := .other, quantifiers := l.quantifiers + 1 }
    else
      let (n, before) := if l.ending = .plain then (n, []) else n.partLast
      let r := n.repeated q
      if r.isTooOften then .error .repeatTooLarge
      else
        .ok { l with
          items := (if possessive then .atomic r else r) :: (before ++ items)
          ending := .other
          parted := l.parted || (!before.isEmpty && items.isEmpty)
          quantifiers := l.quantifiers + 1 }

end Level

/-- What becomes of the alternatives of a level; the slots from `slot` on are free. -/
def Opening.close (slot : Nat) (branches : List Node) : Opening → Node
  | .top => .ofAlternatives branches
  | .plain => .ofAlternatives branches
  | .group => .group (.ofAlternatives branches)
  | .rest => .group (.ofAlternatives branches)
  | .capture i named => .capture i named (.ofAlternatives branches)
  | .atomic => .atomic (.ofAlternatives branches)
  | .lookAhead negated => .lookAhead negated (.ofAlternatives branches)
  | .lookBehind negated => .lookBehind negated 0 (.ofAlternatives branches)
  | .absent false => .without slot (.ofAlternatives branches) none
  | .absent true =>
    match branches with
    | n :: m :: ms => .without slot n (some (.ofAlternatives (m :: ms)))
    | ns => .cutOff slot (.ofAlternatives ns)
  | .condition => .ofAlternatives branches
  | .branches c true => .conditional c .empty (.ofAlternatives branches)
  | .branches c false =>
    match branches with
    | y :: n :: ns => .conditional c y (.ofAlternatives (n :: ns))
    | ns => .provided c (.ofAlternatives ns)

/-- The node of a level that ends. -/
def Level.close (l : Level) (slot : Nat) : Node := l.opening.close slot l.branches

/-- Joins texts of one spelling that stand side by side. -/
def Node.joinTexts : List Node → List Node
  | [] => []
  | n :: ns =>
    match n, joinTexts ns with
    | .text ls s, .text ms t :: rest =>
      if s = t then .text (ls ++ ms) s :: rest else n :: .text ms t :: rest
    | n, rest => n :: rest

/-! ### Reading -/

/-- The state of reading an expression. -/
structure Reading where
  modes : Modes := {}
  /-- The number of groups opened so far. -/
  groups : Nat := 0
  /-- The number of slots taken up so far. -/
  slots : Nat := 0
  names : GroupNames := []
  /-- The innermost level. -/
  level : Level := { opening := .top, modes := {} }
  /-- The levels around it. -/
  outer : List Level := []

namespace Reading

/-- How deep levels, alternatives, brackets and quantifiers may be nested. -/
def maxDepth : Nat := 4096

/-- How deep the current alternative lies: each level and each alternative counts. -/
def depth (r : Reading) : Nat := 2 * (r.outer.length + 1)

/-- Appends a node to the innermost level. -/
def push (r : Reading) (n : Node) : Reading := { r with level := r.level.push n }

/-- How letters are read. -/
def spelling (r : Reading) : Spelling := if r.modes.ignoreCase then .folded else .plain

/-- Appends the node of a level that has ended. -/
def pushLevel (r : Reading) (l : Level) : Reading :=
  { r with
    level := r.level.pushAs (match l.opening with
      | .plain => .plain
      | _ => .other) (l.close r.slots)
    slots := r.slots + Node.absentSlots }

/-- Opens a level in which the modes are `modes`. -/
def openLevel (r : Reading) (opening : Opening) (modes : Modes) : Reading :=
  { r with modes := modes, level := { opening := opening, modes := r.modes }, outer := r.level :: r.outer }

/-- Opens a capturing group. -/
def openCapture (r : Reading) (name : Option (List Char)) : Reading :=
  let r := { r with
    groups := r.groups + 1
    names := match name with
      | some n => r.names.add n (r.groups + 1)
      | none => r.names }
  r.openLevel (.capture r.groups name.isSome) r.modes

/-- Reads mode letters up to a colon or a closing parenthesis. -/
def readModes (r : Reading) (modes : Modes) (off : Bool) :
    List Char → Except Fault (Reading × List Char)
  | [] => .error .endInGroup
  | '-' :: cs => readModes r modes true cs
  | 'i' :: cs => readModes r { modes with ignoreCase := !off } off cs
  | 'm' :: cs => readModes r { modes with dotAll := !off } off cs
  | 'x' :: cs => readModes r { modes with extended := !off } off cs
  | ':' :: cs => .ok (r.openLevel .group modes, cs)
  | ')' :: cs => .ok (r.openLevel .rest modes, cs)
  | _ :: _ => .error .unknownGroup

/-- Goes on behind a condition: to the branches, or to what follows if there are none. `checker`
    tells whether the condition is about a group. -/
def behindCondition (r : Reading) (condition : Node) (checker : Bool) :
    List Char → Except Fault (Reading × List Char)
  | [] => .error .endInGroup
  | ')' :: cs => if checker then .ok (r.push condition, cs) else .error .invalidConditional
  | '|' :: cs => .ok (r.openLevel (.branches condition true) r.modes, cs)
  | cs => .ok (r.openLevel (.branches condition false) r.modes, cs)

/-- Reads a condition behind its opening parenthesis: a group, or an expression. -/
def openCondition (r : Reading) : List Char → Except Fault (Reading × List Char)
  | [] => .error .endInGroup
  | [_] => .error .endInGroup
  | c :: cs =>
    if c = '<' ∨ c = '\'' then
      match Name.reference (Name.closing c) cs with
      | .error e => .error e
      | .ok (name, level, _, rest) => do
        let g ← Token.resolve r.groups r.names name level
        match rest with
        | ')' :: rest => r.behindCondition (.matched g) true rest
        | _ => .error .endInGroup
    else if Name.startsNumber c then
      match Name.reference ')' (c :: cs) with
      | .error _ => .ok (r.openLevel .condition r.modes, c :: cs)
      | .ok (name, level, _, rest) => do
        let g ← Token.resolve r.groups r.names name level
        r.behindCondition (.matched g) true rest
    else .ok (r.openLevel .condition r.modes, c :: cs)

/-- Opens a group behind its parenthesis. -/
def openGroup (r : Reading) : List Char → Except Fault (Reading × List Char)
  | [] => .error .openParenthesis
  | '?' :: cs =>
    match cs with
    | [] => .error .endInGroup
    | ':' :: cs => .ok (r.openLevel .plain r.modes, cs)
    | '=' :: cs => .ok (r.openLevel (.lookAhead false) r.modes, cs)
    | '!' :: cs => .ok (r.openLevel (.lookAhead true) r.modes, cs)
    | '>' :: cs => .ok (r.openLevel .atomic r.modes, cs)
    | '~' :: [] => .error .endInGroup
    | '~' :: '|' :: [] => .error .endInGroup
    | '~' :: '|' :: ')' :: cs =>
      .ok ({ r.push (.uncut r.slots) with slots := r.slots + Node.absentSlots }, cs)
    | '~' :: '|' :: cs => .ok (r.openLevel (.absent true) r.modes, cs)
    | '~' :: cs => .ok (r.openLevel (.absent false) r.modes, cs)
    | '<' :: [] => .error .openParenthesis
    | '<' :: '=' :: cs => .ok (r.openLevel (.lookBehind false) r.modes, cs)
    | '<' :: '!' :: cs => .ok (r.openLevel (.lookBehind true) r.modes, cs)
    | '<' :: cs =>
      (Name.definition '>' cs).map fun (name, rest) => (r.openCapture (some name), rest)
    | '\'' :: cs =>
      (Name.definition '\'' cs).map fun (name, rest) => (r.openCapture (some name), rest)
    | '(' :: cs => r.openCondition cs
    | c :: cs =>
      if c = '-' ∨ c = 'i' ∨ c = 'm' ∨ c = 'x' then readModes r r.modes false (c :: cs)
      else .error .unknownGroup
  | cs => .ok (r.openCapture none, cs)

/-- Ends all levels that take up the rest of the level around them. -/
def closeRests (r : Reading) : Reading := closeFrom r r.outer
where
  /-- Ends the innermost level if it is such a level; the levels around it are `outer`. -/
  closeFrom (r : Reading) : List Level → Reading
    | [] => { r with outer := [] }
    | l :: ls =>
      match r.level.opening with
      | .rest => closeFrom (pushLevel { r with modes := r.level.modes, level := l } r.level) ls
      | _ => { r with outer := l :: ls }

/-- Closes a group. -/
def closeGroup (r : Reading) (cs : List Char) : Except Fault (Reading × List Char) :=
  let r := r.closeRests
  match r.outer with
  | [] => .error .closeParenthesis
  | l :: ls =>
    let inner := r.level
    let r := { r with modes := inner.modes, level := l, outer := ls }
    match inner.opening with
    | .condition => r.behindCondition (inner.close r.slots) false cs
    | _ => .ok (r.pushLevel inner, cs)

/-- Reads the bytes that complete a character. -/
def bytes (r : Reading) (skips : Nat) :
    Nat → List Char → Except Fault (List Nat × List Char)
  | 0, cs => .ok ([], cs)
  | k + 1, cs => do
    match ← Token.next r.modes r.groups r.names skips cs with
    | (.byte n, rest) => do
      let (ns, rest) ← bytes r skips k rest
      .ok (n :: ns, rest)
    | _ => .error .shortByteSequence

/-- Takes a token; gives the rest of the expression. -/
def take (r : Reading) (skips : Nat) (token : Token) (cs : List Char) :
    Except Fault (Reading × List Char) :=
  match token with
  | .stop => .ok (r, cs)
  | .alternative => .ok ({ r with level := r.level.alternative }, cs)
  | .openGroup => r.openGroup cs
  | .closeGroup => r.closeGroup cs
  | .openBracket => do
    let (s, rest) ← Bracket.read (maxDepth - r.depth) cs
    .ok (r.push (.ofBracket r.modes.ignoreCase (cs.head? = some '^') s), rest)
  | .any => .ok (r.push (.any r.modes.dotAll), cs)
  | .quantifier q possessive => do
    let level ← r.level.quantify r.depth maxDepth q possessive
    .ok ({ r with level := level }, cs)
  | .char c => .ok ({ r with level := r.level.letter (.ofChar c) r.spelling }, cs)
  | .codes ns =>
    if ns.all (· ≤ Letter.maxCode) then .ok (r.push (.text (ns.map Letter.ofCode) r.spelling), cs)
    else .error .invalidCodePoint
  | .byte n => do
    let (ns, rest) ← bytes r skips (Escape.byteCount n - 1) cs
    match Escape.bytesToLetter? (n :: ns) with
    | some l => .ok (r.push (.text [l] .bytes), rest)
    | none => .error .invalidCodePoint
  | .word negated => .ok (r.push (.word negated), cs)
  | .set s => .ok (r.push (.set s), cs)
  | .assertion a => .ok (r.push (.assertion a), cs)
  | .keep => .ok (r.push .keep, cs)
  | .lineBreak => .ok (r.push .lineBreak, cs)
  | .cluster => .ok (r.push .cluster, cs)
  | .backReference g => .ok (r.push (.backReference g r.modes.ignoreCase), cs)
  | .call c => .ok (r.push (.call c), cs)

/-- Takes tokens up to the end of the expression. -/
def run (skips : Nat) : Nat → Reading → List Char → Except Fault Reading
  | 0, r, _ => .ok r
  | fuel + 1, r, cs => do
    let (token, rest) ← Token.next r.modes r.groups r.names skips cs
    if maxDepth < r.depth then throw .nestingTooDeep
    match token with
    | .stop => .ok r
    | token =>
      let (r, rest) ← r.take skips token rest
      run skips fuel r rest

end Reading

/-- An expression that has been read: its tree, the number of its groups, and their names. -/
structure Parsed where
  node : Node
  groups : Nat
  names : GroupNames

/-- Reads an expression. -/
def parse (cs : List Char) : Except Fault Parsed := do
  let skips := cs.length + 1
  let r ← Reading.run skips skips {} cs
  let r := r.closeRests
  match r.outer with
  | [] =>
    let node := (r.level.close r.slots).map fun
      | .sequence ns => .sequence (Node.joinTexts ns)
      | n => n
    .ok ⟨node, r.groups, r.names⟩
  | _ :: _ => .error .openParenthesis

end Grok.Regex
