import Grok.Yaml.Lexer

namespace Grok.Yaml

/-!
# Events of YAML texts

The nesting of a text, told in order: where documents and collections begin and end, and the scalars
and aliases between. The grammar is read with a stack of goals: what is still to come.

* `Event` is what happens at a place.
* `Goal` is a part of the grammar that is expected.
* `Event.ofTokens` are the events of tokens, up to the fault that ends them if there is one.
-/

/-- A scalar: its text, the way it is written, and its tag. -/
structure Scalar where
  text : List Char
  style : ScalarStyle := .plain
  tag : Option (List Char) := none
  deriving DecidableEq, Repr, Inhabited

/-- What happens. -/
inductive EventKind where
  | documentStart
  | documentEnd
  | streamEnd
  | reference (name : List Char)
  | scalar (s : Scalar)
  | sequenceStart
  | sequenceEnd
  | mappingStart
  | mappingEnd
  deriving DecidableEq, Repr, Inhabited

/-- What happens, where, and the anchor of a node that begins. -/
structure Event where
  kind : EventKind
  mark : Mark
  anchor : Option (List Char) := none
  deriving DecidableEq, Repr, Inhabited

/-- A part of the grammar that is expected. Collections carry the place where they started. -/
inductive Goal where
  /-- a document, or the end of the text -/
  | document (first : Bool)
  /-- the content behind `---` -/
  | content
  /-- the end of a document -/
  | documentEnd
  /-- a node; in flow collections there are no block collections -/
  | node (block indentless : Bool)
  | blockEntries (start : Mark)
  /-- the entries of a sequence that is indented no further than the mapping around it -/
  | indentlessEntries
  | blockKeys (start : Mark)
  | blockValue
  | flowEntries (start : Mark) (first : Bool)
  /-- the key of a mapping with a single pair, written without braces -/
  | pairKey
  | pairValue
  | pairEnd
  | flowKeys (start : Mark) (first : Bool)
  | flowValue
  /-- the value of a key that is followed by none -/
  | flowNoValue
  deriving DecidableEq, Repr

/-- What a goal leads to. -/
structure Step where
  events : List Event
  /-- the goals in its place -/
  goals : List Goal
  tokens : List Token

namespace Event

/-- Tag handles and what they stand for. -/
abbrev Handles : Type := List (List Char × List Char)

/-- The handles that every document has. -/
def defaultHandles : Handles := [(['!'], ['!']), (['!', '!'], "tag:yaml.org,2002:".toList)]

/-- An empty scalar at a place. -/
def empty (m : Mark) : Event := { kind := .scalar { text := [] }, mark := m }

/-- A fault that is found at a token. -/
def faultAt {α : Type} (t : Token) (problem : Problem) (within : Option (Construct × Mark)) :
    Except Fault α :=
  .error (.malformed problem t.start within)

/-- Reads directives. Returns the handles that they declare; the first argument tells whether the
    version was declared already. `none` means that the tokens end too early. -/
def readDirectives (version : Bool) (handles : Handles) :
    List Token → Except Fault (Option (Handles × List Token))
  | [] => .ok none
  | t :: ts =>
    match t.kind with
    | .versionDirective major minor =>
      if version then faultAt t .versionRepeated none
      else if major ≠ 1 ∨ (minor ≠ 1 ∧ minor ≠ 2) then faultAt t .versionUnsupported none
      else readDirectives true handles ts
    | .tagDirective handle value =>
      if handles.any (·.1 == handle) then faultAt t .handleRepeated none
      else readDirectives version (handles ++ [(handle, value)]) ts
    | _ => .ok (some (handles, t :: ts))

/-- Passes over the ends of earlier documents. -/
def skipDocumentEnds : List Token → List Token
  | [] => []
  | t :: ts => if t.kind = .documentEnd then skipDocumentEnds ts else t :: ts

/-- Does the token belong to the frame around documents? -/
def isFrame : TokenKind → Bool
  | .versionDirective _ _ | .tagDirective _ _ | .documentStart | .streamEnd => true
  | _ => false

/-- What is written in front of a node. -/
structure Properties where
  anchor : Option (List Char) := none
  tag : Option (Token × List Char × List Char) := none

/-- Reads an anchor and a tag, in either order. -/
def readProperties : List Token → Properties × List Token
  | [] => ({}, [])
  | t :: ts =>
    match t.kind with
    | .anchor name =>
      match ts with
      | ⟨.tag h s, m, n⟩ :: ts => (⟨some name, some (⟨.tag h s, m, n⟩, h, s)⟩, ts)
      | ts => (⟨some name, none⟩, ts)
    | .tag h s =>
      match ts with
      | ⟨.anchor name, _, _⟩ :: ts => (⟨some name, some (t, h, s)⟩, ts)
      | ts => (⟨none, some (t, h, s)⟩, ts)
    | _ => ({}, t :: ts)

/-- The tag that a handle and a suffix stand for. -/
def resolveTag (handles : Handles) (start : Mark) :
    Option (Token × List Char × List Char) → Except Fault (Option (List Char))
  | none => .ok none
  | some (t, handle, suffix) =>
    if handle = [] then .ok (some suffix)
    else
      match handles.lookup handle with
      | some value => .ok (some (value ++ suffix))
      | none => faultAt t .handleUndefined (some (.node, start))

/-- The scalar of a token; the tag `!` of a scalar says nothing. -/
def scalarOf (text : List Char) (style : ScalarStyle) (tag : Option (List Char)) : Scalar :=
  ⟨text, style, if tag = some ['!'] then none else tag⟩

/-- Reads a node that is no alias, behind its properties. -/
def readContent (block indentless : Bool) (start : Mark) (p : Properties) (tag : Option (List Char))
    (t : Token) (ts : List Token) : Except Fault Step :=
  let event (kind : EventKind) : Event := ⟨kind, start, p.anchor⟩
  let failure : Except Fault Step :=
    if p.anchor.isSome ∨ tag.isSome then
      .ok ⟨[event (.scalar ⟨[], .plain, tag⟩)], [], t :: ts⟩
    else faultAt t .nodeExpected (some (if block then .blockNode else .flowNode, start))
  match t.kind with
  | .blockEntry =>
    if indentless then .ok ⟨[event .sequenceStart], [.indentlessEntries], t :: ts⟩ else failure
  | .scalar text style => .ok ⟨[event (.scalar (scalarOf text style tag))], [], ts⟩
  | .flowSequenceStart => .ok ⟨[event .sequenceStart], [.flowEntries t.start true], ts⟩
  | .flowMappingStart => .ok ⟨[event .mappingStart], [.flowKeys t.start true], ts⟩
  | .blockSequenceStart =>
    if block then .ok ⟨[event .sequenceStart], [.blockEntries t.start], ts⟩ else failure
  | .blockMappingStart =>
    if block then .ok ⟨[event .mappingStart], [.blockKeys t.start], ts⟩ else failure
  | _ => failure

/-- Reads a node. `none` means that the tokens end too early. -/
def readNode (handles : Handles) (block indentless : Bool) (ts : List Token) :
    Except Fault (Option Step) := do
  match ts with
  | [] => .ok none
  | t :: rest =>
    match t.kind with
    | .reference name => .ok (some ⟨[⟨.reference name, t.start, none⟩], [], rest⟩)
    | _ =>
      match readProperties (t :: rest) with
      | (_, []) => .ok none
      | (p, u :: us) =>
        let tag ← resolveTag handles t.start p.tag
        let step ← readContent block indentless t.start p tag u us
        .ok (some step)

/-- A step that reaches a node or, before one of the given tokens, stands for an empty scalar. -/
def nodeUnless (stops : List TokenKind) (m : Mark) (block indentless : Bool) (next : List Goal)
    (ts : List Token) : Option Step :=
  match ts with
  | [] => none
  | t :: _ =>
    if stops.contains t.kind then some ⟨[empty m], next, ts⟩
    else some ⟨[], .node block indentless :: next, ts⟩

/-- Reads an entry of a flow collection, or its end. The comma between two entries has to be there;
    `entry` goes on behind it. -/
def flowStep (stop : TokenKind) (stopEvent : EventKind) (problem : Problem) (construct : Construct)
    (start : Mark) (first : Bool) (entry : Token → List Token → Option Step) (ts : List Token) :
    Except Fault (Option Step) :=
  let close (t : Token) (ts : List Token) : Option Step := some ⟨[⟨stopEvent, t.start, none⟩], [], ts⟩
  match ts with
  | [] => .ok none
  | t :: rest =>
    if t.kind = stop then .ok (close t rest)
    else if first then .ok (entry t rest)
    else if t.kind = .flowEntry then
      match rest with
      | [] => .ok none
      | u :: us => .ok (if u.kind = stop then close u us else entry u us)
    else faultAt t problem (some (construct, start))

/-- Reads a document or the end of the text. `none` means that the tokens end too early. -/
def readDocument (first : Bool) (ts : List Token) : Except Fault (Option (Handles × Step)) := do
  match if first then ts else skipDocumentEnds ts with
  | [] => .ok none
  | t :: rest =>
    if first ∧ ¬ isFrame t.kind then
      .ok (some (defaultHandles,
        ⟨[⟨.documentStart, t.start, none⟩], [.node true false, .documentEnd], t :: rest⟩))
    else if t.kind = .streamEnd then
      .ok (some ([], ⟨[⟨.streamEnd, t.start, none⟩], [], rest⟩))
    else
      match ← readDirectives false [] (t :: rest) with
      | none => .ok none
      | some (_, []) => .ok none
      | some (handles, u :: us) =>
        if u.kind = .documentStart then
          .ok (some (handles ++ defaultHandles,
            ⟨[⟨.documentStart, t.start, none⟩], [.content, .documentEnd], us⟩))
        else faultAt u .documentStartExpected none

/-- Works on a goal that lies within a document. `none` means that the tokens end too early. -/
def stepWithin (handles : Handles) (goal : Goal) (tokens : List Token) :
    Except Fault (Option Step) :=
  match goal, tokens with
  | _, [] => .ok none
  | .node block indentless, ts => readNode handles block indentless ts
  | .content, t :: ts =>
    if isFrame t.kind ∨ t.kind = .documentEnd then .ok (some ⟨[empty t.start], [], t :: ts⟩)
    else .ok (some ⟨[], [.node true false], t :: ts⟩)
  | .blockEntries start, t :: ts =>
    if t.kind = .blockEntry then
      .ok (nodeUnless [.blockEntry, .blockEnd] t.stop true false [.blockEntries start] ts)
    else if t.kind = .blockEnd then .ok (some ⟨[⟨.sequenceEnd, t.start, none⟩], [], ts⟩)
    else faultAt t .dashExpected (some (.blockSequence, start))
  | .indentlessEntries, t :: ts =>
    if t.kind = .blockEntry then
      .ok (nodeUnless [.blockEntry, .key, .value, .blockEnd] t.stop true false
        [.indentlessEntries] ts)
    else .ok (some ⟨[⟨.sequenceEnd, t.start, none⟩], [], t :: ts⟩)
  | .blockKeys start, t :: ts =>
    if t.kind = .key then
      .ok (nodeUnless [.key, .value, .blockEnd] t.stop true true [.blockValue, .blockKeys start] ts)
    else if t.kind = .blockEnd then .ok (some ⟨[⟨.mappingEnd, t.start, none⟩], [], ts⟩)
    else faultAt t .keyExpected (some (.blockMapping, start))
  | .blockValue, t :: ts =>
    if t.kind = .value then
      .ok (nodeUnless [.key, .value, .blockEnd] t.stop true true [] ts)
    else .ok (some ⟨[empty t.start], [], t :: ts⟩)
  | .flowEntries start first, ts =>
    flowStep .flowSequenceEnd .sequenceEnd .commaOrBracketExpected .flowSequence start first
      (fun t rest =>
        if t.kind = .key then
          some ⟨[⟨.mappingStart, t.start, none⟩], [.pairKey, .flowEntries start false], rest⟩
        else some ⟨[], [.node false false, .flowEntries start false], t :: rest⟩) ts
  | .pairKey, t :: ts =>
    if [.value, .flowEntry, .flowSequenceEnd].contains t.kind then
      .ok (some ⟨[empty t.stop], [.pairValue], ts⟩)
    else .ok (some ⟨[], [.node false false, .pairValue], t :: ts⟩)
  | .pairValue, t :: ts =>
    if t.kind = .value then
      .ok <| match ts with
        | [] => none
        | u :: us => nodeUnless [.flowEntry, .flowSequenceEnd] u.start false false [.pairEnd] (u :: us)
    else .ok (some ⟨[empty t.start], [.pairEnd], t :: ts⟩)
  | .pairEnd, t :: ts => .ok (some ⟨[⟨.mappingEnd, t.start, none⟩], [], t :: ts⟩)
  | .flowKeys start first, ts =>
    flowStep .flowMappingEnd .mappingEnd .commaOrBraceExpected .flowMapping start first
      (fun t rest =>
        if t.kind = .key then
          match rest with
          | [] => none
          | u :: us => nodeUnless [.value, .flowEntry, .flowMappingEnd] u.start false false
              [.flowValue, .flowKeys start false] (u :: us)
        else some ⟨[], [.node false false, .flowNoValue, .flowKeys start false], t :: rest⟩) ts
  | .flowValue, t :: ts =>
    if t.kind = .value then
      .ok <| match ts with
        | [] => none
        | u :: us => nodeUnless [.flowEntry, .flowMappingEnd] u.start false false [] (u :: us)
    else .ok (some ⟨[empty t.start], [], t :: ts⟩)
  | .flowNoValue, t :: ts => .ok (some ⟨[empty t.start], [], t :: ts⟩)
  | .documentEnd, t :: ts =>
    .ok (some ⟨[⟨.documentEnd, t.start, none⟩], [.document false],
      if t.kind = .documentEnd then ts else t :: ts⟩)
  | .document _, ts => .ok (some ⟨[], [], ts⟩)

/-- Works on a goal; also gives the handles that hold from then on. -/
def step (handles : Handles) (goal : Goal) (tokens : List Token) :
    Except Fault (Option (Handles × Step)) :=
  match goal with
  | .document first => readDocument first tokens
  | goal => (stepWithin handles goal tokens).map fun s => s.map fun s => (handles, s)

/-- Works on goals until none is left. The number bounds the steps that are left. -/
def run : Nat → Handles → List Goal → List Token → List Event × Option Fault
  | 0, _, _, _ => ([], none)
  | _, _, [], _ => ([], none)
  | fuel + 1, handles, goal :: goals, ts =>
    match step handles goal ts with
    | .error f => ([], some f)
    | .ok none => ([], none)
    | .ok (some (handles, s)) =>
      let (more, fault) := run fuel handles (s.goals ++ goals) s.tokens
      (s.events ++ more, fault)

/-- The number of steps without progress that can follow one another. -/
def idleSteps : Nat := 8

/-- The events of tokens, up to the first fault of the grammar. -/
def ofTokens (ts : List Token) : List Event × Option Fault :=
  run (idleSteps * (ts.length + 1)) defaultHandles [.document true] ts

/-- The events of a text, up to the first fault. -/
def ofText (cs : List Char) : List Event × Option Fault :=
  let (ts, lexical) := Lexer.tokens cs
  let (es, fault) := ofTokens (ts.drop 1)
  (es, fault <|> lexical)

end Event

end Grok.Yaml
