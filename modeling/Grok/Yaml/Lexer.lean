import Grok.Yaml.Token.Block
import Grok.Yaml.Token.Plain
import Grok.Yaml.Token.Quoted
import Grok.Yaml.Token.Tag

namespace Grok.Yaml

/-!
# Cutting a text into tokens

Keys of mappings are not marked in front: a token is found to be a key only when a colon follows it
on the same line. Until then it is held back as a *possible key*, and all tokens behind it as well.

* `Lexer` is the state between two tokens.
* `Lexer.fetch` finds the next tokens.
* `Lexer.tokens` are the tokens of a text, up to the fault that ends it if there is one.
-/

/-- A token that is a key if a colon follows. -/
structure PossibleKey where
  /-- Does the layout demand a key here? -/
  required : Bool
  /-- The number of tokens in front of it. -/
  number : Nat
  mark : Mark
  deriving DecidableEq, Repr

/-- The state between two tokens. -/
structure Lexer where
  cursor : Cursor
  /-- Tokens that are found but held back. -/
  queue : List Token := []
  /-- The number of tokens that were passed on. -/
  passed : Nat := 0
  /-- The columns of the open block collections, the innermost first. -/
  indents : List Nat := []
  /-- Can a key begin here? -/
  keyAllowed : Bool := true
  /-- The possible key of the innermost flow collection. -/
  key : Option PossibleKey := none
  /-- The possible keys outside of each open flow collection, the innermost first. -/
  outerKeys : List (Option PossibleKey) := []

namespace Lexer

/-- The longest distance in columns between a key and its colon. -/
def longestKey : Nat := 1024

/-- Is a flow collection open? -/
def inFlow (l : Lexer) : Bool := !l.outerKeys.isEmpty

/-- The place of the cursor. -/
def mark (l : Lexer) : Mark := l.cursor.mark

/-- Does a required key lack its colon if it ends here? -/
def missingColon {α : Type} (l : Lexer) (k : PossibleKey) : Except Fault α :=
  l.cursor.fault .colonExpected (some (.simpleKey, k.mark))

/-- Adds a token. -/
def push (l : Lexer) (t : Token) : Lexer := { l with queue := l.queue ++ [t] }

/-- Adds a token without an extent. -/
def pushMark (l : Lexer) (kind : TokenKind) : Lexer := l.push ⟨kind, l.mark, l.mark⟩

/-- Adds a token that consists of the next `n` characters. -/
def pushIndicator (l : Lexer) (kind : TokenKind) (n : Nat := 1) : Lexer :=
  let c := l.cursor.drop n
  { l.push ⟨kind, l.mark, c.mark⟩ with cursor := c }

/-- Adds a token in front of the token number `number`. -/
def insertAt (l : Lexer) (number : Nat) (t : Token) : Lexer :=
  let n := number - l.passed
  { l with queue := l.queue.take n ++ t :: l.queue.drop n }

/-- Gives up the possible key of the innermost flow collection. -/
def dropKey (l : Lexer) : Except Fault Lexer :=
  match l.key with
  | some k => if k.required then l.missingColon k else .ok { l with key := none }
  | none => .ok l

/-- Has a possible key been left too far behind? -/
def isStale (l : Lexer) (k : PossibleKey) : Bool :=
  decide (k.mark.line < l.mark.line) || decide (k.mark.column + longestKey < l.mark.column)

/-- A possible key, unless it has been left behind. -/
def refresh (l : Lexer) : Option PossibleKey → Except Fault (Option PossibleKey)
  | none => .ok none
  | some k =>
    if l.isStale k then if k.required then l.missingColon k else .ok none else .ok (some k)

/-- Gives up the possible keys that have been left behind, the outermost first. -/
def dropStale (l : Lexer) : Except Fault Lexer := do
  let outer ← l.outerKeys.reverse.mapM l.refresh
  let key ← l.refresh l.key
  .ok { l with key := key, outerKeys := outer.reverse }

/-- Notes that the next token may be a key. -/
def noteKey (l : Lexer) : Except Fault Lexer :=
  if l.keyAllowed then do
    let l ← l.dropKey
    let required := !l.inFlow && l.indents.head? == some l.mark.column
    .ok { l with key := some ⟨required, l.passed + l.queue.length, l.mark⟩ }
  else .ok l

/-- Closes the block collections that are indented further than `column`, or all of them. -/
def unroll (l : Lexer) (column : Option Nat) : Lexer :=
  if l.inFlow then l
  else
    let closed := l.indents.takeWhile fun i => column.all (· < i)
    closed.foldl (fun l _ => l.pushMark .blockEnd) { l with indents := l.indents.drop closed.length }

/-- Opens a block collection at a column that is indented further than the one around it. Its token
    goes in front of the token number `number`, or behind all others. -/
def roll (l : Lexer) (column : Nat) (number : Option Nat) (kind : TokenKind) (start : Mark) :
    Lexer :=
  if l.inFlow || l.indents.head?.any (column ≤ ·) then l
  else
    let t : Token := ⟨kind, start, start⟩
    let l := { l with indents := column :: l.indents }
    match number with
    | some n => l.insertAt n t
    | none => l.push t

/-- Opens a block collection at the cursor, where a key has to be allowed. -/
def rollHere (l : Lexer) (kind : TokenKind) (problem : Problem) : Except Fault Lexer :=
  if l.inFlow then .ok l
  else if l.keyAllowed then .ok (l.roll l.mark.column none kind l.mark)
  else l.cursor.fault problem none

/-- Moves behind blanks, comments and line breaks. Tabs are skipped only where no key can begin. The
    number bounds the lines that are left. -/
def skipBlanks : Nat → Lexer → Lexer
  | 0, l => l
  | lines + 1, l =>
    let c := l.cursor
    let c := if c.mark.column = 0 ∧ c.rest.head? = some '\uFEFF' then c.skip else c
    let tabs := l.inFlow || !l.keyAllowed
    let c := (c.skipWhile fun x => x == ' ' || (tabs && x == '\t')).skipComment
    if c.rest ≠ [] ∧ breakAhead c.rest then
      skipBlanks lines { l with cursor := c.skip, keyAllowed := l.keyAllowed || !l.inFlow }
    else { l with cursor := c }

/-- Ends the text: all block collections are closed, as on a new line. -/
def fetchEnd (l : Lexer) : Except Fault Lexer := do
  let m := l.mark
  let l := { l with cursor := ⟨[], if m.column = 0 then m else ⟨m.line + 1, 0⟩⟩ }
  let l ← (l.unroll none).dropKey
  .ok ({ l with keyAllowed := false }.pushMark .streamEnd)

/-- Reads a directive. -/
def fetchDirective (l : Lexer) : Except Fault Lexer := do
  let l ← (l.unroll none).dropKey
  let (t, c) ← Tag.readDirective l.cursor
  .ok ({ l with keyAllowed := false, cursor := c }.push t)

/-- Reads `---` or `...`. -/
def fetchDocumentIndicator (l : Lexer) (kind : TokenKind) : Except Fault Lexer := do
  let l ← (l.unroll none).dropKey
  .ok ({ l with keyAllowed := false }.pushIndicator kind 3)

/-- Reads the indicator that opens a flow collection. -/
def fetchFlowStart (l : Lexer) (kind : TokenKind) : Except Fault Lexer := do
  let l ← l.noteKey
  .ok ({ l with outerKeys := l.key :: l.outerKeys, key := none, keyAllowed := true }.pushIndicator
    kind)

/-- Reads the indicator that closes a flow collection. -/
def fetchFlowEnd (l : Lexer) (kind : TokenKind) : Except Fault Lexer := do
  let l ← l.dropKey
  let l := match l.outerKeys with
    | k :: ks => { l with key := k, outerKeys := ks }
    | [] => l
  .ok ({ l with keyAllowed := false }.pushIndicator kind)

/-- Reads the comma of a flow collection. -/
def fetchFlowEntry (l : Lexer) : Except Fault Lexer := do
  let l ← l.dropKey
  .ok ({ l with keyAllowed := true }.pushIndicator .flowEntry)

/-- Reads the dash of a block sequence. -/
def fetchBlockEntry (l : Lexer) : Except Fault Lexer := do
  let l ← l.rollHere .blockSequenceStart .entryNotAllowed
  let l ← l.dropKey
  .ok ({ l with keyAllowed := true }.pushIndicator .blockEntry)

/-- Reads the question mark in front of a key. -/
def fetchKey (l : Lexer) : Except Fault Lexer := do
  let l ← l.rollHere .blockMappingStart .keyNotAllowed
  let l ← l.dropKey
  .ok ({ l with keyAllowed := !l.inFlow }.pushIndicator .key)

/-- Reads the colon behind a key: the token of a possible key is now known to be one. -/
def fetchValue (l : Lexer) : Except Fault Lexer := do
  match l.key with
  | some k =>
    let l := l.insertAt k.number ⟨.key, k.mark, k.mark⟩
    let l := l.roll k.mark.column (some k.number) .blockMappingStart k.mark
    .ok ({ l with key := none, keyAllowed := false }.pushIndicator .value)
  | none =>
    let l ← l.rollHere .blockMappingStart .valueNotAllowed
    .ok ({ l with keyAllowed := !l.inFlow }.pushIndicator .value)

/-- Reads a token that may be a key, and behind which none can begin. -/
def fetchKeyLike (l : Lexer) (read : Cursor → Except Fault (Token × Cursor)) :
    Except Fault Lexer := do
  let l ← l.noteKey
  let (t, c) ← read l.cursor
  .ok ({ l with keyAllowed := false, cursor := c }.push t)

/-- Reads a block scalar. -/
def fetchBlockScalar (l : Lexer) : Except Fault Lexer := do
  let l ← l.dropKey
  let (t, c) ← Block.read l.indents.head? l.cursor
  .ok ({ l with keyAllowed := true, cursor := c }.push t)

/-- Reads a plain scalar. -/
def fetchPlain (l : Lexer) : Except Fault Lexer := do
  let l ← l.noteKey
  let indent := (l.indents.head?.map (· + 1)).getD 0
  let (t, broken, c) ← Plain.read l.inFlow indent l.cursor
  .ok ({ l with keyAllowed := broken, cursor := c }.push t)

/-- Reads what begins at the cursor. -/
def fetchHere (l : Lexer) : Except Fault Lexer :=
  let cs := l.cursor.rest
  let atLineStart := l.mark.column = 0
  match cs with
  | [] => l.fetchEnd
  | c :: rest =>
    let indicator := l.inFlow || blankAhead rest
    if atLineStart ∧ c = '%' then l.fetchDirective
    else if atLineStart ∧ tripleAhead '-' cs then l.fetchDocumentIndicator .documentStart
    else if atLineStart ∧ tripleAhead '.' cs then l.fetchDocumentIndicator .documentEnd
    else if c = '[' then l.fetchFlowStart .flowSequenceStart
    else if c = '{' then l.fetchFlowStart .flowMappingStart
    else if c = ']' then l.fetchFlowEnd .flowSequenceEnd
    else if c = '\x7d' then l.fetchFlowEnd .flowMappingEnd
    else if c = ',' then l.fetchFlowEntry
    else if c = '-' ∧ blankAhead rest then l.fetchBlockEntry
    else if c = '?' ∧ indicator then l.fetchKey
    else if c = ':' ∧ indicator then l.fetchValue
    else if c = '*' ∨ c = '&' then l.fetchKeyLike Tag.readAnchor
    else if c = '!' then l.fetchKeyLike (Tag.read l.inFlow)
    else if (c = '|' ∨ c = '>') ∧ ¬ l.inFlow then l.fetchBlockScalar
    else if c = '\'' ∨ c = '"' then l.fetchKeyLike Quoted.read
    else if Plain.begins l.inFlow cs then l.fetchPlain
    else l.cursor.fault .noToken (some (.token, l.mark))

/-- Finds the next tokens. -/
def fetch (l : Lexer) : Except Fault Lexer := do
  let l := l.skipBlanks (l.cursor.rest.length + 1)
  let l ← l.dropStale
  (l.unroll (some l.mark.column)).fetchHere

/-- The number of tokens in front of the first possible key, if there is one. -/
def held? (l : Lexer) : Option Nat :=
  ((l.key :: l.outerKeys).filterMap fun k => k.map (·.number)).min?

/-- Passes on the tokens in front of the first possible key. -/
def pass (l : Lexer) : List Token × Lexer :=
  let n := match l.held? with
    | some k => k - l.passed
    | none => l.queue.length
  (l.queue.take n, { l with queue := l.queue.drop n, passed := l.passed + (l.queue.take n).length })

/-- Finds tokens up to the end of the text. The number bounds the tokens that are left. A fault
    loses the tokens that are held back. -/
def run : Nat → Lexer → List Token × Option Fault
  | 0, _ => ([], none)
  | fuel + 1, l =>
    match l.fetch.bind dropStale with
    | .error f => ([], some f)
    | .ok l =>
      let (ts, l) := l.pass
      if ts.getLast?.any (·.kind == .streamEnd) then (ts, none)
      else
        let (more, fault) := run fuel l
        (ts ++ more, fault)

/-- The tokens of a text, up to a fault. -/
def tokens (cs : List Char) : List Token × Option Fault :=
  let (ts, fault) := run (cs.length + 3) { cursor := { rest := unifyBreaks cs } }
  (⟨.streamStart, {}, {}⟩ :: ts, fault)

end Lexer

end Grok.Yaml
