import Grok.Regex.Escape

namespace Grok.Regex

/-!
# Brackets

A bracket such as `[a-z0-9_&&[^q]]` stands for a set of characters.

* `Bracket.Token` are the parts of a bracket, `Bracket.next` reads one.
* `Bracket.Draft` is what is known of a bracket while it is read: the ranges so far, and the last
  value, which may turn out to start a range.
* `Bracket.read` reads a bracket behind its opening one.
-/

namespace Bracket

/-- A part of a bracket. -/
inductive Token where
  | stop
  | close
  | open_
  /-- a hyphen -/
  | range
  /-- the sign between two parts that are intersected -/
  | and
  | char (c : Char)
  | points (ps : List Escape.Point)
  /-- a byte of a character, with the base in which it is written -/
  | byte (n base : Nat)
  | set (s : CharSet)
  deriving DecidableEq, Repr

/-- Does a named class go on here? It is made of letters, perhaps behind a `^`, up to `:]`; `start`
    tells whether nothing of it has been seen. -/
def isNamed (start : Bool) : List Char → Bool
  | ':' :: ']' :: _ => !start
  | c :: cs => (Unicode.alphabetic.contains c || (start && c == '^')) && isNamed false cs
  | [] => false

/-- Reads the name of a class and what closes it. -/
def named (cs : List Char) : Except Fault (CharSet × List Char) :=
  let (negated, cs) := match cs with
    | '^' :: cs => (true, cs)
    | cs => (false, cs)
  let name := cs.takeWhile (· ≠ ':')
  match Unicode.bracketClasses.find? fun e => e.1.toList = name with
  | some (_, s) => .ok (s.negateIf negated, (cs.drop name.length).drop 2)
  | none => .error .unknownClass

/-- Reads what stands behind a backslash in a bracket. -/
def escaped (around : Escape.Surroundings) : List Char → Except Fault (Token × List Char)
  | [] => .error .endAtEscape
  | c :: rest =>
    match c, rest with
    | 'p', '\x7b' :: inner => (Escape.property false inner).map fun (s, rest) => (.set s, rest)
    | 'P', '\x7b' :: inner => (Escape.property true inner).map fun (s, rest) => (.set s, rest)
    | _, _ =>
      match Escape.letterClass? c with
      | some s => .ok (.set s, rest)
      | none =>
        if c = 'x' ∨ c = 'o' ∨ c = 'u' then (Escape.numeric c around rest).map (ofNumeric c 16)
        else if '0' ≤ c ∧ c ≤ '7' then .ok (ofNumeric c 8 (Escape.octal 3 (c :: rest)))
        else if c = 'p' ∨ c = 'P' then .ok (.char c, rest)
        else do
          let (n, after) ← Escape.controlled (c :: rest)
          if n = c.toNat then .ok (.char c, rest) else .ok (.points [.code n], after)
where
  /-- The token of a number. -/
  ofNumeric (letter : Char) (base : Nat) : Escape.Numeric × List Char → Token × List Char
    | (.points ps, rest) => (.points ps, rest)
    | (.byte n, rest) => (.byte n base, rest)
    | (.letter, rest) => (.char letter, rest)

/-- Reads the next part of a bracket. -/
def next (around : Escape.Surroundings) : List Char → Except Fault (Token × List Char)
  | [] => .ok (.stop, [])
  | ']' :: rest => .ok (.close, rest)
  | '-' :: rest => .ok (.range, rest)
  | '\\' :: rest => escaped around rest
  | '[' :: ':' :: rest =>
    if isNamed true rest then (named rest).map fun (s, after) => (.set s, after)
    else .ok (.open_, ':' :: rest)
  | '[' :: rest => .ok (.open_, rest)
  | '&' :: '&' :: rest => .ok (.and, rest)
  | c :: rest => .ok (.char c, rest)

/-- What a value is: a single byte, a character of several bytes, or a class. -/
inductive Kind where
  | byte
  | wide
  | class_
  deriving DecidableEq, Repr

/-- Where a bracket stands: at its start or behind `&&`, behind a value, behind the hyphen of a
    range, or behind a range or an inner bracket. -/
inductive Place where
  | start
  | value
  | range
  | complete
  deriving DecidableEq, Repr

/-- What is known of a bracket while it is read. -/
structure Draft where
  /-- The ranges of the part that is being read. -/
  ranges : List CharRange := []
  /-- The parts before it. -/
  before : Option CharSet := none
  place : Place := .start
  last : Nat := 0
  kind : Kind := .class_

namespace Draft

/-- Adds a range between two values of a kind. Bytes that are no characters of their own match
    nothing, and values of several bytes are no ASCII characters. -/
def add (d : Draft) (kind : Kind) (first last : Nat) : Draft :=
  match kind with
  | .class_ => d
  | .wide => if last < 128 then d else { d with ranges := ⟨max first 128, last⟩ :: d.ranges }
  | .byte => if first < 128 then { d with ranges := ⟨first, min last 127⟩ :: d.ranges } else d

/-- Adds the last value. -/
def flush (d : Draft) : Draft := if d.place = .value then d.add d.kind d.last d.last else d

/-- Takes a value: it ends a range, or waits for what follows. -/
def value (d : Draft) (kind : Kind) (n : Nat) : Except Fault Draft :=
  match d.place with
  | .range =>
    if n < d.last then .error .emptyRange
    else
      let d' :=
        if d.kind = kind then d.add kind d.last n
        else { d with ranges := ⟨d.last, n⟩ :: d.ranges }
      .ok { d' with place := .complete, last := n, kind := kind }
  | _ => .ok { d.flush with place := .value, last := n, kind := kind }

/-- Takes a code point. -/
def code (d : Draft) (n : Nat) : Except Fault Draft :=
  if n < 128 then d.value .byte n
  else if n ≤ Letter.maxCode then d.value .wide n
  else .error .invalidCodePoint

/-- Takes a class. -/
def set (d : Draft) (s : CharSet) : Except Fault Draft :=
  if d.place = .range then .error .classEndsRange
  else
    let d := d.flush
    .ok { d with ranges := s.ranges ++ d.ranges, place := .value, kind := .class_ }

/-- Takes an inner bracket. -/
def inner (d : Draft) (s : CharSet) : Draft :=
  let d := d.flush
  { d with ranges := s.ranges ++ d.ranges, place := .complete }

/-- The code points so far. -/
def total (d : Draft) : CharSet :=
  match d.before with
  | none => .ofRanges d.ranges
  | some s => s.inter (.ofRanges d.ranges)

/-- Starts the next part of an intersection. -/
def and (d : Draft) : Draft :=
  let d := d.flush
  { d with ranges := [], before := some d.total, place := .start }

/-- Takes code points written as numbers, and the hyphens between them. -/
def points (d : Draft) : List Escape.Point → Except Fault Draft
  | [] => .ok d
  | .code n :: ps => do points (← d.code n) ps
  | .range :: ps => points { d with place := .range } ps

end Draft

/-- Reads the bytes of a character behind its first one. -/
def bytes (base : Nat) : Nat → List Char → Except Fault (List Nat × List Char)
  | 0, cs => .ok ([], cs)
  | k + 1, cs => do
    match ← next .bracket cs with
    | (.byte n b, rest) =>
      if b = base then do
        let (ns, rest) ← bytes base k rest
        .ok (n :: ns, rest)
      else .error .shortByteSequence
    | _ => .error .shortByteSequence

/-- Takes a byte and the others of its character. -/
def character (d : Draft) (n base : Nat) (cs : List Char) : Except Fault (Draft × List Char) := do
  let (ns, rest) ← bytes base (Escape.byteCount n - 1) cs
  if ns = [] then .ok (← d.value .byte n, rest)
  else
    match Escape.bytesToLetter? (n :: ns) with
    | some l => .ok (← d.value .wide l.code, rest)
    | none => .error .invalidCodePoint

mutual

/-- Reads a bracket behind its opening one, and what may stand only there; `depth` more may be
    nested. -/
def readInner (depth : Nat) : Nat → List Char → Except Fault (CharSet × List Char)
  | 0, _ => .error .openBracket
  | fuel + 1, cs => do
    if depth = 0 then throw .nestingTooDeep
    let (negated, cs) := match cs with
      | '^' :: cs => (true, cs)
      | cs => (false, cs)
    let (token, rest) ← next .bracket cs
    let (s, rest) ←
      if token = .close then
        if rest.contains ']' then parts (depth - 1) fuel {} (.char ']') rest else throw .emptyBracket
      else parts (depth - 1) fuel {} token rest
    .ok (s.negateIf negated, rest)

/-- Reads the parts of a bracket from `token` on. -/
def parts (depth : Nat) : Nat → Draft → Token → List Char → Except Fault (CharSet × List Char)
  | 0, _, _, _ => .error .openBracket
  | fuel + 1, d, token, cs => do
    match token with
    | .stop => throw .openBracket
    | .close => .ok (d.flush.total, cs)
    | .char c =>
      let d ← d.code c.toNat
      let (t, rest) ← next .bracket cs
      parts depth fuel d t rest
    | .points ps =>
      let d ← d.points ps
      let (t, rest) ← next .bracket cs
      parts depth fuel d t rest
    | .byte n base =>
      let (d, rest) ← character d n base cs
      let (t, rest) ← next .bracket rest
      parts depth fuel d t rest
    | .set s =>
      let d ← d.set s
      let (t, rest) ← next .bracket cs
      parts depth fuel d t rest
    | .open_ =>
      let (s, rest) ← readInner depth fuel cs
      let d := d.inner s
      let (t, rest) ← next .bracket rest
      parts depth fuel d t rest
    | .and =>
      let d := d.and
      let (t, rest) ← next .bracket cs
      parts depth fuel d t rest
    | .range =>
      let (t, rest) ←
        match d.place with
        | .range => .ok (.range, cs)
        | .value => next .rangeEnd cs
        | _ => next .bracket cs
      match d.place with
      | .value =>
        if t = .close ∨ t = .and then parts depth fuel (← d.code '-'.toNat) t rest
        else if d.kind = .class_ then throw .classStartsRange
        else parts depth fuel { d with place := .range } t rest
      | .range =>
        let d ← d.code '-'.toNat
        let (t, rest) ← next .bracket cs
        parts depth fuel d t rest
      | _ => parts depth fuel (← d.code '-'.toNat) t rest

end

/-- Reads a bracket behind its opening one; `depth` tells how deep brackets may be nested. -/
def read (depth : Nat) (cs : List Char) : Except Fault (CharSet × List Char) :=
  readInner depth (2 * cs.length + 2) cs

end Bracket

end Grok.Regex
