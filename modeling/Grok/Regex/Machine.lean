import Grok.Regex.Program
import Grok.Unicode.Grapheme

namespace Grok.Regex

/-!
# Running programs

A program is run by a machine that keeps the choices it has not taken yet. Where an instruction
fails, the machine goes back to the last of them.

* `Moment` is what a choice has to restore besides the places in the program and in the text.
* `Thread.step` runs one instruction.
* `Program.run` runs a program from a place of the text.
* `Program.search` looks for the first of some places from which the program accepts.
-/

/-- A group that was opened, and where it was closed; `depth` is the number of calls around it. -/
structure GroupEvent where
  group : Nat
  start : Nat
  stop : Option Nat
  depth : Nat
  deriving DecidableEq, Repr, Inhabited

/-- A lap that is being run: where it started, and the events before it. -/
structure Lap where
  start : Nat
  events : List GroupEvent
  deriving DecidableEq, Repr, Inhabited

/-- A place in the text, and the number of choices that were left there. -/
structure Mark where
  pos : Nat
  height : Nat
  deriving DecidableEq, Repr, Inhabited

/-- What is remembered in a slot; `depth` is the number of calls around. -/
structure SlotEntry where
  slot : Nat
  value : Nat
  depth : Nat
  deriving DecidableEq, Repr, Inhabited

/-- What a choice has to restore. -/
structure Moment where
  /-- What happened to groups, the last event first. -/
  events : List GroupEvent
  laps : List Lap
  /-- How often the loops that are counted have been run. -/
  counts : List Nat
  marks : List Mark
  slots : List SlotEntry
  /-- Where calls come back to. -/
  returns : List Nat
  /-- Where the match starts. -/
  keep : Nat
  deriving DecidableEq, Repr, Inhabited

namespace Moment

/-- At the start of a run. -/
def initial (start : Nat) : Moment := ⟨[], [], [], [], [], [], start⟩

/-- The number of calls around. -/
def depth (m : Moment) : Nat := m.returns.length

/-- Remembers a value in a slot. -/
def save (m : Moment) (slot value : Nat) : Moment :=
  { m with slots := ⟨slot, value, m.depth⟩ :: m.slots }

/-- What was last remembered in a slot with as many calls around. -/
def saved? (m : Moment) (slot : Nat) : Option Nat :=
  (m.slots.find? fun e => e.slot == slot && e.depth == m.depth).map SlotEntry.value

end Moment

namespace GroupEvent

/-- The start of the group `i` that is open, if inner ones of the same number are closed first. -/
def openStart? (i : Nat) : Nat → List GroupEvent → Option Nat
  | _, [] => none
  | closed, e :: es =>
    if e.group ≠ i then openStart? i closed es
    else
      match e.stop, closed with
      | some _, n => openStart? i (n + 1) es
      | none, 0 => some e.start
      | none, n + 1 => openStart? i n es

/-- The text of a group, unless it is still open. -/
def range? (i : Nat) (es : List GroupEvent) : Option (Nat × Nat) := do
  let e ← es.find? fun e => e.group = i
  let stop ← e.stop
  some (e.start, stop)

/-- The text of the group that was closed last at a depth of calls, among several. -/
def rangeAt? (groups : List Nat) (depth : Int) (es : List GroupEvent) : Option (Nat × Nat) :=
  es.findSome? fun e =>
    if groups.contains e.group ∧ (e.depth : Int) = depth then e.stop.map fun s => (e.start, s)
    else none

/-- What an empty lap has changed. -/
inductive Change where
  /-- nothing -/
  | none
  /-- a group has taken a text, or another text -/
  | some
  /-- a group has taken no text at another place -/
  | moved
  deriving DecidableEq, Repr

/-- What the events of a lap that ends at `pos` have changed of the groups `watched`. The events
    come with the last one first, `before` are those before the lap. -/
def change (watched : List Nat) (pos : Nat) (before : List GroupEvent) : List GroupEvent → Change
  | [] => .none
  | e :: es =>
    match change watched pos before es with
    | .some => .some
    | c =>
      if e.stop.isNone ∧ watched.contains e.group then
        match range? e.group (es ++ before) with
        | none => .some
        | some (start, stop) => if start ≠ stop then .some else if stop ≠ pos then .moved else c
      else c

end GroupEvent

/-- A run of a program: places in the program and in the text, and the rest of its state. -/
structure Thread where
  pc : Nat
  pos : Nat
  moment : Moment
  deriving DecidableEq, Repr, Inhabited

/-- A choice that is left: how to go on, and whether it stays when choices are dropped. -/
structure Choice where
  thread : Thread
  stays : Bool
  deriving Inhabited

/-- What comes of an instruction. -/
inductive Action where
  /-- goes on -/
  | continue (t : Thread)
  /-- goes on, with another end of the text -/
  | stopAt (stop : Nat) (t : Thread)
  /-- goes on, and leaves a choice -/
  | fork (t : Thread) (choice : Choice)
  /-- drops choices down to a number of them, but for those that stay, and goes on -/
  | cut (height : Nat) (t : Thread)
  /-- drops the last choice and goes on -/
  | drop (t : Thread)
  /-- drops choices down to a number of them and fails -/
  | reject (height : Nat)
  | fail
  | accept

namespace Assertion

/-- Is there a word character at a place of the text? -/
def isWordAt (text : Array Char) (i : Nat) : Bool := text[i]?.any isWord

/-- Is the place between two grapheme clusters? -/
def isClusterBoundary (text : Array Char) (pos : Nat) : Bool :=
  match pos, text[pos]? with
  | 0, _ => true
  | _, none => true
  | _, some c =>
    !Unicode.graphemeJoins ((text.extract 0 pos).toList.reverse.map Unicode.GraphemeClass.of) (.of c)

/-- Is a place of the text between a word and what surrounds it? The start is if a word starts there
    before `stop`. -/
def isWordBoundary (text : Array Char) (stop pos : Nat) : Bool :=
  if pos = 0 then pos < stop && isWordAt text 0
  else isWordAt text (pos - 1) != isWordAt text pos

/-- Does the condition hold at a place of a text that ends at `stop` for now? -/
def holds (text : Array Char) (stop pos : Nat) : Assertion → Bool
  | .textStart => pos == 0
  | .searchStart => pos == 0
  | .textEnd => pos == text.size
  | .lastLineEnd => pos == text.size || (pos + 1 == text.size && text[pos]? == some '\n')
  | .lineStart => pos == 0 || (text[pos - 1]? == some '\n' && pos != text.size)
  | .lineEnd => pos == text.size || text[pos]? == some '\n'
  | .wordBoundary negated => isWordBoundary text stop pos != negated
  | .clusterBoundary negated => isClusterBoundary text pos != negated

end Assertion

/-- The number of bytes of the text between two places. -/
def byteDistance (text : Array Char) (start stop : Nat) : Nat :=
  (text.extract start stop).foldl (fun n c => n + Utf8.width c) 0

/-- The place behind a repetition of the `count` characters from `start` on. -/
def takeAgain (text : Array Char) (folded : Bool) : Nat → Nat → Nat → Option Nat
  | 0, _, pos => some pos
  | count + 1, start, pos =>
    match text[start]?, text[pos]? with
    | some c, some d =>
      if c = d ∨ (folded ∧ Unicode.fold c = Unicode.fold d) then
        takeAgain text folded count (start + 1) (pos + 1)
      else none
    | _, _ => none

/-- Does the byte come next? -/
@[inline] def leads (text : Array Char) (stop pos : Nat) (b : Nat) : Bool :=
  if pos < stop then text[pos]?.any fun c => Utf8.lead c == b else false

namespace Thread

/-- The number of calls that may be nested. -/
def maxCalls : Nat := 24

/-- Goes on behind the instruction. -/
@[inline] def next (t : Thread) : Action := .continue { t with pc := t.pc + 1 }

/-- Goes on behind the instruction and a character. -/
@[inline] def ahead (t : Thread) : Action := .continue ⟨t.pc + 1, t.pos + 1, t.moment⟩

/-- Goes on behind the instruction with another state. -/
@[inline] def goOn (t : Thread) (m : Moment) : Action := .continue ⟨t.pc + 1, t.pos, m⟩

/-- The thread at another place in the program. -/
@[inline] def moved (t : Thread) (distance : Int) : Thread :=
  { t with pc := (t.pc + distance).toNat }

/-- Goes on with a thread and leaves another one as a choice. -/
@[inline] def fork (t alternative : Thread) : Action := .fork t ⟨alternative, false⟩

/-- Goes on inside of a loop, outside of it, or inside and outside if that fails. -/
@[inline] def enter (t : Thread) (g : Guard) (text : Array Char) (stop : Nat) (distance : Int) :
    Action :=
  let inside := t.moved 1
  let outside := t.moved distance
  match g with
  | .none => fork inside outside
  | .inside b => if leads text stop t.pos b then fork inside outside else .continue outside
  | .outside b => if leads text stop t.pos b then fork inside outside else .continue inside
  | .untilEnd => if t.pos < stop then fork inside outside else .continue outside

/-- The text of the first of the groups that took part, from the last group on. -/
def referred? (m : Moment) (r : GroupReference) : Option (Nat × Nat) :=
  match r.level with
  | none => r.groups.reverse.findSome? fun g => GroupEvent.range? g m.events
  | some l => GroupEvent.rangeAt? r.groups (m.depth + l) m.events

/-- Takes the text of one of some groups: the first that took part and whose text follows. Where the
    rest of the text is too short for one of them, that fails. -/
def takeFirst (text : Array Char) (m : Moment) (stop pos : Nat) (folded : Bool) :
    List Nat → Option Nat
  | [] => none
  | g :: gs =>
    match GroupEvent.range? g m.events with
    | none => takeFirst text m stop pos folded gs
    | some (first, last) =>
      if first = last then some pos
      else if byteDistance text pos stop < byteDistance text first last then none
      else
        match takeAgain text folded (last - first) first pos with
        | some pos => some pos
        | none => takeFirst text m stop pos folded gs

/-- Takes the text that a back-reference stands for; of several groups, the last comes first. -/
def takeReferred (text : Array Char) (m : Moment) (stop pos : Nat) (folded : Bool)
    (r : GroupReference) : Option Nat :=
  match r.level with
  | none => takeFirst text m stop pos folded r.groups.reverse
  | some _ => do
    let (first, last) ← referred? m r
    if byteDistance text pos text.size < byteDistance text first last then none
    else takeAgain text folded (last - first) first pos

/-- Ends a lap. -/
def endLap (t : Thread) (watched : List Nat) : Action :=
  match t.moment.laps with
  | [] => .fail
  | l :: ls =>
    let m := { t.moment with laps := ls }
    let on := Action.continue ⟨t.pc + 1, t.pos, m⟩
    if l.start ≠ t.pos then on
    else
      let news := m.events.take (m.events.length - l.events.length)
      match if watched = [] then .none else GroupEvent.change watched t.pos l.events news with
      | .none => .continue ⟨t.pc + 2, t.pos, m⟩
      | .some => on
      | .moved => .fail

/-- Counts a lap of a loop: one more is run as long as that is needed, or allowed. -/
def nextLap (t : Thread) (q : Quantifier) (distance : Int) : Action :=
  match t.moment.counts with
  | [] => .fail
  | k :: ks =>
    let on : Thread := ⟨t.pc + 1, t.pos, { t.moment with counts := (k + 1) :: ks }⟩
    let back : Thread := { on with pc := (t.pc + distance).toNat }
    if q.upper.any (· ≤ k + 1) then .continue on
    else if k + 1 < q.lower then .continue back
    else if q.greedy then fork back on
    else fork on back

/-- Changes the place or the end of the text. -/
def limit (t : Thread) (text : Array Char) (stop : Nat) (l : Limit) : Action :=
  let m := t.moment
  match l with
  | .savePlace slot => t.goOn (m.save slot t.pos)
  | .saveEnd slot => t.goOn (m.save slot stop)
  | .goTo slot => .continue ⟨t.pc + 1, (m.saved? slot).getD t.pos, m⟩
  | .endAt slot _ => .stopAt ((m.saved? slot).getD stop) ⟨t.pc + 1, t.pos, m⟩
  | .restore slot => .stopAt ((m.saved? slot).getD stop) ⟨t.pc + 1, t.pos, m⟩
  | .clear => .stopAt text.size ⟨t.pc + 1, t.pos, m⟩

/-- Runs an instruction; `stop` is where the text ends, and `height` the number of choices that are
    left. -/
@[inline] def step (p : Program) (text : Array Char) (stop height : Nat) (t : Thread) : Action :=
  let m := t.moment
  match p.code[t.pc]? with
  | none => .fail
  | some i =>
    match i with
    | .char c =>
      if t.pos < stop then
        match text[t.pos]? with
        | some d => if d = c then t.ahead else .fail
        | none => .fail
      else .fail
    | .set s =>
      if t.pos < stop then
        match text[t.pos]? with
        | some c => if s.contains c then t.ahead else .fail
        | none => .fail
      else .fail
    | .choose other => fork (t.moved 1) (t.moved other)
    | .prefer target => fork (t.moved target) (t.moved 1)
    | .hold other => .fork (t.moved 1) ⟨t.moved other, true⟩
    | .enter g outside => t.enter g text stop outside
    | .jump target => .continue (t.moved target)
    | .assertion a => if a.holds text stop t.pos then t.next else .fail
    | .keep => t.goOn { m with keep := t.pos }
    | .openGroup g => t.goOn { m with events := ⟨g, t.pos, none, m.depth⟩ :: m.events }
    | .closeGroup g =>
      let start := (GroupEvent.openStart? g 0 m.events).getD t.pos
      t.goOn { m with events := ⟨g, start, some t.pos, m.depth⟩ :: m.events }
    | .call g =>
      if maxCalls ≤ m.depth then .fail
      else .continue ⟨p.entries.getD g 0, t.pos, { m with returns := (t.pc + 1) :: m.returns }⟩
    | .comeBack =>
      match m.returns with
      | [] => .fail
      | r :: rs => .continue ⟨r, t.pos, { m with returns := rs }⟩
    | .mark => t.goOn { m with marks := ⟨t.pos, height⟩ :: m.marks }
    | .cut =>
      match m.marks with
      | [] => .fail
      | k :: ks => .cut k.height ⟨t.pc + 1, t.pos, { m with marks := ks }⟩
    | .rewind =>
      match m.marks with
      | [] => .fail
      | k :: ks => .cut k.height ⟨t.pc + 1, k.pos, { m with marks := ks }⟩
    | .reject =>
      match m.marks with
      | [] => .fail
      | k :: _ => .reject k.height
    | .unmark => t.goOn { m with marks := m.marks.tail }
    | .drop => .drop (t.moved 1)
    | .retreat count => if t.pos < count then .fail else .continue ⟨t.pc + 1, t.pos - count, m⟩
    | .backReference r folded =>
      match takeReferred text m stop t.pos folded r with
      | some pos => .continue ⟨t.pc + 1, pos, m⟩
      | none => .fail
    | .matched r => if (referred? m r).isSome then t.next else .fail
    | .startLoop lower greedy exit =>
      let t := { t with moment := { m with counts := 0 :: m.counts } }
      if lower ≠ 0 then t.next
      else if greedy then fork (t.moved 1) (t.moved exit)
      else fork (t.moved exit) (t.moved 1)
    | .nextLap q start => t.nextLap q start
    | .endLoop => t.goOn { m with counts := m.counts.tail }
    | .startLap => t.goOn { m with laps := ⟨t.pos, m.events⟩ :: m.laps }
    | .endLap watched => t.endLap watched
    | .limit l => t.limit text stop l
    | .fail => .fail
    | .accept => .accept

end Thread

/-- How a run ends. -/
inductive Outcome where
  | matched (t : Thread)
  | failed
  /-- too many instructions failed -/
  | exhausted
  deriving Inhabited

namespace Program

/-- More steps than any run takes. -/
def maxSteps : Nat := 4611686018427387903

/-- Runs a program from a thread on. `stop` is where the text ends, `height` is the number of
    choices, and `retries` counts how often an instruction failed; more than `limit` times exhaust
    the run unless that is zero. -/
def run (p : Program) (text : Array Char) (limit : Nat) :
    (fuel : Nat) → Thread → (stop : Nat) → (choices : List Choice) → (height retries : Nat) → Outcome
  | 0, _, _, _, _, _ => .exhausted
  | fuel + 1, t, stop, choices, height, retries =>
    match t.step p text stop height with
    | .continue t => run p text limit fuel t stop choices height retries
    | .stopAt stop t => run p text limit fuel t stop choices height retries
    | .fork t c => run p text limit fuel t stop (c :: choices) (height + 1) retries
    | .cut h t =>
      let stay := (choices.take (height - h)).filter Choice.stays
      run p text limit fuel t stop (stay ++ choices.drop (height - h)) (h + stay.length) retries
    | .drop t => run p text limit fuel t stop choices.tail (height - 1) retries
    | .accept => .matched t
    | .fail =>
      if limit ≠ 0 ∧ limit ≤ retries then .exhausted
      else
        match choices with
        | [] => .failed
        | c :: cs => run p text limit fuel c.thread stop cs (height - 1) (retries + 1)
    | .reject h =>
      if limit ≠ 0 ∧ limit ≤ retries then .exhausted
      else
        match choices.drop (height - h) with
        | [] => .failed
        | c :: cs => run p text limit fuel c.thread stop cs (h - 1) (retries + 1)

/-- Runs a program from a place of the text on. -/
def runAt (p : Program) (text : Array Char) (limit start : Nat) : Outcome :=
  run p text limit maxSteps ⟨0, start, .initial start⟩ text.size [] 0 0

/-- Runs a program from one place after the other on until it accepts. -/
def search (p : Program) (text : Array Char) (limit : Nat) : (starts : List Nat) → Outcome
  | [] => .failed
  | start :: starts =>
    match p.runAt text limit start with
    | .failed => search p text limit starts
    | o => o

/-- The places of the whole match and of all groups. A match does not start behind its end. -/
def places (p : Program) (t : Thread) : List (Option (Nat × Nat)) :=
  some (min t.moment.keep t.pos, t.pos) ::
    (List.range p.groups).map fun i => GroupEvent.range? (i + 1) t.moment.events

end Program

end Grok.Regex
