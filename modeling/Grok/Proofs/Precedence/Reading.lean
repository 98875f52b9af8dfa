import Grok.Proofs.Precedence.Shape

namespace Grok.Precedence

/-!
# Reading expressions by precedence

Alternation binds weaker than concatenation, a quantifier binds to the atom in front of it, and any
group is an atom.

* `Token` are the parts of an expression, `Reader` is what is known of it while they are taken one
  after the other, and `shape?` is the shape of a whole sequence of tokens.
* `Sign` marks, among the tokens of an expression, the ends of a fragment that stands bare if only
  fields are captured, and is a group of its own otherwise.
* `Fits` — no fragment stands where it could be taken apart. Then there are the same ways through
  the expression in both modes (`Fits.exists_shape`).
-/

/-- A part of an expression. -/
inductive Token where
  | atom (text : List Char)
  | quantifier (text : List Char)
  | bar
  /-- the start of a group that does more than to capture -/
  | opening (text : List Char)
  /-- the start of a group that only captures -/
  | capture
  | closing
  deriving DecidableEq, Repr

/-- What is known of a group, or of the whole, while it is read. -/
structure Level where
  /-- The alternatives in front of the last bar. -/
  before : Option Shape := none
  /-- The present alternative without its last atom. -/
  front : Shape := .blank
  /-- The last atom, with its quantifiers. -/
  last : Option Shape := none

namespace Level

/-- The present alternative. -/
def sequence (level : Level) : Shape :=
  match level.last with
  | none => level.front
  | some p => .both level.front p

/-- All alternatives. -/
def shape (level : Level) : Shape :=
  match level.before with
  | none => level.sequence
  | some r => .either r level.sequence

/-- One more atom. -/
def push (level : Level) (p : Shape) : Level :=
  { level with front := level.sequence, last := some p }

/-- The next alternative. -/
def next (level : Level) : Level := { before := some level.shape }

/-- Nothing of the present alternative has been read. -/
def IsFresh (level : Level) : Prop := level.front = .blank ∧ level.last = none

end Level

/-- The group that is being read, and the ones around it with what they started with, the innermost
    first; `none` stands for a group that only captures. -/
structure Reader where
  level : Level := {}
  around : List (Option (List Char) × Level) := []

namespace Reader

/-- A group that has been read; one that only captures is what is in it. -/
def close : Option (List Char) → Shape → Shape
  | none, r => r
  | some opening, r => .part (.group opening) r

/-- Takes a token, unless a quantifier or a closing parenthesis has nothing to apply to. -/
def take (r : Reader) : Token → Option Reader
  | .atom text => some { r with level := r.level.push (.part (.atom text) .blank) }
  | .quantifier text => r.level.last.map fun p =>
    { r with level := { r.level with last := some (.part (.repeated text) p) } }
  | .bar => some { r with level := r.level.next }
  | .opening text => some ⟨{}, (some text, r.level) :: r.around⟩
  | .capture => some ⟨{}, (none, r.level) :: r.around⟩
  | .closing =>
    match r.around with
    | [] => none
    | (opening, level) :: around => some ⟨level.push (close opening r.level.shape), around⟩

/-- Takes tokens one after the other. -/
def takeAll (r : Reader) (ts : List Token) : Option Reader := ts.foldlM take r

theorem take_opening (r : Reader) (text : List Char) :
    r.take (.opening text) = some ⟨{}, (some text, r.level) :: r.around⟩ := rfl

theorem take_capture (r : Reader) : r.take .capture = some ⟨{}, (none, r.level) :: r.around⟩ := rfl

/-- Tokens can be taken by parts. -/
theorem takeAll_append (r : Reader) (ts us : List Token) :
    r.takeAll (ts ++ us) = (r.takeAll ts).bind fun r => r.takeAll us :=
  List.foldlM_append

theorem takeAll_cons (r : Reader) (t : Token) (ts : List Token) :
    r.takeAll (t :: ts) = (r.take t).bind fun r => r.takeAll ts := rfl

end Reader

/-- The shape of an expression, unless it cannot be read. -/
def shape? (ts : List Token) : Option Shape :=
  match Reader.takeAll {} ts with
  | some ⟨level, []⟩ => some level.shape
  | _ => none

/-! ### Fragments in an expression -/

/-- A token, or an end of a fragment that stands bare in one mode. -/
inductive Sign where
  | token (t : Token)
  | enter
  | leave
  deriving DecidableEq, Repr

/-- The tokens of a sign: such a fragment is a group, unless only fields are captured. -/
def Sign.tokens (fieldsOnly : Bool) : Sign → List Token
  | token t => [t]
  | enter => if fieldsOnly then [] else [.capture]
  | leave => if fieldsOnly then [] else [.closing]

/-- What a part of an expression is to the rest of it. -/
inductive Rank where
  /-- one atom, with its quantifiers -/
  | unit
  /-- atoms one after the other, none of which has to stay the last one -/
  | sequence
  /-- all that is in a group, or in the whole -/
  | whole
  deriving DecidableEq, Repr

/-- Fragments stand only where they are not taken apart: a fragment that is repeated is a single
    atom, one with atoms around it has no alternatives, and one with alternatives is alone in its
    own. -/
inductive Fits : Rank → List Sign → Shape → Prop where
  | atom (text : List Char) : Fits .unit [.token (.atom text)] (.part (.atom text) .blank)
  | group {ss : List Sign} {r : Shape} (opening : List Char) (h : Fits .whole ss r) :
    Fits .unit (.token (.opening opening) :: ss ++ [.token .closing]) (.part (.group opening) r)
  | capture {ss : List Sign} {r : Shape} (h : Fits .whole ss r) :
    Fits .unit (.token .capture :: ss ++ [.token .closing]) r
  | repeated {ss : List Sign} {r : Shape} (h : Fits .unit ss r) (text : List Char) :
    Fits .unit (ss ++ [.token (.quantifier text)]) (.part (.repeated text) r)
  | single {ss : List Sign} {r : Shape} (h : Fits .unit ss r) :
    Fits .unit (.enter :: ss ++ [.leave]) r
  | nil : Fits .sequence [] .blank
  | append {ss us : List Sign} {r p : Shape} (h : Fits .sequence ss r) (h' : Fits .unit us p) :
    Fits .sequence (ss ++ us) (.both r p)
  | part {ss us : List Sign} {r p : Shape} (h : Fits .sequence ss r) (h' : Fits .sequence us p) :
    Fits .sequence (ss ++ (.enter :: us ++ [.leave])) (.both r p)
  | branch {ss : List Sign} {r : Shape} (h : Fits .sequence ss r) : Fits .whole ss r
  | alone {ss : List Sign} {r : Shape} (h : Fits .whole ss r) :
    Fits .whole (.enter :: ss ++ [.leave]) r
  | either {ss us : List Sign} {r p : Shape} (h : Fits .whole ss r) (h' : Fits .whole us p) :
    Fits .whole (ss ++ .token .bar :: us) (.either r p)

/-! ### Fragments that fit -/

/-- What the reader makes of tokens that are to be read as `r`, from wherever it meets them. -/
def Reads (ts : List Token) : Rank → Shape → Prop
  | .unit, r => ∀ level around, ∃ p : Shape, p.through = r.through ∧
    Reader.takeAll ⟨level, around⟩ ts = some ⟨level.push p, around⟩
  | .sequence, r => ∀ level around, ∃ level' : Level,
    Reader.takeAll ⟨level, around⟩ ts = some ⟨level', around⟩ ∧ level'.before = level.before ∧
      ∀ k, level'.sequence.through k = level.sequence.through (r.through k)
  | .whole, r => ∀ level around, level.IsFresh → ∃ level' : Level,
    Reader.takeAll ⟨level, around⟩ ts = some ⟨level', around⟩ ∧
      ∀ k, level'.shape.through k =
        match level.before with
        | none => r.through k
        | some q => (q.through k).append (r.through k)

namespace Reads

/-- A single part is a sequence. -/
theorem sequence_of_unit {ts : List Token} {r : Shape} (h : Reads ts .unit r) :
    Reads ts .sequence r := by
  intro level around
  obtain ⟨p, hp, htake⟩ := h level around
  refine ⟨level.push p, htake, rfl, ?_⟩
  intro k
  rw [← hp]
  rfl

/-- A sequence is a whole with one alternative. -/
theorem whole_of_sequence {ts : List Token} {r : Shape} (h : Reads ts .sequence r) :
    Reads ts .whole r := by
  rintro level around ⟨hfront, hlast⟩
  obtain ⟨level', htake, hbefore, hsequence⟩ := h level around
  have hstart : level.sequence = .blank := by rw [Level.sequence, hlast, hfront]
  rw [hstart] at hsequence
  refine ⟨level', htake, ?_⟩
  intro k
  rw [Level.shape, hbefore]
  cases level.before with
  | none => exact hsequence k
  | some q =>
    show (q.through k).append (level'.sequence.through k) = _
    rw [hsequence]
    rfl

/-- A group of what can be read is an atom. -/
theorem enclose {ts : List Token} {r : Shape} (h : Reads ts .whole r) {start : Token}
    {opening : Option (List Char)}
    (hstart : ∀ reader : Reader,
      reader.take start = some ⟨{}, (opening, reader.level) :: reader.around⟩) :
    Reads (start :: ts ++ [.closing]) .unit (Reader.close opening r) := by
  intro level around
  obtain ⟨inner, htake, hinner⟩ := h {} ((opening, level) :: around) ⟨rfl, rfl⟩
  have hthrough : inner.shape.through = r.through := funext hinner
  refine ⟨Reader.close opening inner.shape, ?_, ?_⟩
  · cases opening with
    | none => exact hthrough
    | some opening =>
      funext k
      simp only [Reader.close, Shape.through, hthrough]
  · rw [List.cons_append, Reader.takeAll_cons, hstart, Option.bind_some, Reader.takeAll_append,
      htake]
    rfl

/-- Sequences can be put behind each other. -/
theorem append {ts us : List Token} {r p : Shape} (h : Reads ts .sequence r)
    (h' : Reads us .sequence p) : Reads (ts ++ us) .sequence (.both r p) := by
  intro level around
  obtain ⟨level₁, htake₁, hbefore₁, hsequence₁⟩ := h level around
  obtain ⟨level₂, htake₂, hbefore₂, hsequence₂⟩ := h' level₁ around
  refine ⟨level₂, ?_, hbefore₂.trans hbefore₁, ?_⟩
  · rw [Reader.takeAll_append, htake₁, Option.bind_some, htake₂]
  · intro k
    rw [hsequence₂, hsequence₁]
    rfl

/-- A bar puts alternatives side by side. -/
theorem either {ts us : List Token} {r p : Shape} (h : Reads ts .whole r) (h' : Reads us .whole p) :
    Reads (ts ++ .bar :: us) .whole (.either r p) := by
  intro level around hfresh
  obtain ⟨level₁, htake₁, hshape₁⟩ := h level around hfresh
  obtain ⟨level₂, htake₂, hshape₂⟩ := h' level₁.next around ⟨rfl, rfl⟩
  refine ⟨level₂, ?_, ?_⟩
  · rw [Reader.takeAll_append, htake₁, Option.bind_some, Reader.takeAll_cons]
    exact htake₂
  · intro k
    rw [hshape₂]
    show (level₁.shape.through k).append (p.through k) = _
    rw [hshape₁]
    cases level.before with
    | none => rfl
    | some q => exact Ways.append_assoc _ _ _

/-- A quantifier applies to the single part in front of it. -/
theorem repeated {ts : List Token} {r : Shape} (h : Reads ts .unit r) (text : List Char) :
    Reads (ts ++ [.quantifier text]) .unit (.part (.repeated text) r) := by
  intro level around
  obtain ⟨p, hp, htake⟩ := h level around
  refine ⟨.part (.repeated text) p, ?_, ?_⟩
  · funext k
    simp only [Shape.through, hp]
  · rw [Reader.takeAll_append, htake]
    rfl

/-- A fragment that is read as a whole is an atom where it is a group. -/
theorem fragment {ss : List Sign} {r : Shape}
    (h : Reads (ss.flatMap (Sign.tokens false)) .whole r) :
    Reads ((.enter :: ss ++ [.leave] : List Sign).flatMap (Sign.tokens false)) .unit r := by
  have htokens : (.enter :: ss ++ [.leave] : List Sign).flatMap (Sign.tokens false) =
      .capture :: ss.flatMap (Sign.tokens false) ++ [.closing] := by
    simp [Sign.tokens]
  rw [htokens]
  exact h.enclose Reader.take_capture

end Reads

/-- Where fragments stand bare, their ends leave nothing. -/
theorem flatMap_tokens_true_fragment (ss : List Sign) :
    (.enter :: ss ++ [.leave] : List Sign).flatMap (Sign.tokens true) =
      ss.flatMap (Sign.tokens true) := by
  simp [Sign.tokens]

/-- **Fragments that fit are read as what they are**, whether they are groups or not. -/
theorem Fits.reads {rank : Rank} {ss : List Sign} {r : Shape} (h : Fits rank ss r)
    (fieldsOnly : Bool) : Reads (ss.flatMap (Sign.tokens fieldsOnly)) rank r := by
  -- A fragment that is a group is an atom, and an atom may stand wherever the fragment may.
  induction h with
  | atom text =>
    intro level around
    exact ⟨_, rfl, rfl⟩
  | group opening h ih =>
    simpa [Sign.tokens, Reader.close] using ih.enclose fun r => r.take_opening opening
  | capture h ih =>
    simpa [Sign.tokens, Reader.close] using ih.enclose Reader.take_capture
  | repeated h text ih => simpa [Sign.tokens] using ih.repeated text
  | single h ih =>
    cases fieldsOnly with
    | true => rw [flatMap_tokens_true_fragment]; exact ih
    | false => exact ih.sequence_of_unit.whole_of_sequence.fragment
  | nil => exact fun level around => ⟨level, rfl, rfl, fun k => rfl⟩
  | append h h' ih ih' =>
    rw [List.flatMap_append]
    exact ih.append ih'.sequence_of_unit
  | part h h' ih ih' =>
    rw [List.flatMap_append]
    refine ih.append ?_
    cases fieldsOnly with
    | true => rw [flatMap_tokens_true_fragment]; exact ih'
    | false => exact ih'.whole_of_sequence.fragment.sequence_of_unit
  | branch h ih => exact ih.whole_of_sequence
  | alone h ih =>
    cases fieldsOnly with
    | true => rw [flatMap_tokens_true_fragment]; exact ih
    | false => exact ih.fragment.sequence_of_unit.whole_of_sequence
  | either h h' ih ih' =>
    rw [List.flatMap_append, List.flatMap_cons]
    exact ih.either ih'

/-- **An expression whose fragments fit can be read in both modes**, with the same ways. -/
theorem Fits.exists_shape {ss : List Sign} {r : Shape} (h : Fits .whole ss r) (fieldsOnly : Bool) :
    ∃ p, shape? (ss.flatMap (Sign.tokens fieldsOnly)) = some p ∧ p.ways = r.ways := by
  obtain ⟨level, htake, hthrough⟩ := h.reads fieldsOnly {} [] ⟨rfl, rfl⟩
  refine ⟨level.shape, ?_, hthrough _⟩
  rw [shape?, show Reader.takeAll {} _ = _ from htake]

end Grok.Precedence
