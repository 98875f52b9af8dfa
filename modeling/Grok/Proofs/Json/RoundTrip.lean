import Grok.Proofs.Duration.Text
import Grok.Proofs.Json.Grammar
import Grok.Proofs.Matching.Captures
import Grok.Proofs.Text.Decoding
import Grok.Transform

namespace Grok

/-!
# Reading records back

The line of a record holds all that was captured, unless there are floating-point numbers in it.

* `ValueType.ofJson?`, `Captures.ofJson?` — values and whole captures from their JSON, given the
  types of the fields.
* `Value.ofJson?_json` — a value is recovered from what is written for it and its type.
* `Captures.exists_order_of_encode` — the bytes of a line are those of a text, and that is read as
  the captures in the order in which they were written.
* `Captures.read_back` — the line of a record has no line feed in it and is an object, from which
  the captures are recovered, whatever style it is written in.
-/

/-! ### Values -/

namespace ValueType

/-- The value of a type that a JSON value stands for. Durations are nanoseconds or texts. -/
def ofJson? : ValueType → Json.Scalar → Option Value
  | .short, .integer n => if Integer.Fits 16 n then some (.short (Int16.ofInt n)) else none
  | .int, .integer n => if Integer.Fits 32 n then some (.int (Int32.ofInt n)) else none
  | .long, .integer n => if Integer.Fits 64 n then some (.long (Int64.ofInt n)) else none
  | .boolean, .boolean b => some (.boolean b)
  | .string, .text s => some (.string s)
  | .duration, .integer n => (Duration.ofNanoseconds? n).map .duration
  | .duration, .text s => (Duration.parse s.toList).map .duration
  | _, _ => none

end ValueType

namespace Value

/-- A value of another type than `float` and `double`. -/
def IsExact (v : Value) : Prop := v.valueType ≠ .float ∧ v.valueType ≠ .double

instance (v : Value) : Decidable v.IsExact := inferInstanceAs (Decidable (_ ∧ _))

/-- A duration is written as its nanoseconds or as its text. -/
theorem json_duration (d : Duration) :
    json (.duration d) = .integer d.nanoseconds ∨
      json (.duration d) = .text (String.ofList d.text) := by
  unfold json Duration.nanoseconds64?
  dsimp only
  split_ifs
  · exact .inl rfl
  · exact .inr rfl

/-- Of `-2^63` nanoseconds and one less, only the first number has 64 bits. -/
example : json (.duration ⟨-9223372036854775808, by decide⟩) = .integer (-9223372036854775808) ∧
    json (.duration ⟨-9223372036854775809, by decide⟩) = .text "-PT9223372036.854775809S" := by
  decide +kernel

/-- **A value is recovered from what is written for it**, given its type. -/
theorem ofJson?_json {v : Value} (h : v.IsExact) : v.valueType.ofJson? v.json = some v := by
  cases v with
  | short n =>
    -- A machine integer fits its own width, whichever that is.
    have hfits : Integer.Fits 16 n.toInt := ⟨n.le_toInt, n.toInt_lt⟩
    rw [json, valueType, ValueType.ofJson?, if_pos hfits, Int16.ofInt_toInt]
  | int n =>
    have hfits : Integer.Fits 32 n.toInt := ⟨n.le_toInt, n.toInt_lt⟩
    rw [json, valueType, ValueType.ofJson?, if_pos hfits, Int32.ofInt_toInt]
  | long n =>
    have hfits : Integer.Fits 64 n.toInt := ⟨n.le_toInt, n.toInt_lt⟩
    rw [json, valueType, ValueType.ofJson?, if_pos hfits, Int64.ofInt_toInt]
  | float x => exact absurd rfl h.1
  | double x => exact absurd rfl h.2
  | boolean b => rfl
  | string s => rfl
  | duration d =>
    -- Either form of a duration is read back by its own reader.
    rcases json_duration d with h | h
    · rw [h, valueType, ValueType.ofJson?, Duration.ofNanoseconds?_of_inRange d.inRange]
      rfl
    · rw [h, valueType, ValueType.ofJson?, String.toList_ofList, Duration.parse_text]
      rfl

/-- Only floating-point values are written as real numbers. -/
theorem json_ne_real {v : Value} (h : v.IsExact) (x : Floating) : v.json ≠ .real x := by
  cases v with
  | float x => exact absurd rfl h.1
  | double x => exact absurd rfl h.2
  | duration d => rcases json_duration d with h | h <;> simp [h]
  | _ => nofun

end Value

/-! ### Captures -/

namespace Captures

/-- Captures whose names are distinct, as those of a map are, and whose values are all exact. -/
structure Exact (c : Captures) : Prop where
  nodup : (c.map (·.1)).Nodup
  isExact : ∀ m ∈ c, m.2.IsExact

/-- The fields have these types. -/
def HasTypes (types : String → ValueType) (c : Captures) : Prop :=
  ∀ m ∈ c, m.2.valueType = types m.1

instance (types : String → ValueType) (c : Captures) : Decidable (c.HasTypes types) :=
  inferInstanceAs (Decidable (∀ m ∈ c, m.2.valueType = types m.1))

/-- The captures that an object stands for, given the types of the fields. -/
def ofJson? (types : String → ValueType) : Json.Object → Option Captures
  | [] => some []
  | m :: o => do
    let v ← (types m.1).ofJson? m.2
    let c ← ofJson? types o
    some ((m.1, v) :: c)

/-- Captures are recovered from their members, given the types of the fields. -/
theorem ofJson?_json {types : String → ValueType} {c : Captures} (hexact : ∀ m ∈ c, m.2.IsExact)
    (htypes : c.HasTypes types) : ofJson? types c.json = some c := by
  induction c with
  | nil => rfl
  | cons m c ih =>
    obtain ⟨hm, hc⟩ := List.forall_mem_cons.1 hexact
    obtain ⟨htype, htypes⟩ := List.forall_mem_cons.1 htypes
    have hvalue : (types m.1).ofJson? m.2.json = some m.2 := htype ▸ Value.ofJson?_json hm
    have htail : ofJson? types (c.map fun m => (m.1, m.2.json)) = some c := ih hc htypes
    rw [json, List.map_cons, ofJson?, hvalue, htail]
    rfl

/-- Exact captures stay exact in another order. -/
theorem Exact.of_perm {c d : Captures} (hd : d.Exact) (h : c.Perm d) : c.Exact where
  nodup := (h.map _).nodup_iff.2 hd.nodup
  isExact := fun m hm => hd.isExact m (h.mem_iff.1 hm)

theorem HasTypes.of_perm {types : String → ValueType} {c d : Captures} (hd : d.HasTypes types)
    (h : c.Perm d) : c.HasTypes types := fun m hm => hd m (h.mem_iff.1 hm)

/-- The order of captures does not count. -/
theorem get?_eq_of_perm {c d : Captures} (hd : d.Exact) (h : c.Perm d) (n : String) :
    c.get? n = d.get? n := by
  ext v
  rw [get?_eq_some_iff (hd.of_perm h).nodup, get?_eq_some_iff hd.nodup, h.mem_iff]

/-- An object has the fields of the captures that it was written for. -/
theorem lookup_json (c : Captures) (n : String) : c.json.lookup n = (c.get? n).map Value.json := by
  induction c with
  | nil => rfl
  | cons m c ih =>
    have htail : (c.map fun m => (m.1, m.2.json)).lookup n = (get? c n).map Value.json := ih
    rw [json, List.map_cons, List.lookup_cons, get?_cons, htail]
    by_cases h : m.1 = n
    · simp [h]
    · have hn : (n == m.1) = false := by simpa using Ne.symm h
      simp [h, hn]

/-- With their types, the values of a field are equal if they are written alike. -/
theorem get?_eq_of_lookup_json_eq {types : String → ValueType} {c d : Captures} (hc : c.Exact)
    (hd : d.Exact) (hctypes : c.HasTypes types) (hdtypes : d.HasTypes types) {n : String}
    (h : c.json.lookup n = d.json.lookup n) : c.get? n = d.get? n := by
  -- Either value is what its type and what is written for it make of it.
  have hrecover : ∀ {c : Captures}, c.Exact → c.HasTypes types →
      c.get? n = (c.json.lookup n).bind fun v => (types n).ofJson? v := by
    intro c hc htypes
    rw [lookup_json]
    cases hget : c.get? n with
    | none => rfl
    | some v =>
      have hmem : (n, v) ∈ c := (get?_eq_some_iff hc.nodup).1 hget
      have htype : v.valueType = types n := htypes _ hmem
      exact (htype ▸ Value.ofJson?_json (hc.isExact _ hmem)).symm
  rw [hrecover hc hctypes, hrecover hd hdtypes, h]

end Captures

/-! ### Lines -/

/-- A byte below `128` is a character of its own. -/
theorem Utf8.toNat_eq_of_mem {c : Char} {b : UInt8} (hb : b.toNat < 128)
    (h : b ∈ String.utf8EncodeChar c) : b.toNat = c.toNat := by
  have hc : c.val.toNat = c.toNat := rfl
  unfold String.utf8EncodeChar at h
  dsimp only at h
  rw [hc] at h
  -- The bytes of longer sequences have their highest bit set.
  split_ifs at h <;> simp only [List.mem_cons, List.not_mem_nil, or_false] at h
  · subst h
    rw [UInt8.toNat_ofNat']
    omega
  · rcases h with rfl | rfl <;> rw [UInt8.toNat_ofNat'] at hb <;> omega
  · rcases h with rfl | rfl | rfl <;> rw [UInt8.toNat_ofNat'] at hb <;> omega
  · rcases h with rfl | rfl | rfl | rfl <;> rw [UInt8.toNat_ofNat'] at hb <;> omega

namespace Captures

/-- What is written for captures is an object. -/
theorem writesObject_json {c : Captures} (hexact : ∀ m ∈ c, m.2.IsExact) (style : Json.Style) :
    Json.WritesObject (style.order c.json) (Json.objectText style c.json) := by
  refine Json.writesObject_objectText ?_ style
  intro m hm x
  obtain ⟨k, hk, rfl⟩ := List.mem_map.1 hm
  exact Value.json_ne_real (hexact k hk) x

/-- A line feed is a control character, so there is none in the text, nor among its bytes. -/
theorem lineFeed_notMem {c : Captures} (hexact : ∀ m ∈ c, m.2.IsExact) (style : Json.Style) :
    '\n' ∉ Json.objectText style c.json ∧ lineFeed ∉ Transform.encode style c := by
  have hcontrol := Json.not_control_of_writesObject (writesObject_json hexact style)
  constructor
  · exact fun hmem => absurd (hcontrol _ hmem) (by decide)
  · intro hmem
    obtain ⟨x, hx, hb⟩ := List.mem_flatMap.1 hmem
    have hnumber : lineFeed.toNat = x.toNat := Utf8.toNat_eq_of_mem (by decide) hb
    exact absurd (hnumber ▸ hcontrol x hx) (by decide)

/-- The order in which a style writes the members is one of the captures. -/
theorem exists_json_eq_order (style : Json.Style) (c : Captures) :
    ∃ order : Captures, order.Perm c ∧ order.json = style.order c.json := by
  have hmembers : List.Forall₂ (fun j (m : String × Value) => (m.1, m.2.json) = j) c.json c :=
    List.forall₂_map_left_iff.2 (List.forall₂_same.2 fun _ _ => rfl)
  obtain ⟨order, horder, hperm⟩ := List.perm_comp_forall₂ (style.order_perm c.json) hmembers
  refine ⟨order, hperm, ?_⟩
  exact List.forall₂_eq_eq_eq ▸ List.forall₂_map_left_iff.2 horder.flip

/-- The bytes of a line are those of a text, and it is read as the captures in some order. -/
theorem exists_order_of_encode {c : Captures} (hc : c.Exact) (style : Json.Style) :
    ∃ order : Captures, order.Perm c ∧
      Utf8.decode? (Transform.encode style c) = some (Json.objectText style c.json) ∧
      Json.readObject (Json.objectText style c.json) = some order.json := by
  obtain ⟨order, horder, hjson⟩ := exists_json_eq_order style c
  refine ⟨order, horder, Utf8.decode?_eq_some_iff.2 rfl, ?_⟩
  rw [hjson]
  exact Json.readObject_of_writes (writesObject_json hc.isExact style)

/-- **The captures of a record can be read back** from the bytes that are written for them, in
    whatever style. There is no line feed among them, and they are the text of a single object. It
    has the names of the captures, and from its members the values are recovered. Captures with
    other values, but the same types, are never written as the same object. -/
theorem read_back {c : Captures} (hc : c.Exact) (style : Json.Style) :
    lineFeed ∉ Transform.encode style c ∧
      ∃ text, Utf8.decode? (Transform.encode style c) = some text ∧ '\n' ∉ text ∧
        ∃ o, Json.readObject text = some o ∧ (∀ p, Json.WritesObject p text ↔ p = o) ∧
          (o.map (·.1)).Perm (c.map (·.1)) ∧
          ∀ types, c.HasTypes types →
            (∃ d, ofJson? types o = some d ∧ ∀ n, d.get? n = c.get? n) ∧
            ∀ {d : Captures} (style' : Json.Style) {text' : List Char} {p : Json.Object},
              d.Exact → d.HasTypes types →
              Utf8.decode? (Transform.encode style' d) = some text' →
              Json.readObject text' = some p → (∀ n, p.lookup n = o.lookup n) →
              ∀ n, d.get? n = c.get? n := by
  have hwrites := writesObject_json hc.isExact style
  obtain ⟨htext, hbytes⟩ := lineFeed_notMem hc.isExact style
  obtain ⟨order, horder, hdecode, hread⟩ := exists_order_of_encode hc style
  have hexact : order.Exact := hc.of_perm horder
  refine ⟨hbytes, _, hdecode, htext, order.json, hread, ?_, ?_, ?_⟩
  · -- A text is that of one object only.
    obtain heq : style.order c.json = order.json :=
      Option.some.inj ((Json.readObject_of_writes hwrites).symm.trans hread)
    intro p
    constructor
    · exact fun hp => heq ▸ Json.eq_of_writesObject hp hwrites
    · rintro rfl
      exact heq ▸ hwrites
  · have hnames : order.json.map (·.1) = order.map (·.1) := List.map_map ..
    exact hnames ▸ horder.map _
  · intro types htypes
    have hotypes : order.HasTypes types := htypes.of_perm horder
    refine ⟨⟨order, ofJson?_json hexact.isExact hotypes, get?_eq_of_perm hc horder⟩, ?_⟩
    intro d style' text' p hd hdtypes hdecode' hread' heq n
    -- The other line is told by the captures behind it, in some order as well.
    obtain ⟨order', horder', hdecode'', hread''⟩ := exists_order_of_encode hd style'
    obtain rfl := Option.some.inj (hdecode''.symm.trans hdecode')
    obtain rfl := Option.some.inj (hread''.symm.trans hread')
    have hsame : get? order' n = get? order n :=
      get?_eq_of_lookup_json_eq (hd.of_perm horder') hexact (hdtypes.of_perm horder') hotypes
        (heq n)
    rw [← get?_eq_of_perm hd horder', hsame, get?_eq_of_perm hc horder]

/-- Names and texts that have to be escaped, the least integer of 16 bits, and durations on both
    sides of the least integer of 64 bits. -/
def escaped : Captures :=
  [("a \"b\"\\", .string "\n\x01é"), ("short", .short (-32768)), ("yes", .boolean true),
    ("least", .duration ⟨-9223372036854775808, by decide⟩),
    ("less", .duration ⟨-9223372036854775809, by decide⟩)]

/-- The type of a captured field. -/
def typeOf (c : Captures) (n : String) : ValueType := ((c.get? n).map Value.valueType).getD .string

/-- The last member comes first. -/
def backwards : Json.Style :=
  { Json.Style.plain with order := List.reverse, order_perm := List.reverse_perm }

/-- These captures, written in reverse. -/
theorem read_back_escaped :
    ∃ text o d, Utf8.decode? (Transform.encode backwards escaped) = some text ∧
      Json.readObject text = some o ∧ o.map (·.1) = ["less", "least", "yes", "short", "a \"b\"\\"] ∧
      ofJson? escaped.typeOf o = some d ∧ ∀ n, d.get? n = escaped.get? n := by
  have hexact : escaped.Exact := ⟨by decide, by decide⟩
  have htypes : escaped.HasTypes escaped.typeOf := by decide
  obtain ⟨-, text, htext, -, o, hread, hwrites, -, hrecover⟩ := read_back hexact backwards
  obtain ⟨⟨d, hd, hget⟩, -⟩ := hrecover _ htypes
  obtain rfl : Json.objectText backwards escaped.json = text :=
    Option.some.inj ((Utf8.decode?_eq_some_iff.2 rfl).symm.trans htext)
  obtain rfl := (hwrites _).1 (writesObject_json hexact.isExact backwards)
  exact ⟨_, _, d, htext, hread, by decide, hd, hget⟩

end Captures

end Grok
