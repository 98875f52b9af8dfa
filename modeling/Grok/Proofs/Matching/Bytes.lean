import Grok.Proofs.Matching.Extraction
import Grok.Proofs.Text.Decoding

namespace Grok

/-!
# Matching bytes

A record is a byte sequence. What is ill-formed in it is replaced, and then it is matched as a text.

* `CaptureGroup.Reads` — the part of a text that a descriptor gets by one of its groups.
* `CaptureGroup.reads_of_extractAll_error`, `CaptureGroup.reads_of_extractAll` — failures and values
  come from such parts.
* `Matcher.captureBytes_eq` — bytes are matched as the text that decoding gives.
* `Matcher.captures_as_replaced` — what follows for ill-formed bytes, for the failures and for the
  captured values.
-/

namespace CaptureGroup

variable {g : CaptureGroup} {gs : List CaptureGroup} {text part : List Char} {offsets : Offsets}

/-- One of the groups of the descriptor took part, and the text has this part at its offsets. -/
def Reads (g : CaptureGroup) (text : List Char) (offsets : Offsets) (part : List Char) : Prop :=
  ∃ i ∈ g.indexes, ∃ start stop, offsets.group? i = some (start, stop) ∧
    Utf8.Between text start stop part

/-- What is cut out of the text is a part that the descriptor reads. -/
theorem reads_of_slice? (h : g.slice? text offsets = some part) : g.Reads text offsets part := by
  obtain ⟨⟨start, stop⟩, hrange, hslice⟩ := Option.bind_eq_some_iff.1 h
  obtain ⟨i, hi, htook⟩ := List.exists_of_findSome?_eq_some hrange
  exact ⟨i, hi, start, stop, htook, Utf8.slice?_eq_some_iff.1 hslice⟩

/-- A value is read off such a part. -/
theorem reads_of_extract {v : Value} (h : g.extract text offsets = .ok (some v)) :
    ∃ part, g.Reads text offsets part ∧ g.type.convert (String.ofList part) = some v := by
  unfold extract at h
  split at h
  · cases h
  · rename_i part hslice
    dsimp only at h
    split at h
    · rename_i w hconvert
      obtain rfl : w = v := by simpa using h
      exact ⟨part, reads_of_slice? hslice, hconvert⟩
    · cases h

/-- A failure is about such a part, which is no literal of the type. -/
theorem reads_of_extract_error {e : Error} (h : g.extract text offsets = .error e) :
    ∃ part, g.Reads text offsets part ∧ g.type.convert (String.ofList part) = none ∧
      e = .typeConversion g.name (String.ofList part) g.type := by
  unfold extract at h
  split at h
  · cases h
  · rename_i part hslice
    dsimp only at h
    split at h
    · cases h
    · rename_i hconvert
      exact ⟨part, reads_of_slice? hslice, hconvert, (Except.error.inj h).symm⟩

/-- A failure is about a part of the text. -/
theorem reads_of_extractAll_error {captures : Captures} {e : Error}
    (h : extractAll text offsets captures gs = .error e) :
    ∃ g ∈ gs, ∃ part, g.Reads text offsets part ∧ g.type.convert (String.ofList part) = none ∧
      e = .typeConversion g.name (String.ofList part) g.type := by
  induction gs generalizing captures with
  | nil => cases h
  | cons g gs ih =>
    rw [extractAll] at h
    split at h
    · rename_i e' herror
      obtain rfl := Except.error.inj h
      exact ⟨g, List.mem_cons_self, reads_of_extract_error herror⟩
    all_goals
      obtain ⟨k, hk, hmisfit⟩ := ih h
      exact ⟨k, List.mem_cons_of_mem g hk, hmisfit⟩

/-- A value that was not there before is that of a part of the text. -/
theorem reads_of_extractAll {captures found : Captures} {n : String} {v : Value}
    (h : extractAll text offsets captures gs = .ok found) (hv : found.get? n = some v) :
    captures.get? n = some v ∨ ∃ g ∈ gs, g.name = n ∧ ∃ part, g.Reads text offsets part ∧
      g.type.convert (String.ofList part) = some v := by
  induction gs generalizing captures with
  | nil =>
    obtain rfl := Except.ok.inj h
    exact .inl hv
  | cons g gs ih =>
    rw [extractAll] at h
    -- A failure, nothing for the descriptor, or a value that is set.
    split at h
    · cases h
    · rcases ih h with hbefore | ⟨k, hk, hread⟩
      · exact .inl hbefore
      · exact .inr ⟨k, List.mem_cons_of_mem g hk, hread⟩
    · rename_i w hextract
      rcases ih h with hbefore | ⟨k, hk, hread⟩
      · -- It is the value that was set, or one of another name.
        rw [Captures.get?_set] at hbefore
        split at hbefore
        · rename_i hname
          obtain rfl := Option.some.inj hbefore
          exact .inr ⟨g, List.mem_cons_self, hname, reads_of_extract hextract⟩
        · exact .inl hbefore
      · exact .inr ⟨k, List.mem_cons_of_mem g hk, hread⟩

end CaptureGroup

namespace Matcher

/-- **Bytes are matched as the text that decoding gives**, whichever way they take. -/
theorem captureBytes_eq (m : Matcher) (bytes : List UInt8) :
    m.captureBytes bytes = m.captureText (String.ofList (Utf8.decodeLossy bytes)) := by
  unfold captureBytes
  cases h : Utf8.decode? bytes with
  | none => rfl
  | some text => rw [Utf8.decodeLossy_of_decode? h]

/-- A failure on a text is that of the search, or about a part of the text. -/
theorem captureText_error_cases {m : Matcher} {text : String} {e : Error}
    (h : m.captureText text = .error e) :
    m.search text = .error e ∨ ∃ offsets, m.search text = .ok (some offsets) ∧
      ∃ g ∈ m.groups, ∃ part, g.Reads text.toList offsets part ∧
        g.type.convert (String.ofList part) = none ∧
        e = .typeConversion g.name (String.ofList part) g.type := by
  rcases captureText_eq_error_iff.1 h with hsearch | ⟨offsets, hsearch, hall⟩
  · exact .inl hsearch
  · exact .inr ⟨offsets, hsearch, CaptureGroup.reads_of_extractAll_error hall⟩

/-- What is captured in a text is read off parts of it. -/
theorem reads_of_captureText {m : Matcher} {text : String} {c : Captures}
    (h : m.captureText text = .ok (some c)) :
    ∃ offsets, m.search text = .ok (some offsets) ∧ ∀ n v, c.get? n = some v →
      ∃ g ∈ m.groups, g.name = n ∧ ∃ part, g.Reads text.toList offsets part ∧
        g.type.convert (String.ofList part) = some v := by
  obtain ⟨offsets, hsearch, hall⟩ := captureText_eq_some_iff.1 h
  refine ⟨offsets, hsearch, fun n v hv => ?_⟩
  rcases CaptureGroup.reads_of_extractAll hall hv with hnil | hread
  · cases hnil
  · exact hread

/-- A string value is the text that it was read from. -/
theorem eq_of_convert_string {t : ValueType} {s raw : String}
    (h : t.convert raw = some (.string s)) : s = raw := by
  obtain rfl := ValueType.valueType_of_convert h
  exact (Value.string.inj (Option.some.inj h)).symm

/-- **Bytes and texts are matched alike.**

Decoding replaces just the maximal ill-formed parts, each by one character, and bytes are matched as
the text that it gives. The strict way is taken by the bytes of texts and by no others, and it makes
no difference there: decoding gives the text back, and the bytes are matched as that text. So the
decoded text is stable, and ill-formed bytes are matched as the bytes of the text in which they are
replaced, failures included.

Every failure is that of the search in the decoded text, or about a part of it that is no literal of
its type. Every captured value is read off a part of it, at the offsets of the search, and a
captured string is such a part. -/
theorem captures_as_replaced (m : Matcher) (bytes : List UInt8) :
    let text := Utf8.decodeLossy bytes
    (∀ cs, Utf8.Replaces bytes cs ↔ cs = text) ∧
    m.captureBytes bytes = m.captureText (String.ofList text) ∧
    (∀ cs, Utf8.decode? bytes = some cs ↔ bytes = Utf8.encode cs) ∧
    (∀ s : String, Utf8.decodeLossy (Utf8.encode s.toList) = s.toList ∧
      m.captureBytes (Utf8.encode s.toList) = m.captureText s) ∧
    Utf8.decodeLossy (Utf8.encode text) = text ∧
    m.captureBytes (Utf8.encode text) = m.captureBytes bytes ∧
    (∀ e, m.captureBytes bytes = .error e → m.search (String.ofList text) = .error e ∨
      ∃ offsets, m.search (String.ofList text) = .ok (some offsets) ∧
        ∃ g ∈ m.groups, ∃ part, g.Reads text offsets part ∧
          g.type.convert (String.ofList part) = none ∧
          e = .typeConversion g.name (String.ofList part) g.type) ∧
    ∀ c, m.captureBytes bytes = .ok (some c) →
      ∃ offsets, m.search (String.ofList text) = .ok (some offsets) ∧
        ∀ n v, c.get? n = some v → ∃ g ∈ m.groups, g.name = n ∧
          ∃ part, g.Reads text offsets part ∧ g.type.convert (String.ofList part) = some v ∧
            ∀ s, v = .string s → s = String.ofList part := by
  intro text
  -- Only the decoded text is ever looked at.
  have hencoded : ∀ s : String, m.captureBytes (Utf8.encode s.toList) = m.captureText s := by
    intro s
    rw [captureBytes_eq, Utf8.decodeLossy_encode, String.ofList_toList]
  refine ⟨fun _ => Utf8.replaces_iff, captureBytes_eq m bytes, fun _ => Utf8.decode?_eq_some_iff,
    fun s => ⟨Utf8.decodeLossy_encode _, hencoded s⟩, Utf8.decodeLossy_encode _, ?_, ?_, ?_⟩
  · rw [captureBytes_eq, captureBytes_eq, Utf8.decodeLossy_encode]
  · intro e he
    rw [captureBytes_eq] at he
    have hcases := captureText_error_cases he
    rwa [String.toList_ofList] at hcases
  · intro c hc
    rw [captureBytes_eq] at hc
    obtain ⟨offsets, hsearch, hread⟩ := reads_of_captureText hc
    rw [String.toList_ofList] at hread
    refine ⟨offsets, hsearch, fun n v hv => ?_⟩
    obtain ⟨g, hg, hname, part, hpart, hconvert⟩ := hread n v hv
    refine ⟨g, hg, hname, part, hpart, hconvert, ?_⟩
    rintro s rfl
    exact eq_of_convert_string hconvert

/-- A matcher that captures the second character, if that has three bytes. -/
def second (type : ValueType) : Matcher :=
  ⟨[], "", [⟨"x", [1], type⟩], fun _ => .ok (some [some (0, 4), some (1, 4)])⟩

/-- A letter, a character that breaks off, an overlong sequence, a surrogate, a letter, and a
    character that breaks off at the end. -/
def illFormed : List UInt8 :=
  [0x61, 0xE2, 0x82, 0xC0, 0xAF, 0xED, 0xA0, 0x80, 0x7A, 0xF0, 0x9F, 0x98]

/-- The parts that break off are of two and three bytes, and all others of one. The second character
    is a replacement; as an integer it is refused, and the failure is about it. -/
theorem captures_as_replaced_illFormed :
    Utf8.Replaces illFormed "a\uFFFD\uFFFD\uFFFD\uFFFD\uFFFD\uFFFDz\uFFFD".toList ∧
      (second .string).captureBytes illFormed = .ok (some [("x", .string "\uFFFD")]) ∧
      (∃ g ∈ (second .string).groups, ∃ offsets part,
        g.Reads (Utf8.decodeLossy illFormed) offsets part ∧ "\uFFFD" = String.ofList part) ∧
      (second .int).captureBytes illFormed = .error (.typeConversion "x" "\uFFFD" .int) ∧
      ∃ g ∈ (second .int).groups, ∃ offsets part,
        g.Reads (Utf8.decodeLossy illFormed) offsets part ∧
          g.type.convert (String.ofList part) = none := by
  have hstring : (second .string).captureBytes illFormed =
      .ok (some [("x", .string "\uFFFD")]) := rfl
  have hint : (second .int).captureBytes illFormed =
      .error (.typeConversion "x" "\uFFFD" .int) := rfl
  obtain ⟨hreplaces, -, -, -, -, -, -, hvalues⟩ := captures_as_replaced (second .string) illFormed
  obtain ⟨-, -, -, -, -, -, hfailures, -⟩ := captures_as_replaced (second .int) illFormed
  refine ⟨(hreplaces _).2 rfl, hstring, ?_, hint, ?_⟩
  · obtain ⟨offsets, -, hread⟩ := hvalues _ hstring
    obtain ⟨g, hg, -, part, hpart, -, hslice⟩ := hread "x" _ rfl
    exact ⟨g, hg, offsets, part, hpart, hslice _ rfl⟩
  · rcases hfailures _ hint with hsearch | ⟨offsets, -, g, hg, part, hpart, hnone, -⟩
    · -- The failure is not one of the search.
      cases hsearch
    · exact ⟨g, hg, offsets, part, hpart, hnone⟩

end Matcher

end Grok
