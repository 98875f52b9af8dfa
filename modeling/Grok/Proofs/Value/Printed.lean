import Grok.Proofs.Json.RoundTrip
import Grok.Proofs.Matching.Extraction

namespace Grok

/-!
# Printed values

What a value is printed as is a literal of it.

* `Value.convert_text` — a value that is no floating-point number is converted from its printed
  form, whether or not a text was converted to it before.
* `ValueType.convert_printed` — so a second conversion changes nothing, and no duration of the whole
  range is lost between printing and reading.
-/

/-- A printed integer is read as that integer. -/
theorem Integer.ofLiteral?_ofInt (n : Int) : ofLiteral? (Digits.ofInt n) = some n :=
  Json.ofLiteral?_of_writes (Json.writesInteger_ofInt n)

/-- **A value is converted from its printed form.** -/
theorem Value.convert_text {v : Value} (h : v.IsExact) :
    v.valueType.convert (String.ofList v.text) = some v := by
  unfold ValueType.convert
  rw [String.toList_ofList]
  cases v with
  | short n =>
    -- A machine integer fits its own width, whichever that is.
    have hfits : Integer.Fits 16 n.toInt := ⟨n.le_toInt, n.toInt_lt⟩
    have hread : Integer.short? (Digits.ofInt n.toInt) = some n := by
      simp [Integer.short?, Integer.ofLiteral?_ofInt, hfits]
    simp only [valueType, text, hread, Option.map_some]
  | int n =>
    have hfits : Integer.Fits 32 n.toInt := ⟨n.le_toInt, n.toInt_lt⟩
    have hread : Integer.int? (Digits.ofInt n.toInt) = some n := by
      simp [Integer.int?, Integer.ofLiteral?_ofInt, hfits]
    simp only [valueType, text, hread, Option.map_some]
  | long n =>
    have hfits : Integer.Fits 64 n.toInt := ⟨n.le_toInt, n.toInt_lt⟩
    have hread : Integer.long? (Digits.ofInt n.toInt) = some n := by
      simp [Integer.long?, Integer.ofLiteral?_ofInt, hfits]
    simp only [valueType, text, hread, Option.map_some]
  | float x => exact absurd rfl h.1
  | double x => exact absurd rfl h.2
  | boolean b => cases b <;> rfl
  | string s => simp only [valueType, text, String.ofList_toList]
  | duration d => simp only [valueType, text, Duration.parse_text, Option.map_some]

/-- Every whole number of nanoseconds up to `2^63 - 1` milliseconds, in either direction, is the
    length of a duration. -/
theorem Duration.exists_nanoseconds_eq_iff {n : Int} :
    (∃ d : Duration, d.nanoseconds = n) ↔
      -((2 ^ 63 - 1) * 10 ^ 6) ≤ n ∧ n ≤ (2 ^ 63 - 1) * 10 ^ 6 := by
  have hlimit : limit.natAbs = (2 ^ 63 - 1) * 10 ^ 6 := by decide
  constructor
  · rintro ⟨d, rfl⟩
    have hrange := d.inRange
    rw [hlimit] at hrange
    omega
  · rintro ⟨hlow, hhigh⟩
    exact ⟨⟨n, by omega⟩, rfl⟩

namespace ValueType

/-- **A converted value prints to a literal of itself**, unless it is a floating-point number; and
    so does every duration, from `-(2^63 - 1)` milliseconds to `2^63 - 1`, whether or not 64 bits
    hold its nanoseconds. -/
theorem convert_printed :
    (∀ (t : ValueType) (s : String) (v : Value), t ≠ .float → t ≠ .double → t.convert s = some v →
      t.convert (String.ofList v.text) = some v) ∧
    (∀ d : Duration, Duration.parse d.text = some d) ∧
    ∀ n : Int, -((2 ^ 63 - 1) * 10 ^ 6) ≤ n → n ≤ (2 ^ 63 - 1) * 10 ^ 6 →
      ∃ d : Duration, d.nanoseconds = n ∧ Duration.parse d.text = some d := by
  refine ⟨?_, Duration.parse_text, ?_⟩
  · intro t s v hfloat hdouble hv
    obtain rfl : v.valueType = t := valueType_of_convert hv
    exact Value.convert_text ⟨hfloat, hdouble⟩
  · intro n hlow hhigh
    obtain ⟨d, hd⟩ := Duration.exists_nanoseconds_eq_iff.2 ⟨hlow, hhigh⟩
    exact ⟨d, hd, d.parse_text⟩

/-- Zeros in front and a sign are lost in print, and so is the way in which a duration was put
    together; the least duration has more nanoseconds than 64 bits hold. -/
theorem convert_printed_literals :
    short.convert "-0032768" = some (.short (-32768)) ∧
      short.convert "-32768" = some (.short (-32768)) ∧
      duration.convert "-p1dt-24h-0,50s" = some (.duration ⟨500000000, by decide⟩) ∧
      duration.convert "PT0.5S" = some (.duration ⟨500000000, by decide⟩) ∧
      ∃ d : Duration, d.nanoseconds = -((2 ^ 63 - 1) * 10 ^ 6) ∧
        Duration.parse d.text = some d := by
  have hshort : short.convert "-0032768" = some (.short (-32768)) := by decide +kernel
  have hduration : duration.convert "-p1dt-24h-0,50s" =
      some (.duration ⟨500000000, by decide⟩) := by decide +kernel
  obtain ⟨hconvert, -, hrange⟩ := convert_printed
  exact ⟨hshort, hconvert _ _ _ (by decide) (by decide) hshort, hduration,
    hconvert _ _ _ (by decide) (by decide) hduration, hrange _ (by omega) (by omega)⟩

end ValueType

end Grok
