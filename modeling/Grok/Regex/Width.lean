import Grok.Regex.Syntax

namespace Grok.Regex

/-!
# Widths

How much text a match of an expression may take up: `Width` is a range of lengths.
-/

/-- A range of lengths; `most` is `none` if there is no bound. -/
structure Width where
  least : Nat
  most : Option Nat
  deriving DecidableEq, Repr, Inhabited

namespace Width

/-- Nothing is known. -/
def unknown : Width := ⟨0, none⟩

/-- Exactly `n`. -/
def exactly (n : Nat) : Width := ⟨n, some n⟩

/-- One after the other. -/
def add (v w : Width) : Width :=
  ⟨v.least + w.least, v.most.bind fun m => w.most.map (m + ·)⟩

/-- One or the other. -/
def or (v w : Width) : Width :=
  ⟨min v.least w.least, v.most.bind fun m => w.most.map (max m)⟩

/-- Repeated. -/
def times (q : Quantifier) (w : Width) : Width :=
  ⟨q.lower * w.least,
    if w.most = some 0 then some 0 else q.upper.bind fun u => w.most.map (u * ·)⟩

end Width

end Grok.Regex
