import Grok.Unicode.Binary
import Grok.Unicode.Block
import Grok.Unicode.Class
import Grok.Unicode.Script

namespace Grok.Unicode

/-!
# Properties by name

* `bracketClasses` are the named classes such as `alpha`.
* `property?` is a property such as `Greek`, `Lu`, `ID_Start` or `In_Cyrillic`; blanks, hyphens,
  underscores and letter case in the name do not matter.
-/

/-- The named classes. -/
def bracketClasses : List (String × CharSet) :=
  [("alnum", alphanumeric), ("alpha", alphabetic), ("blank", blank), ("cntrl", control),
    ("digit", decimalNumber), ("graph", graph), ("lower", lowercase), ("print", print),
    ("punct", punct), ("space", whiteSpace), ("upper", uppercase), ("xdigit", hexDigit),
    ("ascii", ascii), ("word", word)]

/-- The longest name of a property, without separators. -/
def longestPropertyName : Nat := 59

/-- A name without separators, in lower case; `none` if it is too long or not ASCII. -/
def normalName? (name : List Char) : Option String :=
  let cs := name.filter fun c => c ≠ ' ' ∧ c ≠ '-' ∧ c ≠ '_'
  if cs.length ≤ longestPropertyName ∧ cs.all fun c => c.toNat < 128 then
    some (String.ofList (cs.map Char.toLower))
  else none

/-- The general categories and their groups by name. -/
def categories : List (List String × CharSet) :=
  [
    (["any"], .full),
    (["assigned"], assigned),
    (["posixpunct"], punct),
    (["newline"], .single 10),
    (["c", "other"], unassigned.union ((control.union format).union (surrogate.union privateUse))),
    (["cc", "control"], control),
    (["cf", "format"], format),
    (["cn", "unassigned"], unassigned),
    (["co", "privateuse"], privateUse),
    (["cs", "surrogate"], surrogate),
    (["l", "letter"], [uppercaseLetter, lowercaseLetter, titlecaseLetter, modifierLetter,
      otherLetter].foldl .union .empty),
    (["lc", "casedletter"], (uppercaseLetter.union lowercaseLetter).union titlecaseLetter),
    (["ll", "lowercaseletter"], lowercaseLetter),
    (["lm", "modifierletter"], modifierLetter),
    (["lo", "otherletter"], otherLetter),
    (["lt", "titlecaseletter"], titlecaseLetter),
    (["lu", "uppercaseletter"], uppercaseLetter),
    (["m", "mark", "combiningmark"], mark),
    (["mc", "spacingmark"], spacingMark),
    (["me", "enclosingmark"], enclosingMark),
    (["mn", "nonspacingmark"], nonspacingMark),
    (["n", "number"], (decimalNumber.union letterNumber).union otherNumber),
    (["nd", "decimalnumber"], decimalNumber),
    (["nl", "letternumber"], letterNumber),
    (["no", "othernumber"], otherNumber),
    (["p", "punctuation", "punct"], punctuation),
    (["pc", "connectorpunctuation"], connectorPunctuation),
    (["pd", "dashpunctuation"], dashPunctuation),
    (["pe", "closepunctuation"], closePunctuation),
    (["pf", "finalpunctuation"], finalPunctuation),
    (["pi", "initialpunctuation"], initialPunctuation),
    (["po", "otherpunctuation"], otherPunctuation),
    (["ps", "openpunctuation"], openPunctuation),
    (["s", "symbol"], symbol),
    (["sc", "currencysymbol"], currencySymbol),
    (["sk", "modifiersymbol"], modifierSymbol),
    (["sm", "mathsymbol"], mathSymbol),
    (["so", "othersymbol"], otherSymbol),
    (["z", "separator"], (spaceSeparator.union lineSeparator).union paragraphSeparator),
    (["zl", "lineseparator"], lineSeparator),
    (["zp", "paragraphseparator"], paragraphSeparator),
    (["zs", "spaceseparator"], spaceSeparator),
    (["alphabetic"], alphabetic),
    (["lowercase"], lowercase),
    (["uppercase"], uppercase),
    (["whitespace", "wspace"], whiteSpace)]

/-- The code points of a block; `in_no_block` are those of none. -/
def block? (name : String) : Option CharSet :=
  if name = "innoblock" then
    some (CharSet.ofRanges (blockTable.map fun (_, a, b) => ⟨a, b⟩)).complement
  else (blockTable.lookup name).map fun (a, b) => ⟨[⟨a, b⟩]⟩

/-- Looks a name up in a table of sets with several names. -/
def lookupNamed {α : Type} (name : String) (table : List (List String × α)) : Option α :=
  (table.find? fun e => e.1.contains name).map (·.2)

/-- The property of a name. -/
def property? (name : List Char) : Option CharSet := do
  let name ← normalName? name
  lookupNamed name categories <|> bracketClasses.lookup name <|>
    (lookupNamed name scriptTable).map .ofTable <|> (lookupNamed name binaryTable).map .ofTable <|>
    block? name

end Grok.Unicode
