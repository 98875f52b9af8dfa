import Grok.Regex.Fault
import Grok.Text.Digits
import Grok.Regex.Word

namespace Grok.Regex

/-!
# Names of groups

Names stand between brackets or quotes; these functions read what follows the opening one.

* `Name.definition` reads the name that a group is given.
* `Name.callee` reads the name or number of a group to call.
* `Name.reference` reads the name or number that a back-reference or a condition refers to, with the
  level behind it.
-/

/-- A group as written: by its name, by its number, or by the number of groups from here. -/
inductive Name where
  | word (cs : List Char)
  | absolute (n : Nat)
  | relative (n : Int)
  deriving DecidableEq, Repr

namespace Name

/-- The largest number that is read. -/
def maxNumber : Nat := 2147483647

/-- What closes a name that `c` opens. -/
def closing (c : Char) : Char := if c = '<' then '>' else if c = '(' then ')' else c

/-- Does a name that starts with `c` look like a number? -/
def startsNumber (c : Char) : Bool := c.isDigit || c == '-' || c == '+'

/-- A name without its first character in a message, if the name is refused at once: it ends before
    what stops it, unless the expression ends with that. -/
def refused (part rest : List Char) : List Char :=
  match rest with
  | [d] => part ++ [d]
  | _ => part

/-- The name before what closes it. A name that is not closed lacks its last character in the
    message. -/
def closed (close c : Char) (part : List Char) : List Char →
    Except Fault (List Char × List Char)
  | [] => .error (.invalidName (c :: part.dropLast))
  | d :: rest => if d = close then .ok (c :: part, rest) else .error (.invalidName (c :: part))

/-- Reads the name of a group up to the character that closes it. -/
def definition (close : Char) : List Char → Except Fault (List Char × List Char)
  | [] => .error .emptyName
  | c :: cs =>
    let part := cs.takeWhile fun d => d ≠ close ∧ d ≠ ')'
    let rest := cs.dropWhile fun d => d ≠ close ∧ d ≠ ')'
    if c = close then .error .emptyName
    else if startsNumber c then .error (.invalidName (c :: refused part rest))
    else if isWord c then closed close c part rest
    else .error (.invalidNameChar (c :: refused part rest))

/-- The number that a sign or a first digit and further digits stand for. -/
def number (written : List Char) (c : Char) (digits : List Char) : Except Fault Name :=
  let n := Digits.value (if c.isDigit then c :: digits else digits)
  if maxNumber < n then .error .numberTooLarge
  else if c.isDigit then .ok (.absolute n)
  else if n = 0 then .error (.invalidName written)
  else .ok (.relative (if c = '-' then -n else n))

/-- Reads the group to call up to the character that closes it; also gives it as written. What
    starts like a number but does not go on like one is a name. -/
def callee (close : Char) : List Char → Except Fault (Name × List Char × List Char)
  | [] => .error .emptyName
  | c :: cs =>
    let part := cs.takeWhile fun d => d ≠ close ∧ d ≠ ')'
    let rest := cs.dropWhile fun d => d ≠ close ∧ d ≠ ')'
    if c = close then .error .emptyName
    else if startsNumber c ∨ isWord c then do
      let (written, rest) ← closed close c part rest
      let name ←
        if startsNumber c ∧ part.all Char.isDigit then number written c part else .ok (.word written)
      .ok (name, written, rest)
    else .error (.invalidNameChar (c :: refused part rest))

/-- What is wrong with the characters of a reference: the last one that does not fit decides. -/
def flaw? (c : Char) (part rest : List Char) : Option (List Char → Fault) :=
  if startsNumber c then
    match part.dropWhile Char.isDigit with
    | [] => if !c.isDigit ∧ part = [] ∧ rest ≠ [] then some .invalidName else none
    | _ :: more => some (if more.all isWord then .invalidName else .invalidNameChar)
  else if (c :: part).all isWord then none
  else some .invalidNameChar

/-- Reads what is referred to up to the character that closes it, with the level behind a sign;
    also gives the reference as written. -/
def reference (close : Char) :
    List Char → Except Fault (Name × Option Int × List Char × List Char)
  | [] => .error .emptyName
  | c :: cs =>
    let part := cs.takeWhile fun d => d ≠ close ∧ d ≠ ')' ∧ d ≠ '+' ∧ d ≠ '-'
    let rest := cs.dropWhile fun d => d ≠ close ∧ d ≠ ')' ∧ d ≠ '+' ∧ d ≠ '-'
    if c = close then .error .emptyName
    else if (c = '+' ∨ c = '-') ∧ cs = [] then .error (.invalidNameChar [c])
    else
      match flaw? c part rest with
      | some f => .error (f (c :: if rest = [] then part.dropLast else part))
      | none => do
        let (level, rest) ← level? (c :: part) (c :: cs) rest
        let name ← if startsNumber c then number (c :: part) c part else .ok (.word (c :: part))
        .ok (name, level, c :: part, rest)
where
  /-- The level behind a name, and what follows. -/
  level? (name all : List Char) : List Char → Except Fault (Option Int × List Char)
    | [] => .error (.invalidName all)
    | d :: rest =>
      if d = close then .ok (none, rest)
      else if d = ')' then .error (.invalidName all)
      else
        let digits := rest.takeWhile Char.isDigit
        if rest = [] then .error (.invalidNameChar name)
        else if digits = [] then .error (.invalidName all)
        else if maxNumber < Digits.value digits then .error .numberTooLarge
        else
          match rest.dropWhile Char.isDigit with
          | e :: rest =>
            if e = close then
              .ok (some (if d = '-' then -(Digits.value digits : Int) else Digits.value digits), rest)
            else .error (.invalidName all)
          | [] => .error (.invalidName all)

end Name

end Grok.Regex
