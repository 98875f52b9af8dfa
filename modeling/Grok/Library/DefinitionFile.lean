import Grok.Library.Basic
import Grok.Log
import Grok.Reference

namespace Grok

/-!
# Definition files

A definition file holds one definition a line, `NAME expression`. Blank lines and lines that start
with `#` say nothing, and a line that is no definition is passed over.

* `DefinitionFile.lines` cuts a content into lines.
* `DefinitionFile.Line.read` tells what a line is.
* `DefinitionFile.definitions` are the definitions of a content in the order of the lines.
-/

namespace DefinitionFile

/-- A text without the carriage return at its end, if there is one. -/
def dropReturn (cs : List Char) : List Char :=
  if cs.getLast? = some '\r' then cs.dropLast else cs

/-- The lines of a content: each ends at a line feed, together with a carriage return in front of
    it. What follows the last line feed is a line unless it is empty. `line` holds the characters of
    the line being read, in reverse. -/
def linesFrom : List Char → List Char → List (List Char)
  | line, [] => if line = [] then [] else [line.reverse]
  | line, c :: cs =>
    if c = '\n' then dropReturn line.reverse :: linesFrom [] cs else linesFrom (c :: line) cs

/-- The lines of a content. -/
def lines (cs : List Char) : List (List Char) := linesFrom [] cs

/-- Is the text a name that a definition in a file can have? -/
def isName (cs : List Char) : Bool := !cs.isEmpty && cs.all Occurrence.isNameChar

/-- What a line of a definition file is. -/
inductive Line where
  /-- nothing, or a comment -/
  | blank
  /-- a definition -/
  | definition (d : Definition)
  /-- a single word -/
  | withoutBody (text : String)
  /-- no definition for another reason -/
  | malformed (text : String)
  deriving DecidableEq, Repr

namespace Line

/-- Tells what a line is: after leading white space come a name, white space and the body. -/
def read (line : List Char) : Line :=
  let cs := line.dropWhile Unicode.isWhiteSpace
  match cs with
  | [] => .blank
  | '#' :: _ => .blank
  | cs =>
    let name := cs.takeWhile fun c => !Unicode.isWhiteSpace c
    let rest := cs.dropWhile fun c => !Unicode.isWhiteSpace c
    if rest = [] then .withoutBody (String.ofList cs)
    else
      let body := rest.dropWhile Unicode.isWhiteSpace
      if body = [] ∨ isName name = false then .malformed (String.ofList cs)
      else .definition ⟨String.ofList name, String.ofList body⟩

/-- The definition on a line. -/
def definition? : Line → Option Definition
  | .definition d => some d
  | _ => none

/-- The message about a line that is passed over. -/
def messages : Line → List Log.Entry
  | .withoutBody text => [⟨.trace, "Ignoring grok definition without pattern: " ++ text⟩]
  | .malformed text => [⟨.trace, "Ignoring malformed grok definition: " ++ text⟩]
  | _ => []

end Line

/-- What the lines of a content are. -/
def read (content : List Char) : List Line := (lines content).map Line.read

/-- The definitions of a content in the order of its lines. -/
def definitions (content : List Char) : List Definition :=
  (read content).filterMap Line.definition?

/-- The messages about the lines of a content. -/
def messages (content : List Char) : List Log.Entry := (read content).flatMap Line.messages

end DefinitionFile

end Grok
