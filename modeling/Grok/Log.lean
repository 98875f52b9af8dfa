namespace Grok

/-!
# Log messages

What a computation reports on the way is part of its result: `Logged` pairs a value with the
messages in the order in which they arise.
-/

namespace Log

/-- How much a message matters. -/
inductive Level where
  | trace
  | debug
  | info
  | warn
  | error
  deriving DecidableEq, Repr

/-- The name of a level. -/
def Level.name : Level → String
  | .trace => "TRACE"
  | .debug => "DEBUG"
  | .info => "INFO"
  | .warn => "WARN"
  | .error => "ERROR"

/-- A message. -/
structure Entry where
  level : Level
  text : String
  deriving DecidableEq, Repr

/-- The line of a message: its level and its text. -/
def Entry.line (e : Entry) : String := e.level.name ++ " " ++ e.text

end Log

/-- A value and the messages that led to it. -/
structure Logged (α : Type) where
  log : List Log.Entry
  value : α

end Grok
