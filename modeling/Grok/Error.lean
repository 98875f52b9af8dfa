import Grok.Value

namespace Grok

/-!
# Errors

Everything that can go wrong, by cause; `Error.message` words it.
-/

/-- Why a file, a directory or a stream could not be used. -/
inductive StreamError where
  /-- there is nothing under the path -/
  | notFound
  /-- the path leads through or to something that is not a directory -/
  | notDirectory
  /-- a file name is longer than file systems allow -/
  | nameTooLong
  /-- the path holds a zero character -/
  | zeroInPath
  /-- the content is not UTF-8 -/
  | notUtf8
  /-- any other failure, with its message -/
  | failed (message : String)
  deriving DecidableEq, Repr

namespace StreamError

/-- The wording of a failure. -/
def message : StreamError → String
  | .notFound => "No such file or directory (os error 2)"
  | .notDirectory => "Not a directory (os error 20)"
  | .nameTooLong => "File name too long (os error 36)"
  | .zeroInPath => "file name contained an unexpected NUL byte"
  | .notUtf8 => "stream did not contain valid UTF-8"
  | .failed m => m

end StreamError

/-- Why an operation failed. -/
inductive Error where
  /-- a pattern is referenced that has no definition -/
  | unknownPattern (name : String)
  /-- a pattern is referenced while it is being expanded -/
  | cyclicPattern (name : String)
  /-- the engine rejects an expanded expression -/
  | invalidExpression (expression reason : String)
  /-- the engine gave up a search -/
  | matchInterrupted (reason : String)
  /-- a captured text is no literal of its field's type -/
  | typeConversion (field value : String) (type : ValueType)
  /-- no expression is configured -/
  | missingConfiguration
  /-- a definition file could not be read -/
  | patternFile (path : String) (cause : StreamError)
  /-- a directory of definition files could not be read -/
  | patternDirectory (path : String) (cause : StreamError)
  /-- a configuration text is not acceptable -/
  | configuration (reason : String)
  /-- a record could not be read or written -/
  | stream (cause : StreamError)
  deriving DecidableEq, Repr

namespace Error

/-- The wording of an error. The time that an interrupted search took is left open. -/
def message : Error → String
  | .unknownPattern name => "No definition found for grok pattern `" ++ name ++ "`"
  | .cyclicPattern name => "Grok pattern `" ++ name ++ "` references itself"
  | .invalidExpression expression reason =>
    "Invalid grok expression `" ++ expression ++ "`: " ++ reason
  | .matchInterrupted reason =>
    "Grok pattern matching was interrupted before completion (_ ms): " ++ reason
  | .typeConversion field value type =>
    "Failed to convert field `" ++ field ++ "` with value `" ++ value ++ "` to " ++ type.name
  | .missingConfiguration =>
    "Missing required configuration, either `pattern` or `patterns` must not be empty"
  | .patternFile path cause => "Failed to read pattern file `" ++ path ++ "`: " ++ cause.message
  | .patternDirectory path cause =>
    "Failed to read pattern directory `" ++ path ++ "`: " ++ cause.message
  | .configuration reason => "Invalid grok configuration: " ++ reason
  | .stream cause => cause.message

end Error

end Grok
