import Grok.Value
import Grok.Json.Reader
import Grok.Library.Layers
import Grok.Expansion
import Grok.Compiler
import Grok.Matcher
import Grok.Regex.Backtracking
import Grok.Config.Reading
import Grok.Transform
import Grok.Proofs.Library.Overriding
import Grok.Proofs.Expansion.Agreement
import Grok.Proofs.Expansion.Seams
import Grok.Proofs.Precedence.FieldsOnly
import Grok.Proofs.Stream.Run
import Grok.Proofs.Matching.Extraction
import Grok.Proofs.Matching.Numbering
import Grok.Proofs.Json.RoundTrip
import Grok.Proofs.Matching.Policy
import Grok.Proofs.Value.Printed
import Grok.Proofs.Library.BuiltIn
import Grok.Proofs.Regex.Calls
import Grok.Proofs.Regex.Rest
import Grok.Proofs.Regex.Words
import Grok.Proofs.Regex.Twins
import Grok.Proofs.Regex.Renaming
import Grok.Proofs.Matching.FieldName
import Grok.Proofs.Duration.Language
import Grok.Proofs.Matching.Bytes
import Grok.Proofs.Expansion.Concatenation
import Grok.Proofs.Library.FileFormat
import Grok.Proofs.Library.Directories
import Grok.Proofs.Library.Printed
import Grok.Proofs.Expansion.Calls
import Grok.Proofs.Reference.Grammar
import Grok.Proofs.Matching.Lookup
import Grok.Proofs.Matching.Descriptors
