import Grok.Library.BuiltIn.Application
import Grok.Library.BuiltIn.General
import Grok.Library.BuiltIn.Network
import Grok.Library.BuiltIn.Service

namespace Grok.BuiltIn

/-!
# Built-in definitions

The groups of definitions that every library starts from, in the order in which they are loaded.
-/

/-- A named group of definitions. -/
structure Group where
  name : String
  definitions : List Definition

/-- The groups in load order. -/
def groups : List Group :=
  [⟨"grok-patterns", general⟩, ⟨"aws", cloudServices⟩, ⟨"haproxy", loadBalancer⟩,
    ⟨"httpd", webServer⟩, ⟨"java", applicationServer⟩, ⟨"linux-syslog", systemLog⟩,
    ⟨"postgresql", relationalStore⟩, ⟨"redis", keyValueStore⟩, ⟨"ruby", scriptLogger⟩,
    ⟨"squid", proxy⟩]

/-- All definitions in load order. -/
def definitions : List Definition := groups.flatMap (·.definitions)

end Grok.BuiltIn
