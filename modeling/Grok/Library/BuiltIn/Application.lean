import Grok.Library.Basic

namespace Grok.BuiltIn

/-!
# Definitions for applications

The lines written by application servers and logging libraries.
-/

/-- Definitions for application servers and their stack traces, in the order in which they are
    loaded. -/
def applicationServer : List Definition :=
  [
    ⟨"JAVACLASS",
      "(?:[a-zA-Z$_][a-zA-Z$_0-9]*\\.)*[a-zA-Z$_][a-zA-Z$_0-9]*"⟩,
    ⟨"JAVAFILE",
      "(?:[A-Za-z0-9_. -]+)"⟩,
    ⟨"JAVAMETHOD",
      "(?:(<(?:cl)?init>)|[a-zA-Z$_][a-zA-Z$_0-9]*)"⟩,
    ⟨"JAVASTACKTRACEPART",
      "%\x7bSPACE\x7dat %\x7bJAVACLASS:class\x7d\\.%\x7bJAVAMETHOD:method\x7d\\(%\x7bJAVAFILE:file\x7d(?::%\x7bNUMBER:line\x7d)?\\)"⟩,
    ⟨"JAVATHREAD",
      "(?:[A-Z]\x7b2\x7d-Processor[\\d]+)"⟩,
    ⟨"JAVALOGMESSAGE",
      "(.*)"⟩,
    ⟨"CATALINA_DATESTAMP",
      "%\x7bMONTH\x7d %\x7bMONTHDAY\x7d, 20%\x7bYEAR\x7d %\x7bHOUR\x7d:?%\x7bMINUTE\x7d(?::?%\x7bSECOND\x7d) (?:AM|PM)"⟩,
    ⟨"TOMCAT_DATESTAMP",
      "20%\x7bYEAR\x7d-%\x7bMONTHNUM\x7d-%\x7bMONTHDAY\x7d %\x7bHOUR\x7d:?%\x7bMINUTE\x7d(?::?%\x7bSECOND\x7d) %\x7bISO8601_TIMEZONE\x7d"⟩,
    ⟨"CATALINALOG",
      "%\x7bCATALINA_DATESTAMP:timestamp\x7d %\x7bJAVACLASS:class\x7d %\x7bJAVALOGMESSAGE:logmessage\x7d"⟩,
    ⟨"TOMCATLOG",
      "%\x7bTOMCAT_DATESTAMP:timestamp\x7d \\| %\x7bLOGLEVEL:level\x7d \\| %\x7bJAVACLASS:class\x7d - %\x7bJAVALOGMESSAGE:logmessage\x7d"⟩
  ]

/-- Definitions for a logging library for scripts, in the order in which they are loaded. -/
def scriptLogger : List Definition :=
  [
    ⟨"RUBY_LOGLEVEL",
      "(?:DEBUG|FATAL|ERROR|WARN|INFO)"⟩,
    ⟨"RUBY_LOGGER",
      "[DFEWI], \\[%\x7bTIMESTAMP_ISO8601:timestamp\x7d #%\x7bPOSINT:pid\x7d\\] *%\x7bRUBY_LOGLEVEL:loglevel\x7d -- +%\x7bDATA:progname\x7d: %\x7bGREEDYDATA:message\x7d"⟩
  ]

end Grok.BuiltIn
