import Grok.Library.Basic

namespace Grok.BuiltIn

/-!
# General definitions

Numbers, words, network names, paths, dates, times and the common log line.
-/

/-- Definitions for names, numbers, addresses, dates and log levels, in the order in which they are
    loaded. -/
def general : List Definition :=
  [
    ⟨"USERNAME",
      "[a-zA-Z0-9._-]+"⟩,
    ⟨"USER",
      "%\x7bUSERNAME\x7d"⟩,
    ⟨"EMAILLOCALPART",
      "[a-zA-Z][a-zA-Z0-9_.+-=:]+"⟩,
    ⟨"EMAILADDRESS",
      "%\x7bEMAILLOCALPART\x7d@%\x7bHOSTNAME\x7d"⟩,
    ⟨"INT",
      "(?:[+-]?(?:[0-9]+))"⟩,
    ⟨"BASE10NUM",
      "(?<![0-9.+-])(?>[+-]?(?:(?:[0-9]+(?:\\.[0-9]+)?)|(?:\\.[0-9]+)))"⟩,
    ⟨"NUMBER",
      "(?:%\x7bBASE10NUM\x7d)"⟩,
    ⟨"BASE16NUM",
      "(?<![0-9A-Fa-f])(?:[+-]?(?:0x)?(?:[0-9A-Fa-f]+))"⟩,
    ⟨"BASE16FLOAT",
      "\\b(?<![0-9A-Fa-f.])(?:[+-]?(?:0x)?(?:(?:[0-9A-Fa-f]+(?:\\.[0-9A-Fa-f]*)?)|(?:\\.[0-9A-Fa-f]+)))\\b"⟩,
    ⟨"POSINT",
      "\\b(?:[1-9][0-9]*)\\b"⟩,
    ⟨"NONNEGINT",
      "\\b(?:[0-9]+)\\b"⟩,
    ⟨"WORD",
      "\\b\\w+\\b"⟩,
    ⟨"NOTSPACE",
      "\\S+"⟩,
    ⟨"SPACE",
      "\\s*"⟩,
    ⟨"DATA",
      ".*?"⟩,
    ⟨"GREEDYDATA",
      ".*"⟩,
    ⟨"QUOTEDSTRING",
      "(?>(?<!\\\\)(?>\"(?>\\\\.|[^\\\\\"]+)+\"|\"\"|(?>'(?>\\\\.|[^\\\\']+)+')|''|(?>`(?>\\\\.|[^\\\\`]+)+`)|``))"⟩,
    ⟨"UUID",
      "[A-Fa-f0-9]\x7b8\x7d-(?:[A-Fa-f0-9]\x7b4\x7d-)\x7b3\x7d[A-Fa-f0-9]\x7b12\x7d"⟩,
    ⟨"URN",
      "urn:[0-9A-Za-z][0-9A-Za-z-]\x7b0,31\x7d:(?:%[0-9a-fA-F]\x7b2\x7d|[0-9A-Za-z()+,.:=@;$_!*'/?#-])+"⟩,
    ⟨"MAC",
      "(?:%\x7bCISCOMAC\x7d|%\x7bWINDOWSMAC\x7d|%\x7bCOMMONMAC\x7d)"⟩,
    ⟨"CISCOMAC",
      "(?:(?:[A-Fa-f0-9]\x7b4\x7d\\.)\x7b2\x7d[A-Fa-f0-9]\x7b4\x7d)"⟩,
    ⟨"WINDOWSMAC",
      "(?:(?:[A-Fa-f0-9]\x7b2\x7d-)\x7b5\x7d[A-Fa-f0-9]\x7b2\x7d)"⟩,
    ⟨"COMMONMAC",
      "(?:(?:[A-Fa-f0-9]\x7b2\x7d:)\x7b5\x7d[A-Fa-f0-9]\x7b2\x7d)"⟩,
    ⟨"IPV6",
      "((([0-9A-Fa-f]\x7b1,4\x7d:)\x7b7\x7d([0-9A-Fa-f]\x7b1,4\x7d|:))|(([0-9A-Fa-f]\x7b1,4\x7d:)\x7b6\x7d(:[0-9A-Fa-f]\x7b1,4\x7d|((25[0-5]|2[0-4]\\d|1\\d\\d|[1-9]?\\d)(\\.(25[0-5]|2[0-4]\\d|1\\d\\d|[1-9]?\\d))\x7b3\x7d)|:))|(([0-9A-Fa-f]\x7b1,4\x7d:)\x7b5\x7d(((:[0-9A-Fa-f]\x7b1,4\x7d)\x7b1,2\x7d)|:((25[0-5]|2[0-4]\\d|1\\d\\d|[1-9]?\\d)(\\.(25[0-5]|2[0-4]\\d|1\\d\\d|[1-9]?\\d))\x7b3\x7d)|:))|(([0-9A-Fa-f]\x7b1,4\x7d:)\x7b4\x7d(((:[0-9A-Fa-f]\x7b1,4\x7d)\x7b1,3\x7d)|((:[0-9A-Fa-f]\x7b1,4\x7d)?:((25[0-5]|2[0-4]\\d|1\\d\\d|[1-9]?\\d)(\\.(25[0-5]|2[0-4]\\d|1\\d\\d|[1-9]?\\d))\x7b3\x7d))|:))|(([0-9A-Fa-f]\x7b1,4\x7d:)\x7b3\x7d(((:[0-9A-Fa-f]\x7b1,4\x7d)\x7b1,4\x7d)|((:[0-9A-Fa-f]\x7b1,4\x7d)\x7b0,2\x7d:((25[0-5]|2[0-4]\\d|1\\d\\d|[1-9]?\\d)(\\.(25[0-5]|2[0-4]\\d|1\\d\\d|[1-9]?\\d))\x7b3\x7d))|:))|(([0-9A-Fa-f]\x7b1,4\x7d:)\x7b2\x7d(((:[0-9A-Fa-f]\x7b1,4\x7d)\x7b1,5\x7d)|((:[0-9A-Fa-f]\x7b1,4\x7d)\x7b0,3\x7d:((25[0-5]|2[0-4]\\d|1\\d\\d|[1-9]?\\d)(\\.(25[0-5]|2[0-4]\\d|1\\d\\d|[1-9]?\\d))\x7b3\x7d))|:))|(([0-9A-Fa-f]\x7b1,4\x7d:)\x7b1\x7d(((:[0-9A-Fa-f]\x7b1,4\x7d)\x7b1,6\x7d)|((:[0-9A-Fa-f]\x7b1,4\x7d)\x7b0,4\x7d:((25[0-5]|2[0-4]\\d|1\\d\\d|[1-9]?\\d)(\\.(25[0-5]|2[0-4]\\d|1\\d\\d|[1-9]?\\d))\x7b3\x7d))|:))|(:(((:[0-9A-Fa-f]\x7b1,4\x7d)\x7b1,7\x7d)|((:[0-9A-Fa-f]\x7b1,4\x7d)\x7b0,5\x7d:((25[0-5]|2[0-4]\\d|1\\d\\d|[1-9]?\\d)(\\.(25[0-5]|2[0-4]\\d|1\\d\\d|[1-9]?\\d))\x7b3\x7d))|:)))(%.+)?"⟩,
    ⟨"IPV4",
      "(?<![0-9])(?:(?:[0-1]?[0-9]\x7b1,2\x7d|2[0-4][0-9]|25[0-5])[.](?:[0-1]?[0-9]\x7b1,2\x7d|2[0-4][0-9]|25[0-5])[.](?:[0-1]?[0-9]\x7b1,2\x7d|2[0-4][0-9]|25[0-5])[.](?:[0-1]?[0-9]\x7b1,2\x7d|2[0-4][0-9]|25[0-5]))(?![0-9])"⟩,
    ⟨"IP",
      "(?:%\x7bIPV6\x7d|%\x7bIPV4\x7d)"⟩,
    ⟨"HOSTNAME",
      "\\b(?:[0-9A-Za-z][0-9A-Za-z-]\x7b0,62\x7d)(?:\\.(?:[0-9A-Za-z][0-9A-Za-z-]\x7b0,62\x7d))*(\\.?|\\b)"⟩,
    ⟨"IPORHOST",
      "(?:%\x7bIP\x7d|%\x7bHOSTNAME\x7d)"⟩,
    ⟨"HOSTPORT",
      "%\x7bIPORHOST\x7d:%\x7bPOSINT\x7d"⟩,
    ⟨"PATH",
      "(?:%\x7bUNIXPATH\x7d|%\x7bWINPATH\x7d)"⟩,
    ⟨"UNIXPATH",
      "(/([\\w_%!$@:.,+~-]+|\\\\.)*)+"⟩,
    ⟨"TTY",
      "(?:/dev/(pts|tty([pq])?)(\\w+)?/?(?:[0-9]+))"⟩,
    ⟨"WINPATH",
      "(?>[A-Za-z]+:|\\\\)(?:\\\\[^\\\\?*]*)+"⟩,
    ⟨"URIPROTO",
      "[A-Za-z]([A-Za-z0-9+\\-.]+)+"⟩,
    ⟨"URIHOST",
      "%\x7bIPORHOST\x7d(?::%\x7bPOSINT:port\x7d)?"⟩,
    ⟨"URIPATH",
      "(?:/[A-Za-z0-9$.+!*'()\x7b\x7d,~:;=@#%&_\\-]*)+"⟩,
    ⟨"URIPARAM",
      "\\?[A-Za-z0-9$.+!*'|()\x7b\x7d,~@#%&/=:;_?\\-\\[\\]<>]*"⟩,
    ⟨"URIPATHPARAM",
      "%\x7bURIPATH\x7d(?:%\x7bURIPARAM\x7d)?"⟩,
    ⟨"URI",
      "%\x7bURIPROTO\x7d://(?:%\x7bUSER\x7d(?::[^@]*)?@)?(?:%\x7bURIHOST\x7d)?(?:%\x7bURIPATHPARAM\x7d)?"⟩,
    ⟨"MONTH",
      "\\b(?:[Jj]an(?:uary|uar)?|[Ff]eb(?:ruary|ruar)?|[Mm](?:a|ä)?r(?:ch|z)?|[Aa]pr(?:il)?|[Mm]a(?:y|i)?|[Jj]un(?:e|i)?|[Jj]ul(?:y)?|[Aa]ug(?:ust)?|[Ss]ep(?:tember)?|[Oo](?:c|k)?t(?:ober)?|[Nn]ov(?:ember)?|[Dd]e(?:c|z)(?:ember)?)\\b"⟩,
    ⟨"MONTHNUM",
      "(?:0?[1-9]|1[0-2])"⟩,
    ⟨"MONTHNUM2",
      "(?:0[1-9]|1[0-2])"⟩,
    ⟨"MONTHDAY",
      "(?:(?:0[1-9])|(?:[12][0-9])|(?:3[01])|[1-9])"⟩,
    ⟨"DAY",
      "(?:Mon(?:day)?|Tue(?:sday)?|Wed(?:nesday)?|Thu(?:rsday)?|Fri(?:day)?|Sat(?:urday)?|Sun(?:day)?)"⟩,
    ⟨"YEAR",
      "(?>\\d\\d)\x7b1,2\x7d"⟩,
    ⟨"HOUR",
      "(?:2[0123]|[01]?[0-9])"⟩,
    ⟨"MINUTE",
      "(?:[0-5][0-9])"⟩,
    ⟨"SECOND",
      "(?:(?:[0-5]?[0-9]|60)(?:[:.,][0-9]+)?)"⟩,
    ⟨"TIME",
      "(?!<[0-9])%\x7bHOUR\x7d:%\x7bMINUTE\x7d(?::%\x7bSECOND\x7d)(?![0-9])"⟩,
    ⟨"DATE_US",
      "%\x7bMONTHNUM\x7d[/-]%\x7bMONTHDAY\x7d[/-]%\x7bYEAR\x7d"⟩,
    ⟨"DATE_EU",
      "%\x7bMONTHDAY\x7d[./-]%\x7bMONTHNUM\x7d[./-]%\x7bYEAR\x7d"⟩,
    ⟨"ISO8601_TIMEZONE",
      "(?:Z|[+-]%\x7bHOUR\x7d(?::?%\x7bMINUTE\x7d))"⟩,
    ⟨"ISO8601_SECOND",
      "(?:%\x7bSECOND\x7d|60)"⟩,
    ⟨"TIMESTAMP_ISO8601",
      "%\x7bYEAR\x7d-%\x7bMONTHNUM\x7d-%\x7bMONTHDAY\x7d[T ]%\x7bHOUR\x7d:?%\x7bMINUTE\x7d(?::?%\x7bSECOND\x7d)?%\x7bISO8601_TIMEZONE\x7d?"⟩,
    ⟨"DATE",
      "%\x7bDATE_US\x7d|%\x7bDATE_EU\x7d"⟩,
    ⟨"DATESTAMP",
      "%\x7bDATE\x7d[- ]%\x7bTIME\x7d"⟩,
    ⟨"TZ",
      "(?:[APMCE][SD]T|UTC)"⟩,
    ⟨"DATESTAMP_RFC822",
      "%\x7bDAY\x7d %\x7bMONTH\x7d %\x7bMONTHDAY\x7d %\x7bYEAR\x7d %\x7bTIME\x7d %\x7bTZ\x7d"⟩,
    ⟨"DATESTAMP_RFC2822",
      "%\x7bDAY\x7d, %\x7bMONTHDAY\x7d %\x7bMONTH\x7d %\x7bYEAR\x7d %\x7bTIME\x7d %\x7bISO8601_TIMEZONE\x7d"⟩,
    ⟨"DATESTAMP_OTHER",
      "%\x7bDAY\x7d %\x7bMONTH\x7d %\x7bMONTHDAY\x7d %\x7bTIME\x7d %\x7bTZ\x7d %\x7bYEAR\x7d"⟩,
    ⟨"DATESTAMP_EVENTLOG",
      "%\x7bYEAR\x7d%\x7bMONTHNUM2\x7d%\x7bMONTHDAY\x7d%\x7bHOUR\x7d%\x7bMINUTE\x7d%\x7bSECOND\x7d"⟩,
    ⟨"SYSLOGTIMESTAMP",
      "%\x7bMONTH\x7d +%\x7bMONTHDAY\x7d %\x7bTIME\x7d"⟩,
    ⟨"PROG",
      "[\\x21-\\x5a\\x5c\\x5e-\\x7e]+"⟩,
    ⟨"SYSLOGPROG",
      "%\x7bPROG:program\x7d(?:\\[%\x7bPOSINT:pid\x7d\\])?"⟩,
    ⟨"SYSLOGHOST",
      "%\x7bIPORHOST\x7d"⟩,
    ⟨"SYSLOGFACILITY",
      "<%\x7bNONNEGINT:facility\x7d.%\x7bNONNEGINT:priority\x7d>"⟩,
    ⟨"HTTPDATE",
      "%\x7bMONTHDAY\x7d/%\x7bMONTH\x7d/%\x7bYEAR\x7d:%\x7bTIME\x7d %\x7bINT\x7d"⟩,
    ⟨"QS",
      "%\x7bQUOTEDSTRING\x7d"⟩,
    ⟨"SYSLOGBASE",
      "%\x7bSYSLOGTIMESTAMP:timestamp\x7d (?:%\x7bSYSLOGFACILITY\x7d )?%\x7bSYSLOGHOST:logsource\x7d %\x7bSYSLOGPROG\x7d:"⟩,
    ⟨"LOGLEVEL",
      "([Aa]lert|ALERT|[Tt]race|TRACE|[Dd]ebug|DEBUG|[Nn]otice|NOTICE|[Ii]nfo?(?:rmation)?|INFO?(?:RMATION)?|[Ww]arn?(?:ing)?|WARN?(?:ING)?|[Ee]rr?(?:or)?|ERR?(?:OR)?|[Cc]rit?(?:ical)?|CRIT?(?:ICAL)?|[Ff]atal|FATAL|[Ss]evere|SEVERE|EMERG(?:ENCY)?|[Ee]merg(?:ency)?)"⟩
  ]

end Grok.BuiltIn
