import Grok.Library.Basic

namespace Grok.BuiltIn

/-!
# Definitions for system services

The lines written by the system log and by data stores.
-/

/-- Definitions for the system log, in the order in which they are loaded. -/
def systemLog : List Definition :=
  [
    ⟨"SYSLOG5424PRINTASCII",
      "[!-~]+"⟩,
    ⟨"SYSLOGBASE2",
      "(?:%\x7bSYSLOGTIMESTAMP:timestamp\x7d|%\x7bTIMESTAMP_ISO8601:timestamp8601\x7d) (?:%\x7bSYSLOGFACILITY\x7d )?%\x7bSYSLOGHOST:logsource\x7d+(?: %\x7bSYSLOGPROG\x7d:|)"⟩,
    ⟨"SYSLOGPAMSESSION",
      "%\x7bSYSLOGBASE\x7d (?=%\x7bGREEDYDATA:message\x7d)%\x7bWORD:pam_module\x7d\\(%\x7bDATA:pam_caller\x7d\\): session %\x7bWORD:pam_session_state\x7d for user %\x7bUSERNAME:username\x7d(?: by %\x7bGREEDYDATA:pam_by\x7d)?"⟩,
    ⟨"CRON_ACTION",
      "[A-Z ]+"⟩,
    ⟨"CRONLOG",
      "%\x7bSYSLOGBASE\x7d \\(%\x7bUSER:user\x7d\\) %\x7bCRON_ACTION:action\x7d \\(%\x7bDATA:message\x7d\\)"⟩,
    ⟨"SYSLOGLINE",
      "%\x7bSYSLOGBASE2\x7d %\x7bGREEDYDATA:message\x7d"⟩,
    ⟨"SYSLOG5424PRI",
      "<%\x7bNONNEGINT:syslog5424_pri\x7d>"⟩,
    ⟨"SYSLOG5424SD",
      "\\[%\x7bDATA\x7d\\]+"⟩,
    ⟨"SYSLOG5424BASE",
      "%\x7bSYSLOG5424PRI\x7d%\x7bNONNEGINT:syslog5424_ver\x7d +(?:%\x7bTIMESTAMP_ISO8601:syslog5424_ts\x7d|-) +(?:%\x7bIPORHOST:syslog5424_host\x7d|-) +(-|%\x7bSYSLOG5424PRINTASCII:syslog5424_app\x7d) +(-|%\x7bSYSLOG5424PRINTASCII:syslog5424_proc\x7d) +(-|%\x7bSYSLOG5424PRINTASCII:syslog5424_msgid\x7d) +(?:%\x7bSYSLOG5424SD:syslog5424_sd\x7d|-|)"⟩,
    ⟨"SYSLOG5424LINE",
      "%\x7bSYSLOG5424BASE\x7d +%\x7bGREEDYDATA:syslog5424_msg\x7d"⟩
  ]

/-- Definitions for a relational data store, in the order in which they are loaded. -/
def relationalStore : List Definition :=
  [
    ⟨"POSTGRESQL",
      "%\x7bDATESTAMP:timestamp\x7d %\x7bTZ\x7d %\x7bDATA:user_id\x7d %\x7bGREEDYDATA:connection_id\x7d %\x7bPOSINT:pid\x7d"⟩
  ]

/-- Definitions for a key-value store, in the order in which they are loaded. -/
def keyValueStore : List Definition :=
  [
    ⟨"REDISTIMESTAMP",
      "%\x7bMONTHDAY\x7d %\x7bMONTH\x7d %\x7bTIME\x7d"⟩,
    ⟨"REDISLOG",
      "\\[%\x7bPOSINT:pid\x7d\\] %\x7bREDISTIMESTAMP:timestamp\x7d \\*"⟩,
    ⟨"REDISMONLOG",
      "%\x7bNUMBER:timestamp\x7d \\[%\x7bINT:database\x7d %\x7bIP:client\x7d:%\x7bNUMBER:port\x7d\\] \"%\x7bWORD:command\x7d\"\\s?%\x7bGREEDYDATA:params\x7d"⟩
  ]

end Grok.BuiltIn
