import Grok.Library.Basic

namespace Grok.BuiltIn

/-!
# Definitions for web servers and proxies

The lines written by load balancers, storage services, proxies and web servers.
-/

/-- Definitions for storage and load balancing services, in the order in which they are loaded. -/
def cloudServices : List Definition :=
  [
    ⟨"S3_REQUEST_LINE",
      "(?:%\x7bWORD:verb\x7d %\x7bNOTSPACE:request\x7d(?: HTTP/%\x7bNUMBER:httpversion\x7d)?|%\x7bDATA:rawrequest\x7d)"⟩,
    ⟨"S3_ACCESS_LOG",
      "%\x7bWORD:owner\x7d %\x7bNOTSPACE:bucket\x7d \\[%\x7bHTTPDATE:timestamp\x7d\\] %\x7bIP:clientip\x7d %\x7bNOTSPACE:requester\x7d %\x7bNOTSPACE:request_id\x7d %\x7bNOTSPACE:operation\x7d %\x7bNOTSPACE:key\x7d (?:\"%\x7bS3_REQUEST_LINE\x7d\"|-) (?:%\x7bINT:response:int\x7d|-) (?:-|%\x7bNOTSPACE:error_code\x7d) (?:%\x7bINT:bytes:int\x7d|-) (?:%\x7bINT:object_size:int\x7d|-) (?:%\x7bINT:request_time_ms:int\x7d|-) (?:%\x7bINT:turnaround_time_ms:int\x7d|-) (?:%\x7bQS:referrer\x7d|-) (?:\"?%\x7bQS:agent\x7d\"?|-) (?:-|%\x7bNOTSPACE:version_id\x7d)"⟩,
    ⟨"ELB_URIPATHPARAM",
      "%\x7bURIPATH:path\x7d(?:%\x7bURIPARAM:params\x7d)?"⟩,
    ⟨"ELB_URI",
      "%\x7bURIPROTO:proto\x7d://(?:%\x7bUSER\x7d(?::[^@]*)?@)?(?:%\x7bURIHOST:urihost\x7d)?(?:%\x7bELB_URIPATHPARAM\x7d)?"⟩,
    ⟨"ELB_REQUEST_LINE",
      "(?:%\x7bWORD:verb\x7d %\x7bELB_URI:request\x7d(?: HTTP/%\x7bNUMBER:httpversion\x7d)?|%\x7bDATA:rawrequest\x7d)"⟩,
    ⟨"ELB_ACCESS_LOG",
      "%\x7bTIMESTAMP_ISO8601:timestamp\x7d %\x7bNOTSPACE:elb\x7d %\x7bIP:clientip\x7d:%\x7bINT:clientport:int\x7d (?:(%\x7bIP:backendip\x7d:?:%\x7bINT:backendport:int\x7d)|-) %\x7bNUMBER:request_processing_time:float\x7d %\x7bNUMBER:backend_processing_time:float\x7d %\x7bNUMBER:response_processing_time:float\x7d %\x7bINT:response:int\x7d %\x7bINT:backend_response:int\x7d %\x7bINT:received_bytes:int\x7d %\x7bINT:bytes:int\x7d \"%\x7bELB_REQUEST_LINE\x7d\""⟩,
    ⟨"CLOUDFRONT_ACCESS_LOG",
      "(?<timestamp>%\x7bYEAR\x7d-%\x7bMONTHNUM\x7d-%\x7bMONTHDAY\x7d\\t%\x7bTIME\x7d)\\t%\x7bWORD:x_edge_location\x7d\\t(?:%\x7bNUMBER:sc_bytes:int\x7d|-)\\t%\x7bIPORHOST:clientip\x7d\\t%\x7bWORD:cs_method\x7d\\t%\x7bHOSTNAME:cs_host\x7d\\t%\x7bNOTSPACE:cs_uri_stem\x7d\\t%\x7bNUMBER:sc_status:int\x7d\\t%\x7bGREEDYDATA:referrer\x7d\\t%\x7bGREEDYDATA:agent\x7d\\t%\x7bGREEDYDATA:cs_uri_query\x7d\\t%\x7bGREEDYDATA:cookies\x7d\\t%\x7bWORD:x_edge_result_type\x7d\\t%\x7bNOTSPACE:x_edge_request_id\x7d\\t%\x7bHOSTNAME:x_host_header\x7d\\t%\x7bURIPROTO:cs_protocol\x7d\\t%\x7bINT:cs_bytes:int\x7d\\t%\x7bGREEDYDATA:time_taken:float\x7d\\t%\x7bGREEDYDATA:x_forwarded_for\x7d\\t%\x7bGREEDYDATA:ssl_protocol\x7d\\t%\x7bGREEDYDATA:ssl_cipher\x7d\\t%\x7bGREEDYDATA:x_edge_response_result_type\x7d"⟩
  ]

/-- Definitions for a load balancer, in the order in which they are loaded. -/
def loadBalancer : List Definition :=
  [
    ⟨"HAPROXYTIME",
      "(?!<[0-9])%\x7bHOUR:haproxy_hour\x7d:%\x7bMINUTE:haproxy_minute\x7d(?::%\x7bSECOND:haproxy_second\x7d)(?![0-9])"⟩,
    ⟨"HAPROXYDATE",
      "%\x7bMONTHDAY:haproxy_monthday\x7d/%\x7bMONTH:haproxy_month\x7d/%\x7bYEAR:haproxy_year\x7d:%\x7bHAPROXYTIME:haproxy_time\x7d.%\x7bINT:haproxy_milliseconds\x7d"⟩,
    ⟨"HAPROXYCAPTUREDREQUESTHEADERS",
      "%\x7bDATA:captured_request_headers\x7d"⟩,
    ⟨"HAPROXYCAPTUREDRESPONSEHEADERS",
      "%\x7bDATA:captured_response_headers\x7d"⟩,
    ⟨"HAPROXYHTTPBASE",
      "%\x7bIP:client_ip\x7d:%\x7bINT:client_port\x7d \\[%\x7bHAPROXYDATE:accept_date\x7d\\] %\x7bNOTSPACE:frontend_name\x7d %\x7bNOTSPACE:backend_name\x7d/%\x7bNOTSPACE:server_name\x7d %\x7bINT:time_request\x7d/%\x7bINT:time_queue\x7d/%\x7bINT:time_backend_connect\x7d/%\x7bINT:time_backend_response\x7d/%\x7bNOTSPACE:time_duration\x7d %\x7bINT:http_status_code\x7d %\x7bNOTSPACE:bytes_read\x7d %\x7bDATA:captured_request_cookie\x7d %\x7bDATA:captured_response_cookie\x7d %\x7bNOTSPACE:termination_state\x7d %\x7bINT:actconn\x7d/%\x7bINT:feconn\x7d/%\x7bINT:beconn\x7d/%\x7bINT:srvconn\x7d/%\x7bNOTSPACE:retries\x7d %\x7bINT:srv_queue\x7d/%\x7bINT:backend_queue\x7d (\\\x7b%\x7bHAPROXYCAPTUREDREQUESTHEADERS\x7d\\\x7d)?( )?(\\\x7b%\x7bHAPROXYCAPTUREDRESPONSEHEADERS\x7d\\\x7d)?( )?\"(<BADREQ>|(%\x7bWORD:http_verb\x7d (%\x7bURIPROTO:http_proto\x7d://)?(?:%\x7bUSER:http_user\x7d(?::[^@]*)?@)?(?:%\x7bURIHOST:http_host\x7d)?(?:%\x7bURIPATHPARAM:http_request\x7d)?( HTTP/%\x7bNUMBER:http_version\x7d)?))?\""⟩,
    ⟨"HAPROXYHTTP",
      "(?:%\x7bSYSLOGTIMESTAMP:syslog_timestamp\x7d|%\x7bTIMESTAMP_ISO8601:timestamp8601\x7d) %\x7bIPORHOST:syslog_server\x7d %\x7bSYSLOGPROG\x7d: %\x7bHAPROXYHTTPBASE\x7d"⟩,
    ⟨"HAPROXYTCP",
      "(?:%\x7bSYSLOGTIMESTAMP:syslog_timestamp\x7d|%\x7bTIMESTAMP_ISO8601:timestamp8601\x7d) %\x7bIPORHOST:syslog_server\x7d %\x7bSYSLOGPROG\x7d: %\x7bIP:client_ip\x7d:%\x7bINT:client_port\x7d \\[%\x7bHAPROXYDATE:accept_date\x7d\\] %\x7bNOTSPACE:frontend_name\x7d %\x7bNOTSPACE:backend_name\x7d/%\x7bNOTSPACE:server_name\x7d %\x7bINT:time_queue\x7d/%\x7bINT:time_backend_connect\x7d/%\x7bNOTSPACE:time_duration\x7d %\x7bNOTSPACE:bytes_read\x7d %\x7bNOTSPACE:termination_state\x7d %\x7bINT:actconn\x7d/%\x7bINT:feconn\x7d/%\x7bINT:beconn\x7d/%\x7bINT:srvconn\x7d/%\x7bNOTSPACE:retries\x7d %\x7bINT:srv_queue\x7d/%\x7bINT:backend_queue\x7d"⟩
  ]

/-- Definitions for a web server, in the order in which they are loaded. -/
def webServer : List Definition :=
  [
    ⟨"HTTPDUSER",
      "%\x7bEMAILADDRESS\x7d|%\x7bUSER\x7d"⟩,
    ⟨"HTTPDERROR_DATE",
      "%\x7bDAY\x7d %\x7bMONTH\x7d %\x7bMONTHDAY\x7d %\x7bTIME\x7d %\x7bYEAR\x7d"⟩,
    ⟨"HTTPD_COMMONLOG",
      "%\x7bIPORHOST:clientip\x7d %\x7bHTTPDUSER:ident\x7d %\x7bHTTPDUSER:auth\x7d \\[%\x7bHTTPDATE:timestamp\x7d\\] \"(?:%\x7bWORD:verb\x7d %\x7bNOTSPACE:request\x7d(?: HTTP/%\x7bNUMBER:httpversion\x7d)?|%\x7bDATA:rawrequest\x7d)\" (?:-|%\x7bNUMBER:response\x7d) (?:-|%\x7bNUMBER:bytes\x7d)"⟩,
    ⟨"HTTPD_COMBINEDLOG",
      "%\x7bHTTPD_COMMONLOG\x7d %\x7bQS:referrer\x7d %\x7bQS:agent\x7d"⟩,
    ⟨"HTTPD20_ERRORLOG",
      "\\[%\x7bHTTPDERROR_DATE:timestamp\x7d\\] \\[%\x7bLOGLEVEL:loglevel\x7d\\] (?:\\[client %\x7bIPORHOST:clientip\x7d\\] )\x7b0,1\x7d%\x7bGREEDYDATA:message\x7d"⟩,
    ⟨"HTTPD24_ERRORLOG",
      "\\[%\x7bHTTPDERROR_DATE:timestamp\x7d\\] \\[%\x7bWORD:module\x7d:%\x7bLOGLEVEL:loglevel\x7d\\] \\[pid %\x7bPOSINT:pid\x7d(:tid %\x7bNUMBER:tid\x7d)?\\]( \\(%\x7bPOSINT:proxy_errorcode\x7d\\)%\x7bDATA:proxy_message\x7d:)?( \\[client %\x7bIPORHOST:clientip\x7d:%\x7bPOSINT:clientport\x7d\\])?( %\x7bDATA:errorcode\x7d:)? %\x7bGREEDYDATA:message\x7d"⟩,
    ⟨"HTTPD_ERRORLOG",
      "%\x7bHTTPD20_ERRORLOG\x7d|%\x7bHTTPD24_ERRORLOG\x7d"⟩,
    ⟨"COMMONAPACHELOG",
      "%\x7bHTTPD_COMMONLOG\x7d"⟩,
    ⟨"COMBINEDAPACHELOG",
      "%\x7bHTTPD_COMBINEDLOG\x7d"⟩
  ]

/-- Definitions for a caching proxy, in the order in which they are loaded. -/
def proxy : List Definition :=
  [
    ⟨"SQUID3",
      "%\x7bNUMBER:timestamp\x7d\\s+%\x7bNUMBER:duration\x7d\\s%\x7bIP:client_address\x7d\\s%\x7bWORD:cache_result\x7d/%\x7bPOSINT:status_code\x7d\\s%\x7bNUMBER:bytes\x7d\\s%\x7bWORD:request_method\x7d\\s%\x7bNOTSPACE:url\x7d\\s(%\x7bNOTSPACE:user\x7d|-)\\s%\x7bWORD:hierarchy_code\x7d/%\x7bIPORHOST:server\x7d\\s%\x7bNOTSPACE:content_type\x7d"⟩
  ]

end Grok.BuiltIn
