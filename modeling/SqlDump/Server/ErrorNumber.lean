import SqlDump.Number.Numeral

/-!
# Error numbers of the client library

Faults that arise on this side of the wire have error numbers of their own, from
2000 on, and each of them has a wording. A wording is a template: what it would
be filled in with is known only where the fault arises. Numbers of the server
have no wording here, because the server sends one.

The wordings are no texts of this library: they are the English ones of
`mysql.connector`, the client library, and are here for the faults that have no
text of their own.
-/

namespace SqlDump.Server

namespace ErrorNumber

/-- The first number of the client library. -/
def first : Int := 2000

/-- The first number above those that are the client library's. -/
def bound : Int := 3000

/-- Whether a number is the client library's own. -/
def isOwn (number : Int) : Bool :=
  first ≤ number ∧ number < bound

/-- What shared memory connections that cannot be opened are said to lack. -/
def sharedMemory (missing : String) : String :=
  "Can't open shared memory; " ++ missing

/-- The wordings of the numbers, in the order of the numbers, as the English locale of
`mysql.connector` has them. -/
def wordings : List String :=
  ["Unknown MySQL error",
    "Can't create UNIX socket (%s)",
    "Can't connect to local MySQL server through socket '%-.100s' (%s)",
    "Can't connect to MySQL server on '%-.100s:%u' (%s)",
    "Can't create TCP/IP socket (%s)",
    "Unknown MySQL server host '%-.100s' (%s)",
    "MySQL server has gone away",
    "Protocol mismatch; server version = %s, client version = %s",
    "MySQL client ran out of memory",
    "Wrong host info",
    "Localhost via UNIX socket",
    "%-.100s via TCP/IP",
    "Error in server handshake",
    "Lost connection to MySQL server during query",
    "Commands out of sync; you can't run this command now",
    "Named pipe: %-.32s",
    "Can't wait for named pipe to host: %-.64s  pipe: %-.32s (%s)",
    "Can't open named pipe to host: %-.64s  pipe: %-.32s (%s)",
    "Can't set state of named pipe to host: %-.64s  pipe: %-.32s (%s)",
    "Can't initialize character set %-.32s (path: %-.100s)",
    "Got packet bigger than 'max_allowed_packet' bytes",
    "Embedded server",
    "Error on SHOW SLAVE STATUS:",
    "Error on SHOW SLAVE HOSTS:",
    "Error connecting to slave:",
    "Error connecting to master:",
    "SSL connection error: %-.100s",
    "Malformed packet",
    "This client library is licensed only for use with MySQL servers having '%s' license",
    "Invalid use of null pointer",
    "Statement not prepared",
    "No data supplied for parameters in prepared statement",
    "Data truncated",
    "No parameters exist in the statement",
    "Invalid parameter number",
    "Can't send long data for non-string/non-binary data types (parameter: %s)",
    "Using unsupported buffer type: %s  (parameter: %s)",
    "Shared memory: %-.100s",
    sharedMemory "client could not create request event (%s)",
    sharedMemory "no answer event received from server (%s)",
    sharedMemory "server could not allocate file mapping (%s)",
    sharedMemory "server could not get pointer to file mapping (%s)",
    sharedMemory "client could not allocate file mapping (%s)",
    sharedMemory "client could not get pointer to file mapping (%s)",
    sharedMemory "client could not create %s event (%s)",
    sharedMemory "no answer from server (%s)",
    sharedMemory "cannot send request event to server (%s)",
    "Wrong or unknown protocol",
    "Invalid connection handle",
    "Connection using old (pre-4.1.1) authentication protocol refused " ++
      "(client option 'secure_auth' enabled)",
    "Row retrieval was canceled by mysql_stmt_close() call",
    "Attempt to read column without prior row fetch",
    "Prepared statement contains no metadata",
    "Attempt to read a row while there is no result set associated with the statement",
    "This feature is not implemented yet",
    "Lost connection to MySQL server at '%s', system error: %s",
    "Statement closed indirectly because of a preceding %s() call",
    "The number of columns in the result set differs from the number of bound buffers. You must " ++
      "reset the statement, rebind the result set columns, and execute the statement again",
    "This handle is already connected. Use a separate handle for each connection.",
    "Authentication plugin '%s' cannot be loaded: %s",
    "There is an attribute with the same name already",
    "Authentication plugin '%s' reported error: %s",
    "Insecure API function call: '%s' Use instead: '%s'",
    "File name is too long",
    "Set FIPS mode ON/STRICT failed",
    "Compression protocol not supported with asynchronous protocol",
    "Connection failed due to wrongly configured compression algorithm",
    "SSO user not found, Please perform SSO authentication using kerberos.",
    "LOAD DATA LOCAL INFILE file request rejected due to restrictions on access.",
    "Determining the real path for '%s' failed with error (%s): %s",
    "DNS SRV lookup failed with error : %s",
    "Client does not recognise tracker type %s marked as mandatory by server.",
    "Invalid first argument for MYSQL_OPT_USER_PASSWORD option. Valid value should be between 1 " ++
      "and 3 inclusive."]

def wording? (number : Int) : Option String :=
  if isOwn number then wordings[(number - first).toNat]? else none

/-- What is said about a number that has no wording although it is the client
library's own. -/
def noWording : Text :=
  text "error argument needs to be either an integer or string"

end ErrorNumber

end SqlDump.Server
