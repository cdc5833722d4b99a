import SqlWire.Parameter.Argument
import SqlWire.Value.Basic
import SqlWire.WireType

/-!
# Errors

An error is its cause. Causes are grouped by topic, `kind` names the group a caller distinguishes,
and `message` is the sentence a user reads: the words of the group and then those of the cause.
-/
namespace SqlWire

/-- An operation of the byte transport. -/
inductive Operation where
  /-- Sending bytes. -/
  | write
  /-- Pushing sent bytes out. -/
  | flush
  /-- Receiving bytes. -/
  | read
  /-- Ending the exchange. -/
  | shutdown
  deriving DecidableEq, Repr

/-- The word for an operation. -/
def Operation.name : Operation → String
  | .write => "write"
  | .flush => "flush"
  | .read => "read"
  | .shutdown => "shutdown"

/-- Why a session is refused or unusable. -/
inductive ConnectionFault where
  /-- A request was begun on the stream and never completed. -/
  | unusable
  /-- The scramble does not begin with the key sent by the client. -/
  | clientKeyMismatch
  /-- The signature of the server does not prove knowledge of the password. -/
  | signatureMismatch
  /-- The server answered the login with an error. -/
  | refused (code : UInt32) (message : String)
  /-- The server announced a character set that is not supported. -/
  | unknownCharset (flag : UInt32)
  /-- A sentence given by the caller. -/
  | stated (sentence : String)
  deriving DecidableEq

/-- What is malformed or does not match. -/
inductive ProtocolFault where
  /-- A frame announced a length below that of its own header. -/
  | shortFrame (size : Nat)
  /-- A value has the wrong number of bytes for its type. -/
  | valueWidth (type : WireType) (expected actual : Nat)
  /-- The class region is too small for the columns. -/
  | classRegion (size columns : Nat)
  /-- The server described another number of outputs than were declared. -/
  | outputCount (declared described : Nat)
  /-- An error message is announced longer than the payload. -/
  | messageLength (announced remaining : Nat)
  /-- The result of a statement is of no known kind. -/
  | resultKind (kind : UInt8)
  /-- A query answered without rows. -/
  | noRows
  /-- A sentence given by the caller. -/
  | stated (sentence : String)
  deriving DecidableEq

/-- What does not fit its type. -/
inductive TypeFault where
  /-- No type has this code. -/
  | unknownCode (code : UInt8)
  /-- A text is not a number that the type allows. -/
  | invalidText (text : String) (type : WireType)
  /-- Arguments of this kind cannot be sent under the type. -/
  | cannotBind (argument : Argument) (type : WireType)
  /-- A whole number is out of the range of its target. -/
  | doesNotFit (value : Int64) (target : String)
  /-- The type cannot be sent. -/
  | notForInput (type : WireType)
  /-- No timestamp has this number. -/
  | dateTimeRange (micros : Int64)
  /-- No time of day has this number. -/
  | timeRange (micros : Int64)
  /-- The value is not of a kind that converts to the target. -/
  | cannotConvert (value : Value) (target : String)
  /-- A sentence given by the caller. -/
  | stated (sentence : String)
  deriving DecidableEq

/-- What is wrong with a position or a name. -/
inductive ParameterFault where
  /-- There is no parameter with this ordinal. -/
  | ordinalRange (ordinal count : Nat)
  /-- The parameter has neither a value nor an output declaration. -/
  | unbound (ordinal : Nat)
  /-- The parameter is not an output. -/
  | notOutput (ordinal : Nat)
  /-- No output has this name. -/
  | noOutput (name : String)
  /-- There is no column with this index. -/
  | columnRange (index count : Nat)
  /-- No column has this name. -/
  | noColumn (name : String)
  /-- There are more parameters than a request can carry. -/
  | tooMany (count : Nat)
  /-- A sentence given by the caller. -/
  | stated (sentence : String)
  deriving DecidableEq

/-- What a connect string lacks. -/
inductive ConnectStringFault where
  /-- The address. -/
  | noAddress
  /-- The password. -/
  | noPassword
  /-- The name of the user. -/
  | emptyUser
  /-- A port that is a number. -/
  | invalidPort (text : String)
  /-- The name of the host. -/
  | emptyHost
  /-- A sentence given by the caller. -/
  | stated (sentence : String)
  deriving DecidableEq

/-- The cause of a failure. -/
inductive Error where
  /-- An operation of the transport failed. -/
  | transport (operation : Operation)
  /-- The session is refused or unusable. -/
  | connection (fault : ConnectionFault)
  /-- The login failed for a cause that is not about connections. -/
  | login (cause : Error)
  /-- Bytes are malformed or do not match. -/
  | protocol (fault : ProtocolFault)
  /-- Something does not fit its type. -/
  | type (fault : TypeFault)
  /-- A position or name is wrong. -/
  | parameter (fault : ParameterFault)
  /-- Fetching more rows failed. -/
  | retrieval (context : String) (cause : Error)
  /-- The server answered with an error. -/
  | server (code : UInt32) (message : String)
  /-- The peer ended the stream. -/
  | closed
  /-- Fewer bytes are left than a read needs. -/
  | tooShort (needed available : Nat)
  /-- No connection came about in time; the limit is in milliseconds. -/
  | timeout (host : String) (port : UInt16) (limit : Nat)
  /-- The connect string is not of the expected form. -/
  | connectString (fault : ConnectStringFault)
  deriving DecidableEq

/-- The groups of errors that callers tell apart. -/
inductive ErrorKind where
  /-- The transport failed. -/
  | transport
  /-- The session is refused or unusable. -/
  | connection
  /-- Bytes are malformed. -/
  | protocol
  /-- Something does not fit its type. -/
  | type
  /-- A position or name is wrong. -/
  | parameter
  /-- Fetching rows failed. -/
  | retrieval
  /-- The server reported an error. -/
  | server
  /-- The peer ended the stream. -/
  | closed
  /-- Fewer bytes are left than needed. -/
  | tooShort
  /-- Connecting took too long. -/
  | timeout
  /-- The connect string is malformed. -/
  | connectString
  deriving DecidableEq, Repr

namespace Error

/-- The group of an error. A failed login is an error of the connection. -/
def kind : Error → ErrorKind
  | .transport _ => .transport
  | .connection _ | .login _ => .connection
  | .protocol _ => .protocol
  | .type _ => .type
  | .parameter _ => .parameter
  | .retrieval _ _ => .retrieval
  | .server _ _ => .server
  | .closed => .closed
  | .tooShort _ _ => .tooShort
  | .timeout _ _ _ => .timeout
  | .connectString _ => .connectString

/-- Whether the error is about the connection itself. -/
def isConnection (error : Error) : Bool := error.kind == .connection

end Error

/-- The words of a cause. -/
def ConnectionFault.sentence : ConnectionFault → String
  | .unusable => "connection is unusable: an earlier request did not complete"
  | .clientKeyMismatch => "client key mismatch in server scramble"
  | .signatureMismatch => "server signing key verification failed"
  | .refused code message => "server error " ++ toString code.toNat ++ ": " ++ message
  | .unknownCharset flag =>
    "server charset error, the charset can only be UTF-8 and GBK (flag " ++
      toString flag.toNat ++ ")"
  | .stated sentence => sentence

/-- The words of a cause. -/
def ProtocolFault.sentence : ProtocolFault → String
  | .shortFrame size => "packet length " ++ toString size ++ " is shorter than the header"
  | .valueWidth type expected actual =>
    type.name ++ " value must be " ++ toString expected ++ " bytes, got " ++ toString actual
  | .classRegion size columns =>
    "class region of " ++ toString size ++ " bytes cannot describe " ++ toString columns ++
      " columns"
  | .outputCount declared described =>
    "expected " ++ toString declared ++ " out parameters but the server described " ++
      toString described
  | .messageLength announced remaining =>
    "error message length " ++ toString announced ++ " exceeds the " ++ toString remaining ++
      " bytes remaining"
  | .resultKind kind => "unknown execute result kind " ++ toString kind.toNat
  | .noRows => "statement did not return rows"
  | .stated sentence => sentence

/-- The words of a cause. -/
def TypeFault.sentence : TypeFault → String
  | .unknownCode code => "unknown wire type code " ++ toString code.toNat
  | .invalidText text type => "'" ++ text ++ "' is not a valid " ++ type.name ++ " value"
  | .cannotBind argument type =>
    "cannot bind a " ++ argument.kind ++ " value as " ++ type.name
  | .doesNotFit value target => toString value.toInt ++ " does not fit in " ++ target
  | .notForInput type => "type " ++ type.name ++ " is not supported for input parameters"
  | .dateTimeRange micros => "datetime out of range: " ++ toString micros.toInt ++ " us"
  | .timeRange micros => "time out of range: " ++ toString micros.toInt ++ " us"
  | .cannotConvert value target => "cannot convert " ++ value.detail ++ " to " ++ target
  | .stated sentence => sentence

/-- The words of a cause. -/
def ParameterFault.sentence : ParameterFault → String
  | .ordinalRange ordinal count =>
    "parameter index " ++ toString ordinal ++ " is out of range (1..=" ++ toString count ++ ")"
  | .unbound ordinal => "no value specified for parameter " ++ toString ordinal
  | .notOutput ordinal => "parameter " ++ toString ordinal ++ " is not an output"
  | .noOutput name => "no output parameter named " ++ name
  | .columnRange index count =>
    "column index " ++ toString index ++ " out of range (row has " ++ toString count ++
      " columns)"
  | .noColumn name => "no column named " ++ name
  | .tooMany count => "too many parameters: " ++ toString count
  | .stated sentence => sentence

/-- The words of a cause. -/
def ConnectStringFault.sentence : ConnectStringFault → String
  | .noAddress => "Expected format: user/password@host:port"
  | .noPassword => "Missing password: expected user/password"
  | .emptyUser => "Empty user name"
  | .invalidPort text => "Invalid port: " ++ text
  | .emptyHost => "Empty host"
  | .stated sentence => sentence

/-- A time limit: milliseconds below one second, and seconds with the digits that are needed
from there on. -/
def limitText (millis : Nat) : String :=
  if millis = 0 then "0ns"
  else if millis < 1000 then toString millis ++ "ms"
  else
    let digits := ((Number.padded 3 (millis % 1000)).reverse.dropWhile (· == '0')).reverse
    let fraction := if digits.isEmpty then [] else '.' :: digits
    toString (millis / 1000) ++ String.ofList fraction ++ "s"

namespace Error

/-- The sentence that a user reads. -/
def message : Error → String
  | .transport operation => "I/O error: injected " ++ operation.name ++ " failure"
  | .connection fault => "Connection error: " ++ fault.sentence
  | .login cause => "Connection error: handshake and authentication failed: " ++ cause.message
  | .protocol fault => "Protocol error: " ++ fault.sentence
  | .type fault => "Type error: " ++ fault.sentence
  | .parameter fault => "Parameter error: " ++ fault.sentence
  | .retrieval context _ => "Retrieval error: " ++ context
  | .server code message => "Server error " ++ toString code.toNat ++ ": " ++ message
  | .closed => "Connection closed"
  | .tooShort needed available =>
    "Buffer too small: need " ++ toString needed ++ " bytes, have " ++ toString available
  | .timeout host port limit =>
    "Connection to " ++ host ++ ":" ++ toString port.toNat ++ " timed out after " ++
      limitText limit
  | .connectString fault => "Invalid connect string: " ++ fault.sentence

end Error
end SqlWire
