import SqlWire.Error
import SqlWire.Text.Quoted

/-!
# Connect parameters

What a client must know to log in: where the server is, who the user is, and a few settings. They
can be read from one string: the last at sign ends the credentials, the first slash of these ends
the user name, and the last colon of the address begins the port. The password never shows in
diagnostics.
-/
namespace SqlWire

/-- What a client must know to log in. -/
structure ConnectParams where
  /-- Name of the server. -/
  host : String
  /-- Port of the server. -/
  port : UInt16
  /-- Name of the user. -/
  user : String
  /-- Password of the user. -/
  password : String
  /-- Tenant of the user, on servers that have several. -/
  tenant : Option String
  /-- Rows to fetch at a time. -/
  fetchSize : UInt32
  /-- Milliseconds to wait for a connection. -/
  timeout : Nat
  deriving DecidableEq

namespace ConnectParams

/-- The port when none is given. -/
def defaultPort : UInt16 := 1611

/-- Rows to fetch at a time when no number is given. -/
def defaultFetchSize : UInt32 := 100

/-- Milliseconds to wait when no limit is given. -/
def defaultTimeout : Nat := 20000

/-- Parameters with the default settings. -/
def ofAddress (host : String) (port : UInt16) (user password : String) : ConnectParams :=
  ⟨host, port, user, password, none, defaultFetchSize, defaultTimeout⟩

/-- The parameters with a tenant. -/
def withTenant (params : ConnectParams) (tenant : String) : ConnectParams :=
  { params with tenant := some tenant }

/-- The parameters with a number of rows to fetch at a time; zero asks for the default. -/
def withFetchSize (params : ConnectParams) (fetchSize : UInt32) : ConnectParams :=
  { params with fetchSize := if fetchSize = 0 then defaultFetchSize else fetchSize }

/-- The parameters with a time limit. -/
def withTimeout (params : ConnectParams) (timeout : Nat) : ConnectParams := { params with timeout }

/-- A list cut at the first of a separator, if it has one. -/
def splitFirst (separator : Char) : List Char → Option (List Char × List Char)
  | [] => none
  | c :: rest =>
    if c = separator then some ([], rest)
    else (splitFirst separator rest).map fun parts => (c :: parts.1, parts.2)

/-- A list cut at the last of a separator, if it has one. -/
def splitLast (separator : Char) (chars : List Char) : Option (List Char × List Char) :=
  (splitFirst separator chars.reverse).map fun parts => (parts.2.reverse, parts.1.reverse)

/-- Host and port of an address. -/
def parseAddress (address : List Char) : Except Error (String × UInt16) :=
  match splitLast ':' address with
  | none => .ok (String.ofList address, defaultPort)
  | some (host, digits) =>
    match Number.uint16? (String.ofList digits) with
    | some port => .ok (String.ofList host, port)
    | none => .error (.connectString (.invalidPort (String.ofList digits)))

/-- The parameters that a string gives. -/
def parse (text : String) : Except Error ConnectParams :=
  match splitLast '@' text.toList with
  | none => .error (.connectString .noAddress)
  | some (credentials, address) =>
    match splitFirst '/' credentials with
    | none => .error (.connectString .noPassword)
    | some (user, password) =>
      if user.isEmpty then .error (.connectString .emptyUser)
      else do
        let (host, port) ← parseAddress address
        if host.isEmpty then .error (.connectString .emptyHost)
        else .ok (ofAddress host port (String.ofList user) (String.ofList password))

/-- What diagnostics show. -/
def detail (params : ConnectParams) : String :=
  let tenant := match params.tenant with
    | none => "None"
    | some tenant => Text.tagged "Some" (Text.quote tenant)
  Text.record "ConnectParams"
    [("host", Text.quote params.host), ("port", toString params.port.toNat),
      ("username", Text.quote params.user), ("password", Text.quote "<redacted>"),
      ("tenant", tenant), ("fetch_size", toString params.fetchSize.toNat),
      ("connect_timeout", limitText params.timeout)]

end ConnectParams
end SqlWire
