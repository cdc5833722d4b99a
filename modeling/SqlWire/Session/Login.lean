import SqlWire.Channel
import SqlWire.Session.ConnectParams
import SqlWire.Session.PasswordDigest

/-!
# Logging in

A session begins in four exchanges: a prelude outside any frame, in which the server announces byte
order and version; a handshake; the announcement of the user, answered by a scramble; and the proof
of the password, answered by the signature of the server. The proof is sent only to a server that
returned the client's key at the front of its scramble, and the session is accepted only if the
signature is right.
-/
namespace SqlWire

/-- A session that was accepted by both sides. -/
structure Session where
  /-- Protocol version from the prelude. -/
  protocolVersion : UInt8
  /-- Version of the server. -/
  serverVersion : UInt32
  /-- Byte order from the prelude. -/
  order : ByteOrder
  /-- Character set of text. -/
  charset : Charset
  /-- What the server announced as its capacity. -/
  capacity : UInt32
  /-- Number of the session. -/
  sessionId : UInt32
  /-- Second number of the session. -/
  sessionNumber : UInt32
  /-- Scramble of the server. -/
  scramble : Bytes
  /-- Digests that stretched the password. -/
  iterations : UInt32
  /-- Key that the client sent. -/
  clientKey : ClientKey
  deriving DecidableEq

namespace Session

/-- The codec of the session. -/
def codec (session : Session) : Codec := ⟨session.order, session.charset⟩

/-- What diagnostics show. -/
def detail (session : Session) : String :=
  let order := match session.order with
    | .big => "Big"
    | .little => "Little"
  let charset := match session.charset with
    | .utf8 => "Utf8"
    | .gbk => "Gbk"
  Text.partialRecord "Session"
    [("protocol_version", toString session.protocolVersion.toNat),
      ("server_version", toString session.serverVersion.toNat), ("endian", order),
      ("charset", charset), ("capacity", toString session.capacity.toNat),
      ("session_id", toString session.sessionId.toNat),
      ("session_number", toString session.sessionNumber.toNat),
      ("iterations", toString session.iterations.toNat)]

end Session

/-- What the server announces before the first frame. -/
structure Prelude where
  /-- Byte order of words. -/
  order : ByteOrder
  /-- Protocol version. -/
  version : UInt8
  /-- Flag to repeat in the handshake; its lowest bit is always set. -/
  requestFlag : UInt16
  deriving DecidableEq, Repr

/-- How the server challenges the client. -/
structure Challenge where
  /-- Capacity of the server. -/
  capacity : UInt32
  /-- Version of the server. -/
  serverVersion : UInt32
  /-- Bytes that enter the proof. -/
  scramble : Bytes
  /-- Digests that stretch the password. -/
  iterations : UInt32
  deriving DecidableEq

/-- How the server answers the proof. -/
structure LoginReply where
  /-- Number of the session. -/
  sessionId : UInt32
  /-- Second number of the session. -/
  sessionNumber : UInt32
  /-- Character set of text. -/
  charset : Charset
  /-- Proof of the server. -/
  signature : Bytes
  deriving DecidableEq

namespace Login

/-- The bytes that open every session. -/
def magic : Bytes := [0xFE, 0xDC, 0xBA, 0x98]

/-- First protocol version that announces the tenant with the user. -/
def tenantVersion : UInt8 := 18

/-- Digests that stretch the password when the server gives no number. -/
def defaultIterations : UInt32 := 1000000

/-- Exchange the prelude. -/
def exchangePrelude : Channel.Action Prelude := do
  Channel.sendRaw magic
  let order := ByteOrder.ofFlag ((← Channel.readRaw 1).headD 0)
  modify fun channel => { channel with order }
  let version := (← Channel.readRaw 1).headD 0
  let flag := order.ofU16 (← Channel.readRaw 2) ||| 1
  modify fun channel => { channel with version }
  pure ⟨order, version, flag⟩

/-- Send the handshake without waiting for its answer. -/
def sendHandshake (flag : UInt16) : Channel.Action Unit := do
  let _ ← Channel.send (.handshake flag.toUInt32)

/-- The payload of an answer during the login; an answer that reports an error refuses the
connection. -/
def check (packet : Packet) (version : UInt32) (order : ByteOrder) : Except Error Bytes :=
  if packet.header.isError then
    match ErrorPayload.read version ⟨order, .utf8⟩ packet.payload with
    | .ok payload _ => .error (.connection (.refused payload.code payload.message))
    | .error error _ => .error error
  else .ok packet.payload

/-- The number of digests, which may be missing. -/
def readIterations (order : ByteOrder) : Reader UInt32 := do
  if 4 ≤ (← Reader.remaining) then Reader.u32 order else pure defaultIterations

/-- The challenge. -/
def readChallenge (order : ByteOrder) : Reader Challenge := do
  let capacity ← Reader.u32 order
  let serverVersion ← Reader.u32 order
  let scramble ← Reader.field order
  let iterations ← readIterations order
  pure ⟨capacity, serverVersion, scramble, iterations⟩

/-- Pass over two reserved words, which may be missing. -/
def skipReserved : Reader Unit := do
  if 8 ≤ (← Reader.remaining) then Reader.skip 8

/-- The answer to the proof. -/
def readReply (order : ByteOrder) : Reader LoginReply := do
  let sessionId ← Reader.u32 order
  let sessionNumber ← Reader.u32 order
  Reader.skip 4
  let charset ← Reader.ofExcept (Charset.ofFlag (← Reader.u32 order))
  let signature ← Reader.field order
  skipReserved
  pure ⟨sessionId, sessionNumber, charset, signature⟩

/-- The value a reader finds in a payload. -/
def parse {α : Type} (reader : Reader α) (payload : Bytes) : Except Error α :=
  match reader payload with
  | .ok value _ => .ok value
  | .error error _ => .error error

/-- Send the handshake and wait until it is accepted. Errors come in the oldest layout, because the
version of the server is not known yet. -/
def handshake (opening : Prelude) : Channel.Action Unit := do
  sendHandshake opening.requestFlag
  let packet ← Channel.readResponse
  let _ ← Channel.ofExcept (check packet 0 opening.order)

/-- Announce the user and receive the challenge. Errors come in the oldest layout, as in the
handshake. -/
def authenticate (params : ConnectParams) (clientKey : ClientKey) (opening : Prelude) :
    Channel.Action Challenge := do
  let packet ← Channel.roundTrip
    (.authInit (Utf8.encode params.user) clientKey.bytes (params.tenant.map Utf8.encode)
      (tenantVersion ≤ opening.version))
  let payload ← Channel.ofExcept (check packet 0 opening.order)
  let challenge ← Channel.ofExcept (parse (readChallenge opening.order) payload)
  if challenge.scramble.take clientKeySize = clientKey.bytes then pure challenge
  else Channel.fail (.connection .clientKeyMismatch)

/-- Send the proof, with the offset of the client's time zone, and check the signature of the
server. -/
def prove (params : ConnectParams) (zone : Int16) (opening : Prelude) (digest : PasswordDigest) :
    Channel.Action LoginReply := do
  let address := Utf8.encode (← get).localAddress
  let packet ← Channel.roundTrip
    (.login (Utf8.encode params.user) digest.proof address zone (params.tenant.map Utf8.encode))
  let payload ← Channel.ofExcept (check packet opening.version.toUInt32 opening.order)
  let reply ← Channel.ofExcept (parse (readReply opening.order) payload)
  if digest.verify reply.signature then pure reply
  else Channel.fail (.connection .signatureMismatch)

/-- The exchanges up to the challenge, in which the password is not used. -/
def approach (params : ConnectParams) (clientKey : ClientKey) :
    Channel.Action (Prelude × Challenge) := do
  let opening ← exchangePrelude
  handshake opening
  let challenge ← authenticate params clientKey opening
  pure (opening, challenge)

/-- All exchanges of a login, with the errors as they arise. -/
def perform (params : ConnectParams) (clientKey : ClientKey) (zone : Int16) :
    Channel.Action Session := do
  let (opening, challenge) ← approach params clientKey
  let digest :=
    PasswordDigest.derive (Utf8.encode params.password) challenge.scramble challenge.iterations
  let reply ← prove params zone opening digest
  pure
    { protocolVersion := opening.version
      serverVersion := challenge.serverVersion
      order := opening.order
      charset := reply.charset
      capacity := challenge.capacity
      sessionId := reply.sessionId
      sessionNumber := reply.sessionNumber
      scramble := challenge.scramble
      iterations := challenge.iterations
      clientKey }

/-- An error of a login: errors of connection and transport as they are, every other as the cause of
a failed login. -/
def loginError : Error → Error
  | .connection fault => .connection fault
  | .login cause => .login cause
  | .transport operation => .transport operation
  | .timeout host port limit => .timeout host port limit
  | cause => .login cause

/-- The interrupt of a login. -/
def loginInterrupt : Interrupt → Interrupt
  | .failed error => .failed (loginError error)
  | .waiting => .waiting

/-- Log in with a key of the client, who is in a time zone. -/
def run (params : ConnectParams) (clientKey : ClientKey) (zone : Int16) :
    Channel.Action Session := fun channel =>
  match perform params clientKey zone channel with
  | .ok session after => .ok session after
  | .error interrupt after => .error (loginInterrupt interrupt) after

end Login
end SqlWire
