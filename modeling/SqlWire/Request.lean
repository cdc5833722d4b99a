import SqlWire.Bytes.WriteBuffer
import SqlWire.Parameter.List

/-!
# Requests

Every request has a command and a body. `write` adds the body to a buffer and `size` announces its
length beforehand; only an execute request can fail to be written, when it has more parameters than
its count can hold.
-/
namespace SqlWire

/-- A request to the server. -/
inductive Request where
  /-- Begin a session with the flag of the prelude. -/
  | handshake (flag : UInt32)
  /-- Announce the user and the key of the client, on newer servers also the tenant. -/
  | authInit (user clientKey : Bytes) (tenant : Option Bytes) (withTenant : Bool)
  /-- Prove knowledge of the password. -/
  | login (user proof address : Bytes) (zone : Int16) (tenant : Option Bytes)
  /-- Prepare a statement without executing it. -/
  | prepare (sql : Bytes)
  /-- Prepare and execute a statement. -/
  | execute (statement : UInt32) (sql : Bytes) (fetchSize : UInt32) (slots : List Slot)
  /-- Fetch more rows of a cursor. -/
  | fetch (statement : UInt32) (cursor : UInt64) (mode fetchSize : UInt32)
  /-- Free a statement. -/
  | free (statement : UInt32)
  /-- Commit the transaction. -/
  | commit
  /-- Roll the transaction back. -/
  | rollback
  /-- End the session. -/
  | logout
  /-- Cancel what another session is doing. -/
  | cancel (session number : UInt32)
  /-- Any command with any body. -/
  | other (command : UInt8) (body : Bytes)
  deriving DecidableEq

/-- The statement of a request that makes a new one. -/
def newStatement : UInt32 := 0xFFFFFFFF

/-- Greatest number of parameters of a request. -/
def maxParameters : Nat := 65535

namespace Request

/-- The command of a request. -/
def command : Request → UInt8
  | .handshake _ => 1
  | .authInit .. => 2
  | .login .. => 3
  | .logout => 4
  | .prepare _ => 5
  | .fetch .. => 8
  | .commit => 9
  | .rollback => 10
  | .free _ => 13
  | .cancel .. => 17
  | .execute .. => 20
  | .other command _ => command

/-- The name under which the client logs in users. -/
def userFlag : Bytes := Utf8.encode "user_flag"

/-- The name under which the client presents itself. -/
def clientFlag : Bytes := Utf8.encode "jdbc_flag"

/-- The number of the client's kind. -/
def clientKind : UInt16 := 2

/-- The options of a login: the offset of the time zone, the kind of client, and reserved words. -/
def loginOptions (zone : Int16) : List UInt16 :=
  [0, 0, zone.toUInt16, 0, clientKind, 0, 0, 0]

/-- Bytes of the tenant: its field, or one word when there is none. -/
def tenantSize : Option Bytes → Nat
  | some tenant => fieldSize tenant.length
  | none => 4

/-- Add the tenant: its field, or a zero word when there is none. -/
def writeTenant (buffer : WriteBuffer) : Option Bytes → WriteBuffer
  | some tenant => buffer.field tenant
  | none => buffer.u32 0

/-- What the server must know of a parameter to read its value: type, directions and whether the
value is null. -/
def descriptor (slot : Slot) : Bytes :=
  [slot.type.code, slot.direction.flags, if slot.argument.isNull then 1 else 0, 0]

/-- Bytes of the body. -/
def size : Request → Nat
  | .handshake _ => 4
  | .authInit user clientKey tenant withTenant =>
    fieldSize user.length + fieldSize clientKey.length +
      if withTenant then tenantSize tenant else 0
  | .login user proof address _ tenant =>
    fieldSize user.length + fieldSize proof.length + fieldSize address.length +
      fieldSize userFlag.length + fieldSize clientFlag.length + 8 * 2 + tenantSize tenant
  | .prepare sql => 4 + fieldSize sql.length
  | .execute _ sql _ slots =>
    4 + fieldSize sql.length + 4 + 4 + 4 * slots.length +
      (slots.flatMap Slot.encoded).length
  | .fetch .. => 4 + 8 + 4 + 4
  | .free _ => 4
  | .cancel .. => 8
  | .commit | .rollback | .logout => 0
  | .other _ body => body.length

/-- Add the body. -/
def write (buffer : WriteBuffer) : Request → Except Error WriteBuffer
  | .handshake flag => .ok (buffer.u32 flag)
  | .authInit user clientKey tenant withTenant =>
    let keyed := (buffer.field user).field clientKey
    .ok (if withTenant then writeTenant keyed tenant else keyed)
  | .login user proof address zone tenant =>
    let named := (((buffer.field user).field proof).field address).field userFlag
    let options := (loginOptions zone).flatMap buffer.order.u16
    .ok (writeTenant ((named.field clientFlag).append options) tenant)
  | .prepare sql => .ok ((buffer.u32 newStatement).field sql)
  | .execute statement sql fetchSize slots =>
    if maxParameters < slots.length then .error (.parameter (.tooMany slots.length))
    else
      let counted :=
        ((((buffer.u32 statement).field sql).u32 fetchSize).u16 (UInt16.ofNat slots.length)).u16 0
      .ok ((counted.append (slots.flatMap descriptor)).append (slots.flatMap Slot.encoded))
  | .fetch statement cursor mode fetchSize =>
    .ok ((((buffer.u32 statement).u64 cursor).u32 mode).u32 fetchSize)
  | .free statement => .ok (buffer.u32 statement)
  | .cancel session number => .ok ((buffer.u32 session).u32 number)
  | .commit | .rollback | .logout => .ok buffer
  | .other _ body => .ok (buffer.append body)

end Request
end SqlWire
