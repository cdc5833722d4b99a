import SqlWire.Request
import SqlWire.Response.ErrorPayload

/-!
# Frames

A frame is a header of sixteen bytes and a payload. The header gives the length of the whole frame,
the command, the result and the number of the request the frame belongs to. An answer may be cut
into several frames, of which all but the last are marked.
-/
namespace SqlWire

/-- The header of a frame. -/
structure Header where
  /-- Bytes of the frame with its header. -/
  size : UInt32
  /-- Command of the request. -/
  command : UInt8
  /-- Zero for success. -/
  result : UInt8
  /-- Flags of the frame. -/
  flags : UInt16
  /-- Version of the protocol. -/
  version : UInt8
  /-- First minor version. -/
  version1 : UInt8
  /-- Second minor version. -/
  version2 : UInt8
  /-- Number of the request. -/
  requestCount : UInt32
  deriving DecidableEq, Repr

namespace Header

/-- Bytes of a header. -/
def byteSize : Nat := 16

/-- The flag of a frame that another frame of the same answer follows. -/
def moreFrames : UInt16 := 0x0100

/-- The header of a request whose length is not known yet. -/
def request (command version : UInt8) (requestCount : UInt32) : Header :=
  ⟨0, command, 0, 0, version, 0, 0, requestCount⟩

/-- Whether another frame of the same answer follows. -/
def hasMore (header : Header) : Bool := header.flags &&& moreFrames != 0

/-- Whether the payload reports an error. -/
def isError (header : Header) : Bool := header.result != 0

/-- Add a header. -/
def write (header : Header) (buffer : WriteBuffer) : WriteBuffer :=
  let opened := ((buffer.u32 header.size).u8 header.command).u8 header.result
  let versions := (((opened.u16 header.flags).u8 header.version).u8 header.version1).u8
    header.version2
  (versions.u8 0).u32 header.requestCount

/-- A header at the front of a frame. -/
def read (order : ByteOrder) : Reader Header := do
  let size ← Reader.u32 order
  let command ← Reader.u8
  let result ← Reader.u8
  let flags ← Reader.u16 order
  let version ← Reader.u8
  let version1 ← Reader.u8
  let version2 ← Reader.u8
  Reader.skip 1
  let requestCount ← Reader.u32 order
  pure ⟨size, command, result, flags, version, version1, version2, requestCount⟩

end Header

/-- A header with the payload it announces. -/
structure Packet where
  /-- The header. -/
  header : Header
  /-- Everything after the header. -/
  payload : Bytes
  deriving DecidableEq, Repr

namespace Packet

/-- The payload of a successful answer; an answer that reports an error is that error. -/
def check (packet : Packet) (version : UInt32) (codec : Codec) : Except Error Bytes :=
  if packet.header.isError then
    match ErrorPayload.read version codec packet.payload with
    | .ok payload _ => .error payload.toError
    | .error error _ => .error error
  else .ok packet.payload

end Packet

/-- The frame of a request. The length is set when everything is written. -/
def Request.encode (request : Request) (order : ByteOrder) (version : UInt8)
    (requestCount : UInt32) : Except Error Bytes := do
  let opened := (Header.request request.command version requestCount).write (.empty order)
  let written ← request.write opened
  let sized := written.setU32? 0 (UInt32.ofNat written.size)
  .ok (sized.getD written).content

end SqlWire
