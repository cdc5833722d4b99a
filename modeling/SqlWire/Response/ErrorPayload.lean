import SqlWire.Bytes.Reader
import SqlWire.Codec

/-!
# Error payloads

A refused request is answered by a code and a message. Before protocol version 23 the message runs
to the first zero byte or the end; from then on it is a padded field.
-/
namespace SqlWire

/-- What the server reports. -/
structure ErrorPayload where
  /-- The code of the error. -/
  code : UInt32
  /-- The message of the error. -/
  message : String
  deriving DecidableEq, Repr

namespace ErrorPayload

/-- First protocol version that sends the message as a field. -/
def framedVersion : UInt32 := 23

/-- The message up to the first zero byte; everything after it is passed over. -/
def readOpen (codec : Codec) : Reader String := do
  let bytes ← Reader.rest
  pure (codec.decodeText (bytes.takeWhile (· != 0)))

/-- The message of a field, refused as a whole when it is announced longer than what is left. -/
def readFramed (codec : Codec) : Reader String := do
  let length ← Reader.u32 codec.order
  let padded := length.toNat + padding length.toNat
  let remaining ← Reader.remaining
  if remaining < padded then Reader.fail (.protocol (.messageLength padded remaining))
  else
    let bytes ← Reader.take length.toNat
    Reader.skip (padding length.toNat)
    pure (codec.decodeText bytes)

/-- An error payload of a protocol version. Eight bytes between code and message are reserved. -/
def read (version : UInt32) (codec : Codec) : Reader ErrorPayload := do
  let code ← Reader.u32 codec.order
  Reader.skip 8
  let message ← if version < framedVersion then readOpen codec else readFramed codec
  pure ⟨code, message⟩

/-- The error of the caller's request. -/
def toError (payload : ErrorPayload) : Error := .server payload.code payload.message

end ErrorPayload
end SqlWire
