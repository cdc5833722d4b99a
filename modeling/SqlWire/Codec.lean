import SqlWire.Bytes.Field
import SqlWire.Charset
import SqlWire.Number.Binary64

/-!
# Codec of a session

A session fixes a byte order and a character set; with both known, numbers and text have one
encoding.
-/
namespace SqlWire

/-- Byte order and character set of a session. -/
structure Codec where
  /-- Byte order of words. -/
  order : ByteOrder
  /-- Character set of text. -/
  charset : Charset
  deriving DecidableEq, Repr, Inhabited

namespace Codec

/-- A 32-bit integer in two's complement. -/
def encodeInt32 (codec : Codec) (value : Int32) : Bytes := codec.order.u32 value.toUInt32

/-- A 64-bit integer in two's complement. -/
def encodeInt64 (codec : Codec) (value : Int64) : Bytes := codec.order.u64 value.toUInt64

/-- A double-precision number by its bits. -/
def encodeReal (codec : Codec) (value : Binary64) : Bytes := codec.order.u64 value.bits

/-- A padded field of bytes. -/
def encodeField (codec : Codec) (data : Bytes) : Bytes := codec.order.field data

/-- A padded field of text. -/
def encodeText (codec : Codec) (text : String) : Bytes :=
  codec.encodeField (codec.charset.encode text)

/-- The 32-bit integer of four bytes. -/
def decodeInt32 (codec : Codec) (word : Bytes) : Int32 := (codec.order.ofU32 word).toInt32

/-- The 64-bit integer of eight bytes. -/
def decodeInt64 (codec : Codec) (word : Bytes) : Int64 := (codec.order.ofU64 word).toInt64

/-- The double-precision number of eight bytes. -/
def decodeReal (codec : Codec) (word : Bytes) : Binary64 := ⟨codec.order.ofU64 word⟩

/-- The text of bytes without their length. -/
def decodeText (codec : Codec) (bytes : Bytes) : String := codec.charset.decode bytes

end Codec
end SqlWire
