import SqlWire.Bytes.ByteOrder

/-!
# Blocks of a hashed message

The hash functions work on blocks of 64 bytes. A message is closed by one marker byte, zeros, and
its length in bits as a word of eight bytes, so that the whole is a number of full blocks.
-/
namespace SqlWire.Crypto

/-- Bytes of a block. -/
def blockSize : Nat := 64

/-- The message with marker, zeros and length. -/
def padMessage (order : ByteOrder) (message : Bytes) : Bytes :=
  message ++ [0x80] ++ List.replicate ((119 - message.length % 64) % 64) 0 ++
    order.bytes 8 (message.length * 8)

/-- The first `count` pieces of `width` bytes. -/
def pieces (width : Nat) : Nat → Bytes → List Bytes
  | 0, _ => []
  | count + 1, bytes => bytes.take width :: pieces width count (bytes.drop width)

/-- The blocks of a padded message. -/
def blocks (padded : Bytes) : List Bytes := pieces blockSize (padded.length / blockSize) padded

/-- The sixteen words of a block. -/
def words (order : ByteOrder) (block : Bytes) : List UInt32 :=
  (pieces 4 16 block).map order.ofU32

/-- A word turned left by a number of bits between 1 and 31. -/
def rotateLeft (word count : UInt32) : UInt32 := (word <<< count) ||| (word >>> (32 - count))

/-- A word turned right by a number of bits between 1 and 31. -/
def rotateRight (word count : UInt32) : UInt32 := (word >>> count) ||| (word <<< (32 - count))

end SqlWire.Crypto
