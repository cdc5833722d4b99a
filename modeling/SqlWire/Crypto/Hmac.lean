import SqlWire.Crypto.Sha256

/-!
# Keyed digests and stretched passwords

The keyed digest of a message hashes it twice, each time behind a block made from the key. A
password is stretched by chaining keyed digests and adding them up bit by bit, so that every guess
costs as many digests as the true password did.
-/
namespace SqlWire.Crypto

/-- Bytewise exclusive or, as long as the shorter operand. -/
def xor (left right : Bytes) : Bytes := List.zipWith (· ^^^ ·) left right

/-- A key as a block: a longer key is hashed first, and zeros fill the block. -/
def keyBlock (key : Bytes) : Bytes :=
  let short := if blockSize < key.length then Sha256.hash key else key
  short ++ List.replicate (blockSize - short.length) 0

/-- The keyed SHA-256 digest of a message. -/
def hmac (key message : Bytes) : Bytes :=
  let block := keyBlock key
  Sha256.hash (block.map (· ^^^ 0x5C) ++ Sha256.hash (block.map (· ^^^ 0x36) ++ message))

/-- Add `count` more digests of the chain to a sum. -/
def chain (password : Bytes) : Nat → Bytes → Bytes → Bytes
  | 0, _, sum => sum
  | count + 1, last, sum =>
    let next := hmac password last
    chain password count next (xor sum next)

/-- A password stretched over `iterations` digests, at least one, to 32 bytes. -/
def stretch (password salt : Bytes) (iterations : Nat) : Bytes :=
  let first := hmac password (salt ++ [0, 0, 0, 1])
  chain password (iterations - 1) first first

end SqlWire.Crypto
