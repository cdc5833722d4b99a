import SqlWire.Crypto.Hmac
import SqlWire.Crypto.Md5
import SqlWire.Text.Quoted

/-!
# Proof of a password

Neither side sends the password. From the stretched password the client derives two keys. Its proof
hides the first key under a digest that only the holder of that key's hash can undo; the server
shows by a signature under the second key that it holds that one. The scramble of the server enters
both, so neither can be used again.
-/
namespace SqlWire

/-- What the client sends to prove the password, and what it expects in return. -/
structure PasswordDigest where
  /-- The proof that the client sends. -/
  proof : Bytes
  /-- The signature that the server must answer with. -/
  signature : Bytes
  deriving DecidableEq

/-- Bytes of the key that the client sends and the scramble begins with. -/
def clientKeySize : Nat := 32

/-- The key that the client sends. -/
structure ClientKey where
  /-- The bytes of the key. -/
  bytes : Bytes
  /-- The key has the size that the scramble echoes. -/
  size_eq : bytes.length = clientKeySize
  deriving DecidableEq

namespace PasswordDigest

/-- The message whose keyed digest is the client key. -/
def clientLabel : Bytes :=
  [0x43, 0x6C, 0x69, 0x65, 0x6E, 0x74, 0x20, 0x4B, 0x65, 0x79]

/-- The message whose keyed digest is the server key. -/
def serverLabel : Bytes :=
  [0x53, 0x65, 0x72, 0x76, 0x65, 0x72, 0x20, 0x4B, 0x65, 0x79]

/-- The password stretched with a salt made from the server's part of the scramble. -/
def saltedPassword (password scramble : Bytes) (iterations : UInt32) : Bytes :=
  Crypto.stretch password (Crypto.Md5.hash (scramble.drop clientKeySize)) iterations.toNat

/-- Proof and signature for a password and the scramble of the server. -/
def derive (password scramble : Bytes) (iterations : UInt32) : PasswordDigest :=
  let salted := saltedPassword password scramble iterations
  let clientKey := Crypto.hmac salted clientLabel
  let storedKey := Crypto.Sha256.hash clientKey
  let serverKey := Crypto.hmac salted serverLabel
  { proof := Crypto.xor clientKey (Crypto.hmac storedKey scramble)
    signature := Crypto.hmac serverKey scramble }

/-- Whether two byte strings are equal, found by adding up their differences so that the time taken
does not depend on where they differ. -/
def sameBytes (left right : Bytes) : Bool :=
  left.length == right.length &&
    (List.zip left right).foldl (fun sum pair => sum ||| (pair.1 ^^^ pair.2)) 0 == 0

/-- Whether a signature is the one that proves the server. -/
def verify (digest : PasswordDigest) (signature : Bytes) : Bool :=
  sameBytes digest.signature signature

/-- What diagnostics show: nothing of the content. -/
def detail (_ : PasswordDigest) : String := Text.partialRecord "PasswordDigest" []

end PasswordDigest
end SqlWire
