import SqlWire.Session.PasswordDigest
import SqlWire.Text.Utf8

/-!
# What a signature is compared with

Digests have 32 bytes, whatever is hashed, and adding up the differences of two byte strings tells
whether they are equal (`PasswordDigest.sameBytes_iff`). Proof and signature are made of the stretched
password, and stretching takes at least one digest, also when none is asked for
(`PasswordDigest.proof_derive`, `PasswordDigest.signature_derive`). A server that keeps nothing but
two keys made of the stretched password accepts the proof, because the mask on it is the one that
the server makes, and answers with the one signature that passes
(`PasswordDigest.proof_and_signature_agree`).
-/
namespace SqlWire

/-- A digest has 32 bytes. -/
theorem Crypto.Sha256.length_hash (message : Bytes) : (hash message).length = 32 := by
  simp [hash, State.bytes]

/-- A keyed digest has 32 bytes. -/
theorem Crypto.length_hmac (key message : Bytes) : (hmac key message).length = 32 :=
  Sha256.length_hash _

/-- A password that is to be stretched over no digest is stretched over one. -/
theorem Crypto.stretch_max_one (password salt : Bytes) (iterations : Nat) :
    stretch password salt (max 1 iterations) = stretch password salt iterations := by
  have rest : max 1 iterations - 1 = iterations - 1 := by omega
  simp only [stretch, rest]

/-- A mask that covers some bytes comes off them again, byte by byte. -/
theorem Crypto.zipWith_xor_cancel {bytes mask : Bytes} (covered : bytes.length ≤ mask.length) :
    List.zipWith (· ^^^ ·) (xor bytes mask) mask = bytes := by
  induction bytes generalizing mask with
  | nil => rfl
  | cons byte rest ih =>
    cases mask with
    | nil => simp at covered
    | cons key keys =>
      have others : List.zipWith (· ^^^ ·) (xor rest keys) keys = rest :=
        ih (Nat.le_of_succ_le_succ covered)
      have first : byte ^^^ key ^^^ key = byte := by
        rw [UInt8.xor_assoc, UInt8.xor_self, UInt8.xor_zero]
      change (byte ^^^ key ^^^ key) :: List.zipWith (· ^^^ ·) (xor rest keys) keys = byte :: rest
      rw [first, others]

namespace PasswordDigest

/-- The expected signature has 32 bytes. -/
theorem length_signature_derive (password scramble : Bytes) (iterations : UInt32) :
    (derive password scramble iterations).signature.length = 32 :=
  Crypto.length_hmac _ _

/-- The proof has 32 bytes. -/
theorem length_proof_derive (password scramble : Bytes) (iterations : UInt32) :
    (derive password scramble iterations).proof.length = 32 := by
  simp only [derive, Crypto.xor, List.length_zipWith, Crypto.length_hmac, Nat.min_self]

/-- What the password is stretched to: the salt is the digest of what the scramble has behind the
client's key, and at least one digest is taken. -/
theorem saltedPassword_eq (password scramble : Bytes) (iterations : UInt32) :
    saltedPassword password scramble iterations =
      Crypto.stretch password (Crypto.Md5.hash (scramble.drop 32)) (max 1 iterations.toNat) := by
  rw [Crypto.stretch_max_one]
  rfl

/-- The label of the client's key is its name in UTF-8. -/
theorem clientLabel_eq : clientLabel = Utf8.encode "Client Key" := by decide

/-- The label of the server's key is its name in UTF-8. -/
theorem serverLabel_eq : serverLabel = Utf8.encode "Server Key" := by decide

/-- The expected signature is the keyed digest of the scramble under the server's key, which is
itself a keyed digest under the stretched password. -/
theorem signature_derive (password scramble : Bytes) (iterations : UInt32) :
    (derive password scramble iterations).signature =
      Crypto.hmac (Crypto.hmac
        (Crypto.stretch password (Crypto.Md5.hash (scramble.drop 32)) (max 1 iterations.toNat))
        (Utf8.encode "Server Key")) scramble := by
  rw [← saltedPassword_eq, ← serverLabel_eq]
  rfl

/-- The proof is the client's key under the mask that the digest of the key makes of the
scramble. -/
theorem proof_derive (password scramble : Bytes) (iterations : UInt32) :
    let clientKey := Crypto.hmac
      (Crypto.stretch password (Crypto.Md5.hash (scramble.drop 32)) (max 1 iterations.toNat))
      (Utf8.encode "Client Key")
    (derive password scramble iterations).proof =
      Crypto.xor clientKey (Crypto.hmac (Crypto.Sha256.hash clientKey) scramble) := by
  rw [← saltedPassword_eq, ← clientLabel_eq]
  rfl

/-- Differences add up to nothing exactly when there were none before and there are none now. -/
theorem foldl_differences_eq_zero {left right : Bytes} (same : left.length = right.length)
    (sum : UInt8) :
    (List.zip left right).foldl (fun sum pair => sum ||| (pair.1 ^^^ pair.2)) sum = 0 ↔
      sum = 0 ∧ left = right := by
  induction left generalizing right sum with
  | nil =>
    cases right with
    | nil => simp
    | cons byte rest => simp at same
  | cons byte rest ih =>
    cases right with
    | nil => simp at same
    | cons byte' rest' =>
      rw [List.zip_cons_cons, List.foldl_cons, ih (Nat.succ.inj same), UInt8.or_eq_zero_iff,
        UInt8.xor_eq_zero_iff, List.cons.injEq, and_assoc]

/-- Two byte strings of any lengths are found equal exactly when they are. -/
theorem sameBytes_iff {left right : Bytes} : sameBytes left right = true ↔ left = right := by
  simp only [sameBytes, Bool.and_eq_true, beq_iff_eq]
  constructor
  · rintro ⟨same, none⟩
    exact ((foldl_differences_eq_zero same 0).mp none).2
  · rintro rfl
    exact ⟨rfl, (foldl_differences_eq_zero rfl 0).mpr ⟨rfl, rfl⟩⟩

/-- A signature proves the server exactly when it is the expected one. -/
theorem verify_iff {digest : PasswordDigest} {signature : Bytes} :
    digest.verify signature = true ↔ signature = digest.signature := by
  rw [verify, sameBytes_iff, eq_comm]

/-- What a server keeps of a password. Neither of the keys is the one that a proof is made with. -/
structure Verifier where
  /-- The digest of the client key. -/
  storedKey : Bytes
  /-- The key of the server's signatures. -/
  serverKey : Bytes

namespace Verifier

/-- What is kept of a password. It is stretched under the digest of what the scramble has behind the
client's key, by as many keyed digests as were agreed, at least one. -/
def ofPassword (password scramble : Bytes) (iterations : UInt32) : Verifier :=
  let salt := Crypto.Md5.hash (scramble.drop 32)
  let salted := Crypto.stretch password salt (max 1 iterations.toNat)
  { storedKey := Crypto.Sha256.hash (Crypto.hmac salted (Utf8.encode "Client Key"))
    serverKey := Crypto.hmac salted (Utf8.encode "Server Key") }

/-- What the server finds under the mask that it makes of its scramble: the bytes of the proof and
of the mask, one by one, in exclusive or. -/
def unmask (verifier : Verifier) (scramble proof : Bytes) : Bytes :=
  List.zipWith (· ^^^ ·) proof (Crypto.hmac verifier.storedKey scramble)

/-- Whether a server accepts a proof: what it finds under the mask has the digest that it keeps. -/
def Accepts (verifier : Verifier) (scramble proof : Bytes) : Prop :=
  Crypto.Sha256.hash (verifier.unmask scramble proof) = verifier.storedKey

/-- The signature that a server answers a proof with. -/
def sign (verifier : Verifier) (scramble : Bytes) : Bytes :=
  Crypto.hmac verifier.serverKey scramble

end Verifier

/-- The server finds the client key under the mask, whatever the scramble is and however short. -/
theorem unmask_proof (password scramble : Bytes) (iterations : UInt32) :
    (Verifier.ofPassword password scramble iterations).unmask scramble
        (derive password scramble iterations).proof =
      Crypto.hmac
        (Crypto.stretch password (Crypto.Md5.hash (scramble.drop 32)) (max 1 iterations.toNat))
        (Utf8.encode "Client Key") := by
  rw [proof_derive]
  -- Key and mask are both digests, so the mask covers the key.
  apply Crypto.zipWith_xor_cancel
  exact Nat.le_of_eq ((Crypto.length_hmac _ _).trans (Crypto.length_hmac _ _).symm)

/-- Client and server agree on a login. A server that keeps the digest of the client key and the
server key, both made of the stretched password, finds the digest again under the mask of the proof.
Its keyed digest of the scramble is the signature that the client accepts, and of all byte strings
the only one, because two byte strings are found equal exactly when they are. -/
theorem proof_and_signature_agree (password scramble : Bytes) (iterations : UInt32) :
    let digest := derive password scramble iterations
    let verifier := Verifier.ofPassword password scramble iterations
    verifier.Accepts scramble digest.proof ∧
      digest.verify (verifier.sign scramble) = true ∧
      (∀ signature, digest.verify signature = true ↔ signature = verifier.sign scramble) ∧
      ∀ left right, sameBytes left right = true ↔ left = right := by
  intro digest verifier
  have signed : digest.signature = verifier.sign scramble :=
    signature_derive password scramble iterations
  have one : ∀ signature, digest.verify signature = true ↔ signature = verifier.sign scramble := by
    intro signature
    rw [verify_iff, signed]
  refine ⟨?_, (one _).mpr rfl, one, ?_⟩
  · exact congrArg Crypto.Sha256.hash (unmask_proof password scramble iterations)
  · intro left right
    exact sameBytes_iff

end PasswordDigest
end SqlWire
