import SqlWire.Bytes.ByteOrder

/-!
# UTF-8

Writing gives each character its one to four bytes. Reading accepts exactly the well-formed
sequences; where a sequence breaks off, the bytes that could still have begun one are replaced
together by one replacement character, and reading goes on with the byte that broke it.
-/
namespace SqlWire.Utf8

/-- The character that stands for bytes that are not text. -/
def replacement : Char := '\uFFFD'

/-- A continuation byte holding six bits. -/
def continuation (bits : Nat) : UInt8 := UInt8.ofNat (0x80 + bits % 64)

/-- The bytes of one character. -/
def encodeChar (c : Char) : Bytes :=
  let code := c.toNat
  if code < 0x80 then [UInt8.ofNat code]
  else if code < 0x800 then [UInt8.ofNat (0xC0 + code / 64), continuation code]
  else if code < 0x10000 then
    [UInt8.ofNat (0xE0 + code / 4096), continuation (code / 64), continuation code]
  else
    [UInt8.ofNat (0xF0 + code / 262144), continuation (code / 4096), continuation (code / 64),
      continuation code]

/-- The bytes of a text. -/
def encode (text : String) : Bytes := text.toList.flatMap encodeChar

/-- What a lead byte announces. -/
structure Lead where
  /-- Continuation bytes that follow. -/
  count : Nat
  /-- Least first continuation byte. -/
  low : UInt8
  /-- Greatest first continuation byte. -/
  high : UInt8
  /-- High bits of the code point. -/
  bits : Nat

/-- Lead bytes. The narrower ranges after E0, ED, F0 and F4 exclude overlong forms, surrogates
and numbers beyond the last code point. -/
def lead? (byte : UInt8) : Option Lead :=
  if byte < 0xC2 then none
  else if byte < 0xE0 then some ⟨1, 0x80, 0xBF, byte.toNat - 0xC0⟩
  else if byte = 0xE0 then some ⟨2, 0xA0, 0xBF, 0⟩
  else if byte = 0xED then some ⟨2, 0x80, 0x9F, 0xD⟩
  else if byte < 0xF0 then some ⟨2, 0x80, 0xBF, byte.toNat - 0xE0⟩
  else if byte = 0xF0 then some ⟨3, 0x90, 0xBF, 0⟩
  else if byte < 0xF4 then some ⟨3, 0x80, 0xBF, byte.toNat - 0xF0⟩
  else if byte = 0xF4 then some ⟨3, 0x80, 0x8F, 4⟩
  else none

/-- Read `count` continuation bytes, the first of them between `low` and `high`. The result is the
character, or the replacement when a byte is missing or out of place, with the bytes after it. -/
def readTail (count : Nat) (low high : UInt8) (bits : Nat) (bytes : Bytes) : Char × Bytes :=
  match count, bytes with
  | 0, rest => (Char.ofNat bits, rest)
  | _ + 1, [] => (replacement, [])
  | count + 1, byte :: rest =>
    if low ≤ byte ∧ byte ≤ high then
      readTail count 0x80 0xBF (bits * 64 + byte.toNat % 64) rest
    else (replacement, byte :: rest)

/-- Continuation bytes are only taken away. -/
theorem length_readTail_le (count : Nat) (low high : UInt8) (bits : Nat) (bytes : Bytes) :
    (readTail count low high bits bytes).2.length ≤ bytes.length := by
  induction count generalizing low high bits bytes with
  | zero => simp [readTail]
  | succ count ih =>
    cases bytes with
    | nil => simp [readTail]
    | cons byte rest =>
      unfold readTail
      split
      · exact Nat.le_succ_of_le (ih 0x80 0xBF _ rest)
      · exact Nat.le_refl _

/-- The characters of a byte string. -/
def decodeChars : Bytes → List Char
  | [] => []
  | byte :: rest =>
    if byte < 0x80 then Char.ofNat byte.toNat :: decodeChars rest
    else match lead? byte with
      | none => replacement :: decodeChars rest
      | some lead =>
        let read := readTail lead.count lead.low lead.high lead.bits rest
        read.1 :: decodeChars read.2
termination_by bytes => bytes.length
decreasing_by
  · simp
  · simp
  · have := length_readTail_le lead.count lead.low lead.high lead.bits rest
    simp only [List.length_cons]
    omega

/-- The text of a byte string. -/
def decode (bytes : Bytes) : String := String.ofList (decodeChars bytes)

end SqlWire.Utf8
