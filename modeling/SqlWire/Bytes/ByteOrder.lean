/-!
# Byte order of words

A word travels as a fixed number of base-256 digits. The peer announces once per session whether
the most or the least significant digit comes first, and every word of the session follows it.
`value_bytes` says that writing and reading are inverse, for every width at once.
-/
namespace SqlWire

/-- Bytes in the order they travel. -/
abbrev Bytes := List UInt8

/-- Which digit of a word travels first. -/
inductive ByteOrder where
  /-- Most significant digit first. -/
  | big
  /-- Least significant digit first. -/
  | little
  deriving DecidableEq, Repr

namespace ByteOrder

instance : Inhabited ByteOrder := ⟨.little⟩

/-- Flag 1 announces big-endian words; every other flag announces little-endian words. -/
def ofFlag (flag : UInt8) : ByteOrder := if flag = 1 then .big else .little

/-- The low `width` digits of a number in base 256, least significant first. -/
def digits : Nat → Nat → Bytes
  | 0, _ => []
  | width + 1, value => UInt8.ofNat value :: digits width (value / 256)

/-- The number whose base-256 digits are given, least significant first. -/
def ofDigits : Bytes → Nat
  | [] => 0
  | digit :: rest => digit.toNat + 256 * ofDigits rest

/-- How many numbers a word of a width can hold. -/
def limit : Nat → Nat
  | 0 => 1
  | width + 1 => 256 * limit width

/-- A number as a word of `width` bytes; higher digits are dropped. -/
def bytes (order : ByteOrder) (width value : Nat) : Bytes :=
  match order with
  | .big => (digits width value).reverse
  | .little => digits width value

/-- The number a word of any width holds. -/
def value (order : ByteOrder) (word : Bytes) : Nat :=
  match order with
  | .big => ofDigits word.reverse
  | .little => ofDigits word

/-- There are as many digits as the width asks for. -/
@[simp] theorem length_digits (width value : Nat) : (digits width value).length = width := by
  induction width generalizing value with
  | zero => rfl
  | succ width ih => simp [digits, ih]

/-- A word is as long as its width, in either order. -/
@[simp] theorem length_bytes (order : ByteOrder) (width value : Nat) :
    (order.bytes width value).length = width := by
  cases order <;> simp [bytes]

/-- Digits hold the number modulo the limit of their width. -/
theorem ofDigits_digits (width value : Nat) :
    ofDigits (digits width value) = value % limit width := by
  induction width generalizing value with
  | zero => simp [digits, ofDigits, limit, Nat.mod_one]
  | succ width ih =>
    have low : (UInt8.ofNat value).toNat = value % 256 := by simp
    rw [digits, ofDigits, ih, low, limit, Nat.mod_mul]

/-- A word that fits its width is read back as the number written. -/
theorem value_bytes (order : ByteOrder) {width value : Nat} (fits : value < limit width) :
    order.value (order.bytes width value) = value := by
  cases order <;>
    simp [ByteOrder.value, bytes, ofDigits_digits, Nat.mod_eq_of_lt fits]

/-- Any bytes are the digits of the number they hold. -/
theorem digits_ofDigits (word : Bytes) : digits word.length (ofDigits word) = word := by
  induction word with
  | nil => rfl
  | cons digit rest ih =>
    have bound : digit.toNat < 256 := digit.toNat_lt
    have quotient : (digit.toNat + 256 * ofDigits rest) / 256 = ofDigits rest := by omega
    have low : UInt8.ofNat (digit.toNat + 256 * ofDigits rest) = digit := by
      apply UInt8.toNat_inj.mp
      simp only [UInt8.toNat_ofNat']
      omega
    simp only [List.length_cons, digits, ofDigits, quotient, low, ih]

/-- Every word is the writing of the number it holds. -/
theorem bytes_value (order : ByteOrder) (word : Bytes) :
    order.bytes word.length (order.value word) = word := by
  cases order with
  | little => exact digits_ofDigits word
  | big =>
    have h := digits_ofDigits word.reverse
    simp only [List.length_reverse] at h
    simp [ByteOrder.value, bytes, h]

/-- Digits hold less than the limit of their width. -/
theorem ofDigits_lt (word : Bytes) : ofDigits word < limit word.length := by
  induction word with
  | nil => simp [ofDigits, limit]
  | cons digit rest ih =>
    have bound : digit.toNat < 256 := digit.toNat_lt
    rw [ofDigits, List.length_cons, limit]
    omega

/-- A word holds less than the limit of its width. -/
theorem value_lt (order : ByteOrder) (word : Bytes) : order.value word < limit word.length := by
  cases order with
  | little => exact ofDigits_lt word
  | big => simpa [ByteOrder.value] using ofDigits_lt word.reverse

/-- A 16-bit word. -/
def u16 (order : ByteOrder) (word : UInt16) : Bytes := order.bytes 2 word.toNat

/-- A 32-bit word. -/
def u32 (order : ByteOrder) (word : UInt32) : Bytes := order.bytes 4 word.toNat

/-- A 64-bit word. -/
def u64 (order : ByteOrder) (word : UInt64) : Bytes := order.bytes 8 word.toNat

/-- The 16-bit word held by two bytes. -/
def ofU16 (order : ByteOrder) (word : Bytes) : UInt16 := UInt16.ofNat (order.value word)

/-- The 32-bit word held by four bytes. -/
def ofU32 (order : ByteOrder) (word : Bytes) : UInt32 := UInt32.ofNat (order.value word)

/-- The 64-bit word held by eight bytes. -/
def ofU64 (order : ByteOrder) (word : Bytes) : UInt64 := UInt64.ofNat (order.value word)

/-- A 16-bit word takes two bytes. -/
@[simp] theorem length_u16 (order : ByteOrder) (word : UInt16) : (order.u16 word).length = 2 :=
  length_bytes order 2 _

/-- A 32-bit word takes four bytes. -/
@[simp] theorem length_u32 (order : ByteOrder) (word : UInt32) : (order.u32 word).length = 4 :=
  length_bytes order 4 _

/-- A 64-bit word takes eight bytes. -/
@[simp] theorem length_u64 (order : ByteOrder) (word : UInt64) : (order.u64 word).length = 8 :=
  length_bytes order 8 _

/-- A 16-bit word is read back. -/
@[simp] theorem ofU16_u16 (order : ByteOrder) (word : UInt16) :
    order.ofU16 (order.u16 word) = word := by
  have fits : word.toNat < limit 2 := word.toNat_lt
  rw [ofU16, u16, value_bytes order fits, UInt16.ofNat_toNat]

/-- A 32-bit word is read back. -/
@[simp] theorem ofU32_u32 (order : ByteOrder) (word : UInt32) :
    order.ofU32 (order.u32 word) = word := by
  have fits : word.toNat < limit 4 := word.toNat_lt
  rw [ofU32, u32, value_bytes order fits, UInt32.ofNat_toNat]

/-- A 64-bit word is read back. -/
@[simp] theorem ofU64_u64 (order : ByteOrder) (word : UInt64) :
    order.ofU64 (order.u64 word) = word := by
  have fits : word.toNat < limit 8 := word.toNat_lt
  rw [ofU64, u64, value_bytes order fits, UInt64.ofNat_toNat]

/-- Two bytes are the writing of the word they hold. -/
theorem u16_ofU16 (order : ByteOrder) {word : Bytes} (length : word.length = 2) :
    order.u16 (order.ofU16 word) = word := by
  have fits : order.value word < limit 2 := length ▸ order.value_lt word
  rw [u16, ofU16, UInt16.toNat_ofNat_of_lt' fits, ← length, bytes_value]

/-- Four bytes are the writing of the word they hold. -/
theorem u32_ofU32 (order : ByteOrder) {word : Bytes} (length : word.length = 4) :
    order.u32 (order.ofU32 word) = word := by
  have fits : order.value word < limit 4 := length ▸ order.value_lt word
  rw [u32, ofU32, UInt32.toNat_ofNat_of_lt' fits, ← length, bytes_value]

/-- Eight bytes are the writing of the word they hold. -/
theorem u64_ofU64 (order : ByteOrder) {word : Bytes} (length : word.length = 8) :
    order.u64 (order.ofU64 word) = word := by
  have fits : order.value word < limit 8 := length ▸ order.value_lt word
  rw [u64, ofU64, UInt64.toNat_ofNat_of_lt' fits, ← length, bytes_value]

end ByteOrder
end SqlWire
