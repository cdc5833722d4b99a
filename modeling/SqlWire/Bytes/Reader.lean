import SqlWire.Action
import SqlWire.Bytes.Field
import SqlWire.Error

/-!
# Reading from the front

A reader takes what it needs from the front of the bytes that are left. A read that needs more than
is left fails with both counts and takes nothing; what was read before it stays read.
-/
namespace SqlWire

/-- A computation that takes bytes from the front or fails. -/
abbrev Reader := EStateM Error Bytes

namespace Reader

/-- Take exactly `count` bytes. Only the bytes taken are counted, so reading many small words from a
long input stays cheap. -/
def take (count : Nat) : Reader Bytes := fun input =>
  if (input.take count).length = count then .ok (input.take count) (input.drop count)
  else .error (.tooShort count input.length) input

/-- A read succeeds exactly when enough bytes are left, and splits them. -/
theorem take_eq_ok {count : Nat} {input word rest : Bytes} :
    take count input = .ok word rest ↔ input = word ++ rest ∧ word.length = count := by
  unfold take
  split
  · rename_i enough
    simp only [EStateM.Result.ok.injEq]
    constructor
    · rintro ⟨rfl, rfl⟩
      exact ⟨(List.take_append_drop count input).symm, enough⟩
    · rintro ⟨rfl, rfl⟩
      simp
  · rename_i short
    simp only [reduceCtorEq, false_iff]
    rintro ⟨rfl, rfl⟩
    exact short (by simp)

/-- A read fails exactly when too few bytes are left, and takes none. -/
theorem take_eq_error {count : Nat} {input rest : Bytes} {error : Error} :
    take count input = .error error rest ↔
      input.length < count ∧ error = .tooShort count input.length ∧ rest = input := by
  unfold take
  split
  · rename_i enough
    simp only [List.length_take] at enough
    simp only [reduceCtorEq, false_iff]
    rintro ⟨less, _⟩
    omega
  · rename_i short
    simp only [List.length_take] at short
    simp only [EStateM.Result.error.injEq]
    constructor
    · rintro ⟨rfl, rfl⟩
      exact ⟨by omega, rfl, rfl⟩
    · rintro ⟨_, rfl, rfl⟩
      exact ⟨rfl, rfl⟩

/-- Pass over exactly `count` bytes. -/
def skip (count : Nat) : Reader Unit := do
  let _ ← take count

/-- One byte. -/
def u8 : Reader UInt8 := do
  let word ← take 1
  pure (word.headD 0)

/-- A 16-bit word. -/
def u16 (order : ByteOrder) : Reader UInt16 := do
  let word ← take 2
  pure (order.ofU16 word)

/-- A 32-bit word. -/
def u32 (order : ByteOrder) : Reader UInt32 := do
  let word ← take 4
  pure (order.ofU32 word)

/-- A 64-bit word. -/
def u64 (order : ByteOrder) : Reader UInt64 := do
  let word ← take 8
  pure (order.ofU64 word)

/-- The byte string of a padded field. -/
def field (order : ByteOrder) : Reader Bytes := do
  let length ← u32 order
  let data ← take length.toNat
  skip (padding length.toNat)
  pure data

/-- All bytes that are left. -/
def rest : Reader Bytes := fun input => .ok input []

/-- How many bytes are left. -/
def remaining : Reader Nat := fun input => .ok input.length input

/-- Refuse with an error, taking nothing. -/
def fail {α : Type} (error : Error) : Reader α := fun input => .error error input

/-- The result of a computation that takes no bytes. -/
def ofExcept {α : Type} : Except Error α → Reader α
  | .ok value => pure value
  | .error error => fail error

/-- Read `count` items, one after the other. -/
def replicate {α : Type} (item : Reader α) : Nat → Reader (List α)
  | 0 => pure []
  | count + 1 => do
    let first ← item
    let others ← replicate item count
    pure (first :: others)

/-- Bytes are passed over exactly when enough are left. -/
theorem skip_eq_ok {count : Nat} {value : Unit} {input rest : Bytes} :
    skip count input = .ok value rest ↔ ∃ word, input = word ++ rest ∧ word.length = count := by
  simp only [skip, Action.bind_eq_ok, take_eq_ok, Action.pure_eq_ok, true_and]
  constructor
  · rintro ⟨word, _, split, rfl⟩
    exact ⟨word, split⟩
  · rintro ⟨word, split⟩
    exact ⟨word, rest, split, rfl⟩

/-- A byte is read exactly when it is at the front. -/
theorem u8_eq_ok {byte : UInt8} {input rest : Bytes} :
    u8 input = .ok byte rest ↔ input = byte :: rest := by
  simp only [u8, Action.bind_eq_ok, take_eq_ok, Action.pure_eq_ok]
  constructor
  · rintro ⟨word, _, ⟨rfl, length⟩, rfl, rfl⟩
    obtain ⟨byte, rfl⟩ := List.length_eq_one_iff.mp length
    rfl
  · rintro rfl
    exact ⟨[byte], rest, ⟨rfl, rfl⟩, rfl, rfl⟩

/-- A 16-bit word is read exactly when its writing is at the front. -/
theorem u16_eq_ok {order : ByteOrder} {word : UInt16} {input rest : Bytes} :
    u16 order input = .ok word rest ↔ input = order.u16 word ++ rest := by
  simp only [u16, Action.bind_eq_ok, take_eq_ok, Action.pure_eq_ok]
  constructor
  · rintro ⟨bytes, _, ⟨rfl, length⟩, rfl, rfl⟩
    rw [order.u16_ofU16 length]
  · rintro rfl
    exact ⟨_, rest, ⟨rfl, order.length_u16 word⟩, order.ofU16_u16 word, rfl⟩

/-- A 32-bit word is read exactly when its writing is at the front. -/
theorem u32_eq_ok {order : ByteOrder} {word : UInt32} {input rest : Bytes} :
    u32 order input = .ok word rest ↔ input = order.u32 word ++ rest := by
  simp only [u32, Action.bind_eq_ok, take_eq_ok, Action.pure_eq_ok]
  constructor
  · rintro ⟨bytes, _, ⟨rfl, length⟩, rfl, rfl⟩
    rw [order.u32_ofU32 length]
  · rintro rfl
    exact ⟨_, rest, ⟨rfl, order.length_u32 word⟩, order.ofU32_u32 word, rfl⟩

/-- A 64-bit word is read exactly when its writing is at the front. -/
theorem u64_eq_ok {order : ByteOrder} {word : UInt64} {input rest : Bytes} :
    u64 order input = .ok word rest ↔ input = order.u64 word ++ rest := by
  simp only [u64, Action.bind_eq_ok, take_eq_ok, Action.pure_eq_ok]
  constructor
  · rintro ⟨bytes, _, ⟨rfl, length⟩, rfl, rfl⟩
    rw [order.u64_ofU64 length]
  · rintro rfl
    exact ⟨_, rest, ⟨rfl, order.length_u64 word⟩, order.ofU64_u64 word, rfl⟩

/-- A padded field is read exactly when its length, its bytes and any filling of the right size are
at the front. -/
theorem field_eq_ok {order : ByteOrder} {data input rest : Bytes} :
    field order input = .ok data rest ↔
      data.length < UInt32.size ∧ ∃ fill : Bytes, fill.length = padding data.length ∧
        input = order.u32 (UInt32.ofNat data.length) ++ data ++ fill ++ rest := by
  simp only [field, Action.bind_eq_ok, u32_eq_ok, take_eq_ok, skip_eq_ok, Action.pure_eq_ok]
  constructor
  · rintro ⟨length, _, rfl, bytes, _, ⟨rfl, size⟩, _, _, ⟨fill, rfl, filled⟩, rfl, rfl⟩
    have announced : UInt32.ofNat bytes.length = length := by rw [size, UInt32.ofNat_toNat]
    refine ⟨size ▸ length.toNat_lt_size, fill, by rw [filled, size], ?_⟩
    rw [announced, List.append_assoc, List.append_assoc]
  · rintro ⟨fits, fill, filled, rfl⟩
    have announced : (UInt32.ofNat data.length).toNat = data.length :=
      UInt32.toNat_ofNat_of_lt' fits
    refine ⟨_, _, by rw [List.append_assoc, List.append_assoc], _, _, ⟨rfl, announced.symm⟩, (), _,
      ⟨fill, rfl, by rw [filled, announced]⟩, rfl, rfl⟩

/-- Counting the bytes that are left takes none. -/
theorem remaining_eq_ok {count : Nat} {input rest : Bytes} :
    remaining input = .ok count rest ↔ input.length = count ∧ input = rest := by
  simp [remaining]

/-- A result that takes no bytes succeeds exactly when the computation did. -/
theorem ofExcept_eq_ok {α : Type} {result : Except Error α} {value : α} {input rest : Bytes} :
    ofExcept result input = .ok value rest ↔ result = .ok value ∧ input = rest := by
  cases result with
  | ok _ => simp [ofExcept]
  | error _ => simp [ofExcept, fail]

end Reader
end SqlWire
