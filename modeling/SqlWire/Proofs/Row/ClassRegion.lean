import Mathlib.Order.Bounds.Basic
import SqlWire.Proofs.Row.Packed

/-!
# The class region

A class region takes three bytes and any number of times four more. Of all the regions that have two
bits for each column, a row is read with the least (`isLeast_classLength`). So the reader never finds
its region too small, and never looks up a class behind it: a reader that stops with any fault as
soon as it looks there reads the same rows and stops in the same places (`strictRead_eq`).
-/
namespace SqlWire.PackedRow

/-- The lengths of a region with room for two bits a column, four columns a byte. -/
def roomyLengths (columns : Nat) : Set Nat :=
  {length | (∃ steps, length = 3 + 4 * steps) ∧ columns ≤ 4 * length}

/-- What holds from the thirteenth column on holds of fewer columns, too. -/
theorem classLength_eq (columns : Nat) : classLength columns = 3 + (columns + 3) / 16 * 4 := by
  unfold classLength
  split <;> omega

/-- Clearing the low four bits of a word rounds it down to a multiple of sixteen. -/
theorem toNat_and_not_fifteen (word : UInt64) : (word &&& ~~~15).toNat = word.toNat / 16 * 16 := by
  have mask : (~~~15 : UInt64).toNat = 2 ^ 64 - (15 + 1) := rfl
  have bound : word.toNat < 2 ^ 64 := word.toNat_lt_size
  rw [UInt64.toNat_and, mask]
  apply Nat.eq_of_testBit_eq
  intro place
  have cleared : word.toNat / 16 * 16 = word.toNat >>> 4 <<< 4 := by
    rw [Nat.shiftLeft_eq, Nat.shiftRight_eq_div_pow]
  have low : Nat.testBit 15 place = decide (place < 4) := Nat.testBit_two_pow_sub_one 4 place
  rw [cleared, Nat.testBit_and, Nat.testBit_two_pow_sub_succ (by decide), low,
    Nat.testBit_shiftLeft, Nat.testBit_shiftRight]
  by_cases high : 4 ≤ place
  · by_cases inside : place < 64
    · simp [high, inside, Nat.add_sub_cancel' high]
    · have beyond : word.toNat < 2 ^ place :=
        Nat.lt_of_lt_of_le bound (Nat.pow_le_pow_right (by decide) (Nat.not_lt.mp inside))
      simp [Nat.testBit_lt_two_pow beyond, Nat.add_sub_cancel' high]
  · have small : place < 4 := Nat.not_le.mp high
    simp [small]

/-- The length of a region, computed on machine words with a mask of the low four bits. -/
theorem classLength_toNat {columns : UInt64} (room : columns.toNat + 3 < UInt64.size) :
    classLength columns.toNat = 3 + ((columns + 3 &&& ~~~15) / 4).toNat := by
  have sum : (columns + 3).toNat = columns.toNat + 3 := by
    rw [UInt64.toNat_add]
    exact Nat.mod_eq_of_lt room
  have four : (4 : UInt64).toNat = 4 := rfl
  rw [classLength_eq, UInt64.toNat_div, toNat_and_not_fifteen, sum, four]
  omega

/-- The region of a row is the least that has room for its columns. -/
theorem isLeast_classLength (columns : Nat) :
    IsLeast (roomyLengths columns) (classLength columns) := by
  rw [classLength_eq]
  constructor
  · refine ⟨⟨(columns + 3) / 16, by omega⟩, by omega⟩
  · rintro length ⟨⟨steps, rfl⟩, room⟩
    omega

/-- More columns need no shorter region. -/
theorem monotone_classLength : Monotone classLength := by
  intro fewer more ordered
  have room : classLength more ∈ roomyLengths more := (isLeast_classLength more).1
  exact (isLeast_classLength fewer).2 ⟨room.1, ordered.trans room.2⟩

/-- The class of a column, and a fault where the region has no byte for it. -/
def strictClass (fault : Error) (classes : Bytes) (column : Nat) : Reader UInt8 :=
  match classes[column / 4]? with
  | some byte => pure ((byte >>> UInt8.ofNat (column % 4 * 2)) &&& 3)
  | none => Reader.fail fault

/-- The values of some columns, and a fault where the class of one is looked up behind the region. -/
def strictValues (fault : Error) (order : ByteOrder) (classes : Bytes) (column : Nat) :
    Nat → Reader RawRow
  | 0 => pure []
  | count + 1 => do
    let kind ← strictClass fault classes column
    let first ← value order kind
    let others ← strictValues fault order classes (column + 1) count
    pure (first :: others)

/-- A row read without asking whether its region is large enough, and a fault where a class is looked
up behind the region. -/
def strictRead (fault : Error) (order : ByteOrder) (columns : Nat) : Reader RawRow := do
  Reader.skip headerSize
  let classes ← Reader.take (classLength columns)
  strictValues fault order classes 0 columns

/-- A class is looked up in the region when the region has a byte for its column. -/
theorem strictClass_of_lt {classes : Bytes} {column : Nat} (inside : column / 4 < classes.length)
    (fault : Error) : strictClass fault classes column = pure (classOf classes column) := by
  simp [strictClass, classOf, inside]

/-- The classes of all columns are looked up in a region that has room for them. -/
theorem strictValues_of_le {classes : Bytes} {column count : Nat}
    (room : column + count ≤ classes.length * 4) (fault : Error) (order : ByteOrder) :
    strictValues fault order classes column count = values order classes column count := by
  induction count generalizing column with
  | zero => rfl
  | succ count ih =>
    have inside : column / 4 < classes.length := by omega
    have rest : column + 1 + count ≤ classes.length * 4 := by omega
    rw [strictValues, values, strictClass_of_lt inside, pure_bind, ih rest]

/-- The region is never too small, and no class is looked up behind it. -/
theorem strictRead_eq (fault : Error) (order : ByteOrder) (columns : Nat) :
    strictRead fault order columns = read order columns := by
  funext input
  unfold strictRead read
  cases skipped : Reader.skip headerSize input with
  | error stop after => rw [Action.bind_of_error skipped, Action.bind_of_error skipped]
  | ok done body =>
    rw [Action.bind_of_ok skipped, Action.bind_of_ok skipped]
    cases taken : Reader.take (classLength columns) body with
    | error stop after => rw [Action.bind_of_error taken, Action.bind_of_error taken]
    | ok classes rest =>
      have long : classes.length = classLength columns := (Reader.take_eq_ok.mp taken).2
      have room : columns ≤ classLength columns * 4 := le_classLength_mul_four columns
      have enough : ¬ classes.length * 4 < columns := by omega
      have inside : 0 + columns ≤ classes.length * 4 := by omega
      rw [Action.bind_of_ok taken, Action.bind_of_ok taken, if_neg enough,
        strictValues_of_le inside]

/-- Whether an error says that fewer bytes are left than a read needs. -/
def Short (error : Error) : Prop :=
  ∃ needed available, available < needed ∧ error = .tooShort needed available

/-- Taking bytes stops for want of bytes only. -/
theorem stopsFor_take (count : Nat) : Action.StopsFor Short (Reader.take count) := by
  intro input stop rest stopped
  obtain ⟨few, rfl, _⟩ := Reader.take_eq_error.mp stopped
  exact ⟨count, input.length, few, rfl⟩

/-- Passing over bytes stops for want of bytes only. -/
theorem stopsFor_skip (count : Nat) : Action.StopsFor Short (Reader.skip count) :=
  (stopsFor_take count).bind fun _ => Action.stopsFor_pure ()

/-- A value stops for want of bytes only. -/
theorem stopsFor_value (order : ByteOrder) (kind : UInt8) :
    Action.StopsFor Short (value order kind) := by
  have some_take (count : Nat) : Action.StopsFor Short (some <$> Reader.take count) := by
    rw [map_eq_pure_bind]
    exact (stopsFor_take count).bind fun _ => Action.stopsFor_pure _
  have length : Action.StopsFor Short (Reader.u16 order) :=
    (stopsFor_take 2).bind fun _ => Action.stopsFor_pure _
  unfold value
  split
  · exact Action.stopsFor_pure none
  split
  · exact some_take 4
  split
  · exact some_take 8
  · apply length.bind
    intro length
    apply (stopsFor_take length.toNat).bind
    intro data
    apply (stopsFor_skip (padding (length.toNat + 2))).bind
    intro _
    exact Action.stopsFor_pure (some data)

/-- The values of a row stop for want of bytes only. -/
theorem stopsFor_values (order : ByteOrder) (classes : Bytes) (column count : Nat) :
    Action.StopsFor Short (values order classes column count) := by
  induction count generalizing column with
  | zero => exact Action.stopsFor_pure []
  | succ count ih =>
    apply (stopsFor_value order _).bind
    intro first
    apply (ih (column + 1)).bind
    intro others
    exact Action.stopsFor_pure (first :: others)

/-- A row stops for want of bytes only, not for its class region. -/
theorem stopsFor_read (order : ByteOrder) (columns : Nat) :
    Action.StopsFor Short (read order columns) := by
  intro input stop rest stopped
  rcases Action.bind_eq_error.mp stopped with early | ⟨done, body, _, stopped⟩
  · exact stopsFor_skip headerSize input stop rest early
  rcases Action.bind_eq_error.mp stopped with early | ⟨classes, after, taken, stopped⟩
  · exact stopsFor_take (classLength columns) body stop rest early
  have long : classes.length = classLength columns := (Reader.take_eq_ok.mp taken).2
  have room : columns ≤ classLength columns * 4 := le_classLength_mul_four columns
  have enough : ¬ classes.length * 4 < columns := by omega
  rw [if_neg enough] at stopped
  exact stopsFor_values order classes 0 columns after stop rest stopped

/-- The class region of a row is the least one with two bits for each column. It grows with the
columns, and one formula gives it for all of them, also where it is computed on machine words. A row
is read the same when a lookup behind the region is made a fault, whatever fault that is, so no run
of the reader makes one; and the reader stops for want of bytes only, never because it finds the
region too small. -/
theorem reads_classes_in_least_region (order : ByteOrder) (columns : Nat) :
    IsLeast (roomyLengths columns) (classLength columns) ∧ Monotone classLength ∧
      classLength columns = 3 + (columns + 3) / 16 * 4 ∧
      (∀ word : UInt64, word.toNat = columns → columns + 3 < UInt64.size →
        classLength columns = 3 + ((word + 3 &&& ~~~15) / 4).toNat) ∧
      (∀ fault, read order columns = strictRead fault order columns) ∧
      Action.StopsFor Short (read order columns) ∧
      ∀ input size width rest,
        read order columns input ≠ .error (.protocol (.classRegion size width)) rest := by
  refine ⟨isLeast_classLength columns, monotone_classLength, classLength_eq columns, ?_, ?_,
    stopsFor_read order columns, ?_⟩
  · rintro word rfl room
    exact classLength_toNat room
  · intro fault
    exact (strictRead_eq fault order columns).symm
  · intro input size width rest stopped
    obtain ⟨needed, available, _, short⟩ := stopsFor_read order columns input _ rest stopped
    cases short

/-- The region grows behind twelve columns, and then behind every sixteen. -/
example : [12, 13, 28, 29, 44, 45].map classLength = [3, 7, 7, 11, 11, 15] := by decide

end SqlWire.PackedRow
