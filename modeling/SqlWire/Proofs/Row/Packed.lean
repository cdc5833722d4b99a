import SqlWire.Proofs.Reader

/-!
# Packed rows as they are sent

A row is sent as a header, the classes of its values, and the values. Any row sent that way is read
back, whatever admissible class a value has and whatever fills the gaps (`read_finds`). The server
gives each value its shortest class and fills gaps with zeros (`finds_bytes`).
-/
namespace SqlWire.PackedRow

open Reader (Finds)

/-- The bytes of a value under a class. A value of its own length may be filled up with anything. -/
inductive Entry (order : ByteOrder) : UInt8 → Option Bytes → Bytes → Prop where
  /-- No value. -/
  | absent : Entry order 0 none []
  /-- Four bytes. -/
  | four {data : Bytes} : data.length = 4 → Entry order 1 (some data) data
  /-- Eight bytes. -/
  | eight {data : Bytes} : data.length = 8 → Entry order 2 (some data) data
  /-- A length of its own, the bytes, and what aligns the next value. -/
  | sized {data fill : Bytes} : data.length < UInt16.size →
      fill.length = padding (data.length + 2) →
      Entry order 3 (some data) (order.u16 (UInt16.ofNat data.length) ++ (data ++ fill))

/-- The values of a row under the classes of a region, of which the first value has the class of a
column. -/
inductive Entries (order : ByteOrder) (classes : Bytes) : Nat → RawRow → Bytes → Prop where
  /-- No more values. -/
  | nil (column : Nat) : Entries order classes column [] []
  /-- A value in front of others. -/
  | cons {column : Nat} {value : Option Bytes} {rest : RawRow} {bytes more : Bytes} :
      Entry order (classOf classes column) value bytes →
      Entries order classes (column + 1) rest more →
      Entries order classes column (value :: rest) (bytes ++ more)

/-- A value is read back under its class. -/
theorem value_finds {order : ByteOrder} {kind : UInt8} {entry : Option Bytes} {bytes : Bytes}
    (sent : Entry order kind entry bytes) : (value order kind).Finds bytes entry := by
  cases sent with
  | absent => exact Finds.pure none
  | four length => exact (Finds.take length).map some
  | eight length => exact (Finds.take length).map some
  | @sized data fill fits filled =>
    have announced : (UInt16.ofNat data.length).toNat = data.length :=
      UInt16.toNat_ofNat_of_lt' fits
    have taken : data.length = (UInt16.ofNat data.length).toNat := announced.symm
    rw [← announced] at filled
    exact (Finds.u16 order _).bind ((Finds.take taken).bind (Finds.skip filled).bind_pure)

/-- The values of a row are read back under their classes. -/
theorem values_finds {order : ByteOrder} {classes : Bytes} {column : Nat} {row : RawRow}
    {bytes : Bytes} (sent : Entries order classes column row bytes) :
    (values order classes column row.length).Finds bytes row := by
  induction sent with
  | nil column => exact Finds.pure []
  | cons entry _ ih => exact (value_finds entry).bind ih.bind_pure

/-- The class region has room for all columns. -/
theorem le_classLength_mul_four (columns : Nat) : columns ≤ classLength columns * 4 := by
  unfold classLength
  split <;> omega

/-- A row that is sent under any classes is read back. -/
theorem read_finds {order : ByteOrder} {header classes bytes : Bytes} {row : RawRow}
    (five : header.length = headerSize) (region : classes.length = classLength row.length)
    (sent : Entries order classes 0 row bytes) :
    (read order row.length).Finds (header ++ (classes ++ bytes)) row := by
  have room : ¬ classes.length * 4 < row.length := by
    rw [region]
    exact Nat.not_lt.mpr (le_classLength_mul_four _)
  have found : Finds (if classes.length * 4 < row.length then
      Reader.fail (.protocol (.classRegion classes.length row.length))
    else values order classes 0 row.length) bytes row := by
    rw [if_neg room]
    exact values_finds sent
  exact (Finds.skip five).bind ((Finds.take region).bind found)

/-- The class that the server gives a value. -/
def classFor : Option Bytes → UInt8
  | none => 0
  | some data => if data.length = 4 then 1 else if data.length = 8 then 2 else 3

/-- The zeros that the server sends behind a number of bytes, up to the next multiple of four. -/
def zerosBehind (length : Nat) : Bytes := List.replicate ((4 - length % 4) % 4) 0

/-- They are as many as the reader passes over. -/
theorem length_zerosBehind (length : Nat) : (zerosBehind length).length = padding length :=
  List.length_replicate

/-- The bytes that the server sends for a value. -/
def entryBytes (order : ByteOrder) : Option Bytes → Bytes
  | none => []
  | some data =>
    if data.length = 4 ∨ data.length = 8 then data
    else order.u16 (UInt16.ofNat data.length) ++
      (data ++ zerosBehind (data.length + 2))

/-- The class that the server gives the value of a column; behind the last column it is zero. -/
def classAt (row : RawRow) (column : Nat) : UInt8 := (row[column]?).elim 0 classFor

/-- Four classes in one byte, the first in the low bits. -/
def classByte (row : RawRow) (index : Nat) : UInt8 :=
  classAt row (4 * index) ||| classAt row (4 * index + 1) <<< 2 |||
    classAt row (4 * index + 2) <<< 4 ||| classAt row (4 * index + 3) <<< 6

/-- The class region of a row. -/
def classBytes (row : RawRow) : Bytes := (List.range (classLength row.length)).map (classByte row)

/-- A row as the server sends it. -/
def bytes (order : ByteOrder) (row : RawRow) : Bytes :=
  (order.u16 0 ++ (order.u16 (UInt16.ofNat row.length) ++ [0])) ++
    (classBytes row ++ row.flatMap (entryBytes order))

/-- Whether the length of a value can be sent. -/
def Fits (row : RawRow) : Prop := ∀ value ∈ row, ∀ data ∈ value, data.length < UInt16.size

/-- Four classes in one byte are told apart. -/
theorem class_of_byte : ∀ first second third fourth : Fin 4,
    let byte := first.val.toUInt8 ||| second.val.toUInt8 <<< 2 ||| third.val.toUInt8 <<< 4 |||
      fourth.val.toUInt8 <<< 6
    byte >>> 0 &&& 3 = first.val.toUInt8 ∧ byte >>> 2 &&& 3 = second.val.toUInt8 ∧
      byte >>> 4 &&& 3 = third.val.toUInt8 ∧ byte >>> 6 &&& 3 = fourth.val.toUInt8 := by
  decide +kernel

/-- A class takes two bits. -/
theorem exists_classAt_eq (row : RawRow) (column : Nat) :
    ∃ kind : Fin 4, classAt row column = kind.val.toUInt8 := by
  unfold classAt
  cases row[column]? with
  | none => exact ⟨0, rfl⟩
  | some value =>
    cases value with
    | none => exact ⟨0, rfl⟩
    | some data =>
      simp only [Option.elim, classFor]
      split
      · exact ⟨1, rfl⟩
      · split
        · exact ⟨2, rfl⟩
        · exact ⟨3, rfl⟩

/-- Four classes in one byte, the first in the low bits. -/
def packedByte (kinds : Nat → UInt8) (index : Nat) : UInt8 :=
  kinds (4 * index) ||| kinds (4 * index + 1) <<< 2 ||| kinds (4 * index + 2) <<< 4 |||
    kinds (4 * index + 3) <<< 6

/-- The class region of a number of columns. Its last bytes hold classes behind the last column. -/
def region (kinds : Nat → UInt8) (columns : Nat) : Bytes :=
  (List.range (classLength columns)).map (packedByte kinds)

/-- A class region is as long as its columns require. -/
@[simp] theorem length_region (kinds : Nat → UInt8) (columns : Nat) :
    (region kinds columns).length = classLength columns := by
  simp [region]

/-- The class of a column is found in the class region. -/
theorem classOf_region {kinds : Nat → UInt8}
    (narrow : ∀ column, ∃ kind : Fin 4, kinds column = kind.val.toUInt8) {columns column : Nat}
    (inside : column < columns) : classOf (region kinds columns) column = kinds column := by
  have room := le_classLength_mul_four columns
  have found : (region kinds columns).getD (column / 4) 0 = packedByte kinds (column / 4) := by
    have place : column / 4 < classLength columns := by omega
    simp [region, place]
  obtain ⟨first, firstEq⟩ := narrow (4 * (column / 4))
  obtain ⟨second, secondEq⟩ := narrow (4 * (column / 4) + 1)
  obtain ⟨third, thirdEq⟩ := narrow (4 * (column / 4) + 2)
  obtain ⟨fourth, fourthEq⟩ := narrow (4 * (column / 4) + 3)
  obtain ⟨one, two, three, four⟩ := class_of_byte first second third fourth
  have whole : 4 * (column / 4) + column % 4 = column := Nat.div_add_mod column 4
  rw [classOf, found, packedByte, firstEq, secondEq, thirdEq, fourthEq]
  -- The place of the column within its byte says which of the four classes is meant.
  have place : column % 4 = 0 ∨ column % 4 = 1 ∨ column % 4 = 2 ∨ column % 4 = 3 := by omega
  rcases place with place | place | place | place
  · rw [place] at whole ⊢
    rw [← whole, Nat.add_zero, firstEq]
    exact one
  · rw [place] at whole ⊢
    rw [← whole, secondEq]
    exact two
  · rw [place] at whole ⊢
    rw [← whole, thirdEq]
    exact three
  · rw [place] at whole ⊢
    rw [← whole, fourthEq]
    exact four

/-- The server packs the classes that it gives the values of a row. -/
theorem classBytes_eq_region (row : RawRow) :
    classBytes row = region (classAt row) row.length := rfl

/-- The server gives a value an admissible class. -/
theorem entry_entryBytes (order : ByteOrder) {value : Option Bytes}
    (fits : ∀ data ∈ value, data.length < UInt16.size) :
    Entry order (classFor value) value (entryBytes order value) := by
  cases value with
  | none => exact .absent
  | some data =>
    by_cases four : data.length = 4
    · simpa [classFor, entryBytes, four] using Entry.four four
    by_cases eight : data.length = 8
    · simpa [classFor, entryBytes, eight] using Entry.eight eight
    · have sized : Entry order 3 (some data) _ := .sized (fits data rfl) (length_zerosBehind _)
      simpa [classFor, entryBytes, four, eight] using sized

/-- Items whose values are sent under their classes are the values of a row. -/
theorem entries_of_forall {α : Type} {order : ByteOrder} {classes : Bytes} {items : List α}
    {content : α → Option Bytes} {bytes : α → Bytes} {column : Nat}
    (each : ∀ index item, items[index]? = some item →
      Entry order (classOf classes (column + index)) (content item) (bytes item)) :
    Entries order classes column (items.map content) (items.flatMap bytes) := by
  induction items generalizing column with
  | nil => exact .nil column
  | cons item rest ih =>
    refine .cons (each 0 item rfl) (ih ?_)
    intro index item found
    have later := each (index + 1) item found
    rwa [← Nat.add_assoc, Nat.add_right_comm] at later

/-- A row that the server sends is read back. -/
theorem finds_bytes (order : ByteOrder) {row : RawRow} (fits : Fits row) :
    (read order row.length).Finds (bytes order row) row := by
  have five : (order.u16 0 ++ (order.u16 (UInt16.ofNat row.length) ++ [0])).length = headerSize := by
    simp [headerSize]
  have sent : Entries order (classBytes row) 0 (row.map id) (row.flatMap (entryBytes order)) := by
    apply entries_of_forall
    intro index value found
    have inside : index < row.length := (List.getElem?_eq_some_iff.mp found).1
    have member : value ∈ row := List.mem_of_getElem? found
    have kind : classOf (classBytes row) (0 + index) = classFor value := by
      rw [Nat.zero_add, classBytes_eq_region, classOf_region (exists_classAt_eq row) inside, classAt,
        found]
      rfl
    rw [kind]
    exact entry_entryBytes order (fits value member)
  rw [List.map_id] at sent
  exact read_finds five (length_region _ _) sent

end SqlWire.PackedRow
