import Mathlib.Data.List.Forall2
import SqlWire.Proofs.Row.Packed

/-!
# Rows under classes of the sender's choice

The server sends a value of four or eight bytes under its short class, but the class with a length
of its own admits it too. Here the sender chooses: a cell is a value with a class that admits it
(`Cell.exists_iff_admits`) and with what fills its gap, and the class region says anything behind
the last column. Every admissible choice is a row of cells (`Cell.exists_cells_iff`), and whatever
was chosen, the reader gets the values in order and stops where the row ends (`read_rowBytes`).
-/
namespace SqlWire.PackedRow

/-- A value with the class under which it is sent. -/
inductive Cell where
  /-- No value. -/
  | absent
  /-- A value of four bytes, sent without its length. -/
  | four (data : Bytes) (length : data.length = 4)
  /-- A value of eight bytes, sent without its length. -/
  | eight (data : Bytes) (length : data.length = 8)
  /-- A value of any length that can be sent, and what aligns the next one. -/
  | sized (data fill : Bytes) (fits : data.length < UInt16.size)
      (filled : fill.length = padding (data.length + 2))

/-- Whether a class admits a value. -/
def Admits (kind : Fin 4) : Option Bytes → Prop
  | none => kind = 0
  | some data =>
    data.length < UInt16.size ∧
      (kind = 1 ∧ data.length = 4 ∨ kind = 2 ∧ data.length = 8 ∨ kind = 3)

namespace Cell

/-- The value in a cell. -/
def content : Cell → Option Bytes
  | absent => none
  | four data _ | eight data _ | sized data _ _ _ => some data

/-- The class of a cell. -/
def kind : Cell → Fin 4
  | absent => 0
  | four .. => 1
  | eight .. => 2
  | sized .. => 3

/-- The bytes of a cell. -/
def bytes (order : ByteOrder) : Cell → Bytes
  | absent => []
  | four data _ | eight data _ => data
  | sized data fill _ _ => order.u16 (UInt16.ofNat data.length) ++ (data ++ fill)

/-- The value of a cell is sent under its class. -/
theorem entry_bytes (order : ByteOrder) (cell : Cell) :
    Entry order cell.kind.val.toUInt8 cell.content (cell.bytes order) := by
  cases cell with
  | absent => exact .absent
  | four data length => exact .four length
  | eight data length => exact .eight length
  | sized data fill fits filled => exact .sized fits filled

/-- A cell can be made of a value and a class exactly when the class admits the value. -/
theorem exists_iff_admits (kind : Fin 4) (value : Option Bytes) :
    (∃ cell : Cell, cell.content = value ∧ cell.kind = kind) ↔ Admits kind value := by
  constructor
  · rintro ⟨cell, rfl, rfl⟩
    cases cell with
    | absent => rfl
    | four data length => exact ⟨by rw [length]; decide, .inl ⟨rfl, length⟩⟩
    | eight data length => exact ⟨by rw [length]; decide, .inr (.inl ⟨rfl, length⟩)⟩
    | sized data fill fits filled => exact ⟨fits, .inr (.inr rfl)⟩
  · intro admitted
    cases value with
    | none => exact ⟨absent, rfl, admitted.symm⟩
    | some data =>
      obtain ⟨fits, ⟨rfl, length⟩ | ⟨rfl, length⟩ | rfl⟩ := admitted
      · exact ⟨four data length, rfl, rfl⟩
      · exact ⟨eight data length, rfl, rfl⟩
      · exact ⟨sized data _ fits (length_zerosBehind _), rfl, rfl⟩

/-- Cells can be made of values and classes exactly when each class admits its value. -/
theorem exists_cells_iff (kinds : List (Fin 4)) (row : RawRow) :
    (∃ cells : List Cell, cells.map content = row ∧ cells.map kind = kinds) ↔
      List.Forall₂ Admits kinds row := by
  constructor
  · rintro ⟨cells, rfl, rfl⟩
    induction cells with
    | nil => exact .nil
    | cons cell rest ih => exact .cons ((exists_iff_admits _ _).mp ⟨cell, rfl, rfl⟩) ih
  · intro admitted
    induction admitted with
    | nil => exact ⟨[], rfl, rfl⟩
    | cons first _ ih =>
      obtain ⟨cell, rfl, rfl⟩ := (exists_iff_admits _ _).mpr first
      obtain ⟨cells, rfl, rfl⟩ := ih
      exact ⟨cell :: cells, rfl, rfl⟩

end Cell

/-- The classes of a row: those of its cells, and behind the last column what `spare` says. -/
def kinds (cells : List Cell) (spare : Nat → Fin 4) (column : Nat) : UInt8 :=
  ((cells[column]?).elim (spare column) Cell.kind).val.toUInt8

/-- The bytes of a row of cells. -/
def rowBytes (order : ByteOrder) (header : Bytes) (cells : List Cell) (spare : Nat → Fin 4) :
    Bytes :=
  header ++ (region (kinds cells spare) cells.length ++ cells.flatMap (Cell.bytes order))

/-- The class of a cell is found in the class region. -/
theorem classOf_region_kinds {cells : List Cell} (spare : Nat → Fin 4) {column : Nat} {cell : Cell}
    (found : cells[column]? = some cell) :
    classOf (region (kinds cells spare) cells.length) column = cell.kind.val.toUInt8 := by
  have inside : column < cells.length := (List.getElem?_eq_some_iff.mp found).1
  have narrow : ∀ column, ∃ kind : Fin 4, kinds cells spare column = kind.val.toUInt8 :=
    fun _ => ⟨_, rfl⟩
  rw [classOf_region narrow inside, kinds, found]
  rfl

/-- The values of a row under classes of the sender's choice. Classes admit the values exactly when
there are cells with these values and these classes. Such cells may stand behind any header, with
anything in the class region behind the last column and in the gaps between the values. They are
read as the values of the row, and the reader stops exactly where the row ends. -/
theorem read_rowBytes (order : ByteOrder) (header : Bytes) (five : header.length = headerSize)
    (row : RawRow) (spare : Nat → Fin 4) (suffix : Bytes) :
    (∀ kinds : List (Fin 4), List.Forall₂ Admits kinds row ↔
      ∃ cells : List Cell, cells.map Cell.content = row ∧ cells.map Cell.kind = kinds) ∧
    ∀ cells : List Cell, cells.map Cell.content = row →
      read order row.length (rowBytes order header cells spare ++ suffix) = .ok row suffix := by
  constructor
  · intro kinds
    exact (Cell.exists_cells_iff kinds row).symm
  · rintro cells rfl
    have sent : Entries order (region (kinds cells spare) cells.length) 0
        (cells.map Cell.content) (cells.flatMap (Cell.bytes order)) := by
      apply entries_of_forall
      intro column cell found
      rw [Nat.zero_add, classOf_region_kinds spare found]
      exact cell.entry_bytes order
    have long : (region (kinds cells spare) cells.length).length =
        classLength (cells.map Cell.content).length := by
      rw [length_region, List.length_map]
    exact read_finds five long sent suffix

/-- Four values under different classes, of which the third leaves a gap of three bytes. -/
theorem read_rowBytes_mixed :
    read .little 4 ([1, 2, 3, 4, 5] ++ [0xB1, 0xFF, 0xFF] ++ [5, 0, 0, 0] ++
        [3, 0, 97, 98, 99, 0xEE, 0xEE, 0xEE] ++ [9, 0, 0, 0, 0, 0, 0, 0] ++ [7]) =
      .ok [some [5, 0, 0, 0], none, some [97, 98, 99], some [9, 0, 0, 0, 0, 0, 0, 0]] [7] := by
  let cells : List Cell := [.four [5, 0, 0, 0] rfl, .absent,
    .sized [97, 98, 99] [0xEE, 0xEE, 0xEE] (by decide) rfl, .eight [9, 0, 0, 0, 0, 0, 0, 0] rfl]
  have classes : region (kinds cells fun _ => 3) cells.length = [0xB1, 0xFF, 0xFF] := by decide
  have found := (read_rowBytes .little [1, 2, 3, 4, 5] rfl (cells.map Cell.content)
    (fun _ => 3) [7]).2 cells rfl
  rw [rowBytes, classes] at found
  exact found

end SqlWire.PackedRow
