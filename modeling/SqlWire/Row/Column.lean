import SqlWire.WireType

/-!
# Columns of a result

A column has a name and the type of its values. Names are found without regard to the case of ASCII
letters, the first match winning.
-/
namespace SqlWire

/-- One column of a result. -/
structure Column where
  /-- The name. -/
  name : String
  /-- The type of the values. -/
  type : WireType
  /-- Greatest size in bytes. -/
  size : UInt16
  /-- Declared precision. -/
  precision : UInt8
  /-- Declared scale. -/
  scale : UInt8
  /-- Whether values may be null. -/
  nullable : Bool
  deriving DecidableEq, Repr

/-- A column of which only name and type are known. -/
def Column.ofName (name : String) (type : WireType) : Column := ⟨name, type, 0, 0, 0, true⟩

/-- The columns of a result in order. -/
abbrev Columns := List Column

namespace Columns

/-- The names in order. -/
def names (columns : Columns) : List String := columns.map Column.name

/-- Whether two names are equal but for the case of ASCII letters. -/
def sameName (left right : String) : Bool :=
  left.toList.map Char.toLower == right.toList.map Char.toLower

/-- The index of the first column of a name. -/
def find? (columns : Columns) (name : String) : Option Nat :=
  columns.findIdx? fun column => sameName column.name name

end Columns
end SqlWire
