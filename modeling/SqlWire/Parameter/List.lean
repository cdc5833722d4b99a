import SqlWire.Parameter.Encode

/-!
# Parameters of a statement

A statement has a fixed number of parameters, counted from 1. Each may carry an argument, be
declared an output, or both. The bytes of an argument are made when it is bound, so that a fault
shows at once, and made anew when its type changes. An operation that fails leaves the list as it
was, but for `applyTypes`, which keeps the changes it made before it failed.
-/
namespace SqlWire

/-- Which ways a parameter goes. -/
structure Direction where
  /-- An argument was bound. -/
  input : Bool
  /-- An output was declared. -/
  output : Bool
  deriving DecidableEq, Repr

instance : Inhabited Direction := ⟨⟨false, false⟩⟩

/-- The directions as flags of a request. -/
def Direction.flags (direction : Direction) : UInt8 :=
  (if direction.input then 64 else 0) + (if direction.output then 128 else 0)

/-- One parameter. -/
structure Slot where
  /-- The argument. -/
  argument : Argument
  /-- The wire type. -/
  type : WireType
  /-- Which ways the parameter goes. -/
  direction : Direction
  /-- Whether an argument was bound or an output declared since the list was last cleared. -/
  bound : Bool
  /-- The bytes of the argument. -/
  encoded : Bytes
  deriving DecidableEq

namespace Slot

instance : Inhabited Slot := ⟨⟨.null, .unspecified, default, false, []⟩⟩

/-- The slot with an argument bound. -/
def bind (slot : Slot) (type : WireType) (argument : Argument) (encoded : Bytes) : Slot :=
  { argument, type, encoded, bound := true, direction := { slot.direction with input := true } }

/-- The slot declared an output. A type chosen for an argument stays. -/
def declare (slot : Slot) (type : SqlType) : Slot :=
  { slot with
    type := if slot.direction.input then slot.type else type.wireType
    bound := true
    direction := { slot.direction with output := true } }

/-- The slot without argument and type; the directions stay. -/
def clear (slot : Slot) : Slot :=
  { slot with argument := .null, type := .unspecified, bound := false, encoded := [] }

end Slot

/-- The parameters of one statement. -/
structure ParameterList where
  /-- The parameters in order. -/
  slots : List Slot
  /-- Ordinals declared as outputs, in the order of their first declaration. -/
  declared : List Nat
  /-- The codec that makes the bytes of arguments. -/
  codec : Codec
  deriving DecidableEq

namespace ParameterList

/-- A change of a parameter list that may fail. -/
abbrev Change := EStateM Error ParameterList Unit

/-- Parameters with nothing bound or declared. -/
def ofCount (count : Nat) (codec : Codec) : ParameterList :=
  ⟨List.replicate count default, [], codec⟩

/-- Number of parameters. -/
def size (list : ParameterList) : Nat := list.slots.length

/-- Whether there are no parameters. -/
def isEmpty (list : ParameterList) : Bool := list.slots.isEmpty

/-- The error for an ordinal that no parameter has. -/
def ordinalError (list : ParameterList) (ordinal : Nat) : Error :=
  .parameter (.ordinalRange ordinal list.size)

/-- The parameter with an ordinal. -/
def slot (list : ParameterList) (ordinal : Nat) : Except Error Slot :=
  if ordinal = 0 then .error (list.ordinalError ordinal)
  else match list.slots[ordinal - 1]? with
    | some slot => .ok slot
    | none => .error (list.ordinalError ordinal)

/-- The list with the parameter of an ordinal replaced. -/
def setSlot (list : ParameterList) (ordinal : Nat) (slot : Slot) : ParameterList :=
  { list with slots := list.slots.set (ordinal - 1) slot }

/-- A change that happens as a whole or not at all. -/
def attempt (change : ParameterList → Except Error ParameterList) : Change := fun list =>
  match change list with
  | .ok next => .ok () next
  | .error error => .error error list

/-- Bind an argument under a type. -/
def bindValue (ordinal : Nat) (type : WireType) (argument : Argument) : Change :=
  attempt fun list => do
    let slot ← list.slot ordinal
    let encoded ← argument.encode list.codec type
    .ok (list.setSlot ordinal (slot.bind type argument encoded))

/-- Bind null under a type. -/
def bindNull (ordinal : Nat) (type : WireType) : Change := bindValue ordinal type .null

/-- Declare an output. -/
def bindOutput (ordinal : Nat) (type : SqlType) : Change :=
  attempt fun list => do
    let slot ← list.slot ordinal
    let changed := list.setSlot ordinal (slot.declare type)
    .ok { changed with
      declared := if ordinal ∈ list.declared then list.declared else list.declared ++ [ordinal] }

/-- Give a parameter another type and make the bytes of its argument anew. -/
def retype (ordinal : Nat) (type : WireType) : Change :=
  attempt fun list => do
    let slot ← list.slot ordinal
    let encoded ← slot.argument.encode list.codec type
    .ok (list.setSlot ordinal { slot with type, encoded })

/-- Give each argument the type the server described, from an ordinal on. Parameters without
argument and those beyond the shorter list keep theirs. -/
def applyTypesFrom (ordinal : Nat) : List WireType → Change
  | [] => pure ()
  | type :: rest => do
    match (← get).slots[ordinal - 1]? with
    | none => pure ()
    | some slot =>
      if slot.direction.input ∧ slot.type ≠ type then retype ordinal type
      applyTypesFrom (ordinal + 1) rest

/-- Give each argument the type the server described. -/
def applyTypes (types : List WireType) : Change := applyTypesFrom 1 types

/-- Forget arguments and types; directions and declared outputs stay. -/
def clear (list : ParameterList) : ParameterList :=
  { list with slots := list.slots.map Slot.clear }

/-- Refuse a list with a parameter that was neither bound nor declared. -/
def checkAllBound (list : ParameterList) : Except Error Unit :=
  match list.slots.findIdx? (! ·.bound) with
  | some position => .error (.parameter (.unbound (position + 1)))
  | none => .ok ()

/-- Ordinals declared as outputs, in ascending order. -/
def outputs (list : ParameterList) : List Nat := list.declared.mergeSort (· ≤ ·)

/-- Whether the statement is a call with outputs. -/
def isCall (list : ParameterList) : Bool := ! list.declared.isEmpty

end ParameterList
end SqlWire
