import SqlWire.Response.Outputs

/-!
# Answers to statements

The answer to an execute request names the statement the server now holds and says what came of it:
a count of affected rows, a cursor with its first batch, or the outputs of a call. The answer to a
prepare request names the statement and the types of its parameters.
-/
namespace SqlWire

/-- What came of a statement. -/
inductive Outcome where
  /-- Rows were changed. -/
  | update (affected : UInt32)
  /-- A cursor stands open, and its first batch of rows. -/
  | query (cursor : UInt64) (mode : UInt32) (batch : RowBatch)
  /-- A call ended. -/
  | call (outputs : Outputs)
  deriving DecidableEq

/-- What came of a statement, for the outputs that were declared. -/
def Outcome.read (codec : Codec) (ordinals : List Nat) : Reader Outcome := do
  let kind ← Reader.u8
  Reader.skip 3
  if kind = 0 then
    let affected ← Reader.u32 codec.order
    pure (.update affected)
  else if kind = 1 then
    let cursor ← Reader.u64 codec.order
    let mode ← Reader.u32 codec.order
    let batch ← RowBatch.read codec
    pure (.query cursor mode batch)
  else if kind = 2 then
    let outputs ← Outputs.read codec ordinals
    pure (.call outputs)
  else Reader.fail (.protocol (.resultKind kind))

/-- The answer to an execute request. -/
structure ExecuteResponse where
  /-- The statement that the server holds. -/
  statement : UInt32
  /-- What came of it. -/
  outcome : Outcome
  deriving DecidableEq

/-- The answer to an execute request. -/
def ExecuteResponse.read (codec : Codec) (ordinals : List Nat) : Reader ExecuteResponse := do
  let statement ← Reader.u32 codec.order
  let outcome ← Outcome.read codec ordinals
  pure ⟨statement, outcome⟩

/-- The answer to a prepare request. -/
structure DescribeResponse where
  /-- The statement that the server holds. -/
  statement : UInt32
  /-- The types of its parameters. -/
  types : List WireType
  deriving DecidableEq

/-- The answer to a prepare request. -/
def DescribeResponse.read (order : ByteOrder) : Reader DescribeResponse := do
  let statement ← Reader.u32 order
  let count ← Reader.u16 order
  Reader.skip 2
  let types ← Reader.replicate Reader.wireType count.toNat
  Reader.skip (padding count.toNat)
  pure ⟨statement, types⟩

end SqlWire
