import SqlWire.Proofs.Reader
import SqlWire.Response.Execute

/-!
# Answers that are cut short

Nothing marks the end of an answer to a statement: how far it goes is told by the counts, classes
and lengths in it. A reader goes by them alone, so it takes the same bytes whatever follows them,
and of an answer of which the end is missing it says that too few bytes are left
(`answers_delimited`). A part of an answer is never taken for another one.
-/
namespace SqlWire

namespace Reader

variable {α β : Type}

/-- Whether a reader takes exactly these bytes, whatever follows them, gives this value, and says of
any part of them that too few bytes are left. -/
structure Delimits (reader : Reader α) (taken : Bytes) (value : α) : Prop where
  /-- These bytes are enough. -/
  finds : reader.Finds taken value
  /-- Fewer are too few. -/
  cut : ∀ front back, taken = front ++ back → back ≠ [] →
    ∃ needed available after, available < needed ∧
      reader front = .error (.tooShort needed available) after

/-- Whether a reader finds out from the bytes that it takes where they end. -/
def Delimited (reader : Reader α) : Prop :=
  ∀ input value rest, reader input = .ok value rest →
    ∃ taken, input = taken ++ rest ∧ reader.Delimits taken value

/-- What two readers take one after the other. Where the bytes of both are cut, either those of the
first are, or those of the second behind all of the first. -/
theorem Delimits.bind {first : Reader α} {next : α → Reader β} {front back : Bytes} {value : α}
    {result : β} (head : first.Delimits front value) (tail : (next value).Delimits back result) :
    (first >>= next).Delimits (front ++ back) result where
  finds := head.finds.bind tail.finds
  cut := by
    have behind : ∀ kept lost, back = kept ++ lost → lost ≠ [] →
        ∃ needed available after, available < needed ∧
          (first >>= next) (front ++ kept) = .error (.tooShort needed available) after := by
      intro kept lost split missing
      obtain ⟨needed, available, after, few, short⟩ := tail.cut kept lost split missing
      exact ⟨needed, available, after, few, (Action.bind_of_ok (head.finds kept)).trans short⟩
    intro kept lost split missing
    obtain ⟨more, rfl, rest⟩ | ⟨more, rfl, rest⟩ := List.append_eq_append_iff.mp split
    · exact behind more lost rest missing
    · cases more with
      | nil =>
        obtain rfl : lost = back := rest
        simpa only [List.append_nil] using behind [] lost rfl missing
      | cons byte more =>
        obtain ⟨needed, available, after, few, short⟩ := head.cut kept (byte :: more) rfl nofun
        exact ⟨needed, available, after, few, Action.bind_of_error short⟩

namespace Delimited

/-- A value given back takes no bytes. -/
theorem pure (value : α) : Delimited (Pure.pure value) := by
  intro input result rest done
  obtain ⟨rfl, rfl⟩ := Action.pure_eq_ok.mp done
  refine ⟨[], rfl, .pure value, ?_⟩
  intro front back split missing
  exact absurd (List.append_eq_nil_iff.mp split.symm).2 missing

/-- A refusal takes no bytes. -/
theorem fail (error : Error) : Delimited (fail error : Reader α) := nofun

/-- Two readers one after the other. -/
theorem bind {first : Reader α} {next : α → Reader β} (head : Delimited first)
    (tail : ∀ value, Delimited (next value)) : Delimited (first >>= next) := by
  intro input result rest done
  obtain ⟨value, middle, begun, ended⟩ := Action.bind_eq_ok.mp done
  obtain ⟨front, rfl, delimits⟩ := head input value middle begun
  obtain ⟨back, rfl, delimited⟩ := tail value middle result rest ended
  exact ⟨front ++ back, (List.append_assoc front back rest).symm, delimits.bind delimited⟩

/-- A reader that makes something of what another reads. -/
theorem map {reader : Reader α} (make : α → β) (delimited : Delimited reader) :
    Delimited (make <$> reader) := by
  rw [map_eq_pure_bind]
  exact delimited.bind fun value => pure (make value)

/-- A number of bytes. -/
theorem take (count : Nat) : Delimited (take count) := by
  intro input word rest done
  obtain ⟨rfl, length⟩ := take_eq_ok.mp done
  refine ⟨word, rfl, .take length, ?_⟩
  rintro front back rfl missing
  have few : front.length < count := by
    have some := List.length_pos_iff.mpr missing
    rw [List.length_append] at length
    omega
  exact ⟨count, front.length, front, few, take_eq_error.mpr ⟨few, rfl, rfl⟩⟩

/-- A number of bytes passed over. -/
theorem skip (count : Nat) : Delimited (skip count) := (take count).bind fun _ => pure ()

/-- One byte. -/
theorem u8 : Delimited u8 := (take 1).bind fun _ => pure _

variable (order : ByteOrder)

/-- A 16-bit word. -/
theorem u16 : Delimited (u16 order) := (take 2).bind fun _ => pure _

/-- A 32-bit word. -/
theorem u32 : Delimited (u32 order) := (take 4).bind fun _ => pure _

/-- A 64-bit word. -/
theorem u64 : Delimited (u64 order) := (take 8).bind fun _ => pure _

/-- A padded field, with its filling. -/
theorem field : Delimited (field order) :=
  (u32 order).bind fun _ => (take _).bind fun _ => (skip _).bind fun _ => pure _

/-- The result of a computation that takes no bytes. -/
theorem ofExcept (result : Except Error α) : Delimited (ofExcept result) := by
  cases result with
  | ok value => exact pure value
  | error error => exact fail error

/-- The code of a wire type. -/
theorem wireType : Delimited wireType := u8.bind fun _ => ofExcept _

/-- Items one after the other. -/
theorem replicate {item : Reader α} (each : Delimited item) (count : Nat) :
    Delimited (replicate item count) := by
  induction count with
  | zero => exact pure []
  | succ count ih => exact each.bind fun _ => ih.bind fun _ => pure _

end Delimited
end Reader

open Reader (Delimited)

namespace PackedRow

/-- A value of any class. -/
theorem delimited_value (order : ByteOrder) (kind : UInt8) : Delimited (value order kind) := by
  unfold value
  split
  · exact .pure none
  split
  · exact (Delimited.take 4).map some
  split
  · exact (Delimited.take 8).map some
  · exact (Delimited.u16 order).bind fun _ => (Delimited.take _).bind fun _ =>
      (Delimited.skip _).bind fun _ => .pure _

/-- The values of some columns. -/
theorem delimited_values (order : ByteOrder) (classes : Bytes) (column count : Nat) :
    Delimited (values order classes column count) := by
  induction count generalizing column with
  | zero => exact .pure []
  | succ count ih =>
    exact (delimited_value order _).bind fun _ => (ih (column + 1)).bind fun _ => .pure _

/-- A row. -/
theorem delimited_read (order : ByteOrder) (columns : Nat) : Delimited (read order columns) := by
  refine (Delimited.skip _).bind fun _ => (Delimited.take _).bind fun classes => ?_
  split
  · exact .fail _
  · exact delimited_values order classes 0 columns

end PackedRow

/-- The description of a column. -/
theorem Column.delimited_read (codec : Codec) : Delimited (Column.read codec) :=
  (Delimited.field _).bind fun _ => Delimited.wireType.bind fun _ => Delimited.u8.bind fun _ =>
    Delimited.u8.bind fun _ => Delimited.u8.bind fun _ => (Delimited.u16 _).bind fun _ =>
      (Delimited.skip 2).bind fun _ => .pure _

/-- A batch of rows. -/
theorem RowBatch.delimited_read (codec : Codec) : Delimited (RowBatch.read codec) :=
  (Delimited.u16 _).bind fun _ => (Delimited.skip 2).bind fun _ =>
    ((Column.delimited_read codec).replicate _).bind fun _ => (Delimited.u32 _).bind fun _ =>
      (Delimited.u32 _).bind fun _ => ((PackedRow.delimited_read _ _).replicate _).bind fun _ =>
        .pure _

/-- The description of an output. -/
theorem OutputField.delimited_read (codec : Codec) : Delimited (OutputField.read codec) :=
  (Delimited.take _).bind fun _ => (Delimited.take 2).bind fun _ => Delimited.u8.bind fun _ =>
    Delimited.wireType.bind fun _ => .pure _

variable (codec : Codec) (ordinals : List Nat)

/-- The outputs of a call. -/
theorem Outputs.delimited_read : Delimited (Outputs.read codec ordinals) := by
  refine (Delimited.u32 _).bind fun count => ?_
  split
  · exact .fail _
  · exact ((OutputField.delimited_read codec).replicate _).bind fun _ =>
      (PackedRow.delimited_read _ _).bind fun _ => .pure _

/-- What came of a statement. -/
theorem Outcome.delimited_read : Delimited (Outcome.read codec ordinals) := by
  refine Delimited.u8.bind fun kind => (Delimited.skip 3).bind fun _ => ?_
  split
  · exact (Delimited.u32 _).bind fun _ => .pure _
  split
  · exact (Delimited.u64 _).bind fun _ => (Delimited.u32 _).bind fun _ =>
      (RowBatch.delimited_read codec).bind fun _ => .pure _
  split
  · exact (Outputs.delimited_read codec ordinals).bind fun _ => .pure _
  · exact .fail _

/-- The answer to an execute request. -/
theorem ExecuteResponse.delimited_read : Delimited (ExecuteResponse.read codec ordinals) :=
  (Delimited.u32 _).bind fun _ => (Outcome.delimited_read codec ordinals).bind fun _ => .pure _

/-- The answer to a prepare request. -/
theorem DescribeResponse.delimited_read (order : ByteOrder) :
    Delimited (DescribeResponse.read order) :=
  (Delimited.u32 _).bind fun _ => (Delimited.u16 _).bind fun _ => (Delimited.skip 2).bind fun _ =>
    (Delimited.wireType.replicate _).bind fun _ => (Delimited.skip _).bind fun _ => .pure _

/-- Batches of rows, outputs of a call, and answers to execute and prepare requests show where they
end. Where a reader accepts one at the front of some bytes, it accepts the same bytes with the same
value whatever follows them, and of any part of them that lacks the end it says that too few bytes
are left. -/
theorem answers_delimited :
    Delimited (RowBatch.read codec) ∧ Delimited (Outputs.read codec ordinals) ∧
      Delimited (ExecuteResponse.read codec ordinals) ∧
      Delimited (DescribeResponse.read codec.order) :=
  ⟨RowBatch.delimited_read codec, Outputs.delimited_read codec ordinals,
    ExecuteResponse.delimited_read codec ordinals, DescribeResponse.delimited_read codec.order⟩

/-- A statement with one parameter of type INTEGER is described in twelve bytes. Of eleven the
reader says that three bytes of filling were needed and two are left. -/
example :
    let described : Bytes := [0, 0, 0, 5, 0, 1, 0, 0, 1, 0, 0, 0]
    DescribeResponse.read .big described = .ok ⟨5, [.integer]⟩ [] ∧
      DescribeResponse.read .big described.dropLast = .error (.tooShort 3 2) [0, 0] :=
  ⟨rfl, rfl⟩

end SqlWire
