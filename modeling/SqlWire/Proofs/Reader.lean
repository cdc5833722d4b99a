import SqlWire.Row.Batch

/-!
# What a reader finds

A reader finds a value in some bytes when it takes exactly these bytes from the front of any input
and gives that value. Readers one after the other find their values in the bytes of all of them.
-/
namespace SqlWire

/-- Whether bytes close a text in front of them that ends at its first zero byte: there are none, or
the first of them is zero. -/
def Closing (tail : Bytes) : Prop := tail = [] ∨ ∃ garbage, tail = 0 :: garbage

/-- A text without zero bytes ends where the bytes that close it begin. -/
theorem takeWhile_append_of_closing {bytes tail : Bytes} (zeros : 0 ∉ bytes)
    (closing : Closing tail) : (bytes ++ tail).takeWhile (· != 0) = bytes := by
  have nonzero : ∀ byte ∈ bytes, (byte != 0) = true := by
    intro byte member
    have other : byte ≠ 0 := fun same => zeros (same ▸ member)
    simpa using other
  rw [List.takeWhile_append_of_pos nonzero]
  obtain rfl | ⟨garbage, rfl⟩ := closing
  · simp
  · simp

end SqlWire

namespace SqlWire.Reader

variable {α β : Type}

/-- Whether a reader takes exactly these bytes, whatever follows them, and gives this value. -/
def Finds (reader : Reader α) (bytes : Bytes) (value : α) : Prop :=
  ∀ suffix, reader (bytes ++ suffix) = .ok value suffix

namespace Finds

/-- A value given back needs no bytes. -/
theorem pure (value : α) : Finds (Pure.pure value) [] value := fun _ => rfl

/-- A reader whose second part depends on what the first finds. -/
theorem bind {first : Reader α} {next : α → Reader β} {front back : Bytes} {value : α}
    {result : β} (head : first.Finds front value) (tail : (next value).Finds back result) :
    (first >>= next).Finds (front ++ back) result := by
  intro suffix
  rw [List.append_assoc, Action.bind_of_ok (head _)]
  exact tail suffix

/-- A reader that makes something of what another finds. -/
theorem bind_pure {first : Reader α} {make : α → β} {bytes : Bytes} {value : α}
    (head : first.Finds bytes value) :
    (first >>= fun found => Pure.pure (make found)).Finds bytes (make value) := by
  have sealed : Finds (first >>= fun found => Pure.pure (make found)) (bytes ++ [])
      (make value) := bind head (pure (make value))
  rwa [List.append_nil] at sealed

/-- A reader that makes something of what another finds. -/
theorem map {first : Reader α} (make : α → β) {bytes : Bytes} {value : α}
    (head : first.Finds bytes value) : (make <$> first).Finds bytes (make value) := by
  rw [map_eq_pure_bind]
  exact head.bind_pure

/-- As many bytes as are asked for. -/
theorem take {bytes : Bytes} {count : Nat} (length : bytes.length = count) :
    (Reader.take count).Finds bytes bytes := fun _ => take_eq_ok.mpr ⟨rfl, length⟩

/-- As many bytes as are passed over. -/
theorem skip {bytes : Bytes} {count : Nat} (length : bytes.length = count) :
    (Reader.skip count).Finds bytes () := fun _ => skip_eq_ok.mpr ⟨bytes, rfl, length⟩

/-- One byte. -/
theorem u8 (byte : UInt8) : Reader.u8.Finds [byte] byte := fun _ => u8_eq_ok.mpr rfl

/-- The writing of a 16-bit word. -/
theorem u16 (order : ByteOrder) (word : UInt16) : (Reader.u16 order).Finds (order.u16 word) word :=
  fun _ => u16_eq_ok.mpr rfl

/-- The writing of a 32-bit word. -/
theorem u32 (order : ByteOrder) (word : UInt32) : (Reader.u32 order).Finds (order.u32 word) word :=
  fun _ => u32_eq_ok.mpr rfl

/-- The writing of a 64-bit word. -/
theorem u64 (order : ByteOrder) (word : UInt64) : (Reader.u64 order).Finds (order.u64 word) word :=
  fun _ => u64_eq_ok.mpr rfl

/-- The padded field of bytes whose length fits its word. -/
theorem field (order : ByteOrder) {data : Bytes} (fits : data.length < UInt32.size) :
    (Reader.field order).Finds (order.field data) data := fun _ =>
  field_eq_ok.mpr ⟨fits, _, List.length_replicate, rfl⟩

/-- The code of a wire type. -/
theorem wireType (type : WireType) : Reader.wireType.Finds [type.code] type := by
  have known : WireType.ofCode type.code = .ok type := by simp [WireType.ofCode]
  have given : (Reader.ofExcept (WireType.ofCode type.code)).Finds [] type := by
    rw [known]
    exact pure type
  exact (u8 type.code).bind given

/-- Items one after the other. -/
theorem replicate {item : Reader α} {bytes : β → Bytes} {value : β → α} {items : List β}
    (each : ∀ source ∈ items, item.Finds (bytes source) (value source)) :
    (Reader.replicate item items.length).Finds (items.flatMap bytes) (items.map value) := by
  induction items with
  | nil => exact pure []
  | cons first rest ih =>
    have head := each first List.mem_cons_self
    have tail := ih fun later member => each later (List.mem_cons_of_mem _ member)
    exact head.bind tail.bind_pure

/-- A reader for each item, one after the other. -/
theorem mapM {reader : β → Reader α} {bytes : β → Bytes} {value : β → α} {items : List β}
    (each : ∀ item ∈ items, (reader item).Finds (bytes item) (value item)) :
    Finds (items.mapM reader) (items.flatMap bytes) (items.map value) := by
  induction items with
  | nil => exact pure []
  | cons first rest ih =>
    have head := each first List.mem_cons_self
    have tail := ih fun later member => each later (List.mem_cons_of_mem _ member)
    rw [List.mapM_cons]
    exact head.bind tail.bind_pure

end Finds

/-- The code of a wire type is read exactly when it is at the front. -/
theorem wireType_eq_ok {type : WireType} {input rest : Bytes} :
    wireType input = .ok type rest ↔ input = type.code :: rest := by
  simp only [wireType, Action.bind_eq_ok, u8_eq_ok, ofExcept_eq_ok]
  constructor
  · rintro ⟨code, _, rfl, known, rfl⟩
    unfold WireType.ofCode at known
    split at known
    · rename_i found
      cases known
      rw [WireType.code_of_ofCode? found]
    · cases known
  · rintro rfl
    exact ⟨type.code, rest, rfl, by simp [WireType.ofCode], rfl⟩

/-- Items whose bytes are read exactly when they are at the front are read one after the other
exactly when the bytes of as many are. -/
theorem replicate_eq_ok {item : Reader α} (bytes : α → Bytes)
    (each : ∀ {value input rest}, item input = .ok value rest ↔ input = bytes value ++ rest)
    {count : Nat} {values : List α} {input rest : Bytes} :
    replicate item count input = .ok values rest ↔
      values.length = count ∧ input = values.flatMap bytes ++ rest := by
  induction count generalizing values input rest with
  | zero =>
    simp only [replicate, Action.pure_eq_ok]
    constructor
    · rintro ⟨rfl, rfl⟩
      exact ⟨rfl, rfl⟩
    · rintro ⟨none, rfl⟩
      rw [List.length_eq_zero_iff.mp none]
      exact ⟨rfl, rfl⟩
  | succ count ih =>
    simp only [replicate, Action.bind_eq_ok, each, ih, Action.pure_eq_ok]
    constructor
    · rintro ⟨first, _, rfl, others, _, ⟨length, rfl⟩, rfl, rfl⟩
      exact ⟨by rw [List.length_cons, length], by simp⟩
    · rintro ⟨length, rfl⟩
      obtain ⟨first, others, rfl⟩ := List.exists_cons_of_length_eq_add_one length
      exact ⟨first, _, by simp, others, rest, ⟨Nat.succ.inj length, rfl⟩, rfl, rfl⟩

/-- Wire types are read exactly when the codes of as many are at the front. -/
theorem wireTypes_eq_ok {count : Nat} {types : List WireType} {input rest : Bytes} :
    replicate wireType count input = .ok types rest ↔
      types.length = count ∧ input = types.map WireType.code ++ rest := by
  rw [List.map_eq_flatMap]
  exact replicate_eq_ok (fun type : WireType => [type.code]) wireType_eq_ok

/-- Items that are read one after the other are as many as were asked for, and the reader gave each
of them. -/
theorem of_replicate_eq_ok {item : Reader α} {count : Nat} {items : List α} {input rest : Bytes}
    (read : replicate item count input = .ok items rest) :
    items.length = count ∧ ∀ value ∈ items, ∃ before after, item before = .ok value after := by
  induction count generalizing items input with
  | zero =>
    obtain ⟨rfl, _⟩ := Action.pure_eq_ok.mp read
    exact ⟨rfl, by simp⟩
  | succ count ih =>
    obtain ⟨first, middle, head, read⟩ := Action.bind_eq_ok.mp read
    obtain ⟨others, _, tail, read⟩ := Action.bind_eq_ok.mp read
    obtain ⟨rfl, rfl⟩ := Action.pure_eq_ok.mp read
    obtain ⟨length, each⟩ := ih tail
    refine ⟨by rw [List.length_cons, length], ?_⟩
    intro value member
    rcases List.mem_cons.mp member with rfl | later
    · exact ⟨input, middle, head⟩
    · exact each value later

end SqlWire.Reader
