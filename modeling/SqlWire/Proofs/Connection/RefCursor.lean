import SqlWire.Proofs.Connection.Custody
import SqlWire.Proofs.Cursor.FetchAll
import SqlWire.Proofs.Parameter.Declared
import SqlWire.Proofs.Response.Outputs

/-!
# Cursors that a call gives out

An output of a call may refer to a cursor of the server. The number that the caller gets for it is
the one that a cursor opened on it asks for, in every fetch and to the byte
(`refCursor_fetched_by_number`). It is the number that the server sent, unless that number took four
bytes and had the top bit of them.
-/
namespace SqlWire

namespace Request

/-- The bytes of a frame in which a request for more rows names its cursor: behind the header and
the statement. -/
def cursorField (frame : Bytes) : Bytes := (frame.drop (Header.byteSize + 4)).take 8

/-- A request for more rows names its cursor in eight bytes. -/
theorem cursorField_encode {statement mode fetchSize : UInt32} {id : UInt64} {order : ByteOrder}
    {version : UInt8} {count : UInt32} {frame : Bytes}
    (encoded : (Request.fetch statement id mode fetchSize).encode order version count =
      .ok frame) : cursorField frame = order.u64 id := by
  rw [encode_of_fits (fits_of_encode encoded)] at encoded
  cases encoded
  have front : (((Request.fetch statement id mode fetchSize).header order version count).bytes
      order 0 ++ order.u32 statement).length = Header.byteSize + 4 := by simp
  rw [cursorField, Request.frame, body, List.append_assoc, List.append_assoc, ← List.append_assoc,
    List.drop_left' front, List.take_left' (order.length_u64 id)]

end Request

namespace Connection

open Channel Cursor

/-- The answer to a call is settled as its outputs. -/
theorem settle_sentCall (connection : Connection) (call : SentCall connection.codec.order)
    {parameters : ParameterList} (declared : call.fields.length = parameters.outputs.length)
    (suffix : Bytes) :
    settle parameters (call.bytes ++ suffix) connection =
      .ok (.call call.statement (call.outputs connection.codec parameters.outputs))
        connection := by
  have named : Reader.u32 connection.codec.order (call.bytes ++ suffix) =
      .ok call.statement (call.body ++ suffix) := by
    rw [SentCall.bytes, List.append_assoc]
    exact Reader.Finds.u32 connection.codec.order call.statement _
  rw [settle, Action.bind_of_ok (Action.get_apply connection)]
  simp only [named, call.finds_outcome declared suffix]
  rfl

/-- A fetch after which the connection is usable sent the request for its rows, behind those that
free what was left. -/
theorem sent_of_fetch {wanted : FetchRequest} {connection : Connection}
    (usable : (Action.last (fetch wanted connection)).Usable) :
    connection.channel.Sent (Action.last (fetch wanted connection)).channel
      (connection.orphans.map Request.free ++
        [.fetch wanted.statement wanted.cursor wanted.mode wanted.fetchSize]) := by
  obtain ⟨frees, packet, channel, freed, answered⟩ := request_of_usable usable
  have given := request_of_answered freed answered
  have reached : (Action.last (fetch wanted connection)).channel = channel := by
    rw [fetch, Action.bind_congr given]
    -- Behind the answer nothing but its reading is left.
    apply Action.last_bind (motive := fun after : Connection => after.channel = channel)
    · intro stop after stopped
      have same := last_ofExcept (packet.check connection.version connection.codec)
        (connection.settled channel)
      rw [stopped] at same
      rw [show after = connection.settled channel from same]
      rfl
    · intro payload after checked
      rw [ofExcept_eq_ok checked, Action.bind_of_ok (Action.get_apply _), last_ofExcept]
      rfl
  rw [reached]
  exact answered.sent_behind freed

/-- The answer to a call, of which the output in some column refers to a cursor. The caller gets a
number for it, also when asking again, and a cursor opened on that number asks for it in every
fetch, whatever is asked of that cursor; on the wire the number stands in eight bytes. It is the
number that the server sent exactly when that took eight bytes, or four without their top bit. -/
theorem refCursor_fetched_by_number (connection : Connection) (count : Nat) (edits : List Edit)
    {parameters : ParameterList}
    (made : (ParameterList.ofCount count connection.codec).edited edits = parameters)
    (call : SentCall connection.codec.order) (suffix : Bytes) {column ordinal : Nat}
    {field : SentField} {id : UInt64} {word : Bytes}
    (declared : call.fields.length = parameters.outputs.length)
    (placed : parameters.outputs[column]? = some ordinal)
    (described : call.fields[column]? = some field) (typed : field.type = .refCursor)
    (held : call.values[column]? = some (some word))
    (sent : CursorWord connection.codec.order id word) :
    ∃ outputs number,
      settle parameters (call.bytes ++ suffix) connection =
        .ok (.call call.statement outputs) connection ∧
      (∀ noted, Outputs.getCursor ordinal { outputs with wasNull := noted } =
        .ok (some number) outputs) ∧
      (number = id ↔ word.length = 8 ∨ id.toNat < 0x80000000) ∧
      number.toNat =
        id.toNat + (if word.length = 4 ∧ 0x80000000 ≤ id.toNat then 0xFFFFFFFF00000000 else 0) ∧
      (∀ (σ : Type) (source : Source σ) (store : σ) (demands : List Demand) request outcome,
        let opened := connection.openRefCursor call.statement number
        .fetched request outcome ∈
            ((History.ofHeld (store, opened)).serveAll source demands).contacts →
          request.statement = call.statement ∧ request.cursor = number ∧
            request.mode = refMode) ∧
      (∀ (request : FetchRequest) (later : Connection), request.cursor = number →
        (Action.last (fetch request later)).Usable →
          later.channel.Sent (Action.last (fetch request later)).channel
            (later.orphans.map Request.free ++
              [.fetch request.statement number request.mode request.fetchSize])) ∧
      ∀ statement mode fetchSize order version requestCount frame,
        (Request.fetch statement number mode fetchSize).encode order version requestCount =
          .ok frame → Request.cursorField frame = order.u64 number := by
  have distinct : parameters.outputs.Nodup :=
    made ▸ ParameterList.nodup_outputs_edited count connection.codec edits
  refine ⟨call.outputs connection.codec parameters.outputs, numberOf id word,
    connection.settle_sentCall call declared suffix, ?_, numberOf_eq_iff sent,
    toNat_numberOf sent, ?_, ?_, ?_⟩
  · intro noted
    have columnOf : (call.outputs connection.codec parameters.outputs).columnOf ordinal =
        .ok column := by
      simp only [Outputs.columnOf, SentCall.outputs, Outputs.lastPlace?_of_nodup distinct placed]
    have typeAt : (call.outputs connection.codec parameters.outputs).typeAt column =
        .refCursor := by
      simp [Outputs.typeAt, SentCall.outputs, described, SentField.received, typed]
    have rawAt : (call.outputs connection.codec parameters.outputs).rawAt column = some word := by
      simp [Outputs.rawAt, SentCall.outputs, held]
    exact Outputs.getCursor_of_word columnOf typeAt rawAt sent
  · intro σ source store demands request outcome opened fetched
    obtain ⟨contacts, logged, conduct⟩ :=
      (History.ofHeld (store, opened)).conduct_serveAll source demands
    rw [logged] at fetched
    have same := conduct.fetched request outcome fetched
    exact ⟨same.statement_eq, same.cursor_eq, same.mode_eq⟩
  · intro request later same usable
    rw [← same]
    exact sent_of_fetch usable
  · intro statement mode fetchSize order version requestCount frame encoded
    exact Request.cursorField_encode encoded

/-- The descriptions of a whole number and a cursor. -/
def describedPair : List SentField :=
  [⟨List.replicate 68 0, [0, 0], 2, .integer, rfl, rfl⟩,
    ⟨List.replicate 68 0, [0, 0], 2, .refCursor, rfl, rfl⟩]

/-- The answer to a call that gives 7 and a cursor whose number takes four bytes. -/
def narrowPair : SentCall .big where
  statement := 5
  reserved := [0, 0, 0]
  fields := describedPair
  values := [some [0, 0, 0, 7], some [128, 0, 0, 0]]
  row := [0, 0, 0, 2, 0] ++ ([5, 0, 0] ++ ([0, 0, 0, 7] ++ ([128, 0, 0, 0] ++ [])))
  three := rfl
  counted := by decide
  wide := rfl
  packed :=
    ⟨_, [5, 0, 0], _, rfl, rfl, .cons (.four rfl) (.cons (.four rfl) (.nil 2)), rfl⟩

/-- The answer to a call that gives 7 and a cursor whose number takes eight bytes. -/
def widePair : SentCall .big where
  statement := 5
  reserved := [0, 0, 0]
  fields := describedPair
  values := [some [0, 0, 0, 7], some [128, 0, 0, 0, 0, 0, 0, 9]]
  row := [0, 0, 0, 2, 0] ++ ([9, 0, 0] ++ ([0, 0, 0, 7] ++ ([128, 0, 0, 0, 0, 0, 0, 9] ++ [])))
  three := rfl
  counted := by decide
  wide := rfl
  packed :=
    ⟨_, [9, 0, 0], _, rfl, rfl, .cons (.four rfl) (.cons (.eight rfl) (.nil 2)), rfl⟩

/-- Parameters of which both are declared outputs. -/
def declaredPair : ParameterList :=
  (ParameterList.ofCount 2 ⟨.big, .utf8⟩).edited
    [.bindOutput 1 .integer, .bindOutput 2 .refCursor]

/-- The ordinals of both. -/
theorem outputs_declaredPair : declaredPair.outputs = [1, 2] := by
  have ascending : [1, 2].Pairwise fun first second : Nat => decide (first ≤ second) = true := by
    decide
  exact List.mergeSort_of_pairwise ascending

/-- A cursor whose number has the top bit of four bytes is given out under another number, and that
number is what a fetch of its rows names. -/
theorem refCursor_top_bit_changes_number :
    CursorWord .big 0x80000000 [128, 0, 0, 0] ∧ ∃ outputs,
      settle declaredPair narrowPair.bytes (facing []) =
        .ok (.call 5 outputs) (facing []) ∧
      outputs.getCursor 2 = .ok (some 0xFFFFFFFF80000000) outputs ∧
      ((facing []).openRefCursor 5 0xFFFFFFFF80000000).fetchRequest =
        ⟨5, 0xFFFFFFFF80000000, refMode, 100⟩ ∧
      ∃ frame,
        (Request.fetch 5 0xFFFFFFFF80000000 refMode 100).encode .big 23 1 = .ok frame ∧
        Request.cursorField frame = [255, 255, 255, 255, 128, 0, 0, 0] := by
  have declared : narrowPair.fields.length = declaredPair.outputs.length := by
    rw [outputs_declaredPair]
    rfl
  have settled := (facing []).settle_sentCall narrowPair declared []
  have sent : CursorWord .big 0x80000000 [128, 0, 0, 0] := .four (by decide)
  refine ⟨sent, _, settled, ?_, rfl, _, rfl, by decide⟩
  rw [outputs_declaredPair]
  have columnOf : (narrowPair.outputs ⟨.big, .utf8⟩ [1, 2]).columnOf 2 = .ok 1 := rfl
  exact Outputs.getCursor_of_word columnOf rfl rfl sent

/-- A cursor whose number takes eight bytes is given out under that number. -/
theorem refCursor_fetched_by_number_wide :
    ∃ outputs,
      settle declaredPair widePair.bytes (facing []) = .ok (.call 5 outputs) (facing []) ∧
      outputs.getCursor 2 = .ok (some 0x8000000000000009) outputs := by
  have declared : widePair.fields.length = declaredPair.outputs.length := by
    rw [outputs_declaredPair]
    rfl
  have placed : declaredPair.outputs[1]? = some 2 := by
    rw [outputs_declaredPair]
    rfl
  have sent : CursorWord .big 0x8000000000000009 [128, 0, 0, 0, 0, 0, 0, 9] := .eight
  have made : (ParameterList.ofCount 2 (facing []).codec).edited
      [.bindOutput 1 .integer, .bindOutput 2 .refCursor] = declaredPair := rfl
  obtain ⟨outputs, number, settled, given, same, _⟩ :=
    refCursor_fetched_by_number (facing []) 2 _ made widePair [] declared placed rfl rfl rfl sent
  rw [same.mpr (.inl rfl)] at given
  rw [List.append_nil] at settled
  exact ⟨outputs, settled, given outputs.wasNull⟩

end Connection
end SqlWire
