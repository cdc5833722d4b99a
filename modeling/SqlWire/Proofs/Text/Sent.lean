import SqlWire.Connection
import SqlWire.Proofs.Frame
import SqlWire.Proofs.Reader
import SqlWire.Proofs.Text.Gbk
import SqlWire.Proofs.Text.Utf8

/-!
# Text that a session sends

Text is sent as the text of a statement or as the argument of a parameter, and either way it is
written without an error. What the bytes of its field mean is the text itself in UTF-8. In GBK that
is so exactly when every character has a code of its own; otherwise the server is sent another text
(`text_sent_comes_back_iff`).
-/
namespace SqlWire

open Reader (Finds)

namespace Charset

/-- What a character is read as that was written. -/
def readBack : Charset → Char → List Char
  | .utf8, c => [c]
  | .gbk, c => Gbk.readBack c

/-- Whether a character is written so that it is read as itself. -/
def Keeps : Charset → Char → Prop
  | .utf8, _ => True
  | .gbk, c => Gbk.Kept c

/-- Text that was written is read as what its bytes mean, character by character. -/
theorem decode_encode (charset : Charset) (text : String) :
    charset.decode (charset.encode text) =
      String.ofList (text.toList.flatMap charset.readBack) := by
  cases charset with
  | utf8 =>
    have same : text.toList.flatMap utf8.readBack = text.toList := List.flatMap_singleton' _
    rw [same, String.ofList_toList]
    exact Utf8.decode_encode text
  | gbk => exact Gbk.decode_encode text

/-- A text is read as it was written exactly when each of its characters is kept. -/
theorem decode_encode_eq_iff {charset : Charset} {text : String} :
    charset.decode (charset.encode text) = text ↔ ∀ c ∈ text.toList, charset.Keeps c := by
  cases charset with
  | utf8 => exact ⟨fun _ _ _ => trivial, fun _ => Utf8.decode_encode text⟩
  | gbk => exact Gbk.decode_encode_eq_iff

end Charset

namespace Connection

/-- Text that is sent on a connection. As an argument of any type of text and as the text of a
statement that is prepared or executed it is written without an error; it is put in a field; and the
bytes of the field mean the text itself exactly when the character set keeps each of its characters.
Otherwise they mean what is read for each character in turn. -/
theorem text_sent_comes_back_iff (connection : Connection) (text : String) :
    let codec := connection.codec
    let content := codec.charset.encode text
    (∀ type, type = .char ∨ type = .varchar ∨ type = .text →
      (Argument.text text).encode codec type = .ok (codec.order.field content)) ∧
    (∀ version count, ∃ header : Bytes, header.length = Header.byteSize ∧
      (Request.prepare (connection.session.charset.encode text)).encode codec.order version count =
        .ok (header ++ (codec.order.u32 newStatement ++ codec.order.field content))) ∧
    (∀ parameters : ParameterList, parameters.slots.length ≤ maxParameters →
      ∀ version count, ∃ header rest : Bytes, header.length = Header.byteSize ∧
        (connection.executeRequest text parameters).encode codec.order version count =
          .ok (header ++ (codec.order.u32 newStatement ++ codec.order.field content ++ rest))) ∧
    (content.length < UInt32.size →
      (Reader.field codec.order).Finds (codec.order.field content) content) ∧
    codec.decodeText content = String.ofList (text.toList.flatMap codec.charset.readBack) ∧
    (codec.decodeText content = text ↔ ∀ c ∈ text.toList, codec.charset.Keeps c) := by
  intro codec content
  refine ⟨?_, ?_, ?_, Finds.field codec.order, Charset.decode_encode _ text,
    Charset.decode_encode_eq_iff⟩
  · rintro type (rfl | rfl | rfl) <;> rfl
  · intro version count
    have fits : (Request.prepare content).Fits := trivial
    exact ⟨_, Header.length_bytes codec.order _ 0,
      Request.encode_of_fits fits codec.order version count⟩
  · intro parameters counted version count
    let wanted := connection.executeRequest text parameters
    have fits : wanted.Fits := counted
    let rest := codec.order.u32 connection.params.fetchSize ++
      (codec.order.u16 (UInt16.ofNat parameters.slots.length) ++ (codec.order.u16 0 ++
        (parameters.slots.flatMap Request.descriptor ++ parameters.slots.flatMap Slot.encoded)))
    have body : wanted.body codec.order =
        codec.order.u32 newStatement ++ codec.order.field content ++ rest := by
      simp only [wanted, rest, executeRequest, Request.body, List.append_assoc]
      rfl
    refine ⟨(wanted.header codec.order version count).bytes codec.order 0, rest,
      Header.length_bytes codec.order _ 0, ?_⟩
    rw [← body]
    exact Request.encode_of_fits fits codec.order version count

/-- A face has no code in GBK: bound as text it is written without an error, and the field means the
text of a reference to it. -/
theorem face_sent_as_reference :
    (Argument.text "😀").encode ⟨.little, .gbk⟩ .varchar =
      .ok (ByteOrder.little.field (Charset.gbk.encode "😀")) ∧
    (⟨.little, .gbk⟩ : Codec).decodeText (Charset.gbk.encode "😀") = "&#128512;" ∧
    "&#128512;" ≠ "😀" := by
  have single : "😀".toList = ['😀'] := String.toList_ofList
  have read : Gbk.readBack '😀' = ['&', '#', '1', '2', '8', '5', '1', '2', ';'] := by decide +kernel
  refine ⟨rfl, ?_, by decide⟩
  rw [Codec.decodeText, Charset.decode_encode, single]
  simp only [Charset.readBack, List.flatMap_cons, List.flatMap_nil, read]
  rfl

end Connection
end SqlWire
