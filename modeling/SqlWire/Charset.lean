import SqlWire.Error
import SqlWire.Text.Gbk
import SqlWire.Text.Utf8

/-!
# Character sets of a session

The server announces by a flag in which character set a session sends text. Reading text never
fails: bytes that are not text become replacement characters. Nor does writing: in GBK a character
without a code becomes a decimal reference.
-/
namespace SqlWire

/-- A character set. -/
inductive Charset where
  /-- Unicode in bytes. -/
  | utf8
  /-- The Chinese national character set. -/
  | gbk
  deriving DecidableEq, Repr

namespace Charset

instance : Inhabited Charset := ⟨.utf8⟩

/-- The character set of a flag. -/
def ofFlag (flag : UInt32) : Except Error Charset :=
  if flag = 0 then .ok .utf8
  else if flag = 1 then .ok .gbk
  else .error (.connection (.unknownCharset flag))

/-- The flag of a character set. -/
def flag : Charset → UInt32
  | .utf8 => 0
  | .gbk => 1

/-- Only the flags of the character sets announce one. -/
theorem ofFlag_eq_ok {flag : UInt32} {charset : Charset} :
    ofFlag flag = .ok charset ↔ flag = charset.flag := by
  unfold ofFlag
  split
  · rename_i zero
    cases charset <;> simp [zero, Charset.flag]
  · rename_i nonzero
    split
    · rename_i one
      cases charset <;> simp [one, Charset.flag]
    · rename_i other
      cases charset <;> simp [nonzero, other, Charset.flag]

/-- Any other flag is refused. -/
theorem ofFlag_eq_error {flag : UInt32} {error : Error} (h : ofFlag flag = .error error) :
    error = .connection (.unknownCharset flag) := by
  unfold ofFlag at h
  split at h
  · cases h
  · split at h
    · cases h
    · cases h
      rfl

/-- The name of the character set. -/
def name : Charset → String
  | .utf8 => "UTF-8"
  | .gbk => "GBK"

/-- The bytes of a text. -/
def encode : Charset → String → Bytes
  | .utf8, text => Utf8.encode text
  | .gbk, text => Gbk.encode text

/-- The text of bytes. -/
def decode : Charset → Bytes → String
  | .utf8, bytes => Utf8.decode bytes
  | .gbk, bytes => Gbk.decode bytes

end Charset
end SqlWire
