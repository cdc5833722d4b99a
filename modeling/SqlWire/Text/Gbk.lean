import SqlWire.Bytes.ByteOrder
import SqlWire.Text.Gbk.Table
import SqlWire.Text.Gbk.Runs

/-!
# GBK

Writing uses one byte for ASCII and the euro sign and two bytes for the characters of the table; a
character outside both is replaced by a decimal character reference. Reading also accepts the
four-byte codes. A code that breaks off or means nothing is replaced by one replacement character,
and every byte after its first that could begin a code of its own is read again.
-/
namespace SqlWire.Gbk

/-- The character that stands for bytes that are not text. -/
def replacement : Char := '\uFFFD'

/-- The decimal reference that replaces a character without a code. -/
def reference (c : Char) : Bytes :=
  [0x26, 0x23] ++ (Nat.toDigits 10 c.toNat).map (fun digit => UInt8.ofNat digit.toNat) ++ [0x3B]

/-- The first pointer of a character. The table lies in the basic plane, and the private use
character E5E5 is kept free because its code belongs to the ideographic space. -/
def pointer? (c : Char) : Option Nat :=
  if c.toNat < 0x10000 ∧ c ≠ '\uE5E5' then characters.findIdx? (· == c) else none

/-- The two bytes of a pointer. -/
def codeOf (pointer : Nat) : Bytes :=
  let trail := pointer % rowWidth
  [UInt8.ofNat (pointer / rowWidth + 0x81),
    UInt8.ofNat (trail + if trail < 0x3F then 0x40 else 0x41)]

/-- Private use characters that keep the code they had before that code was given a character of
its own. -/
def formerCodes : List (Char × Bytes) :=
  [('\uE78D', [0xA6, 0xD9]), ('\uE78E', [0xA6, 0xDA]), ('\uE78F', [0xA6, 0xDB]),
    ('\uE790', [0xA6, 0xDC]), ('\uE791', [0xA6, 0xDD]), ('\uE792', [0xA6, 0xDE]),
    ('\uE793', [0xA6, 0xDF]), ('\uE794', [0xA6, 0xEC]), ('\uE795', [0xA6, 0xED]),
    ('\uE796', [0xA6, 0xF3]), ('\uE81E', [0xFE, 0x59]), ('\uE826', [0xFE, 0x61]),
    ('\uE82B', [0xFE, 0x66]), ('\uE82C', [0xFE, 0x67]), ('\uE832', [0xFE, 0x6D]),
    ('\uE843', [0xFE, 0x7E]), ('\uE854', [0xFE, 0x90]), ('\uE864', [0xFE, 0xA0])]

/-- The code of a character, or nothing when it has none. -/
def code? (c : Char) : Option Bytes :=
  if c.toNat < 0x80 then some [UInt8.ofNat c.toNat]
  else if c = '€' then some [0x80]
  else match formerCodes.find? (·.1 == c) with
    | some entry => some entry.2
    | none => (pointer? c).map codeOf

/-- The bytes of one character. -/
def encodeChar (c : Char) : Bytes := (code? c).getD (reference c)

/-- The bytes of a text. -/
def encode (text : String) : Bytes := text.toList.flatMap encodeChar

/-- Bytes that begin a code of more than one byte. -/
def isLead (byte : UInt8) : Bool := 0x81 ≤ byte && byte ≤ 0xFE

/-- Bytes that stand second and fourth in a four-byte code. -/
def isDigit (byte : UInt8) : Bool := 0x30 ≤ byte && byte ≤ 0x39

/-- The character of a two-byte code. -/
def pair? (lead trail : UInt8) : Option Char :=
  if (0x40 ≤ trail ∧ trail ≤ 0x7E) ∨ (0x80 ≤ trail ∧ trail ≤ 0xFE) then
    characters[(lead.toNat - 0x81) * rowWidth +
      (trail.toNat - if trail < 0x7F then 0x40 else 0x41)]?
  else none

/-- The pointer of a four-byte code. -/
def quadPointer (first second third fourth : UInt8) : Nat :=
  (first.toNat - 0x81) * 12600 + (second.toNat - 0x30) * 1260 + (third.toNat - 0x81) * 10 +
    (fourth.toNat - 0x30)

/-- The character of a four-byte code: one pointer stands for a private use character, the
supplementary planes follow in order from pointer 189000, and below 39420 the runs apply. -/
def quad? (pointer : Nat) : Option Char :=
  if pointer = 7457 then some '\uE7C7'
  else if 189000 ≤ pointer ∧ pointer ≤ 1237575 then
    some (Char.ofNat (0x10000 + (pointer - 189000)))
  else if pointer < 39420 then
    ((runs.takeWhile (·.1 ≤ pointer)).getLast?).map
      fun run => Char.ofNat (run.2 + (pointer - run.1))
  else none

/-- The characters of a byte string. -/
def decodeChars : Bytes → List Char
  | [] => []
  | first :: rest =>
    if first < 0x80 then Char.ofNat first.toNat :: decodeChars rest
    else if first = 0x80 then '€' :: decodeChars rest
    else if first = 0xFF then replacement :: decodeChars rest
    else match rest with
      | [] => [replacement]
      | second :: rest₂ =>
        if isDigit second then
          match rest₂ with
          | [] => [replacement]
          | third :: rest₃ =>
            if isLead third then
              match rest₃ with
              | [] => [replacement]
              | fourth :: rest₄ =>
                if isDigit fourth then
                  (quad? (quadPointer first second third fourth)).getD replacement ::
                    decodeChars rest₄
                else replacement :: decodeChars (second :: third :: fourth :: rest₄)
            else replacement :: decodeChars (second :: third :: rest₃)
        else match pair? first second with
          | some c => c :: decodeChars rest₂
          | none =>
            if second < 0x80 then replacement :: decodeChars (second :: rest₂)
            else replacement :: decodeChars rest₂

/-- The text of a byte string. -/
def decode (bytes : Bytes) : String := String.ofList (decodeChars bytes)

end SqlWire.Gbk
