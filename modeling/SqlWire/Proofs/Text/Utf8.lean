import Mathlib.Tactic.IntervalCases
import SqlWire.Text.Utf8

/-!
# Reading written text

Text that is written in UTF-8 is read back (`decode_encode`). The ranges that a lead byte allows for
the byte after it are just wide enough: they hold every byte that writing puts there.
-/
namespace SqlWire.Utf8

/-- The lead byte of two. -/
theorem lead?_two {high : Nat} (least : 2 ≤ high) (most : high < 32) :
    lead? (UInt8.ofNat (0xC0 + high)) = some ⟨1, 0x80, 0xBF, high⟩ := by
  interval_cases high <;> rfl

/-- The lead byte of three. The first and the last but two allow fewer bytes after them. -/
theorem lead?_three {high : Nat} (most : high < 16) :
    lead? (UInt8.ofNat (0xE0 + high)) =
      some ⟨2, if high = 0 then 0xA0 else 0x80, if high = 0xD then 0x9F else 0xBF, high⟩ := by
  interval_cases high <;> rfl

/-- The lead byte of four. The first and the last allow fewer bytes after them. -/
theorem lead?_four {high : Nat} (most : high < 5) :
    lead? (UInt8.ofNat (0xF0 + high)) =
      some ⟨3, if high = 0 then 0x90 else 0x80, if high = 4 then 0x8F else 0xBF, high⟩ := by
  interval_cases high <;> rfl

/-- The number of a continuation byte. -/
theorem toNat_continuation (bits : Nat) : (continuation bits).toNat = 0x80 + bits % 64 := by
  have bound := Nat.mod_lt bits (show 0 < 64 by decide)
  rw [continuation, UInt8.toNat_ofNat', Nat.mod_eq_of_lt (by omega)]

/-- A continuation byte in its range adds its six bits. -/
theorem readTail_continuation {count bits more : Nat} {low high : UInt8} {rest : Bytes}
    (least : low.toNat ≤ 0x80 + more % 64) (most : 0x80 + more % 64 ≤ high.toNat) :
    readTail (count + 1) low high bits (continuation more :: rest) =
      readTail count 0x80 0xBF (bits * 64 + more % 64) rest := by
  have inside : low ≤ continuation more ∧ continuation more ≤ high := by
    rw [UInt8.le_iff_toNat_le, UInt8.le_iff_toNat_le, toNat_continuation]
    exact ⟨least, most⟩
  have bits6 : (continuation more).toNat % 64 = more % 64 := by
    rw [toNat_continuation]
    omega
  rw [readTail, if_pos inside, bits6]

/-- A continuation byte after another. -/
theorem readTail_continuation_full {count bits more : Nat} {rest : Bytes} :
    readTail (count + 1) 0x80 0xBF bits (continuation more :: rest) =
      readTail count 0x80 0xBF (bits * 64 + more % 64) rest := by
  have bound := Nat.mod_lt more (show 0 < 64 by decide)
  apply readTail_continuation
  · simp
  · simp
    omega

/-- When no byte is left to be read, the bits are the character. -/
theorem readTail_zero {low high : UInt8} {bits : Nat} {rest : Bytes} :
    readTail 0 low high bits rest = (Char.ofNat bits, rest) := by
  rw [readTail]

/-- A lead byte with what it announces is one character. -/
theorem decodeChars_lead {byte : UInt8} {lead : Lead} {tail rest : Bytes} {c : Char}
    (large : 0x80 ≤ byte) (known : lead? byte = some lead)
    (read : readTail lead.count lead.low lead.high lead.bits tail = (c, rest)) :
    decodeChars (byte :: tail) = c :: decodeChars rest := by
  have notOne : ¬ byte < 0x80 := UInt8.not_lt.mpr large
  rw [decodeChars, if_neg notOne, known]
  simp only [read]

/-- A byte that begins a sequence is large. -/
theorem le_ofNat {number : Nat} (least : 0x80 ≤ number) (most : number < 256) :
    0x80 ≤ UInt8.ofNat number := by
  rw [UInt8.le_iff_toNat_le, UInt8.toNat_ofNat', Nat.mod_eq_of_lt most]
  exact least

/-- The bytes of a character in front of others are read as that character. -/
theorem decodeChars_encodeChar (c : Char) (rest : Bytes) :
    decodeChars (encodeChar c ++ rest) = c :: decodeChars rest := by
  have valid : c.toNat < 0xD800 ∨ 0xDFFF < c.toNat ∧ c.toNat < 0x110000 := c.valid
  have same : Char.ofNat c.toNat = c := Char.ofNat_toNat c
  unfold encodeChar
  by_cases one : c.toNat < 0x80
  · have number : (UInt8.ofNat c.toNat).toNat = c.toNat := by
      rw [UInt8.toNat_ofNat', Nat.mod_eq_of_lt (by omega)]
    have small : UInt8.ofNat c.toNat < 0x80 := by
      rw [UInt8.lt_iff_toNat_lt, number]
      exact one
    simp only [if_pos one, List.singleton_append]
    rw [decodeChars, if_pos small, number, same]
  by_cases two : c.toNat < 0x800
  · have known := lead?_two (show 2 ≤ c.toNat / 64 by omega) (by omega)
    have total : c.toNat / 64 * 64 + c.toNat % 64 = c.toNat := by omega
    simp only [if_neg one, if_pos two, List.cons_append, List.nil_append]
    apply decodeChars_lead (le_ofNat (by omega) (by omega)) known
    rw [readTail_continuation_full, readTail_zero, total, same]
  by_cases three : c.toNat < 0x10000
  · have known := lead?_three (show c.toNat / 4096 < 16 by omega)
    have total : (c.toNat / 4096 * 64 + c.toNat / 64 % 64) * 64 + c.toNat % 64 = c.toNat := by omega
    simp only [if_neg one, if_neg two, if_pos three, List.cons_append, List.nil_append]
    apply decodeChars_lead (le_ofNat (by omega) (by omega)) known
    -- The narrow ranges leave out overlong forms and surrogates, and a character is neither.
    rw [readTail_continuation, readTail_continuation_full, readTail_zero, total, same]
    · dsimp only
      split
      · simp
        omega
      · simp
    · dsimp only
      split <;> simp <;> omega
  · have known := lead?_four (show c.toNat / 262144 < 5 by omega)
    have total : ((c.toNat / 262144 * 64 + c.toNat / 4096 % 64) * 64 + c.toNat / 64 % 64) * 64 +
        c.toNat % 64 = c.toNat := by omega
    simp only [if_neg one, if_neg two, if_neg three, List.cons_append, List.nil_append]
    apply decodeChars_lead (le_ofNat (by omega) (by omega)) known
    -- The narrow ranges leave out overlong forms and numbers behind the last character.
    rw [readTail_continuation, readTail_continuation_full, readTail_continuation_full,
      readTail_zero, total, same]
    · dsimp only
      split
      · simp
        omega
      · simp
    · dsimp only
      split <;> simp <;> omega

/-- Text that is written is read back. -/
theorem decode_encode (text : String) : decode (encode text) = text := by
  have chars : ∀ chars : List Char, decodeChars (chars.flatMap encodeChar) = chars := by
    intro chars
    induction chars with
    | nil => rw [List.flatMap_nil, decodeChars]
    | cons c rest ih => rw [List.flatMap_cons, decodeChars_encodeChar, ih]
  rw [decode, encode, chars, String.ofList_toList]

end SqlWire.Utf8
