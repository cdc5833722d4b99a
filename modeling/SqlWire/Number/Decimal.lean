/-!
# Decimal whole numbers

Whole numbers are written with the fewest digits and read from any nonempty run of digits, so
leading zeros are read and never written. `natural?_decimal` says that a written number is read
back.
-/
namespace SqlWire.Number

/-- The character of one decimal digit. -/
def digitChar (digit : Nat) : Char := Char.ofNat (0x30 + digit % 10)

/-- The value of a decimal digit. -/
def digit? (c : Char) : Option Nat :=
  if '0' ≤ c ∧ c ≤ '9' then some (c.toNat - 0x30) else none

/-- The decimal digits of a number, without leading zeros. -/
def decimal (value : Nat) : List Char :=
  if value < 10 then [digitChar value] else decimal (value / 10) ++ [digitChar value]
termination_by value

/-- The decimal digits of a number with leading zeros up to a width. -/
def padded (width value : Nat) : List Char :=
  let digits := decimal value
  List.replicate (width - digits.length) '0' ++ digits

/-- Go on reading digits after those that gave `value`. -/
def naturalFrom? (value : Nat) : List Char → Option Nat
  | [] => some value
  | c :: rest => do
    let digit ← digit? c
    naturalFrom? (value * 10 + digit) rest

/-- The number that a nonempty run of digits writes. -/
def natural? (chars : List Char) : Option Nat :=
  if chars.isEmpty then none else naturalFrom? 0 chars

/-- The number that digits after at most one sign write. -/
def integer? : List Char → Option Int
  | '-' :: rest => (natural? rest).map fun value => -Int.ofNat value
  | '+' :: rest => (natural? rest).map Int.ofNat
  | chars => (natural? chars).map Int.ofNat

/-- The 64-bit integer that a text writes; nothing when it is out of range. -/
def int64? (text : String) : Option Int64 := do
  let value ← integer? text.toList
  if Int64.minValue.toInt ≤ value ∧ value ≤ Int64.maxValue.toInt then some (Int64.ofInt value)
  else none

/-- The 16-bit natural number that a text writes, with or without a plus sign. -/
def uint16? (text : String) : Option UInt16 := do
  let value ← match text.toList with
    | '+' :: rest => natural? rest
    | chars => natural? chars
  if value < UInt16.size then some (UInt16.ofNat value) else none

/-- A signed number: a minus when negative, then the digits. -/
def signed (value : Int) : List Char :=
  if value < 0 then '-' :: decimal value.natAbs else decimal value.natAbs

/-- A written digit is read back. -/
theorem digit?_digitChar (value : Nat) : digit? (digitChar value) = some (value % 10) := by
  have bound : value % 10 < 10 := Nat.mod_lt _ (by decide)
  simp only [digitChar]
  generalize value % 10 = digit at bound ⊢
  match digit, bound with
  | 0, _ | 1, _ | 2, _ | 3, _ | 4, _ | 5, _ | 6, _ | 7, _ | 8, _ | 9, _ => decide

/-- Digits are read one part after the other. -/
theorem naturalFrom?_append (value : Nat) (chars rest : List Char) :
    naturalFrom? value (chars ++ rest) =
      (naturalFrom? value chars).bind (naturalFrom? · rest) := by
  induction chars generalizing value with
  | nil => rfl
  | cons c chars ih =>
    cases h : digit? c with
    | none => simp [naturalFrom?, h]
    | some digit => simp [naturalFrom?, h, ih]

/-- Reading written digits from zero gives the number. -/
theorem naturalFrom?_decimal (value : Nat) : naturalFrom? 0 (decimal value) = some value := by
  induction value using decimal.induct with
  | case1 value small =>
    rw [decimal, if_pos small]
    simp [naturalFrom?, digit?_digitChar, Nat.mod_eq_of_lt small]
  | case2 value large ih =>
    rw [decimal, if_neg large, naturalFrom?_append, ih]
    simp only [Option.bind_some, naturalFrom?, digit?_digitChar, bind]
    congr 1
    omega

/-- Every number has a digit. -/
theorem decimal_ne_nil (value : Nat) : decimal value ≠ [] := by
  rw [decimal]
  split <;> simp

/-- A written number is read back. -/
theorem natural?_decimal (value : Nat) : natural? (decimal value) = some value := by
  have nonempty : (decimal value).isEmpty = false := by
    simpa using decimal_ne_nil value
  simp [natural?, nonempty, naturalFrom?_decimal]

end SqlWire.Number
