/-!
# Numbers with a 64-bit binary significand and exponent

A double-precision number is kept as its 64 bits, so that the sign of zero and the payload of a
not-a-number survive. `datum` says what the bits stand for: not a number, an infinity, or a whole
significand times a power of two. `ofRatio` rounds an exact quotient to the nearest such number,
and of two equally near ones takes the one with the even significand.
-/
namespace SqlWire

/-- A double-precision number as its bits. -/
structure Binary64 where
  /-- Sign, eleven bits of exponent and 52 bits of fraction. -/
  bits : UInt64
  deriving DecidableEq, Repr

namespace Binary64

/-- What the bits stand for. -/
inductive Datum where
  /-- Not a number. -/
  | notANumber
  /-- An infinity with its sign. -/
  | infinite (negative : Bool)
  /-- The significand times two to the exponent, with its sign. -/
  | finite (negative : Bool) (significand : Nat) (exponent : Int)
  deriving DecidableEq, Repr

/-- The bit above the fraction. -/
def hiddenBit : Nat := 1 <<< 52

/-- The bit of the sign. -/
def signBit : Nat := 1 <<< 63

/-- The eleven bits of the exponent. -/
def field (x : Binary64) : Nat := x.bits.toNat / hiddenBit % 2048

/-- The 52 bits of the fraction. -/
def fraction (x : Binary64) : Nat := x.bits.toNat % hiddenBit

/-- Whether the sign bit is set. -/
def isNegative (x : Binary64) : Bool := x.bits.toNat ≥ signBit

/-- The value of the bits. The least exponent field holds the numbers whose significand has fewer
than 53 bits. -/
def datum (x : Binary64) : Datum :=
  if x.field = 2047 then
    if x.fraction = 0 then .infinite x.isNegative else .notANumber
  else if x.field = 0 then .finite x.isNegative x.fraction (-1074)
  else .finite x.isNegative (hiddenBit + x.fraction) (Int.ofNat x.field - 1075)

/-- The magnitude bits of an infinity. -/
def infinityBits : Nat := 2047 * hiddenBit

/-- Magnitude bits with a sign. -/
def ofMagnitude (negative : Bool) (magnitude : Nat) : Binary64 :=
  ⟨UInt64.ofNat (if negative then signBit + magnitude else magnitude)⟩

/-- A quotient times a power of two as a quotient. -/
def scale (numerator denominator : Nat) (exponent : Int) : Nat × Nat :=
  if exponent < 0 then (numerator <<< (-exponent).toNat, denominator)
  else (numerator, denominator <<< exponent.toNat)

/-- A quotient rounded to the nearest whole number, a half to the even neighbour. -/
def roundHalfEven (numerator denominator : Nat) : Nat :=
  let floor := numerator / denominator
  let rest := 2 * (numerator % denominator)
  if rest < denominator then floor
  else if denominator < rest then floor + 1
  else floor + floor % 2

/-- The number nearest to a quotient of natural numbers, with a sign. The exponent is the least
that leaves a significand below 2^53; a significand rounded up to 2^53 carries into the exponent
field, and a field past the greatest is an infinity. -/
def ofRatio (negative : Bool) (numerator denominator : Nat) : Binary64 :=
  if numerator = 0 ∨ denominator = 0 then ofMagnitude negative 0
  else
    let guess : Int := Int.ofNat numerator.log2 - Int.ofNat denominator.log2 - 53
    let least : Int := max guess (-1074)
    let scaled := scale numerator denominator least
    let exponent := if scaled.1 / scaled.2 < 2 * hiddenBit then least else least + 1
    let ratio := scale numerator denominator exponent
    let significand := roundHalfEven ratio.1 ratio.2
    ofMagnitude negative (min ((exponent + 1074).toNat * hiddenBit + significand) infinityBits)

/-- The number nearest to an integer. -/
def ofInt (value : Int) : Binary64 := ofRatio (value < 0) value.natAbs 1

/-- The number nearest to a whole number times a power of ten. A power so great or so small that
it decides the result is not computed. -/
def ofDecimal (negative : Bool) (digits : Nat) (exponent : Int) : Binary64 :=
  if digits = 0 then ofMagnitude negative 0
  else
    let magnitude : Int := Int.ofNat (digits.log2 * 3 / 10) + exponent
    if 400 < magnitude then ofMagnitude negative infinityBits
    else if magnitude < -(400 + Int.ofNat (digits.log2 / 30)) then ofMagnitude negative 0
    else if exponent < 0 then ofRatio negative digits (Nat.pow 10 (-exponent).toNat)
    else ofRatio negative (digits * Nat.pow 10 exponent.toNat) 1

/-- The canonical not-a-number. -/
def quietNaN (negative : Bool) : Binary64 := ofMagnitude negative (infinityBits + hiddenBit / 2)

/-- An infinity. -/
def infinity (negative : Bool) : Binary64 := ofMagnitude negative infinityBits

end Binary64
end SqlWire
