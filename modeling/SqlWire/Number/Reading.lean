import SqlWire.Number.Binary64
import SqlWire.Number.Decimal

/-!
# Reading a decimal number

A number is an optional sign and then either the name of an infinity or of not-a-number, in any
case of letters, or digits with at most one point among them and an optional exponent of ten. At
least one digit stands before the exponent, and at least one in it. The value is rounded once, from
the exact decimal.
-/
namespace SqlWire.Number

/-- The digits at the front of a text, and the text after them. -/
def spanDigits (chars : List Char) : List Char × List Char :=
  chars.span fun c => (digit? c).isSome

/-- An exponent of ten: nothing at all, or a letter e, an optional sign and digits to the end. -/
def exponent? : List Char → Option Int
  | [] => some 0
  | c :: rest => if c == 'e' || c == 'E' then integer? rest else none

/-- A decimal without sign: its digits read as one whole number, and the exponent of ten. -/
def decimal? (chars : List Char) : Option (Nat × Int) := do
  let (whole, rest) := spanDigits chars
  let (fraction, rest) := match rest with
    | '.' :: rest => spanDigits rest
    | rest => ([], rest)
  let digits ← natural? (whole ++ fraction)
  let exponent ← exponent? rest
  some (digits, exponent - Int.ofNat fraction.length)

/-- The numbers that have names, without regard to the case of letters. -/
def named? (negative : Bool) (chars : List Char) : Option Binary64 :=
  let name := String.ofList (chars.map Char.toLower)
  if name = "inf" ∨ name = "infinity" then some (.infinity negative)
  else if name = "nan" then some (.quietNaN negative)
  else none

/-- The number that a text without blanks writes. -/
def binary64? (text : String) : Option Binary64 :=
  let (negative, chars) := match text.toList with
    | '-' :: rest => (true, rest)
    | '+' :: rest => (false, rest)
    | chars => (false, chars)
  match decimal? chars with
  | some (digits, exponent) => some (.ofDecimal negative digits exponent)
  | none => named? negative chars

end SqlWire.Number
