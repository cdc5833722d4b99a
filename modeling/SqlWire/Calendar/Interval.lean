import SqlWire.Number.Decimal

/-!
# Intervals as text

An interval of months is written as years and months, an interval of microseconds as days and a
clock time. Either begins with a minus when it is negative; the parts are those of its magnitude.
-/
namespace SqlWire.Interval

/-- The minus of a negative number. -/
def sign (value : Int) : List Char := if value < 0 then ['-'] else []

/-- Years, a dash and two digits of months. -/
def monthsText (months : Int32) : String :=
  let magnitude := months.toInt.natAbs
  String.ofList (sign months.toInt ++ Number.decimal (magnitude / 12) ++ ['-'] ++
    Number.padded 2 (magnitude % 12))

/-- The digits of a fraction of a second without trailing zeros, one zero for none. -/
def fractionText (micros : Nat) : List Char :=
  if micros = 0 then ['0']
  else ((Number.padded 6 micros).reverse.dropWhile (· == '0')).reverse

/-- Days, a blank, hours, minutes and seconds of two digits, a point and the fraction. -/
def microsText (micros : Int64) : String :=
  let magnitude := micros.toInt.natAbs
  let second := magnitude / 1000000
  String.ofList (sign micros.toInt ++ Number.padded 2 (second / 86400) ++ [' '] ++
    Number.padded 2 (second / 3600 % 24) ++ [':'] ++ Number.padded 2 (second / 60 % 60) ++ [':'] ++
    Number.padded 2 (second % 60) ++ ['.'] ++ fractionText (magnitude % 1000000))

end SqlWire.Interval
