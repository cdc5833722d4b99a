import SqlWire.Number.Binary64
import SqlWire.Number.Decimal

/-!
# The shortest decimal that reads back

A finite number is written with the fewest decimal digits that still round to it. Every decimal
within half a unit of the number rounds to it; both ends of that interval belong to it when the
significand is even. The grids of one, two and more significant digits are tried in turn: the first
that has a point in the interval gives the digits. Of two such points the nearer wins, and of two
equally near ones the greater.
-/
namespace SqlWire.Binary64

/-- The numbers that round to a positive number, as three numerators over one denominator. -/
structure Interval where
  /-- Lower end. -/
  low : Nat
  /-- The number itself. -/
  middle : Nat
  /-- Upper end. -/
  high : Nat
  /-- Common denominator. -/
  denominator : Nat
  /-- Whether the ends belong to the interval. -/
  closed : Bool

/-- The interval of a significand and exponent. Below a power of two the neighbours are closer
together, except at the least exponent. -/
def interval (significand : Nat) (exponent : Int) : Interval :=
  let unit := if exponent < 2 then 1 else 1 <<< (exponent - 2).toNat
  let below := if significand = hiddenBit ∧ -1074 < exponent then 1 else 2
  { low := (4 * significand - below) * unit
    middle := 4 * significand * unit
    high := (4 * significand + 2) * unit
    denominator := if exponent < 2 then 1 <<< (2 - exponent).toNat else 1
    closed := significand % 2 == 0 }

/-- Whether a quotient lies in the interval. -/
def Interval.holds (range : Interval) (numerator denominator : Nat) : Bool :=
  let point := numerator * range.denominator
  if range.closed then
    range.low * denominator ≤ point && point ≤ range.high * denominator
  else
    range.low * denominator < point && point < range.high * denominator

/-- The decimal places to move the point of a positive quotient below one so that it is at least
one tenth; at most `fuel` of them. -/
def leadingZeros (fuel numerator denominator : Nat) : Nat :=
  match fuel with
  | 0 => 0
  | fuel + 1 =>
    if denominator ≤ numerator * 10 then 0
    else leadingZeros fuel (numerator * 10) denominator + 1

/-- The decimal exponent of a positive quotient: it lies below ten to this power and not below the
tenth part of that. -/
def decimalExponent (numerator denominator : Nat) : Int :=
  let whole := numerator / denominator
  if whole = 0 then -Int.ofNat (leadingZeros 400 numerator denominator)
  else Int.ofNat (Number.decimal whole).length

/-- The point of the grid of multiples of ten to `place` that stands for the number, if the grid
has a point in the interval. -/
def onGrid (range : Interval) (place : Int) : Option Nat :=
  let up := Nat.pow 10 place.toNat
  let down := Nat.pow 10 (-place).toNat
  let numerator := range.middle * down
  let denominator := range.denominator * up
  let floor := numerator / denominator
  let lower := floor ≠ 0 ∧ range.holds (floor * up) down
  let upper := range.holds ((floor + 1) * up) down
  if lower ∧ (¬ upper ∨ 2 * (numerator % denominator) < denominator) then some floor
  else if upper then some (floor + 1)
  else none

/-- Try the grids with `count` more significant digits, coarse ones first. -/
def firstGrid (range : Interval) (place : Int) : Nat → Nat × Int
  | 0 => ((onGrid range place).getD 0, place)
  | count + 1 =>
    match onGrid range place with
    | some digits => (digits, place)
    | none => firstGrid range (place - 1) count

/-- The digits of a finite nonzero number without trailing zeros, and the place of the point: the
number is zero point these digits, times ten to that place. -/
def shortest (significand : Nat) (exponent : Int) : List Char × Int :=
  let range := interval significand exponent
  let magnitude := decimalExponent range.middle range.denominator
  let found := firstGrid range (magnitude - 1) 16
  let digits := Number.decimal found.1
  ((digits.reverse.dropWhile (· == '0')).reverse, Int.ofNat digits.length + found.2)

/-- How a number is laid out. -/
structure Layout where
  /-- The places of the point that are written without an exponent; all of them if none is given. -/
  positional : Option (Int × Int)
  /-- Whether a whole number shows a fraction of zero. -/
  showsZeroFraction : Bool

/-- Digits with the point in its place, without an exponent. -/
def Layout.place (layout : Layout) (digits : List Char) (point : Int) : List Char :=
  if point ≤ 0 then
    ['0', '.'] ++ List.replicate (-point).toNat '0' ++ digits
  else
    let whole := digits.take point.toNat
    let zeros := List.replicate (point.toNat - digits.length) '0'
    match digits.drop point.toNat with
    | [] => whole ++ zeros ++ if layout.showsZeroFraction then ['.', '0'] else []
    | rest => whole ++ ['.'] ++ rest

/-- Digits with one before the point and an exponent of ten. -/
def scientific (digits : List Char) (point : Int) : List Char :=
  let head := digits.take 1
  match digits.drop 1 with
  | [] => head ++ ['e'] ++ Number.signed (point - 1)
  | rest => head ++ ['.'] ++ rest ++ ['e'] ++ Number.signed (point - 1)

/-- The text of a number in a layout. -/
def Layout.write (layout : Layout) (x : Binary64) : String :=
  match x.datum with
  | .notANumber => "NaN"
  | .infinite negative => if negative then "-inf" else "inf"
  | .finite negative significand exponent =>
    let sign := if negative then ['-'] else []
    let body :=
      if significand = 0 then if layout.showsZeroFraction then ['0', '.', '0'] else ['0']
      else
        let (digits, point) := shortest significand exponent
        match layout.positional with
        | none => layout.place digits point
        | some (least, greatest) =>
          if least ≤ point ∧ point ≤ greatest then layout.place digits point
          else scientific digits point
    String.ofList (sign ++ body)

/-- The layout of values shown to the user: never an exponent, and whole numbers without a
point. -/
def plain : Layout := ⟨none, false⟩

/-- The layout of diagnostics: an exponent below 0.0001 and from 10^16 on, and always a fraction
where there is no exponent. -/
def detailed : Layout := ⟨some (-3, 16), true⟩

end SqlWire.Binary64
