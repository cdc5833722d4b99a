import Mathlib.Data.List.DropRight
import SqlWire.Calendar.Interval
import SqlWire.Proofs.Number.Decimal

/-!
# Intervals read from their text

The text of an interval can be taken apart in one way only: an optional minus, and runs of digits
with one mark between two of them. The numbers that the runs write are within their bounds, and
together with the minus they are the interval (`texts_tell_intervals`). So two intervals are never
written alike, not even those whose magnitude has no positive counterpart.
-/
namespace SqlWire.Interval

open Number (Digits IsDigit number padded)

/-- A minus, or nothing. -/
def minus (negative : Bool) : List Char := if negative then ['-'] else []

/-- A magnitude behind a minus, or without one. -/
def signed (negative : Bool) (magnitude : Nat) : Int :=
  if negative then -(magnitude : Int) else magnitude

/-- Two digits that write a number below a limit. -/
structure TwoDigits (limit : Nat) (chars : List Char) : Prop extends Digits chars where
  /-- There are two. -/
  length_eq : chars.length = 2
  /-- They write less than the limit. -/
  number_lt : number chars < limit

/-- The digits of a fraction of a second: up to six, and no zero behind them that could be left out.
-/
structure Fraction (chars : List Char) : Prop extends Digits chars where
  /-- A microsecond takes six. -/
  length_le : chars.length ≤ 6
  /-- A zero stands last only if it stands alone. -/
  trimmed : chars = ['0'] ∨ chars.getLast? ≠ some '0'

/-- The parts of a text of days and a clock time. -/
structure ClockParts where
  /-- Whether a minus stands in front. -/
  negative : Bool
  /-- The digits of the days. -/
  days : List Char
  /-- The digits of the hours. -/
  hours : List Char
  /-- The digits of the minutes. -/
  minutes : List Char
  /-- The digits of the seconds. -/
  seconds : List Char
  /-- The digits behind the point. -/
  fraction : List Char

/-- The parts of a text of years and months. -/
structure MonthParts where
  /-- Whether a minus stands in front. -/
  negative : Bool
  /-- The digits of the years. -/
  years : List Char
  /-- The digits of the months. -/
  months : List Char

namespace ClockParts

/-- The text of the parts. -/
def text (parts : ClockParts) : String :=
  String.ofList (minus parts.negative ++ (parts.days ++ ' ' :: (parts.hours ++ ':' ::
    (parts.minutes ++ ':' :: (parts.seconds ++ '.' :: parts.fraction)))))

/-- The seconds that the parts write in front of the point. -/
def wholeSeconds (parts : ClockParts) : Nat :=
  ((number parts.days * 24 + number parts.hours) * 60 + number parts.minutes) * 60 +
    number parts.seconds

/-- The microseconds that the parts write. The first digit behind the point counts as a tenth of a
second, however many stand there. -/
def micros (parts : ClockParts) : Int :=
  signed parts.negative
    (parts.wholeSeconds * 1000000 + number parts.fraction * 10 ^ (6 - parts.fraction.length))

/-- Whether the parts are as they should be. -/
structure Proper (parts : ClockParts) : Prop where
  /-- Days have no limit. -/
  days : Digits parts.days
  /-- A day has 24 hours. -/
  hours : TwoDigits 24 parts.hours
  /-- An hour has 60 minutes. -/
  minutes : TwoDigits 60 parts.minutes
  /-- A minute has 60 seconds. -/
  seconds : TwoDigits 60 parts.seconds
  /-- A second has a million microseconds. -/
  fraction : Fraction parts.fraction

end ClockParts

namespace MonthParts

/-- The text of the parts. -/
def text (parts : MonthParts) : String :=
  String.ofList (minus parts.negative ++ (parts.years ++ '-' :: parts.months))

/-- The months that the parts write. -/
def count (parts : MonthParts) : Int :=
  signed parts.negative (12 * number parts.years + number parts.months)

/-- Whether the parts are as they should be. -/
structure Proper (parts : MonthParts) : Prop where
  /-- Years have no limit. -/
  years : Digits parts.years
  /-- A year has 12 months. -/
  months : TwoDigits 12 parts.months

end MonthParts

/-- A minus is written for negative numbers. -/
theorem sign_eq_minus (value : Int) : sign value = minus (decide (value < 0)) := by
  simp [sign, minus]

/-- A number is its magnitude behind its sign. -/
theorem signed_natAbs (value : Int) : signed (decide (value < 0)) value.natAbs = value := by
  by_cases negative : value < 0
  · simp only [signed, negative, decide_true, if_true]
    omega
  · simp only [signed, negative, decide_false, Bool.false_eq_true, if_false]
    omega

/-- A minus is told from the digits behind it. -/
theorem minus_append_inj {negative negative' : Bool} {digits digits' rest rest' : List Char}
    (run : Digits digits) (run' : Digits digits')
    (same : minus negative ++ (digits ++ rest) = minus negative' ++ (digits' ++ rest')) :
    negative = negative' ∧ digits ++ rest = digits' ++ rest' := by
  have first {digits rest back : List Char} (run : Digits digits) :
      digits ++ rest ≠ '-' :: back := by
    intro same
    obtain ⟨c, others, rfl⟩ := List.exists_cons_of_ne_nil run.nonempty
    have minus : c = '-' := (List.cons.inj same).1
    have digit : IsDigit c := run.digits c List.mem_cons_self
    rw [minus] at digit
    exact absurd digit (by decide)
  cases negative with
  | false =>
    cases negative' with
    | false => exact ⟨rfl, same⟩
    | true =>
      have taken : digits ++ rest = '-' :: (digits' ++ rest') := same
      exact absurd taken (first run)
  | true =>
    cases negative' with
    | false =>
      have taken : '-' :: (digits ++ rest) = digits' ++ rest' := same
      exact absurd taken.symm (first run')
    | true => exact ⟨rfl, (List.cons.inj same).2⟩

/-- A text of days and a clock time is taken apart in one way. -/
theorem ClockParts.Proper.text_inj {parts other : ClockParts} (proper : parts.Proper)
    (proper' : other.Proper) (same : parts.text = other.text) : parts = other := by
  have chars := String.ofList_injective same
  obtain ⟨negative, chars⟩ := minus_append_inj proper.days proper'.days chars
  obtain ⟨days, chars⟩ := proper.days.append_cons_inj proper'.days (by decide) chars
  obtain ⟨hours, chars⟩ :=
    proper.hours.toDigits.append_cons_inj proper'.hours.toDigits (by decide) chars
  obtain ⟨minutes, chars⟩ :=
    proper.minutes.toDigits.append_cons_inj proper'.minutes.toDigits (by decide) chars
  obtain ⟨seconds, fraction⟩ :=
    proper.seconds.toDigits.append_cons_inj proper'.seconds.toDigits (by decide) chars
  cases parts
  cases other
  simp_all

/-- A text of years and months is taken apart in one way. -/
theorem MonthParts.Proper.text_inj {parts other : MonthParts} (proper : parts.Proper)
    (proper' : other.Proper) (same : parts.text = other.text) : parts = other := by
  have chars := String.ofList_injective same
  obtain ⟨negative, chars⟩ := minus_append_inj proper.years proper'.years chars
  obtain ⟨years, months⟩ := proper.years.append_cons_inj proper'.years (by decide) chars
  cases parts
  cases other
  simp_all

/-- A number below a limit of at most one hundred is written with two digits. -/
theorem twoDigits_padded {value limit : Nat} (small : value < limit) (hundred : limit ≤ 100) :
    TwoDigits limit (padded 2 value) where
  toDigits := Number.digits_padded 2 value
  length_eq := Number.length_padded (by decide) (by omega)
  number_lt := by rwa [Number.number_padded]

/-- Digits without the zeros behind them. -/
def trimmed (digits : List Char) : List Char := digits.rdropWhile (· == '0')

/-- What is left out of digits are zeros. -/
theorem exists_trimmed (digits : List Char) :
    ∃ zeros, digits = trimmed digits ++ List.replicate zeros '0' := by
  have zeros : ∀ c ∈ digits.rtakeWhile (· == '0'), c = '0' := by
    intro c member
    have dropped := List.mem_rtakeWhile_imp member
    exact beq_iff_eq.mp dropped
  refine ⟨(digits.rtakeWhile (· == '0')).length, ?_⟩
  rw [← List.eq_replicate_of_mem zeros]
  exact List.rdropWhile_append_rtakeWhile.symm

/-- No zero is left behind. -/
theorem getLast?_trimmed (digits : List Char) : (trimmed digits).getLast? ≠ some '0' := by
  intro zero
  have nonempty : trimmed digits ≠ [] := by
    intro empty
    rw [empty] at zero
    cases zero
  have kept : ¬ ((trimmed digits).getLast nonempty == '0') = true :=
    List.rdropWhile_last_not _ _ nonempty
  rw [List.getLast?_eq_some_getLast nonempty, Option.some.injEq] at zero
  rw [zero] at kept
  exact kept rfl

/-- The places that are left out count in the number. -/
theorem number_trimmed (digits : List Char) :
    number (trimmed digits) * 10 ^ (digits.length - (trimmed digits).length) = number digits := by
  obtain ⟨zeros, split⟩ := exists_trimmed digits
  have places : digits.length = (trimmed digits).length + zeros := by
    have whole := congrArg List.length split
    rwa [List.length_append, List.length_replicate] at whole
  have out : digits.length - (trimmed digits).length = zeros := by omega
  calc
    number (trimmed digits) * 10 ^ (digits.length - (trimmed digits).length) =
        number (trimmed digits ++ List.replicate zeros '0') := by
      rw [out, Number.number_append, Number.number_replicate_zero, List.length_replicate,
        Nat.add_zero]
    _ = number digits := by rw [← split]

/-- Something is left of digits that do not write zero, and nothing but digits. -/
theorem digits_trimmed {digits : List Char} (run : Digits digits) (some : number digits ≠ 0) :
    Digits (trimmed digits) := by
  constructor
  · intro empty
    have none := number_trimmed digits
    rw [empty] at none
    exact some (by simpa [number] using none.symm)
  · intro c member
    obtain ⟨zeros, split⟩ := exists_trimmed digits
    apply run.digits c
    rw [split]
    exact List.mem_append_left _ member

/-- The fraction of a second is written as it should be, and its places tell the microseconds. -/
theorem fraction_fractionText {micros : Nat} (small : micros < 1000000) :
    Fraction (fractionText micros) ∧
      number (fractionText micros) * 10 ^ (6 - (fractionText micros).length) = micros := by
  by_cases none : micros = 0
  · subst none
    have digits : ∀ c ∈ ['0'], IsDigit c := by
      intro c member
      rw [List.mem_singleton.mp member]
      decide
    exact ⟨⟨⟨List.cons_ne_nil _ _, digits⟩, by decide, .inl rfl⟩, rfl⟩
  · have text : fractionText micros = trimmed (padded 6 micros) := if_neg none
    have length : (padded 6 micros).length = 6 := Number.length_padded (by decide) (by omega)
    have written : number (padded 6 micros) = micros := Number.number_padded 6 micros
    have digits : Digits (fractionText micros) := by
      rw [text]
      apply digits_trimmed (Number.digits_padded 6 micros)
      rwa [written]
    have shorter : (trimmed (padded 6 micros)).length ≤ (padded 6 micros).length :=
      (List.rdropWhile_prefix _ _).length_le
    have short : (fractionText micros).length ≤ 6 := by
      rw [length] at shorter
      rwa [text]
    have last : (fractionText micros).getLast? ≠ some '0' := text ▸ getLast?_trimmed _
    have value := number_trimmed (padded 6 micros)
    rw [← text, length, written] at value
    exact ⟨⟨digits, short, .inr last⟩, value⟩

/-- The parts of which the text of a number of microseconds is made. -/
def clockParts (micros : Int64) : ClockParts :=
  let magnitude := micros.toInt.natAbs
  let second := magnitude / 1000000
  { negative := decide (micros.toInt < 0)
    days := padded 2 (second / 86400)
    hours := padded 2 (second / 3600 % 24)
    minutes := padded 2 (second / 60 % 60)
    seconds := padded 2 (second % 60)
    fraction := fractionText (magnitude % 1000000) }

/-- The parts of which the text of a number of months is made. -/
def monthParts (months : Int32) : MonthParts :=
  { negative := decide (months.toInt < 0)
    years := Number.decimal (months.toInt.natAbs / 12)
    months := padded 2 (months.toInt.natAbs % 12) }

/-- The parts of an interval of microseconds are as they should be. -/
theorem proper_clockParts (micros : Int64) : (clockParts micros).Proper where
  days := Number.digits_padded 2 _
  hours := twoDigits_padded (Nat.mod_lt _ (by decide)) (by decide)
  minutes := twoDigits_padded (Nat.mod_lt _ (by decide)) (by decide)
  seconds := twoDigits_padded (Nat.mod_lt _ (by decide)) (by decide)
  fraction := (fraction_fractionText (Nat.mod_lt _ (by decide))).1

/-- They write the interval. -/
theorem micros_clockParts (micros : Int64) : (clockParts micros).micros = micros.toInt := by
  let magnitude := micros.toInt.natAbs
  have below : magnitude % 1000000 < 1000000 := Nat.mod_lt _ (by decide)
  have fraction := (fraction_fractionText below).2
  have seconds : (clockParts micros).wholeSeconds = magnitude / 1000000 := by
    simp only [ClockParts.wholeSeconds, clockParts, Number.number_padded]
    omega
  have whole : magnitude / 1000000 * 1000000 + magnitude % 1000000 = magnitude :=
    Nat.div_add_mod' magnitude 1000000
  calc
    (clockParts micros).micros = signed (decide (micros.toInt < 0))
        ((clockParts micros).wholeSeconds * 1000000 +
          number (fractionText (magnitude % 1000000)) *
            10 ^ (6 - (fractionText (magnitude % 1000000)).length)) := rfl
    _ = signed (decide (micros.toInt < 0)) magnitude := by rw [seconds, fraction, whole]
    _ = micros.toInt := signed_natAbs micros.toInt

/-- Their text is the one that is written. -/
theorem text_clockParts (micros : Int64) : (clockParts micros).text = microsText micros := by
  simp [ClockParts.text, clockParts, microsText, sign_eq_minus]

/-- The parts of an interval of months are as they should be. -/
theorem proper_monthParts (months : Int32) : (monthParts months).Proper where
  years := Number.digits_decimal _
  months := twoDigits_padded (Nat.mod_lt _ (by decide)) (by decide)

/-- They write the interval. -/
theorem count_monthParts (months : Int32) : (monthParts months).count = months.toInt := by
  let magnitude := months.toInt.natAbs
  have whole : 12 * (magnitude / 12) + magnitude % 12 = magnitude := Nat.div_add_mod magnitude 12
  calc
    (monthParts months).count = signed (decide (months.toInt < 0))
        (12 * number (Number.decimal (magnitude / 12)) + number (padded 2 (magnitude % 12))) := rfl
    _ = signed (decide (months.toInt < 0)) magnitude := by
      rw [Number.number_decimal, Number.number_padded, whole]
    _ = months.toInt := signed_natAbs months.toInt

/-- Their text is the one that is written. -/
theorem text_monthParts (months : Int32) : (monthParts months).text = monthsText months := by
  simp [MonthParts.text, monthParts, monthsText, sign_eq_minus]

/-- What can be read from the text of an interval. For every number of microseconds, its text is
that of proper parts and of no others; these have a minus exactly when the number is negative, and
they write the number. The same holds of every number of months. So no two intervals of either kind
have the same text. -/
theorem texts_tell_intervals :
    (∀ micros : Int64, ∃ parts : ClockParts, parts.Proper ∧ parts.text = microsText micros ∧
      (parts.negative = true ↔ micros.toInt < 0) ∧ parts.micros = micros.toInt ∧
      ∀ other : ClockParts, other.Proper → other.text = microsText micros → other = parts) ∧
    (∀ months : Int32, ∃ parts : MonthParts, parts.Proper ∧ parts.text = monthsText months ∧
      (parts.negative = true ↔ months.toInt < 0) ∧ parts.count = months.toInt ∧
      ∀ other : MonthParts, other.Proper → other.text = monthsText months → other = parts) ∧
    Function.Injective microsText ∧ Function.Injective monthsText := by
  refine ⟨?_, ?_, ?_, ?_⟩
  · intro micros
    have proper := proper_clockParts micros
    have text := text_clockParts micros
    refine ⟨clockParts micros, proper, text, decide_eq_true_iff, micros_clockParts micros, ?_⟩
    intro other proper' text'
    exact proper'.text_inj proper (text'.trans text.symm)
  · intro months
    have proper := proper_monthParts months
    have text := text_monthParts months
    refine ⟨monthParts months, proper, text, decide_eq_true_iff, count_monthParts months, ?_⟩
    intro other proper' text'
    exact proper'.text_inj proper (text'.trans text.symm)
  · intro first second same
    rw [← text_clockParts, ← text_clockParts] at same
    have parts := (proper_clockParts first).text_inj (proper_clockParts second) same
    apply Int64.toInt_inj.mp
    rw [← micros_clockParts first, parts, micros_clockParts second]
  · intro first second same
    rw [← text_monthParts, ← text_monthParts] at same
    have parts := (proper_monthParts first).text_inj (proper_monthParts second) same
    apply Int32.toInt_inj.mp
    rw [← count_monthParts first, parts, count_monthParts second]

/-- The least intervals of either kind. -/
example : microsText Int64.minValue = "-106751991 04:00:54.775808" ∧
    monthsText Int32.minValue = "-178956970-08" := by
  decide +kernel

end SqlWire.Interval
