import Mathlib.Data.Nat.Digits.Defs
import SqlWire.Number.Decimal

/-!
# What digits write

A text is read as a natural number exactly when it is a run of decimal digits, at least one, and it
is read as the number that they write in base ten (`natural?_eq_some_iff`). Numbers of 16 and 64 bits
are read from such a run with at most a sign in front of it (`uint16?_eq_some_iff`,
`int64?_eq_some_iff`). What is written with leading zeros up to a width is such a run, it writes the
same number, and it has just this width if the number has no more digits.
-/
namespace SqlWire.Number

/-- A decimal digit. -/
def IsDigit (c : Char) : Prop := '0' ≤ c ∧ c ≤ '9'

instance (c : Char) : Decidable (IsDigit c) := inferInstanceAs (Decidable ('0' ≤ c ∧ c ≤ '9'))

/-- Decimal digits, at least one. -/
structure Digits (chars : List Char) : Prop where
  /-- There is one. -/
  nonempty : chars ≠ []
  /-- There is nothing else. -/
  digits : ∀ c ∈ chars, IsDigit c

/-- The number that digits write in base ten. -/
def number (chars : List Char) : Nat :=
  Nat.ofDigits 10 (chars.reverse.map fun c => c.toNat - 0x30)

/-- A character is read as a digit exactly when it is one. -/
theorem digit?_eq_some_iff {c : Char} {digit : Nat} :
    digit? c = some digit ↔ IsDigit c ∧ c.toNat - 0x30 = digit := by
  simp [digit?, IsDigit]

/-- What a run of digits writes in front of another counts as often as the other has places. -/
theorem number_append (front back : List Char) :
    number (front ++ back) = number front * 10 ^ back.length + number back := by
  simp only [number, List.reverse_append, List.map_append, Nat.ofDigits_append, List.length_map,
    List.length_reverse]
  ring

/-- A digit writes its value. -/
theorem number_singleton (c : Char) : number [c] = c.toNat - 0x30 := Nat.ofDigits_singleton

/-- Zeros write zero. -/
theorem number_replicate_zero (count : Nat) : number (List.replicate count '0') = 0 := by
  simp [number]

/-- Reading goes on with a run of digits and multiplies what was read by ten for each of them. -/
theorem naturalFrom?_eq_some_iff {start value : Nat} {chars : List Char} :
    naturalFrom? start chars = some value ↔
      (∀ c ∈ chars, IsDigit c) ∧ start * 10 ^ chars.length + number chars = value := by
  induction chars generalizing start with
  | nil => simp [naturalFrom?, number]
  | cons c rest ih =>
    have split : number (c :: rest) = (c.toNat - 0x30) * 10 ^ rest.length + number rest := by
      rw [← number_singleton]
      exact number_append [c] rest
    have shifted : start * 10 ^ (c :: rest).length + number (c :: rest) =
        (start * 10 + (c.toNat - 0x30)) * 10 ^ rest.length + number rest := by
      rw [split, List.length_cons, Nat.pow_succ]
      ring
    simp only [naturalFrom?, Option.bind_eq_bind, Option.bind_eq_some_iff, digit?_eq_some_iff, ih,
      List.forall_mem_cons, shifted]
    constructor
    · rintro ⟨_, ⟨first, rfl⟩, others, written⟩
      exact ⟨⟨first, others⟩, written⟩
    · rintro ⟨⟨first, others⟩, written⟩
      exact ⟨_, ⟨first, rfl⟩, others, written⟩

/-- A text is read as a number exactly when it is a run of digits that writes it. -/
theorem natural?_eq_some_iff {chars : List Char} {value : Nat} :
    natural? chars = some value ↔ Digits chars ∧ number chars = value := by
  unfold natural?
  cases chars with
  | nil =>
    simp only [List.isEmpty_nil, if_true, reduceCtorEq, false_iff]
    rintro ⟨digits, _⟩
    exact digits.nonempty rfl
  | cons c rest =>
    have start (tail : Nat) : 0 * 10 ^ (c :: rest).length + tail = tail := by omega
    simp only [List.isEmpty_cons, Bool.false_eq_true, if_false, naturalFrom?_eq_some_iff, start]
    constructor
    · rintro ⟨digits, written⟩
      exact ⟨⟨nofun, digits⟩, written⟩
    · rintro ⟨digits, written⟩
      exact ⟨digits.digits, written⟩

/-- A number is written with digits. -/
theorem digits_decimal (value : Nat) : Digits (decimal value) :=
  (natural?_eq_some_iff.mp (natural?_decimal value)).1

/-- What is written is the number. -/
@[simp] theorem number_decimal (value : Nat) : number (decimal value) = value :=
  (natural?_eq_some_iff.mp (natural?_decimal value)).2

/-- A number below a power of ten is written with no more digits. -/
theorem length_decimal_le {value width : Nat} (some : 0 < width) (small : value < 10 ^ width) :
    (decimal value).length ≤ width := by
  induction value using decimal.induct generalizing width with
  | case1 value single =>
    rw [decimal, if_pos single]
    exact some
  | case2 value several ih =>
    obtain ⟨fewer, rfl⟩ := Nat.exists_eq_succ_of_ne_zero (Nat.ne_of_gt some)
    rw [Nat.pow_succ] at small
    have more : 0 < fewer := by
      by_contra none
      have zero : fewer = 0 := by omega
      rw [zero] at small
      omega
    have shorter : value / 10 < 10 ^ fewer := by omega
    have front := ih more shorter
    rw [decimal, if_neg several, List.length_append, List.length_singleton]
    omega

/-- Leading zeros and digits are digits. -/
theorem digits_padded (width value : Nat) : Digits (padded width value) := by
  constructor
  · intro empty
    exact decimal_ne_nil value (List.append_eq_nil_iff.mp empty).2
  · intro c member
    obtain zero | digit := List.mem_append.mp member
    · rw [List.eq_of_mem_replicate zero]
      decide
    · exact (digits_decimal value).digits c digit

/-- Leading zeros do not change the number. -/
@[simp] theorem number_padded (width value : Nat) : number (padded width value) = value := by
  simp [padded, number_append, number_replicate_zero]

/-- A number that is padded to a width that it does not exceed has just this width. -/
theorem length_padded {value width : Nat} (some : 0 < width) (small : value < 10 ^ width) :
    (padded width value).length = width := by
  have short := length_decimal_le some small
  simp only [padded, List.length_append, List.length_replicate]
  omega

/-- Digits end where something else stands. -/
theorem Digits.append_cons_inj {front front' back back' : List Char} {c : Char}
    (digits : Digits front) (digits' : Digits front') (other : ¬ IsDigit c)
    (same : front ++ c :: back = front' ++ c :: back') : front = front' ∧ back = back' := by
  have cut {run rest : List Char} (digits : Digits run) :
      (run ++ c :: rest).takeWhile (decide <| IsDigit ·) = run := by
    have all : ∀ c ∈ run, decide (IsDigit c) = true := by
      intro c member
      exact decide_eq_true (digits.digits c member)
    rw [List.takeWhile_append_of_pos all, List.takeWhile_cons_of_neg (by simpa using other),
      List.append_nil]
  have fronts : front = front' := by
    rw [← cut digits, same]
    exact cut digits'
  subst fronts
  have rest : c :: back = c :: back' := List.append_cancel_left same
  exact ⟨rfl, (List.cons.inj rest).2⟩

/-- Digits, with or without a plus sign in front, that write a number. -/
def WritesUnsigned (chars : List Char) (value : Nat) : Prop :=
  ∃ digits, (chars = digits ∨ chars = '+' :: digits) ∧ Digits digits ∧ number digits = value

/-- A number that is checked for 16 bits and found small enough is the number it was. -/
theorem checked_eq_some_iff {found : Option Nat} {value : UInt16} :
    (found.bind fun value => if value < UInt16.size then some (UInt16.ofNat value) else none) =
      some value ↔ found = some value.toNat := by
  cases found with
  | none => simp
  | some found =>
    have bound : value.toNat < UInt16.size := value.toNat_lt_size
    simp only [Option.bind_some, Option.some.injEq]
    constructor
    · intro read
      by_cases small : found < UInt16.size
      · rw [if_pos small, Option.some.injEq] at read
        rw [← read]
        exact (UInt16.toNat_ofNat_of_lt' small).symm
      · simp [small] at read
    · intro same
      rw [same, if_pos bound, UInt16.ofNat_toNat]

/-- Digits have nothing else in front. -/
theorem not_digits_cons {c : Char} (other : ¬ IsDigit c) (rest : List Char) :
    ¬ Digits (c :: rest) := by
  intro digits
  exact other (digits.digits c List.mem_cons_self)

/-- A text is read as a 16-bit number exactly when it writes one. -/
theorem uint16?_eq_some_iff {text : String} {value : UInt16} :
    uint16? text = some value ↔ WritesUnsigned text.toList value.toNat := by
  unfold uint16?
  split
  · rename_i rest chars
    rw [Option.bind_eq_bind, checked_eq_some_iff, natural?_eq_some_iff, chars]
    constructor
    · rintro ⟨digits, written⟩
      exact ⟨rest, .inr rfl, digits, written⟩
    · rintro ⟨run, rfl | same, digits, written⟩
      · exact absurd digits (not_digits_cons (by decide) rest)
      · cases same
        exact ⟨digits, written⟩
  · rename_i unsigned
    rw [Option.bind_eq_bind, checked_eq_some_iff, natural?_eq_some_iff]
    constructor
    · rintro ⟨digits, written⟩
      exact ⟨_, .inl rfl, digits, written⟩
    · rintro ⟨run, same | same, digits, written⟩
      · rw [same]
        exact ⟨digits, written⟩
      · exact absurd same (unsigned run)

/-- Digits, with or without a sign in front, that write a whole number. -/
def WritesSigned (chars : List Char) (value : Int) : Prop :=
  ∃ digits, Digits digits ∧
    ((chars = digits ∨ chars = '+' :: digits) ∧ value = number digits ∨
      chars = '-' :: digits ∧ value = -number digits)

/-- A whole number is made of what is read exactly when digits are read and it is made of the number
that they write. -/
theorem map_natural?_eq_some_iff {chars : List Char} {sign : Nat → Int} {value : Int} :
    (natural? chars).map sign = some value ↔ Digits chars ∧ sign (number chars) = value := by
  simp only [Option.map_eq_some_iff, natural?_eq_some_iff]
  constructor
  · rintro ⟨_, ⟨digits, rfl⟩, made⟩
    exact ⟨digits, made⟩
  · rintro ⟨digits, made⟩
    exact ⟨_, ⟨digits, rfl⟩, made⟩

/-- A text is read as a whole number exactly when it writes one. -/
theorem integer?_eq_some_iff {chars : List Char} {value : Int} :
    integer? chars = some value ↔ WritesSigned chars value := by
  have minus (rest : List Char) : ¬ Digits ('-' :: rest) := not_digits_cons (by decide) rest
  have plus (rest : List Char) : ¬ Digits ('+' :: rest) := not_digits_cons (by decide) rest
  unfold integer?
  split
  · rename_i rest
    rw [map_natural?_eq_some_iff]
    constructor
    · rintro ⟨digits, rfl⟩
      exact ⟨rest, digits, .inr ⟨rfl, rfl⟩⟩
    · rintro ⟨run, digits, ⟨rfl | same, rfl⟩ | ⟨same, rfl⟩⟩
      · exact absurd digits (minus rest)
      · cases same
      · cases same
        exact ⟨digits, rfl⟩
  · rename_i rest
    rw [map_natural?_eq_some_iff]
    constructor
    · rintro ⟨digits, rfl⟩
      exact ⟨rest, digits, .inl ⟨.inr rfl, rfl⟩⟩
    · rintro ⟨run, digits, ⟨rfl | same, rfl⟩ | ⟨same, rfl⟩⟩
      · exact absurd digits (plus rest)
      · cases same
        exact ⟨digits, rfl⟩
      · cases same
  · rename_i negative positive
    rw [map_natural?_eq_some_iff]
    constructor
    · rintro ⟨digits, rfl⟩
      exact ⟨chars, digits, .inl ⟨.inl rfl, rfl⟩⟩
    · rintro ⟨run, digits, ⟨rfl | same, rfl⟩ | ⟨same, rfl⟩⟩
      · exact ⟨digits, rfl⟩
      · exact absurd same (positive run)
      · exact absurd same (negative run)

/-- A text is read as a 64-bit integer exactly when it writes one. -/
theorem int64?_eq_some_iff {text : String} {value : Int64} :
    int64? text = some value ↔ WritesSigned text.toList value.toInt := by
  rw [← integer?_eq_some_iff, int64?, Option.bind_eq_bind]
  cases integer? text.toList with
  | none => simp
  | some found =>
    simp only [Option.bind_some, Option.some.injEq]
    constructor
    · intro read
      split at read
      · rename_i range
        cases read
        exact (Int64.toInt_ofInt_of_le range.1 (Int.lt_add_one_of_le range.2)).symm
      · cases read
    · rintro rfl
      rw [if_pos ⟨value.minValue_le_toInt, value.toInt_le⟩, Int64.ofInt_toInt]

end SqlWire.Number
