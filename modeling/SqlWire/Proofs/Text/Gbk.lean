import SqlWire.Text.Gbk

/-!
# Reading text written in GBK

A character that is written is read as what its bytes mean: itself, if its code is its own; the
character that has its code now, if the code was given away; the text of its reference, if it has
none (`decodeChars_encodeChar`). So a text comes back as it was exactly when every character of it
has a code of its own (`decode_encode_eq_iff`).
-/
namespace SqlWire.Gbk

/-- Characters of half a row. -/
def halfWidth : Nat := 95

/-- Whether rows have the width of half rows. -/
def Wide (rows : List String) : Prop := ∀ row ∈ rows, row.toList.length = halfWidth

/-- No rows. -/
theorem Wide.nil : Wide [] := nofun

/-- A row in front of others. -/
theorem Wide.cons {row : String} {rest : List String} (width : row.toList.length = halfWidth)
    (others : Wide rest) : Wide (row :: rest) := by
  intro other member
  cases member with
  | head => exact width
  | tail _ later => exact others other later

set_option maxRecDepth 4000 in
/-- The half rows of the table are as wide as they should be. -/
theorem wide_halfRows : Wide halfRows := by
  unfold halfRows
  -- A row is a literal, whose characters are at hand only one row at a time.
  repeat (apply Wide.cons; · (rw [String.toList_ofList]; rfl))
  exact .nil

/-- There are two half rows for each of the lead bytes. -/
theorem length_halfRows : halfRows.length = 252 := by decide +kernel

/-- The place of a character in rows that stand behind each other. -/
theorem Wide.getElem?_flatMap {rows : List String} (wide : Wide rows) (index : Nat) :
    (rows.flatMap String.toList)[index]? =
      (rows[index / halfWidth]?).bind fun row => row.toList[index % halfWidth]? := by
  induction rows generalizing index with
  | nil => rfl
  | cons row rest ih =>
    have width : row.toList.length = halfWidth := wide row List.mem_cons_self
    have others : Wide rest := fun other member => wide other (List.mem_cons_of_mem _ member)
    have positive : 0 < halfWidth := by decide
    rw [List.flatMap_cons]
    by_cases inside : index < halfWidth
    · rw [List.getElem?_append_left (by rwa [width]), Nat.div_eq_of_lt inside,
        Nat.mod_eq_of_lt inside]
      rfl
    · obtain ⟨later, rfl⟩ := Nat.exists_eq_add_of_le' (Nat.le_of_not_lt inside)
      rw [List.getElem?_append_right (by rw [width]; exact Nat.le_add_left _ _), width,
        Nat.add_sub_cancel, ih others later, Nat.add_div_right later positive,
        Nat.add_mod_right, List.getElem?_cons_succ]

/-- The character of a pointer stands in the half row of the pointer. -/
theorem getElem?_characters (pointer : Nat) :
    characters[pointer]? =
      (halfRows[pointer / halfWidth]?).bind fun row => row.toList[pointer % halfWidth]? := by
  rw [characters, List.getElem?_toArray, wide_halfRows.getElem?_flatMap]

/-- A pointer with a character has one of the lead bytes. -/
theorem lt_of_getElem?_characters {pointer : Nat} {c : Char}
    (found : characters[pointer]? = some c) : pointer / rowWidth < 126 := by
  rw [getElem?_characters] at found
  obtain ⟨row, inside, _⟩ := Option.bind_eq_some_iff.mp found
  have less := (List.getElem?_eq_some_iff.mp inside).1
  rw [length_halfRows, halfWidth] at less
  rw [rowWidth]
  omega

/-- The first pointer of a character is one of it. -/
theorem getElem?_of_pointer? {c : Char} {pointer : Nat} (found : pointer? c = some pointer) :
    characters[pointer]? = some c := by
  rw [pointer?] at found
  split at found
  · obtain ⟨inside, same, _⟩ := Array.findIdx?_eq_some_iff_getElem.mp found
    rw [Array.getElem?_eq_getElem inside, eq_of_beq same]
  · cases found

/-- Whether a number is that of a trail byte. -/
def Trails (number : Nat) : Prop :=
  0x40 ≤ number ∧ number ≤ 0x7E ∨ 0x80 ≤ number ∧ number ≤ 0xFE

/-- Trail bytes count from their first, and 7F is left out. -/
def trailPlace (number : Nat) : Nat := number - if number < 0x7F then 0x40 else 0x41

/-- Two bytes have a character exactly when the second is a trail byte and the table has one. -/
theorem pair?_eq_some {lead trail : UInt8} {c : Char} :
    pair? lead trail = some c ↔ Trails trail.toNat ∧
      characters[(lead.toNat - 0x81) * rowWidth + trailPlace trail.toNat]? = some c := by
  have place : (trail.toNat - if trail < 0x7F then 0x40 else 0x41) = trailPlace trail.toNat := by
    simp only [trailPlace, UInt8.lt_iff_toNat_lt]
    rfl
  rw [pair?, place]
  split
  · rename_i trails
    exact ⟨fun found => ⟨trails, found⟩, And.right⟩
  · rename_i other
    exact ⟨nofun, fun found => absurd found.1 other⟩

/-- Two bytes of which the first may lead are read as their character. -/
theorem decodeChars_pair {lead trail : UInt8} {c : Char} (leads : isLead lead = true)
    (known : pair? lead trail = some c) (rest : Bytes) :
    decodeChars (lead :: trail :: rest) = c :: decodeChars rest := by
  have range : 0x81 ≤ lead.toNat ∧ lead.toNat ≤ 0xFE := by
    simpa [isLead, UInt8.le_iff_toNat_le] using leads
  have notAscii : ¬ lead < 0x80 := by
    rw [UInt8.lt_iff_toNat_lt]
    exact Nat.not_lt.mpr (Nat.le_of_succ_le range.1)
  have notEuro : lead ≠ 0x80 := by
    rintro rfl
    exact absurd range.1 (by decide)
  have notLast : lead ≠ 0xFF := by
    rintro rfl
    exact absurd range.2 (by decide)
  have notDigit : ¬ isDigit trail = true := by
    have trails : Trails trail.toNat := (pair?_eq_some.mp known).1
    have small : (0x39 : UInt8).toNat = 0x39 := rfl
    simp only [isDigit, UInt8.le_iff_toNat_le, Bool.and_eq_true, decide_eq_true_eq, small]
    unfold Trails at trails
    omega
  rw [decodeChars.eq_def]
  simp only [if_neg notAscii, if_neg notEuro, if_neg notLast, if_neg notDigit, known]

/-- The code of a pointer means the character of the pointer. -/
theorem pair?_codeOf {pointer : Nat} {c : Char} (found : characters[pointer]? = some c) :
    ∃ lead trail, codeOf pointer = [lead, trail] ∧ isLead lead = true ∧
      pair? lead trail = some c := by
  have row := lt_of_getElem?_characters found
  have column : pointer % rowWidth < 190 := Nat.mod_lt pointer (by decide)
  have whole : pointer / rowWidth * rowWidth + pointer % rowWidth = pointer :=
    Nat.div_add_mod' pointer rowWidth
  have lead : (UInt8.ofNat (pointer / rowWidth + 0x81)).toNat = pointer / rowWidth + 0x81 := by
    rw [UInt8.toNat_ofNat', Nat.mod_eq_of_lt (by omega)]
  -- The trail bytes leave out 7F, so from there on they are one ahead.
  obtain ⟨trail, trailEq, back, trails⟩ : ∃ trail : Nat,
      pointer % rowWidth + (if pointer % rowWidth < 0x3F then 0x40 else 0x41) = trail ∧
      trailPlace trail = pointer % rowWidth ∧ Trails trail := by
    refine ⟨_, rfl, ?_, ?_⟩
    · unfold trailPlace
      split <;> split <;> omega
    · unfold Trails
      split <;> omega
  have second : (UInt8.ofNat trail).toNat = trail := by
    unfold Trails at trails
    rw [UInt8.toNat_ofNat', Nat.mod_eq_of_lt (by omega)]
  refine ⟨UInt8.ofNat (pointer / rowWidth + 0x81), UInt8.ofNat trail, ?_, ?_, ?_⟩
  · simp only [codeOf, trailEq]
  · simp only [isLead, UInt8.le_iff_toNat_le, lead, Bool.and_eq_true, decide_eq_true_eq]
    exact ⟨Nat.le_add_left _ _, by simp; omega⟩
  · rw [pair?_eq_some, lead, second, back, Nat.add_sub_cancel, whole]
    exact ⟨trails, found⟩

/-- A byte of ASCII is read as its character. -/
theorem decodeChars_ascii {c : Char} (small : c.toNat < 0x80) (rest : Bytes) :
    decodeChars (UInt8.ofNat c.toNat :: rest) = c :: decodeChars rest := by
  have number : (UInt8.ofNat c.toNat).toNat = c.toNat := by
    rw [UInt8.toNat_ofNat', Nat.mod_eq_of_lt (by omega)]
  have ascii : UInt8.ofNat c.toNat < 0x80 := by
    rw [UInt8.lt_iff_toNat_lt, number]
    exact small
  rw [decodeChars.eq_def]
  simp only [if_pos ascii, number, Char.ofNat_toNat]

/-- Bytes of ASCII are read as their characters. -/
theorem decodeChars_map_ascii {chars : List Char} (small : ∀ c ∈ chars, c.toNat < 0x80)
    (rest : Bytes) :
    decodeChars (chars.map (fun c => UInt8.ofNat c.toNat) ++ rest) = chars ++ decodeChars rest := by
  induction chars with
  | nil => rfl
  | cons c others ih =>
    rw [List.map_cons, List.cons_append, decodeChars_ascii (small c List.mem_cons_self),
      ih fun other member => small other (List.mem_cons_of_mem _ member), List.cons_append]

/-- The byte of the euro sign is read as the euro sign. -/
theorem decodeChars_euro (rest : Bytes) : decodeChars (0x80 :: rest) = '€' :: decodeChars rest := by
  rw [decodeChars.eq_def]
  rfl

/-- The characters of a reference. -/
def referenceText (c : Char) : List Char := '&' :: '#' :: (Nat.toDigits 10 c.toNat ++ [';'])

/-- A reference is read as its characters. -/
theorem decodeChars_reference (c : Char) (rest : Bytes) :
    decodeChars (reference c ++ rest) = referenceText c ++ decodeChars rest := by
  have written : reference c = (referenceText c).map fun c => UInt8.ofNat c.toNat := by
    simp [reference, referenceText]
  rw [written]
  apply decodeChars_map_ascii
  intro digit member
  simp only [referenceText, List.mem_cons, List.mem_append, List.not_mem_nil, or_false] at member
  obtain rfl | rfl | digits | rfl := member
  · decide
  · decide
  · have decimal : digit.isDigit = true :=
      Nat.isDigit_of_mem_toDigits (by decide) (by decide) digits
    simp only [Char.isDigit, Bool.and_eq_true, decide_eq_true_eq] at decimal
    exact Nat.lt_of_le_of_lt (UInt32.le_iff_toNat_le.mp decimal.2) (by decide)
  · decide

/-- The pointer of two bytes. -/
def pointerOf (lead trail : UInt8) : Nat :=
  (lead.toNat - 0x81) * rowWidth + trailPlace trail.toNat

/-- Whether a code means another character than the one that kept it. -/
def Reassigned (c : Char) (code : Bytes) : Prop :=
  ∃ lead trail later, code = [lead, trail] ∧ isLead lead = true ∧
    pair? lead trail = some later ∧ later ≠ c

/-- A code means another character when its half row holds one at its place. -/
theorem reassigned_of_row {c later : Char} {lead trail : UInt8} {row : List Char}
    (leads : isLead lead = true) (trails : Trails trail.toNat)
    (found : halfRows[pointerOf lead trail / halfWidth]? = some (String.ofList row))
    (holds : row[pointerOf lead trail % halfWidth]? = some later) (other : later ≠ c) :
    Reassigned c [lead, trail] := by
  have known : characters[pointerOf lead trail]? = some later := by
    rw [getElem?_characters, found, Option.bind_some, String.toList_ofList, holds]
  exact ⟨lead, trail, later, rfl, leads, pair?_eq_some.mpr ⟨trails, known⟩, other⟩

set_option maxRecDepth 4000 in
/-- Every former code means another character now. -/
theorem reassigned_formerCodes : ∀ entry ∈ formerCodes, Reassigned entry.1 entry.2 := by
  simp only [formerCodes, List.forall_mem_cons]
  repeat (refine ⟨reassigned_of_row rfl (by unfold Trails; decide) rfl rfl (by decide), ?_⟩)
  exact nofun

/-- What a character is read as that was written. -/
def readBack (c : Char) : List Char :=
  match formerCodes.find? (·.1 == c) with
  | some entry => decodeChars entry.2
  | none => if (code? c).isSome then [c] else referenceText c

/-- Whether a character has a code of its own. -/
def Kept (c : Char) : Prop := (code? c).isSome = true ∧ formerCodes.find? (·.1 == c) = none

/-- A code that was not given away is read as its character. -/
theorem decodeChars_of_code? {c : Char} {code : Bytes} (coded : code? c = some code)
    (own : formerCodes.find? (·.1 == c) = none) (rest : Bytes) :
    decodeChars (code ++ rest) = c :: decodeChars rest := by
  rw [code?] at coded
  split at coded
  · rename_i ascii
    cases coded
    exact decodeChars_ascii ascii rest
  · split at coded
    · rename_i euro
      cases coded
      rw [euro]
      exact decodeChars_euro rest
    · rw [own] at coded
      obtain ⟨pointer, found, rfl⟩ := Option.map_eq_some_iff.mp coded
      obtain ⟨lead, trail, same, leads, known⟩ := pair?_codeOf (getElem?_of_pointer? found)
      rw [same]
      exact decodeChars_pair leads known rest

/-- A character whose code was given away keeps writing that code, and it is read as another
character. -/
theorem readBack_of_former {c : Char} {entry : Char × Bytes}
    (former : formerCodes.find? (·.1 == c) = some entry) :
    ∃ later, later ≠ c ∧ readBack c = [later] ∧
      ∀ rest, decodeChars (encodeChar c ++ rest) = later :: decodeChars rest := by
  have member := List.mem_of_find?_eq_some former
  have same : entry.1 = c := by simpa using List.find?_some former
  have large : ∀ entry ∈ formerCodes, ¬ entry.1.toNat < 0x80 ∧ entry.1 ≠ '€' := by decide
  obtain ⟨notAscii, notEuro⟩ := large entry member
  obtain ⟨lead, trail, later, code, leads, known, other⟩ := reassigned_formerCodes entry member
  rw [same] at notAscii notEuro other
  have written : encodeChar c = [lead, trail] := by
    rw [encodeChar, code?, if_neg notAscii, if_neg notEuro, former, Option.getD_some, code]
  refine ⟨later, other, ?_, ?_⟩
  · rw [readBack, former]
    dsimp only
    rw [code, decodeChars_pair leads known, decodeChars]
  · intro rest
    rw [written]
    exact decodeChars_pair leads known rest

/-- A character that was written is read as what its bytes mean. -/
theorem decodeChars_encodeChar (c : Char) (rest : Bytes) :
    decodeChars (encodeChar c ++ rest) = readBack c ++ decodeChars rest := by
  cases former : formerCodes.find? (·.1 == c) with
  | some entry =>
    obtain ⟨later, _, back, read⟩ := readBack_of_former former
    rw [read, back, List.singleton_append]
  | none =>
    rw [encodeChar, readBack, former]
    cases coded : code? c with
    | some code => exact decodeChars_of_code? coded former rest
    | none => exact decodeChars_reference c rest

/-- Text that was written is read as what its bytes mean, character by character. -/
theorem decode_encode (text : String) :
    decode (encode text) = String.ofList (text.toList.flatMap readBack) := by
  have chars : ∀ chars : List Char,
      decodeChars (chars.flatMap encodeChar) = chars.flatMap readBack := by
    intro chars
    induction chars with
    | nil => rw [List.flatMap_nil, decodeChars, List.flatMap_nil]
    | cons c rest ih => rw [List.flatMap_cons, decodeChars_encodeChar, ih, List.flatMap_cons]
  rw [decode, encode, chars]

/-- Something is read for every character. -/
theorem readBack_ne_nil (c : Char) : readBack c ≠ [] := by
  cases former : formerCodes.find? (·.1 == c) with
  | some entry =>
    obtain ⟨later, _, back, _⟩ := readBack_of_former former
    simp [back]
  | none =>
    rw [readBack, former]
    dsimp only
    split <;> simp [referenceText]

/-- A character is read as itself exactly when it has a code of its own. -/
theorem readBack_eq_singleton_iff {c : Char} : readBack c = [c] ↔ Kept c := by
  cases former : formerCodes.find? (·.1 == c) with
  | some entry =>
    obtain ⟨later, other, back, _⟩ := readBack_of_former former
    simp [Kept, former, back, other]
  | none =>
    rw [readBack, Kept, former]
    cases coded : code? c with
    | some code => simp
    | none => simp [referenceText]

/-- Characters are read as themselves exactly when each has a code of its own. -/
theorem flatMap_readBack_eq_iff {chars : List Char} :
    chars.flatMap readBack = chars ↔ ∀ c ∈ chars, Kept c := by
  have longer : ∀ chars : List Char, chars.length ≤ (chars.flatMap readBack).length := by
    intro chars
    induction chars with
    | nil => exact Nat.le_refl 0
    | cons c rest ih =>
      have some := List.length_pos_iff.mpr (readBack_ne_nil c)
      rw [List.flatMap_cons, List.length_append, List.length_cons]
      omega
  induction chars with
  | nil => simp
  | cons c rest ih =>
    rw [List.flatMap_cons, List.forall_mem_cons, ← readBack_eq_singleton_iff]
    constructor
    · intro same
      -- The rest takes at least its own length, so the first character takes one place only.
      have length := congrArg List.length same
      have some := List.length_pos_iff.mpr (readBack_ne_nil c)
      have others := longer rest
      rw [List.length_append, List.length_cons] at length
      have one : (readBack c).length = [c].length := by
        rw [List.length_singleton]
        omega
      obtain ⟨first, later⟩ := List.append_inj same one
      exact ⟨first, ih.mp later⟩
    · rintro ⟨first, kept⟩
      rw [first, ih.mpr kept, List.singleton_append]

/-- A text is read as it was written exactly when each of its characters has a code of its own. -/
theorem decode_encode_eq_iff {text : String} :
    decode (encode text) = text ↔ ∀ c ∈ text.toList, Kept c := by
  rw [decode_encode]
  constructor
  · intro same
    have chars := congrArg String.toList same
    rw [String.toList_ofList] at chars
    exact flatMap_readBack_eq_iff.mp chars
  · intro kept
    rw [flatMap_readBack_eq_iff.mpr kept, String.ofList_toList]

end SqlWire.Gbk
