import SqlWire.Proofs.Response.Outputs
import SqlWire.Proofs.Response.Report
import SqlWire.Proofs.Row.Batch

/-!
# Outputs that are asked for

Whatever was asked for before, an ordinal stands for its place among those declared, a name for the
last output that has it, and a value is read from the bytes of its place (`Outputs.Tells`). Asking
changes nothing but the note of the last value found (`asked_eq`), so that the note is about the
last call that reached a value at all (`asked_outputs_tell`).
-/
namespace SqlWire

/-- The last item that passes a test is the one behind which none passes. -/
theorem find?_reverse_eq_some_iff {α : Type} {test : α → Bool} {items : List α} {item : α} :
    items.reverse.find? test = some item ↔
      ∃ place : Nat, items[place]? = some item ∧ test item = true ∧
        ∀ (later : Nat) (other : α), place < later → items[later]? = some other →
          test other = false := by
  induction items with
  | nil => simp
  | cons first rest ih =>
    rw [List.reverse_cons, List.find?_append, Option.or_eq_some_iff, ih, List.find?_eq_none]
    constructor
    · rintro (⟨place, placed, passes, behind⟩ | ⟨none, found⟩)
      · refine ⟨place + 1, placed, passes, ?_⟩
        intro later other after found
        cases later with
        | zero => omega
        | succ later => exact behind later other (by omega) found
      · have here : first = item ∧ test item = true := by
          rw [List.find?_singleton] at found
          split at found
          · rename_i passes
            cases found
            exact ⟨rfl, passes⟩
          · cases found
        refine ⟨0, congrArg some here.1, here.2, ?_⟩
        intro later other after found
        cases later with
        | zero => omega
        | succ later =>
          have member : other ∈ rest := List.mem_of_getElem? found
          simpa using none other (List.mem_reverse.mpr member)
    · rintro ⟨place, placed, passes, behind⟩
      cases place with
      | zero =>
        right
        cases placed
        constructor
        · intro other member
          obtain ⟨later, found⟩ := List.mem_iff_getElem?.mp (List.mem_reverse.mp member)
          simpa using behind (later + 1) other (by omega) found
        · rw [List.find?_singleton, if_pos passes]
      | succ place =>
        left
        refine ⟨place, placed, passes, ?_⟩
        intro later other after found
        exact behind (later + 1) other (by omega) found

namespace Outputs

/-- The kinds of content that an output may be asked for as. -/
inductive Form where
  /-- A whole number of 32 bits. -/
  | int32
  /-- A whole number of 64 bits. -/
  | int64
  /-- A double-precision number. -/
  | real
  /-- What a user sees. -/
  | text
  /-- Bytes. -/
  | bytes
  /-- The number of a cursor. -/
  | cursor

/-- The content of a form. -/
def Form.Content : Form → Type
  | .int32 => Int32
  | .int64 => Int64
  | .real => Binary64
  | .text => String
  | .bytes => Bytes
  | .cursor => UInt64

/-- An output as content of a form. -/
def Form.get : (form : Form) → Nat → Query (Option form.Content)
  | .int32 => getInt32
  | .int64 => getInt64
  | .real => getReal
  | .text => getText
  | .bytes => getBytes
  | .cursor => getCursor

/-- A value as content of another type: nothing for null, and an error when it has none. -/
def converted {α : Type} (target : String) (convert : Value → Option α) (value : Value) :
    Except Error (Option α) :=
  match convert value with
  | some result => .ok (some result)
  | none => if value.isNull then .ok none else .error (.type (.cannotConvert value target))

/-- A value as content of a form. -/
def Form.convert : (form : Form) → Value → Except Error (Option form.Content)
  | .int32, value => do
    match ← converted "i32" Value.toInt64? value with
    | none => .ok none
    | some number => (narrow "i32" number).map some
  | .int64, value => converted "i64" Value.toInt64? value
  | .real, value => converted "f64" Value.toReal? value
  | .text, value => .ok (if value.isNull then none else some value.display)
  | .bytes, value => converted "bytes" Value.asBytes? value
  | .cursor, value => converted "cursor" Value.asCursor? value

/-- The result of a conversion. -/
def settled {α : Type} : Except Error α → Query α
  | .ok content => pure content
  | .error error => throw error

/-- A value that is converted gives what the conversion gives. -/
theorem outcome_bind_settled {α β : Type} (first : Query α) (convert : α → Except Error β)
    (outputs : Outputs) :
    Action.outcome ((first >>= fun value => settled (convert value)) outputs) =
      Action.outcome (first outputs) >>= convert := by
  cases given : first outputs with
  | error error after =>
    rw [Action.bind_of_error given]
    rfl
  | ok value after =>
    rw [Action.bind_of_ok given]
    change Action.outcome (settled (convert value) after) = convert value
    cases convert value <;> rfl

/-- Converting a value notes nothing. -/
theorem last_bind_settled {α β : Type} (first : Query α) (convert : α → Except Error β)
    (outputs : Outputs) :
    Action.last ((first >>= fun value => settled (convert value)) outputs) =
      Action.last (first outputs) := by
  cases given : first outputs with
  | error error after =>
    rw [Action.bind_of_error given]
    rfl
  | ok value after =>
    rw [Action.bind_of_ok given]
    cases convert value <;> rfl

/-- A value is null exactly if it says so. -/
theorem isNull_iff {value : Value} : value.isNull = true ↔ value = .null := by
  cases value <;> simp [Value.isNull]

/-- A value has no content of another type exactly if it is null, which converts to nothing. -/
theorem converted_eq_none_iff {α : Type} {target : String} {convert : Value → Option α}
    {value : Value} (nothing : convert .null = none) :
    converted target convert value = .ok none ↔ value = .null := by
  by_cases null : value = .null
  · subst null
    simp [converted, nothing, Value.isNull]
  · have given : value.isNull = false := Bool.eq_false_iff.mpr fun same => null (isNull_iff.mp same)
    rw [converted, given]
    cases convert value <;> simp [null]

/-- A value has no content of a form exactly if it is null. -/
theorem Form.convert_eq_none_iff {form : Form} {value : Value} :
    form.convert value = .ok none ↔ value = .null := by
  cases form with
  | int64 | real | bytes | cursor => exact converted_eq_none_iff rfl
  | text =>
    rw [← isNull_iff, convert]
    cases value.isNull <;> simp
  | int32 =>
    constructor
    · intro given
      obtain ⟨found, whole, given⟩ := Action.except_bind_eq_ok.mp given
      cases found with
      | none => exact (converted_eq_none_iff rfl).mp whole
      | some number =>
        -- A number that is there is narrowed or refused.
        cases narrowed : narrow "i32" number <;> simp [narrowed, Except.map] at given
    · rintro rfl
      rfl

section Asked

variable {outputs : Outputs} {ordinal column : Nat}

/-- Asking for a value converted is asking for the value and then converting it. -/
theorem getAs_eq {α : Type} (target : String) (convert : Value → Option α) (ordinal : Nat) :
    getAs target convert ordinal =
      get ordinal >>= fun value => settled (converted target convert value) := by
  rw [getAs]
  congr 1
  funext value
  rw [converted]
  cases convert value with
  | some content => rfl
  | none => cases value.isNull <;> rfl

/-- Asking in a form is asking for the value and then converting it. -/
theorem Form.get_eq (form : Form) (ordinal : Nat) :
    form.get ordinal = Outputs.get ordinal >>= fun value => settled (form.convert value) := by
  cases form with
  | int64 | real | bytes | cursor => exact getAs_eq _ _ ordinal
  | text => rfl
  | int32 =>
    rw [get, getInt32, getAs_eq, bind_assoc]
    congr 1
    funext value
    rw [convert]
    cases converted "i32" Value.toInt64? value with
    | error error => rfl
    | ok found =>
      cases found with
      | none => rfl
      | some number =>
        change _ = settled ((narrow "i32" number).map some)
        simp only [settled, pure_bind]
        cases narrow "i32" number <;> rfl

/-- An ordinal of those that are told apart stands for a place exactly if it is declared there. -/
theorem columnOf_eq_ok_iff (distinct : outputs.ordinals.Nodup) :
    outputs.columnOf ordinal = .ok column ↔ outputs.ordinals[column]? = some ordinal := by
  constructor
  · intro placed
    rw [columnOf] at placed
    split at placed
    · rename_i found
      cases placed
      obtain ⟨⟨other, place⟩, listed, rfl⟩ := Option.map_eq_some_iff.mp found
      have same : other = ordinal := by simpa using List.find?_some listed
      subst same
      have member := List.mem_reverse.mp (List.mem_of_find?_eq_some listed)
      exact List.mem_zipIdx_iff_getElem?.mp member
    · cases placed
  · intro placed
    rw [columnOf, lastPlace?_of_nodup distinct placed]

/-- An ordinal that is not declared is refused. -/
theorem columnOf_of_not_mem (absent : ordinal ∉ outputs.ordinals) :
    outputs.columnOf ordinal = .error (.parameter (.notOutput ordinal)) := by
  have nowhere : lastPlace? (· == ordinal) outputs.ordinals = none := by
    rw [lastPlace?, Option.map_eq_none_iff, List.find?_eq_none]
    rintro ⟨other, place⟩ member same
    have placed := List.mem_zipIdx_iff_getElem?.mp (List.mem_reverse.mp member)
    rw [beq_iff_eq.mp same] at placed
    exact absent (List.mem_of_getElem? placed)
  rw [columnOf, nowhere]

/-- A name stands for the ordinal of the last output that has it. -/
theorem ordinalOf_eq_ok_iff (wide : outputs.fields.length = outputs.ordinals.length)
    {name : String} :
    outputs.ordinalOf name = .ok ordinal ↔
      ∃ (column : Nat) (field : OutputField), outputs.ordinals[column]? = some ordinal ∧
        outputs.fields[column]? = some field ∧ Text.upper field.name = Text.upper name ∧
        ∀ (later : Nat) (other : OutputField), column < later →
          outputs.fields[later]? = some other → Text.upper other.name ≠ Text.upper name := by
  constructor
  · intro named
    simp only [ordinalOf] at named
    split at named
    · rename_i entry found
      cases named
      obtain ⟨column, placed, passes, behind⟩ := find?_reverse_eq_some_iff.mp found
      obtain ⟨declared, described⟩ := List.getElem?_zip_eq_some.mp placed
      refine ⟨column, entry.2, declared, described, by simpa using passes, ?_⟩
      intro later other after found
      have inside : later < outputs.ordinals.length :=
        wide ▸ (List.getElem?_eq_some_iff.mp found).1
      have paired : (outputs.ordinals.zip outputs.fields)[later]? =
          some (outputs.ordinals[later], other) :=
        List.getElem?_zip_eq_some.mpr ⟨List.getElem?_eq_getElem inside, found⟩
      simpa using behind later _ after paired
    · cases named
  · rintro ⟨column, field, declared, described, same, behind⟩
    have paired : (outputs.ordinals.zip outputs.fields)[column]? = some (ordinal, field) :=
      List.getElem?_zip_eq_some.mpr ⟨declared, described⟩
    have found : (outputs.ordinals.zip outputs.fields).reverse.find?
        (fun entry => Text.upper entry.2.name == Text.upper name) = some (ordinal, field) := by
      apply find?_reverse_eq_some_iff.mpr
      refine ⟨column, paired, by simpa using same, ?_⟩
      intro later other after found
      simpa using behind later other.2 after (List.getElem?_zip_eq_some.mp found).2
    simp only [ordinalOf, found]

/-- A name is refused exactly if no output has it. -/
theorem ordinalOf_eq_error_iff (wide : outputs.fields.length = outputs.ordinals.length)
    {name : String} :
    outputs.ordinalOf name = .error (.parameter (.noOutput name)) ↔
      ∀ field ∈ outputs.fields, Text.upper field.name ≠ Text.upper name := by
  have paired : (outputs.ordinals.zip outputs.fields).map Prod.snd = outputs.fields :=
    List.map_snd_zip (Nat.le_of_eq wide)
  have absent : (outputs.ordinals.zip outputs.fields).reverse.find?
      (fun entry => Text.upper entry.2.name == Text.upper name) = none ↔
        ∀ field ∈ outputs.fields, Text.upper field.name ≠ Text.upper name := by
    rw [List.find?_eq_none]
    constructor
    · intro none field member
      rw [← paired] at member
      obtain ⟨entry, listed, rfl⟩ := List.mem_map.mp member
      simpa using none entry (List.mem_reverse.mpr listed)
    · intro none entry listed
      have member : entry.2 ∈ (outputs.ordinals.zip outputs.fields).map Prod.snd :=
        List.mem_map_of_mem (List.mem_reverse.mp listed)
      rw [paired] at member
      simpa using none entry.2 member
  rw [← absent, ordinalOf]
  cases (outputs.ordinals.zip outputs.fields).reverse.find?
    (fun entry => Text.upper entry.2.name == Text.upper name) <;> simp

/-- Of names that are told apart each stands for the ordinal of the one output that has it. -/
theorem ordinalOf_of_distinct (wide : outputs.fields.length = outputs.ordinals.length)
    (distinct : (outputs.fields.map fun field => Text.upper field.name).Nodup)
    {field : OutputField} (declared : outputs.ordinals[column]? = some ordinal)
    (described : outputs.fields[column]? = some field) {name : String}
    (same : Text.upper field.name = Text.upper name) : outputs.ordinalOf name = .ok ordinal := by
  apply (ordinalOf_eq_ok_iff wide).mpr
  refine ⟨column, field, declared, described, same, ?_⟩
  intro later other after found again
  have inside : column < (outputs.fields.map fun field => Text.upper field.name).length := by
    rw [List.length_map]
    exact (List.getElem?_eq_some_iff.mp described).1
  have twice : column = later := by
    apply (List.getElem?_inj inside distinct).mp
    rw [List.getElem?_map, List.getElem?_map, described, found, Option.map_some, Option.map_some,
      same, again]
  omega

/-- The value of an output is read from the bytes of its place under the type of its place. -/
theorem outcome_get {field : OutputField} {raw : Option Bytes}
    (placed : outputs.columnOf ordinal = .ok column)
    (described : outputs.fields[column]? = some field)
    (held : outputs.values[column]? = some raw) :
    Action.outcome (get ordinal outputs) = Value.ofRaw outputs.codec field.type raw := by
  have typed : outputs.typeAt column = field.type := by
    rw [typeAt, described]
    rfl
  have found : outputs.rawAt column = raw := by
    rw [rawAt, held]
    rfl
  simp only [get, placed, typed, found]
  cases Value.ofRaw outputs.codec field.type raw <;> rfl

/-- The value of an output that has no place is refused. -/
theorem outcome_get_of_error {error : Error} (refused : outputs.columnOf ordinal = .error error) :
    Action.outcome (get ordinal outputs) = .error error := by
  simp only [get, refused]
  rfl

/-- An output has no content of a form exactly if it is null. -/
theorem outcome_form_get_eq_none_iff {field : OutputField} {raw : Option Bytes} (form : Form)
    (placed : outputs.columnOf ordinal = .ok column)
    (described : outputs.fields[column]? = some field)
    (held : outputs.values[column]? = some raw) :
    Action.outcome (form.get ordinal outputs) = .ok none ↔ raw = none := by
  rw [form.get_eq, outcome_bind_settled, outcome_get placed described held,
    Action.except_bind_eq_ok]
  constructor
  · rintro ⟨value, read, nothing⟩
    rw [Form.convert_eq_none_iff] at nothing
    rw [nothing] at read
    exact Value.ofRaw_eq_null.mp read
  · intro null
    exact ⟨.null, Value.ofRaw_eq_null.mpr null, Form.convert_eq_none_iff.mpr rfl⟩

end Asked

/-- What outputs tell that were declared under these ordinals and came with these descriptions and
these values. -/
structure Tells (outputs : Outputs) (codec : Codec) (ordinals : List Nat)
    (fields : List OutputField) (values : RawRow) : Prop where
  /-- The ordinal that is declared at a place stands for it, and for no other place. -/
  placed : ∀ ordinal column, outputs.columnOf ordinal = .ok column ↔
    ordinals[column]? = some ordinal
  /-- An ordinal that is not declared is refused, in whatever form its output is asked for. -/
  refused : ∀ ordinal, ordinal ∉ ordinals →
    outputs.columnOf ordinal = .error (.parameter (.notOutput ordinal)) ∧
    Action.outcome (get ordinal outputs) = .error (.parameter (.notOutput ordinal)) ∧
    ∀ form : Form, Action.outcome (form.get ordinal outputs) =
      .error (.parameter (.notOutput ordinal))
  /-- The output of a place is read from the bytes of that place under the type of that place, and
  it has no content exactly if it is null. -/
  valued : ∀ ordinal column : Nat, ordinals[column]? = some ordinal →
    ∃ (field : OutputField) (raw : Option Bytes), fields[column]? = some field ∧
      values[column]? = some raw ∧
      Action.outcome (get ordinal outputs) = Value.ofRaw codec field.type raw ∧
      ∀ form : Form, Action.outcome (form.get ordinal outputs) = .ok none ↔ raw = none
  /-- A name stands for the ordinal of the last output that has it. -/
  named : ∀ name ordinal, outputs.ordinalOf name = .ok ordinal ↔
    ∃ (column : Nat) (field : OutputField), ordinals[column]? = some ordinal ∧
      fields[column]? = some field ∧ Text.upper field.name = Text.upper name ∧
      ∀ (later : Nat) (other : OutputField), column < later → fields[later]? = some other →
        Text.upper other.name ≠ Text.upper name
  /-- Where names are told apart, a name stands for the ordinal of the one output that has it. -/
  distinct : (fields.map fun field => Text.upper field.name).Nodup →
    ∀ (column ordinal : Nat) (field : OutputField), ordinals[column]? = some ordinal →
      fields[column]? = some field → ∀ name, Text.upper field.name = Text.upper name →
        outputs.ordinalOf name = .ok ordinal
  /-- A name that no output has is refused. -/
  unnamed : ∀ name, outputs.ordinalOf name = .error (.parameter (.noOutput name)) ↔
    ∀ field ∈ fields, Text.upper field.name ≠ Text.upper name

/-- Outputs that have a description and a value for each of their ordinals tell these. -/
theorem tells {outputs : Outputs} (apart : outputs.ordinals.Nodup)
    (wide : outputs.fields.length = outputs.ordinals.length)
    (full : outputs.values.length = outputs.ordinals.length) :
    outputs.Tells outputs.codec outputs.ordinals outputs.fields outputs.values where
  placed ordinal column := columnOf_eq_ok_iff apart
  refused ordinal absent := by
    have nowhere := columnOf_of_not_mem absent
    refine ⟨nowhere, outcome_get_of_error nowhere, ?_⟩
    intro form
    rw [form.get_eq, outcome_bind_settled, outcome_get_of_error nowhere]
    rfl
  valued ordinal column declared := by
    have inside := (List.getElem?_eq_some_iff.mp declared).1
    have described : outputs.fields[column]? = some outputs.fields[column] :=
      List.getElem?_eq_getElem (wide ▸ inside)
    have held : outputs.values[column]? = some outputs.values[column] :=
      List.getElem?_eq_getElem (full ▸ inside)
    have place := (columnOf_eq_ok_iff apart).mpr declared
    refine ⟨_, _, described, held, outcome_get place described held, ?_⟩
    intro form
    exact outcome_form_get_eq_none_iff form place described held
  named name ordinal := ordinalOf_eq_ok_iff wide
  distinct apart column ordinal field declared described name same :=
    ordinalOf_of_distinct wide apart declared described same
  unnamed name := ordinalOf_eq_error_iff wide

/-- A call that asks for an output. -/
inductive Call where
  /-- For its value. -/
  | value (ordinal : Nat)
  /-- For its value, by its name. -/
  | named (name : String)
  /-- In a form. -/
  | typed (form : Form) (ordinal : Nat)

/-- The outputs that a call leaves. -/
def Call.after (outputs : Outputs) : Call → Outputs
  | .value ordinal => Action.last (get ordinal outputs)
  | .named name => Action.last (getByName name outputs)
  | .typed form ordinal => Action.last (form.get ordinal outputs)

/-- The outputs that calls leave, made one after the other. -/
def asked (calls : List Call) (outputs : Outputs) : Outputs := calls.foldl Call.after outputs

/-- The place that a call reaches, if its ordinal or its name stands for one. -/
def Call.column? (outputs : Outputs) : Call → Option Nat
  | .value ordinal => (outputs.columnOf ordinal).toOption
  | .named name => (outputs.ordinalOf name >>= outputs.columnOf).toOption
  | .typed _ ordinal => (outputs.columnOf ordinal).toOption

/-- The outputs with a note about the value of a place, if one was reached. -/
def noting (outputs : Outputs) : Option Nat → Outputs
  | some column => { outputs with wasNull := (outputs.rawAt column).isNone }
  | none => outputs

/-- Asking for a value notes whether the place that it reaches holds null. -/
theorem last_get (ordinal : Nat) (outputs : Outputs) :
    Action.last (get ordinal outputs) = outputs.noting (outputs.columnOf ordinal).toOption := by
  cases placed : outputs.columnOf ordinal with
  | error error =>
    simp only [get, placed]
    rfl
  | ok column =>
    simp only [get, placed]
    cases Value.ofRaw outputs.codec (outputs.typeAt column) (outputs.rawAt column) <;> rfl

/-- A call notes whether the place that it reaches holds null, and changes nothing else. -/
theorem Call.after_eq (call : Call) (outputs : Outputs) :
    call.after outputs = outputs.noting (call.column? outputs) := by
  cases call with
  | value ordinal => exact last_get ordinal outputs
  | named name =>
    rw [after, column?]
    simp only [getByName]
    cases outputs.ordinalOf name with
    | error error => rfl
    | ok ordinal => exact last_get ordinal outputs
  | typed form ordinal =>
    rw [after, form.get_eq, last_bind_settled]
    exact last_get ordinal outputs

/-- Calls change nothing but the note, which is about the last of them that reached a place. -/
theorem asked_eq (calls : List Call) (outputs : Outputs) :
    asked calls outputs = { outputs with
      wasNull := ((calls.filterMap (Call.column? outputs)).getLast?).elim outputs.wasNull
        fun column => (outputs.rawAt column).isNone } := by
  induction calls generalizing outputs with
  | nil => rfl
  | cons call rest ih =>
    have step : asked (call :: rest) outputs = asked rest (call.after outputs) := rfl
    rw [step, ih, call.after_eq]
    cases reached : call.column? outputs with
    | none => simp [noting, reached]
    | some column =>
      have unmoved : Call.column? (outputs.noting (some column)) = Call.column? outputs := by
        funext later
        cases later <;> rfl
      rw [unmoved, List.filterMap_cons_some reached, List.getLast?_cons]
      cases (rest.filterMap (Call.column? outputs)).getLast? <;> rfl

/-- A call reaches no other places than those of declared ordinals. -/
theorem Call.exists_columnOf {call : Call} {outputs : Outputs} {column : Nat}
    (reached : call.column? outputs = some column) :
    ∃ ordinal, outputs.columnOf ordinal = .ok column := by
  cases call with
  | value ordinal | typed form ordinal =>
    rw [column?] at reached
    cases placed : outputs.columnOf ordinal with
    | error error => simp [placed, Except.toOption] at reached
    | ok place =>
      simp only [placed, Except.toOption, Option.some.injEq] at reached
      exact ⟨ordinal, reached ▸ placed⟩
  | named name =>
    rw [column?] at reached
    cases found : outputs.ordinalOf name >>= outputs.columnOf with
    | error error => simp [found, Except.toOption] at reached
    | ok place =>
      simp only [found, Except.toOption, Option.some.injEq] at reached
      obtain ⟨ordinal, _, placed⟩ := Action.except_bind_eq_ok.mp found
      exact ⟨ordinal, reached ▸ placed⟩

/-- Outputs that were read have a description and then a value for each ordinal, and nothing was
asked for. -/
theorem of_read_eq_ok {codec : Codec} {ordinals : List Nat} {outputs : Outputs}
    {input rest : Bytes} (done : read codec ordinals input = .ok outputs rest) :
    outputs = ⟨outputs.fields, outputs.values, ordinals, codec, false⟩ ∧
      ∃ count described packed, Reader.u32 codec.order input = .ok count described ∧
        Reader.replicate (OutputField.read codec) ordinals.length described =
          .ok outputs.fields packed ∧
        PackedRow.read codec.order ordinals.length packed = .ok outputs.values rest := by
  obtain ⟨count, described, counted, done⟩ := Action.bind_eq_ok.mp done
  split at done
  · cases done
  · rename_i other
    have expected : count.toNat = ordinals.length := by simpa using other
    rw [expected] at done
    obtain ⟨fields, packed, listed, done⟩ := Action.bind_eq_ok.mp done
    obtain ⟨values, _, unpacked, done⟩ := Action.bind_eq_ok.mp done
    obtain ⟨rfl, rfl⟩ := Action.pure_eq_ok.mp done
    exact ⟨rfl, count, described, packed, counted, listed, unpacked⟩

/-- Outputs that were read for ascending ordinals, after any calls. The descriptions and the values
are those that stand in the answer, as many as the ordinals; whatever was asked for, the outputs
tell these. The note says whether the last call that reached a place found null there, no matter
whether it gave a value, and says no while no call did. -/
theorem asked_outputs_tell {codec : Codec} {ordinals : List Nat} {outputs : Outputs}
    {input rest : Bytes} (ascending : ordinals.Pairwise (· < ·))
    (received : read codec ordinals input = .ok outputs rest) (calls : List Call) :
    (∃ count described packed, Reader.u32 codec.order input = .ok count described ∧
      Reader.replicate (OutputField.read codec) ordinals.length described =
        .ok outputs.fields packed ∧
      PackedRow.read codec.order ordinals.length packed = .ok outputs.values rest) ∧
    (asked calls outputs).Tells codec ordinals outputs.fields outputs.values ∧
    ((asked calls outputs).wasNull = true ↔
      ∃ column, (calls.filterMap (Call.column? outputs)).getLast? = some column ∧
        outputs.values[column]? = some none) := by
  obtain ⟨whole, parts⟩ := of_read_eq_ok received
  obtain ⟨count, described, packed, counted, listed, unpacked⟩ := parts
  have apart : ordinals.Nodup := ascending.imp Nat.ne_of_lt
  have wide : outputs.fields.length = ordinals.length := (Reader.of_replicate_eq_ok listed).1
  have full : outputs.values.length = ordinals.length := PackedRow.length_of_read_eq_ok unpacked
  have declared : outputs.ordinals = ordinals := by rw [whole]
  have unasked : outputs.wasNull = false := by rw [whole]
  refine ⟨⟨count, described, packed, counted, listed, unpacked⟩, ?_, ?_⟩
  · rw [asked_eq, whole]
    exact tells apart wide full
  · rw [asked_eq]
    simp only [unasked]
    cases reached : (calls.filterMap (Call.column? outputs)).getLast? with
    | none => simp
    | some column =>
      have member : column ∈ calls.filterMap (Call.column? outputs) :=
        List.mem_of_getLast? reached
      obtain ⟨call, _, found⟩ := List.mem_filterMap.mp member
      obtain ⟨ordinal, placed⟩ := Call.exists_columnOf found
      have inside : column < outputs.values.length := by
        rw [columnOf_eq_ok_iff (declared ▸ apart), declared] at placed
        rw [full]
        exact (List.getElem?_eq_some_iff.mp placed).1
      simp [rawAt, List.getElem?_eq_getElem inside]

/-- The second of four parameters is a NUMBER that is no whole number, and the fourth is an INTEGER
that is null. Asking for the fourth by name finds null, which a refused ordinal leaves; asking for
the second as a whole number fails and still finds a value. -/
theorem asked_outputs_tell_fraction :
    let codec : Codec := ⟨.big, .utf8⟩
    let fields : List OutputField := [⟨"price", .number, 9, 2, 128⟩, ⟨"rest", .integer, 0, 0, 128⟩]
    let values : RawRow := [some [49, 50, 46, 53], none]
    let input := codec.order.u32 2 ++
      (fields.flatMap OutputField.bytes ++ PackedRow.bytes codec.order values)
    let outputs : Outputs := ⟨fields, values, [2, 4], codec, false⟩
    [2, 4].Pairwise (· < ·) ∧ read codec [2, 4] input = .ok outputs [] ∧
      (asked [.named "REST", .value 3] outputs).wasNull = true ∧
      (asked [.named "REST", .typed .int32 2] outputs).wasNull = false ∧
      (asked [.named "REST", .typed .int32 2] outputs).ordinalOf "Price" = .ok 2 := by
  intro codec fields values input outputs
  have ascending : [2, 4].Pairwise (· < ·) := by decide
  have described : ∀ field ∈ fields, field.Fits := by
    intro field member
    simp only [fields, List.mem_cons, List.not_mem_nil, or_false] at member
    rcases member with rfl | rfl <;> exact ⟨by decide, by decide⟩
  have lengths : PackedRow.Fits values := by
    unfold PackedRow.Fits
    decide
  have fits : (Report.call fields values).Fits [2, 4] := ⟨rfl, by decide, described, rfl, lengths⟩
  have received : read codec [2, 4] input = .ok outputs [] := by
    have found := Report.finds_outputs .big fits []
    rwa [List.append_nil] at found
  obtain ⟨_, _, noted⟩ := asked_outputs_tell ascending received [.named "REST", .value 3]
  obtain ⟨_, told, other⟩ := asked_outputs_tell ascending received
    [.named "REST", .typed .int32 2]
  have null := noted.mpr ⟨1, by rfl, rfl⟩
  have found : (asked [.named "REST", .typed .int32 2] outputs).wasNull = false := by
    rw [Bool.eq_false_iff, Ne, other]
    rintro ⟨column, reached, held⟩
    have first : (some 0 : Option Nat) = some column := reached
    cases first
    cases held
  have names : Text.upper "price" = Text.upper "Price" := by decide +kernel
  have named := told.distinct (by decide +kernel) 0 2 _ rfl rfl "Price" names
  exact ⟨ascending, received, null, found, named⟩

end Outputs
end SqlWire
