/-!
# Computations that keep their state

A computation of this library that stops keeps the state it had reached: bytes that were read stay
read, and what was sent stays sent. These lemmas say when a sequence of two such computations ends
with a result and when it stops, and which state it leaves in either case.
-/
namespace SqlWire.Action

variable {ε σ α β : Type}

/-- A sequence goes on with the result of its first part. -/
theorem bind_of_ok {first : EStateM ε σ α} {next : α → EStateM ε σ β} {before middle : σ}
    {value : α} (done : first before = .ok value middle) :
    (first >>= next) before = next value middle := by
  simp only [bind, EStateM.bind, done]

/-- A sequence stops where its first part stops. -/
theorem bind_of_error {first : EStateM ε σ α} {next : α → EStateM ε σ β} {before middle : σ}
    {stop : ε} (stopped : first before = .error stop middle) :
    (first >>= next) before = .error stop middle := by
  simp only [bind, EStateM.bind, stopped]

/-- A sequence depends on its first part only through what that ends with. -/
theorem bind_congr {first first' : EStateM ε σ α} {next : α → EStateM ε σ β} {before before' : σ}
    (same : first before = first' before') : (first >>= next) before = (first' >>= next) before' := by
  simp only [bind, EStateM.bind, same]

/-- A sequence ends with a result when both parts do. -/
theorem bind_eq_ok {first : EStateM ε σ α} {next : α → EStateM ε σ β} {before after : σ}
    {result : β} :
    (first >>= next) before = .ok result after ↔
      ∃ value middle, first before = .ok value middle ∧ next value middle = .ok result after := by
  cases h : first before with
  | ok value middle =>
    rw [bind_of_ok h]
    constructor
    · intro rest
      exact ⟨value, middle, rfl, rest⟩
    · rintro ⟨_, _, same, rest⟩
      cases same
      exact rest
  | error stop middle => simp [bind_of_error h]

/-- A sequence stops where its first part does, or else where its second part does. -/
theorem bind_eq_error {first : EStateM ε σ α} {next : α → EStateM ε σ β} {before after : σ}
    {stop : ε} :
    (first >>= next) before = .error stop after ↔
      first before = .error stop after ∨
        ∃ value middle,
          first before = .ok value middle ∧ next value middle = .error stop after := by
  cases h : first before with
  | ok value middle =>
    rw [bind_of_ok h]
    constructor
    · intro rest
      exact .inr ⟨value, middle, rfl, rest⟩
    · rintro (stopped | ⟨_, _, same, rest⟩)
      · cases stopped
      · cases same
        exact rest
  | error other middle => simp [bind_of_error h]

@[simp] theorem pure_apply (value : α) (before : σ) :
    (pure value : EStateM ε σ α) before = .ok value before := rfl

@[simp] theorem throw_apply (stop : ε) (before : σ) :
    (throw stop : EStateM ε σ α) before = .error stop before := rfl

@[simp] theorem get_apply (before : σ) :
    (get : EStateM ε σ σ) before = .ok before before := rfl

@[simp] theorem modify_apply (change : σ → σ) (before : σ) :
    (modify change : EStateM ε σ PUnit) before = .ok ⟨⟩ (change before) := rfl

/-- A value given back leaves the state as it was. -/
theorem pure_eq_ok {before after : σ} {value result : α} :
    (pure value : EStateM ε σ α) before = .ok result after ↔ value = result ∧ before = after := by
  simp

/-- A failure is no success. -/
theorem throw_ne_ok {before after : σ} {stop : ε} {result : α} :
    (throw stop : EStateM ε σ α) before ≠ .ok result after := by
  simp

/-- Looking at the state gives the state and leaves it as it was. -/
theorem get_eq_ok {before after result : σ} :
    (get : EStateM ε σ σ) before = .ok result after ↔ before = result ∧ before = after := by
  simp

/-- A change of the state always succeeds. -/
theorem modify_eq_ok {change : σ → σ} {before after : σ} {result : PUnit} :
    (modify change : EStateM ε σ PUnit) before = .ok result after ↔ change before = after := by
  simp

/-- The state that a computation leaves, whether it ended with a result or stopped. -/
def last : EStateM.Result ε σ α → σ
  | .ok _ after => after
  | .error _ after => after

/-- A sequence of computations without a state ends with a result when both parts do. -/
theorem except_bind_eq_ok {first : Except ε α} {next : α → Except ε β} {result : β} :
    (first >>= next) = .ok result ↔ ∃ value, first = .ok value ∧ next value = .ok result := by
  cases first with
  | ok value =>
    constructor
    · intro rest
      exact ⟨value, rfl, rest⟩
    · rintro ⟨_, same, rest⟩
      cases same
      exact rest
  | error stop => simp [bind, Except.bind]

/-- A sequence of results fails where its first part does, or else where its second part does. -/
theorem except_bind_eq_error {first : Except ε α} {next : α → Except ε β} {stop : ε} :
    (first >>= next) = .error stop ↔
      first = .error stop ∨ ∃ value, first = .ok value ∧ next value = .error stop := by
  cases first <;> simp [bind, Except.bind]

/-- What a computation ends with, apart from the state. -/
def outcome : EStateM.Result ε σ α → Except ε α
  | .ok value _ => .ok value
  | .error stop _ => .error stop

@[simp] theorem last_ok (value : α) (after : σ) :
    last (.ok value after : EStateM.Result ε σ α) = after := rfl

@[simp] theorem last_error (stop : ε) (after : σ) :
    last (.error stop after : EStateM.Result ε σ α) = after := rfl

@[simp] theorem outcome_ok (value : α) (after : σ) :
    outcome (.ok value after : EStateM.Result ε σ α) = .ok value := rfl

@[simp] theorem outcome_error (stop : ε) (after : σ) :
    outcome (.error stop after : EStateM.Result ε σ α) = .error stop := rfl

/-- A computation that ends with a value leaves its last state. -/
theorem eq_ok_of_outcome {result : EStateM.Result ε σ α} {value : α}
    (h : (outcome result).toOption = some value) : result = .ok value (last result) := by
  cases result with
  | ok found after =>
    cases h
    rfl
  | error stop after => cases h

/-- A computation that stops leaves its last state. -/
theorem eq_error_of_outcome {result : EStateM.Result ε σ α} {stop : ε}
    (h : outcome result = .error stop) : result = .error stop (last result) := by
  cases result with
  | ok found after => cases h
  | error stopped after =>
    cases h
    rfl

/-- A sequence leaves the state in which its first part stops, or else what its second part leaves.
-/
theorem last_bind {first : EStateM ε σ α} {next : α → EStateM ε σ β} {before : σ}
    {motive : σ → Prop}
    (stopped : ∀ stop middle, first before = .error stop middle → motive middle)
    (continued : ∀ value middle,
      first before = .ok value middle → motive (last (next value middle))) :
    motive (last ((first >>= next) before)) := by
  cases h : first before with
  | ok value middle =>
    rw [bind_of_ok h]
    exact continued value middle h
  | error stop middle =>
    rw [bind_of_error h]
    exact stopped stop middle h

/-- Putting the value of a computation another way leaves the same state. -/
@[simp] theorem last_bind_pure (first : EStateM ε σ α) (convert : α → β) (before : σ) :
    last ((first >>= fun value => pure (convert value)) before) = last (first before) := by
  cases h : first before with
  | ok value middle =>
    rw [bind_of_ok h]
    rfl
  | error stop middle =>
    rw [bind_of_error h]
    rfl

/-- Putting the value of a computation another way changes nothing else about its end. -/
@[simp] theorem outcome_bind_pure (first : EStateM ε σ α) (convert : α → β) (before : σ) :
    outcome ((first >>= fun value => pure (convert value)) before) =
      (outcome (first before)).map convert := by
  cases h : first before with
  | ok value middle =>
    rw [bind_of_ok h]
    rfl
  | error stop middle =>
    rw [bind_of_error h]
    rfl

/-- Whether a computation stops for no other reasons than these. -/
def StopsFor (reason : ε → Prop) (action : EStateM ε σ α) : Prop :=
  ∀ before stop after, action before = .error stop after → reason stop

section StopsFor

variable {reason : ε → Prop}

/-- A sequence stops for the reasons of its parts. -/
theorem StopsFor.bind {first : EStateM ε σ α} {next : α → EStateM ε σ β}
    (head : StopsFor reason first) (tail : ∀ value, StopsFor reason (next value)) :
    StopsFor reason (first >>= next) := by
  intro before stop after h
  rcases bind_eq_error.mp h with stopped | ⟨value, middle, _, stopped⟩
  · exact head before stop after stopped
  · exact tail value middle stop after stopped

/-- A value given back never stops. -/
theorem stopsFor_pure (value : α) : StopsFor reason (pure value : EStateM ε σ α) := by
  intro _ _ _ stopped
  cases stopped

/-- A failure stops for its reason. -/
theorem stopsFor_throw {stop : ε} (given : reason stop) :
    StopsFor reason (throw stop : EStateM ε σ α) := by
  intro _ _ _ stopped
  cases stopped
  exact given

/-- Looking at the state never stops. -/
theorem stopsFor_get : StopsFor reason (get : EStateM ε σ σ) := by
  intro _ _ _ stopped
  cases stopped

/-- A change of the state never stops. -/
theorem stopsFor_modify (change : σ → σ) :
    StopsFor reason (modify change : EStateM ε σ PUnit) := by
  intro _ _ _ stopped
  cases stopped

end StopsFor

end SqlWire.Action
