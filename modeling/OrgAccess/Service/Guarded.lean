import OrgAccess.Event
import OrgAccess.Store.Backend

/-!
# Guarded computations

A guarded computation works on the state of a backend: it may fail, it may change the state, and
it reports events. A failure ends it, but what was changed and reported before stays.
-/

namespace OrgAccess

/-- What a guarded computation leaves behind. -/
structure Outcome (σ α : Type) where
  result : Except Failure α
  state : σ
  events : List Event

/-- A computation that may fail, change a state, and report events. -/
def Guarded (σ α : Type) := σ → Outcome σ α

namespace Guarded

variable {σ α β : Type}

/-- The computation that only answers. -/
def pure (value : α) : Guarded σ α := fun state => ⟨.ok value, state, []⟩

/-- The computation that goes on with the answer of another, unless that fails. -/
def bind (first : Guarded σ α) (next : α → Guarded σ β) : Guarded σ β := fun state =>
  match first state with
  | ⟨.ok value, state, events⟩ =>
      let rest := next value state
      { rest with events := events ++ rest.events }
  | ⟨.error failure, state, events⟩ => ⟨.error failure, state, events⟩

/-- Steps follow each other until one fails; the state goes on, and the reports add up. -/
instance : Monad (Guarded σ) where
  pure := Guarded.pure
  bind := Guarded.bind

/-- The computation that fails. -/
def fail (failure : Failure) : Guarded σ α := fun state => ⟨.error failure, state, []⟩

/-- The computation that reports an event. -/
def report (event : Event) : Guarded σ Unit := fun state => ⟨.ok (), state, [event]⟩

/-- The computation that puts a question to the backend. -/
def ask (question : Exchange σ α) : Guarded σ α := fun state =>
  ⟨(question state).1, (question state).2, []⟩

/-- The answer, if there is one, and otherwise a failure. -/
def require (failure : Failure) : Option α → Guarded σ α
  | some value => pure value
  | none => fail failure

/-! ## Laws -/

/-- To give a value changes nothing and reports nothing. -/
@[simp] theorem pure_apply (value : α) (state : σ) :
    (Pure.pure value : Guarded σ α) state = ⟨.ok value, state, []⟩ := rfl

/-- To fail changes nothing and reports nothing. -/
@[simp] theorem fail_apply (failure : Failure) (state : σ) :
    (fail failure : Guarded σ α) state = ⟨.error failure, state, []⟩ := rfl

/-- To report an event does nothing else. -/
@[simp] theorem report_apply (event : Event) (state : σ) :
    report event state = ⟨.ok (), state, [event]⟩ := rfl

/-- A question is answered and changes what it changes, without a report. -/
@[simp] theorem ask_apply (question : Exchange σ α) (state : σ) :
    ask question state = ⟨(question state).1, (question state).2, []⟩ := rfl

/-- A step after another is taken in the state that this leaves, and only if it does not fail. -/
theorem bind_apply (first : Guarded σ α) (next : α → Guarded σ β) (state : σ) :
    (first >>= next) state =
      match (first state).result with
      | .ok value =>
          ⟨(next value (first state).state).result, (next value (first state).state).state,
            (first state).events ++ (next value (first state).state).events⟩
      | .error failure => ⟨.error failure, (first state).state, (first state).events⟩ := by
  change Guarded.bind first next state = _
  unfold Guarded.bind
  rcases first state with ⟨_ | _, _, _⟩ <;> rfl

end Guarded

end OrgAccess
