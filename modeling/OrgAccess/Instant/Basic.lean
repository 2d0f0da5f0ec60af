/-!
# Instants

A point in time: whole seconds since the start of 1970 and nanoseconds, which reach into a second
second during a leap second. Instants are ordered by seconds and then by nanoseconds.
-/

namespace OrgAccess

/-- A point in time. -/
structure Instant where
  seconds : Int
  nanos : Nat
  bounded : nanos < 2000000000 := by decide
deriving DecidableEq

namespace Instant

/-- An instant is earlier by its seconds, or in the same second by its nanoseconds. -/
instance : LT Instant where
  lt a b := a.seconds < b.seconds ∨ (a.seconds = b.seconds ∧ a.nanos < b.nanos)

/-- An instant is not later by its seconds, or in the same second by its nanoseconds. -/
instance : LE Instant where
  le a b := a.seconds < b.seconds ∨ (a.seconds = b.seconds ∧ a.nanos ≤ b.nanos)

/-- What it is to be earlier. -/
theorem lt_def (a b : Instant) :
    a < b ↔ a.seconds < b.seconds ∨ (a.seconds = b.seconds ∧ a.nanos < b.nanos) := Iff.rfl

/-- What it is not to be later. -/
theorem le_def (a b : Instant) :
    a ≤ b ↔ a.seconds < b.seconds ∨ (a.seconds = b.seconds ∧ a.nanos ≤ b.nanos) := Iff.rfl

/-- Which of two instants is earlier is found by comparing numbers. -/
instance (a b : Instant) : Decidable (a < b) := decidable_of_iff' _ (lt_def a b)

/-- So is which of them is not later. -/
instance (a b : Instant) : Decidable (a ≤ b) := decidable_of_iff' _ (le_def a b)

end Instant

end OrgAccess
