import Mathlib.Order.Defs.LinearOrder
import OrgAccess.Instant.Basic

/-!
# The order of instants

Of two different instants one is earlier, so what is known of linear orders is known of instants.
The relations are those that the clock is compared by, and they are decided as there.
-/

namespace OrgAccess.Instant

/-- Instants are ordered by their seconds and then by their nanoseconds. -/
instance : LinearOrder Instant where
  le_refl a := by
    rw [le_def]
    omega
  le_trans a b c hab hbc := by
    rw [le_def] at *
    omega
  lt_iff_le_not_ge a b := by
    rw [lt_def, le_def, le_def]
    omega
  le_antisymm a b hab hba := by
    rw [le_def] at hab hba
    have hseconds : a.seconds = b.seconds := by omega
    have hnanos : a.nanos = b.nanos := by omega
    cases a
    cases b
    congr
  le_total a b := by
    rw [le_def, le_def]
    omega
  toDecidableLE := inferInstance
  toDecidableLT := inferInstance
  toDecidableEq := inferInstance

end OrgAccess.Instant
