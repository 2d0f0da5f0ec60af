/-!
# Finite binary64 numbers

A finite double is kept as its sign and the lower 63 bits of its encoding, which order the
magnitudes. `nearest` rounds a quotient of naturals to the magnitude nearest to it, ties to even,
and products and quotients of doubles are rounded by it. `same` compares as numbers do: the two
zeros are one number, and everything else is equal only to itself (`same_iff`).
-/

namespace OrgAccess.Json

/-- The first magnitude that is not finite. -/
def infiniteMagnitude : Nat := 0x7ff0000000000000

/-- The bit of the encoding that holds the sign. -/
def signBit : Nat := 0x8000000000000000

/-- The first bit of the significand of a normal number, which the encoding leaves out. -/
def hiddenBit : Nat := 0x10000000000000

/-- A power of ten. -/
def powerOfTen (exponent : Nat) : Nat :=
  Nat.pow 10 exponent

/-- A finite binary64 number. -/
structure Double where
  negative : Bool
  magnitude : Nat
  finite : magnitude < infiniteMagnitude
deriving DecidableEq

namespace Double

/-- The 64 bits of the encoding. -/
def bits (d : Double) : Nat :=
  (if d.negative then signBit else 0) + d.magnitude

/-- The integer significand and the power of two it is scaled by. -/
def parts (d : Double) : Nat × Int :=
  if d.magnitude < hiddenBit then
    (d.magnitude, -1074)
  else
    (hiddenBit + d.magnitude % hiddenBit, (d.magnitude / hiddenBit : Nat) - 1075)

/-- A natural scaled by a power of two, as a quotient of naturals. -/
def scaled (significand : Nat) (power : Int) : Nat × Nat :=
  if 0 ≤ power then (significand <<< power.toNat, 1) else (significand, 1 <<< (-power).toNat)

/-- The absolute value, as a quotient of naturals. -/
def ratio (d : Double) : Nat × Nat :=
  scaled d.parts.1 d.parts.2

/-- The natural nearest to a quotient, a half going to the even neighbour. -/
def roundQuotient (num den : Nat) : Nat :=
  let floor := num / den
  let twice := 2 * (num % den)
  if den < twice ∨ (twice = den ∧ floor % 2 = 1) then floor + 1 else floor

/-- The greatest power of two that is at most a positive quotient, as an exponent. -/
def binaryExponent (num den : Nat) : Int :=
  let guess : Int := (Nat.log2 num : Int) - Nat.log2 den
  let (unit, scale) := scaled 1 guess
  if den * unit ≤ num * scale then guess else guess - 1

/-- The magnitude nearest to a quotient, a half going to the even neighbour; it may be past the
finite ones. -/
def nearest (num den : Nat) : Nat :=
  if num = 0 then
    0
  else
    let power := max (binaryExponent num den - 52) (-1074)
    let (unit, scale) := scaled 1 power
    (power + 1074).toNat * hiddenBit + roundQuotient (num * scale) (den * unit)

/-- The double nearest to a quotient, unless that is infinite. -/
def ofQuotient? (negative : Bool) (num den : Nat) : Option Double :=
  if h : nearest num den < infiniteMagnitude then some ⟨negative, nearest num den, h⟩ else none

/-- Zero of either sign. -/
def zero (negative : Bool) : Double :=
  ⟨negative, 0, by decide⟩

/-- The number with the sign given instead of its own. -/
def withSign (negative : Bool) (d : Double) : Double :=
  { d with negative }

/-- The rounded product of two absolute values. -/
def mul? (a b : Double) : Option Double :=
  ofQuotient? false (a.ratio.1 * b.ratio.1) (a.ratio.2 * b.ratio.2)

/-- The rounded quotient of two absolute values. -/
def div? (a b : Double) : Option Double :=
  ofQuotient? false (a.ratio.1 * b.ratio.2) (a.ratio.2 * b.ratio.1)

/-- Equality of numbers: the two zeros are equal. -/
def same (a b : Double) : Bool :=
  a.magnitude == b.magnitude && (a.negative == b.negative || a.magnitude == 0)

/-! ## Laws of equality -/

/-- Two doubles are the same number when they are equal or both zero. -/
theorem same_iff (a b : Double) :
    a.same b = true ↔ a = b ∨ (a.magnitude = 0 ∧ b.magnitude = 0) := by
  cases a
  cases b
  simp [same]
  grind

/-- Every double is the number that it is. -/
@[simp] theorem same_refl (a : Double) : a.same a = true := by
  simp [same]

/-- Equality does not depend on which of two doubles comes first. -/
theorem same_comm (a b : Double) : a.same b = b.same a := by
  rw [Bool.eq_iff_iff, same_iff, same_iff]
  grind

/-- Doubles that are the same number as a third one are the same number. -/
theorem same_trans {a b c : Double} (hab : a.same b = true) (hbc : b.same c = true) :
    a.same c = true := by
  rw [same_iff] at *
  grind

end Double

end OrgAccess.Json
