import OrgAccess.Json.Basic

/-!
# Reading numerals

A numeral without fraction and exponent is an integer while it fits 64 bits (signed when negative,
unsigned otherwise) and is not the negative zero; every other numeral is a double. A double is read
in two roundings: the leading digits that fit an unsigned 64-bit word are rounded to a double,
which is then multiplied or divided by the double nearest to the power of ten. A numeral whose
double would be infinite cannot be read.
-/

namespace OrgAccess.Json

/-- The parts of a numeral: its digits as numbers below ten, and the sign and digits of the
exponent. -/
structure Numeral where
  negative : Bool
  whole : List Nat
  fraction : Option (List Nat)
  exponent : Option (Bool × List Nat)

namespace Numeral

/-- The digits at the front of a text, and what follows them. -/
def digits (cs : List Char) : List Nat × List Char :=
  ((cs.takeWhile Char.isDigit).map fun c => c.toNat - '0'.toNat, cs.dropWhile Char.isDigit)

/-- The digits at the front of a text, at least one. -/
def someDigits? (cs : List Char) : Option (List Nat × List Char) :=
  if (digits cs).1.isEmpty then none else some (digits cs)

/-- The exponent at the front of a text, if there is one; it must have a digit. -/
def exponent? : List Char → Option (Option (Bool × List Nat) × List Char)
  | [] => some (none, [])
  | c :: rest =>
      if c = 'e' ∨ c = 'E' then
        let (negative, rest) := match rest with
          | '+' :: tail => (false, tail)
          | '-' :: tail => (true, tail)
          | _ => (false, rest)
        (someDigits? rest).map fun (ds, tail) => (some (negative, ds), tail)
      else
        some (none, c :: rest)

/-- The fraction at the front of a text, if there is one; it must have a digit. -/
def fraction? : List Char → Option (Option (List Nat) × List Char)
  | '.' :: rest => (someDigits? rest).map fun (ds, tail) => (some ds, tail)
  | cs => some (none, cs)

/-- The numeral that a text spells. Only a lone zero may start with a zero. -/
def ofChars? (cs : List Char) : Option Numeral := do
  let (negative, cs) := match cs with
    | '-' :: rest => (true, rest)
    | _ => (false, cs)
  let (whole, cs) ← someDigits? cs
  if whole.head? = some 0 ∧ whole ≠ [0] then failure
  let (fraction, cs) ← fraction? cs
  let (exponent, cs) ← exponent? cs
  if cs.isEmpty then pure { negative, whole, fraction, exponent } else failure

/-- The first number that does not fit an unsigned 64-bit word. -/
def wordLimit : Nat := 0x10000000000000000

/-- A number extended by leading digits while it fits a word, and the digits left over. -/
def absorb (significand : Nat) : List Nat → Nat × List Nat
  | [] => (significand, [])
  | d :: rest =>
      if significand * 10 + d < wordLimit then absorb (significand * 10 + d) rest
      else (significand, d :: rest)

/-- The magnitude of the least integer of 64 bits. -/
def leastMagnitude : Nat := 0x8000000000000000

/-- The number that digits spell. -/
def value (ds : List Nat) : Nat :=
  ds.foldl (fun total d => total * 10 + d) 0

/-- The double nearest to a natural. -/
def double? (n : Nat) : Option Double :=
  Double.ofQuotient? false n 1

/-- The greatest power of ten that is divided or multiplied by at once. -/
def powerStep : Nat := 308

/-- A positive double divided by a power of ten, in steps. -/
def divide? (d : Double) (power : Nat) : Option Double :=
  if d.magnitude = 0 then
    some d
  else if power ≤ powerStep then
    (double? (powerOfTen power)).bind d.div?
  else
    ((double? (powerOfTen powerStep)).bind d.div?).bind fun smaller =>
      divide? smaller (power - powerStep)
termination_by power
decreasing_by
  rename_i hpower
  simp only [powerStep] at hpower ⊢
  omega

/-- A positive double times a power of ten. -/
def scale? (d : Double) (power : Int) : Option Double :=
  if power < 0 then divide? d (-power).toNat
  else if power ≤ powerStep then (double? (powerOfTen power.toNat)).bind d.mul?
  else if d.magnitude = 0 then some d
  else none

/-- The greatest exponent that is worked out; a numeral with a greater one is infinite or zero. -/
def exponentLimit : Nat := 0x80000000

/-- The double that a numeral spells, if it is finite. -/
def toDouble? (n : Numeral) : Option Double := do
  let (significand, dropped) := absorb 0 n.whole
  let (significand, taken) :=
    let (extended, left) := absorb significand (n.fraction.getD [])
    (extended, (n.fraction.getD []).length - left.length)
  let shift : Int := (dropped.length : Int) - taken
  let (negative, ds) := n.exponent.getD (false, [])
  let power := value ds
  let magnitude ←
    if power < exponentLimit then
      (double? significand).bind (scale? · (if negative then shift - power else shift + power))
    else if significand = 0 ∨ negative then some (Double.zero false)
    else none
  pure (magnitude.withSign n.negative)

/-- The value of a numeral, if it can be read. -/
def toJson? (n : Numeral) : Option Json :=
  let whole := value n.whole
  let isPlain := n.fraction.isNone && n.exponent.isNone
  if isPlain ∧ ¬ n.negative ∧ whole < wordLimit then
    some (.integer whole)
  else if isPlain ∧ n.negative ∧ 0 < whole ∧ whole ≤ leastMagnitude then
    some (.integer (-whole))
  else
    n.toDouble?.map .double

end Numeral

end OrgAccess.Json
