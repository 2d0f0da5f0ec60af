import OrgAccess.Json.Double

/-!
# The shortest decimal of a double

The shortest decimal that reads back as a double is a point of the coarsest grid of powers of ten
that has a point among the reals rounding to it. `shortest` finds that point, and `text` lays its
digits out: positional while the point falls within the first sixteen digits or at most five zeros
before them, and with a signed exponent otherwise.
-/

namespace OrgAccess.Json.Double

/-- The reals that round to a positive double, in quarters of its last place: the number itself,
the lower end, the upper end, and whether the ends belong. -/
structure Rounding where
  centre : Nat
  low : Nat
  high : Nat
  closed : Bool

/-- The reals that round to a positive double. The gap below a power of two is half as wide. -/
def rounding (d : Double) : Rounding :=
  let (significand, power) := d.parts
  { centre := 4 * significand
    low := if significand = hiddenBit ∧ -1074 < power then 4 * significand - 1
      else 4 * significand - 2
    high := 4 * significand + 2
    closed := significand % 2 = 0 }

/-- The nearest point of the grid of multiples of `num / den` that lies in the interval, if one
does, counted in steps of the grid. The even point is taken when two are equally near. -/
def Rounding.gridPoint? (r : Rounding) (num den : Nat) : Option Nat :=
  let inside (point : Nat) : Bool :=
    let position := point * num
    0 < point && (if r.closed then r.low * den ≤ position && position ≤ r.high * den
      else r.low * den < position && position < r.high * den)
  let below := r.centre * den / num
  let above := below + 1
  match inside below, inside above with
  | true, true =>
      let toBelow := r.centre * den - below * num
      let toAbove := above * num - r.centre * den
      if toBelow < toAbove ∨ (toBelow = toAbove ∧ below % 2 = 0) then some below else some above
  | true, false => some below
  | false, true => some above
  | false, false => none

/-- The first grid point found when the grids `10 ^ (steps - 1 - 343)`, ... are tried downwards. -/
def Rounding.search (r : Rounding) (power : Int) : Nat → Nat × Int
  | 0 => (0, 0)
  | steps + 1 =>
      let exponent : Int := (steps : Int) - 343
      let (unit, scale) := scaled 1 (power - 2)
      let found :=
        if 0 ≤ exponent then r.gridPoint? (powerOfTen exponent.toNat * scale) unit
        else r.gridPoint? scale (unit * powerOfTen (-exponent).toNat)
      match found with
      | some point => (point, exponent)
      | none => r.search power steps

/-- The digits of the shortest decimal of a positive double, as one natural, and the power of ten
they are scaled by. -/
def shortest (d : Double) : Nat × Int :=
  d.rounding.search d.parts.2 653

/-- How decimals are laid out: the widest positional whole part, and the most zeros between the
point and the first digit. -/
structure DecimalLayout where
  wholeDigits : Nat
  leadingZeros : Nat

/-- Whole parts of up to sixteen digits, and up to four zeros after the point, are written out. -/
def layout : DecimalLayout := ⟨16, 4⟩

/-- A text of zeros. -/
def zeros (count : Nat) : String :=
  String.ofList (List.replicate count '0')

/-- An exponent, which always has a sign. -/
def exponentText (exponent : Int) : String :=
  (if exponent < 0 then "e-" else "e+") ++ Nat.repr exponent.natAbs

/-- The decimal `digits * 10 ^ exponent` laid out. A whole number keeps one zero after the point. -/
def decimalText (style : DecimalLayout) (digits : Nat) (exponent : Int) : String :=
  let figures := (Nat.repr digits).toList
  let point : Int := figures.length + exponent
  if 0 ≤ exponent ∧ point ≤ style.wholeDigits then
    Nat.repr digits ++ zeros exponent.toNat ++ ".0"
  else if 0 < point ∧ point ≤ style.wholeDigits then
    String.ofList (figures.take point.toNat) ++ "." ++ String.ofList (figures.drop point.toNat)
  else if point ≤ 0 ∧ -(style.leadingZeros : Int) ≤ point then
    "0." ++ zeros (-point).toNat ++ Nat.repr digits
  else
    let fraction := figures.drop 1
    String.ofList (figures.take 1)
      ++ (if fraction.isEmpty then "" else "." ++ String.ofList fraction)
      ++ exponentText (point - 1)

/-- The text of a double. -/
def text (d : Double) : String :=
  let (digits, exponent) := d.shortest
  (if d.negative then "-" else "")
    ++ (if d.magnitude = 0 then "0.0" else decimalText layout digits exponent)

end OrgAccess.Json.Double
