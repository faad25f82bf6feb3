import DeskCalc.Binary64

/-!
# The shortest decimal of a double

Of the decimals that round to a given double, the shortest lies on the coarsest grid of powers of
ten that has such a point; of that grid's points the one nearest to the double is taken, a tie
going to the even digit. This file fixes

* `Decimal`: a whole coefficient and a power of ten;
* `RoundsBack`: the distances at which a decimal still rounds to the double, ends included exactly
  when the significand is even;
* `shortest`: the search over the grids, from one that is too coarse for any point.
-/

namespace DeskCalc

/-- The decimal `coefficient * 10^exponent`. -/
structure Decimal where
  coefficient : Nat
  exponent : Int
  deriving DecidableEq, Repr

namespace Decimal

/-- The double nearest to the decimal. -/
def toBinary64 (negative : Bool) (d : Decimal) : Binary64 :=
  Binary64.ofDecimal negative d.coefficient d.exponent

/-- The same decimal without the coefficient's final zeros. -/
def stripZeros (coefficient : Nat) (exponent : Int) : Decimal :=
  if h : 0 < coefficient ∧ coefficient % 10 = 0 then
    stripZeros (coefficient / 10) (exponent + 1)
  else ⟨coefficient, exponent⟩
termination_by coefficient
decreasing_by omega

/-! ## 1. The decimals that round back -/

/-- Distance to the next smaller double: half the spacing at a power of two. -/
def gapBelow (units : Nat) : Nat :=
  let step := twoPow (spacing units)
  if 1 < step && units == twoPow units.log2 then step / 2 else step

/-- Distance to the next larger double. -/
def gapAbove (units : Nat) : Nat := twoPow (spacing units)

/-- Whether a point at `distance / scale` units from the double, on the side whose next double is
    `gap` units away, still rounds to it: half the gap, its end included when the significand is
    even. -/
def roundsBack (units gap distance scale : Nat) : Bool :=
  if units / twoPow (spacing units) % 2 = 0 then 2 * distance ≤ gap * scale
  else 2 * distance < gap * scale

/-! ## 2. The search -/

/-- The grid point of step `10^exponent` that stands for a double of `units`, if one rounds back:
    the only one of the two neighbours that does, or the nearer one, or in a tie the even one. -/
def onGrid? (units : Nat) (exponent : Int) : Option Decimal :=
  let scale := if exponent < 0 then tenPow (-exponent).toNat else 1
  let step := if exponent < 0 then unitsPerOne else unitsPerOne * tenPow exponent.toNat
  let lower := units * scale / step
  let below := units * scale % step
  let above := step - below
  match roundsBack units (gapBelow units) below scale,
      roundsBack units (gapAbove units) above scale with
  | true, false => some ⟨lower, exponent⟩
  | false, true => some ⟨lower + 1, exponent⟩
  | true, true =>
    if below < above ∨ below = above ∧ lower % 2 = 0 then some ⟨lower, exponent⟩
    else some ⟨lower + 1, exponent⟩
  | false, false => none

/-- A power of ten above a positive double of `units`, and above all that rounds to it. -/
def coarseExponent (units : Nat) : Int :=
  ((units.log2 : Int) - 1073) * 30103 / 100000 + 2

/-- The shortest decimal that rounds to a positive double of `units`: the coarsest grid with a
    point decides. Seventeen digits always suffice, so twenty grids below a power of ten that is
    too large contain the answer. -/
def shortest (units : Nat) : Decimal :=
  let top := coarseExponent units
  match (List.range 20).findSome? (fun (k : Nat) => onGrid? units (top - k)) with
  | some d => stripZeros d.coefficient d.exponent
  | none => ⟨0, 0⟩

end Decimal

end DeskCalc
