import DeskCalc.Expression.Tree
import DeskCalc.Proofs.Decimal.Rounding

/-!
# Zeros of either sign

A zero loses its sign when it is written, and nothing that is computed from it as the left operand
shows the loss, apart from the sign of another zero. This file fixes

* `Alike`: two doubles are equal, or both are zeros;
* **`apply_alike`**: every operation keeps left operands alike.
-/

namespace DeskCalc

namespace Binary64

/-- Equal, or zeros of some signs. -/
inductive Alike : Binary64 → Binary64 → Prop where
  | same (x : Binary64) : Alike x x
  | zeros (s t : Bool) : Alike (zero s) (zero t)

theorem ofRatio_zero (negative : Bool) {den : Nat} (hden : 0 < den) :
    ofRatio negative 0 den = zero negative := by
  refine ofRatio_eq_finite ?_ negative
  have h := nearest_eq_self representable_zero hden
  rwa [Nat.zero_mul] at h

/-- Behind a zero a finite number is rounded once more, or is a zero. -/
theorem zero_add_finite (s u : Bool) (units : Nat) (representable : Representable units) :
    zero s + finite u units representable =
      if (finite u units representable).line = 0 then zero (s && u)
      else ofRatio ((finite u units representable).line < 0)
        (finite u units representable).line.natAbs 1 := by
  have hline : (zero s).line + (finite u units representable).line =
      (finite u units representable).line := by
    cases s <;> exact Int.zero_add _
  show (if (zero s).line + (finite u units representable).line = 0 then zero (s && u)
    else ofRatio ((zero s).line + (finite u units representable).line < 0)
      ((zero s).line + (finite u units representable).line).natAbs 1) = _
  rw [hline]

theorem add_zeros (s t : Bool) (y : Binary64) : Alike (zero s + y) (zero t + y) := by
  cases y with
  | nan => exact .same nan
  | infinite u => exact .same (infinite u)
  | finite u units representable =>
    rw [zero_add_finite, zero_add_finite]
    split
    · exact .zeros _ _
    · exact .same _

theorem mul_zeros (s t : Bool) (y : Binary64) : Alike (zero s * y) (zero t * y) := by
  cases y with
  | nan => exact .same nan
  | infinite u => exact .same nan
  | finite u units representable =>
    show Alike (ofRatio (s != u) (0 * units) unitsPerOne) (ofRatio (t != u) (0 * units) unitsPerOne)
    rw [Nat.zero_mul, ofRatio_zero _ unitsPerOne_pos, ofRatio_zero _ unitsPerOne_pos]
    exact .zeros _ _

theorem div_zeros (s t : Bool) (y : Binary64) : Alike (zero s / y) (zero t / y) := by
  cases y with
  | nan => exact .same nan
  | infinite u => exact .zeros _ _
  | finite u units representable =>
    show Alike
      (if units = 0 then nan else ofRatio (s != u) (0 * unitsPerOne) units)
      (if units = 0 then nan else ofRatio (t != u) (0 * unitsPerOne) units)
    split
    · exact .same nan
    · rename_i hunits
      have hpos := Nat.pos_iff_ne_zero.2 hunits
      rw [Nat.zero_mul, ofRatio_zero _ hpos, ofRatio_zero _ hpos]
      exact .zeros _ _

/-- **Operations keep left operands alike.** -/
theorem apply_alike (op : Operator) {x y : Binary64} (h : Alike x y) (right : Binary64) :
    Alike (op.apply x right) (op.apply y right) := by
  cases h with
  | same => exact .same _
  | zeros s t =>
    cases op with
    | add => exact add_zeros s t right
    | subtract => exact add_zeros s t (-right)
    | multiply => exact mul_zeros s t right
    | divide => exact div_zeros s t right

end Binary64

end DeskCalc
