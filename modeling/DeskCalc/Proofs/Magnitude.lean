import DeskCalc.Quantity
import DeskCalc.Proofs.Decimal.Rounding

/-!
# How large a double can get

Rounding at most doubles a count of units, so that an operation on doubles far below the overflow
bound stays below it. This file fixes

* `nearest_le`: how far rounding goes up;
* `Binary64.Below`: finite doubles closer to zero than `2^k`, and what the operations make of them;
* `ofInt_natCast`: a whole number of at most 53 binary digits is its own double.
-/

namespace DeskCalc

theorem overflowUnits_eq : overflowUnits = twoPow 1024 * unitsPerOne := by
  unfold overflowUnits unitsPerOne
  exact twoPow_add 1024 1074

theorem twoPow_spacing_le (n : Nat) : twoPow (spacing n) ≤ n + 1 := by
  rcases Nat.eq_zero_or_pos n with rfl | hn
  · exact Nat.le_refl _
  · have hlog : twoPow n.log2 ≤ n := Nat.log2_self_le (Nat.pos_iff_ne_zero.1 hn)
    have hspacing : spacing n ≤ n.log2 := Nat.sub_le _ _
    exact Nat.le_succ_of_le (Nat.le_trans (twoPow_le hspacing) hlog)

/-- **Rounding adds no more than it found**, or one unit where there was nothing. -/
theorem nearest_le (num den : Nat) : nearest num den ≤ 2 * (num / den) + 1 := by
  unfold nearest
  dsimp only
  have hstep := twoPow_spacing_le (num / den)
  generalize twoPow (spacing (num / den)) = step at hstep ⊢
  have hround := roundQuotient_le num (den * step)
  rw [← Nat.div_div_eq_div_mul] at hround
  have hwhole := Nat.div_mul_le_self (num / den) step
  calc roundQuotient num (den * step) * step ≤ (num / den / step + 1) * step :=
        Nat.mul_le_mul_right _ hround
    _ = num / den / step * step + step := Nat.succ_mul _ _
    _ ≤ num / den + (num / den + 1) := Nat.add_le_add hwhole hstep
    _ = 2 * (num / den) + 1 := by omega

namespace Binary64

/-- A finite double closer to zero than `2^k`. -/
inductive Below (k : Nat) : Binary64 → Prop where
  | intro (negative : Bool) (units : Nat) (representable : Representable units)
      (below : units < twoPow k * unitsPerOne) : Below k (.finite negative units representable)

variable {x y : Binary64} {k j : Nat}

theorem Below.mono (h : Below k x) (hle : k ≤ j) : Below j x := by
  cases h with
  | intro negative units representable below =>
    have hbound : twoPow k * unitsPerOne ≤ twoPow j * unitsPerOne :=
      Nat.mul_le_mul_right _ (twoPow_le hle)
    exact .intro _ _ _ (Nat.lt_of_lt_of_le below hbound)

theorem Below.isFinite (h : Below k x) : x.isFinite = true := by
  cases h
  rfl

theorem below_ofRatio (negative : Bool) {num den : Nat} (h : num / den < twoPow k * unitsPerOne)
    (hroom : k < 1024) : Below (k + 1) (ofRatio negative num den) := by
  have hnearest : nearest num den < twoPow (k + 1) * unitsPerOne := by
    have hle := nearest_le num den
    rw [← two_mul_twoPow, Nat.mul_assoc]
    omega
  have hfinite : nearest num den < overflowUnits := by
    rw [overflowUnits_eq]
    exact Nat.lt_of_lt_of_le hnearest (Nat.mul_le_mul_right _ (twoPow_le hroom))
  unfold ofRatio
  rw [dif_pos hfinite]
  exact .intro _ _ _ hnearest

theorem below_ofInt {n : Int} (h : n.natAbs < twoPow k) (hroom : k < 1024) :
    Below (k + 1) (ofInt n) := by
  refine below_ofRatio _ ?_ hroom
  rw [Nat.div_one]
  exact Nat.mul_lt_mul_of_pos_right h unitsPerOne_pos

theorem natAbs_line (x : Binary64) : x.line.natAbs = x.magnitude := by
  unfold line
  split
  · rw [Int.natAbs_neg, Int.natAbs_natCast]
  · exact Int.natAbs_natCast _

theorem Below.add (hx : Below k x) (hy : Below k y) (hroom : k + 1 < 1024) :
    Below (k + 2) (x + y) := by
  cases hx with
  | intro s m hm hsmall =>
    cases hy with
    | intro t n hn hsmall' =>
      have hsum : ((finite s m hm).line + (finite t n hn).line).natAbs ≤ m + n := by
        refine Nat.le_trans (Int.natAbs_add_le _ _) (Nat.le_of_eq ?_)
        rw [natAbs_line, natAbs_line]
        rfl
      show Below (k + 2) (if (finite s m hm).line + (finite t n hn).line = 0 then zero (s && t)
        else ofRatio _ _ 1)
      split
      · exact .intro _ _ _ (Nat.mul_pos (twoPow_pos _) unitsPerOne_pos)
      · refine below_ofRatio _ ?_ hroom
        rw [Nat.div_one, ← two_mul_twoPow, Nat.mul_assoc]
        omega

theorem Below.mul (hx : Below k x) (hy : Below j y) (hroom : k + j < 1024) :
    Below (k + j + 1) (x * y) := by
  cases hx with
  | intro s m hm hsmall =>
    cases hy with
    | intro t n hn hsmall' =>
      show Below (k + j + 1) (ofRatio (s != t) (m * n) unitsPerOne)
      refine below_ofRatio _ ?_ hroom
      rw [Nat.div_lt_iff_lt_mul unitsPerOne_pos]
      calc m * n < twoPow k * unitsPerOne * (twoPow j * unitsPerOne) :=
            Nat.mul_lt_mul'' hsmall hsmall'
        _ = twoPow (k + j) * unitsPerOne * unitsPerOne := by
            rw [twoPow_add]
            simp only [Nat.mul_assoc, Nat.mul_left_comm unitsPerOne]

/-- The quotient by a double of at least one. -/
theorem Below.div (hx : Below k x) {negative : Bool} {units : Nat}
    (representable : Representable units) (hunits : unitsPerOne ≤ units) (hroom : k < 1024) :
    Below (k + 1) (x / finite negative units representable) := by
  have hpos : 0 < units := Nat.lt_of_lt_of_le unitsPerOne_pos hunits
  cases hx with
  | intro s m hm hsmall =>
    show Below (k + 1) (if units = 0 then if m = 0 then nan else infinite (s != negative)
      else ofRatio (s != negative) (m * unitsPerOne) units)
    rw [if_neg (Nat.pos_iff_ne_zero.1 hpos)]
    refine below_ofRatio _ (Nat.lt_of_le_of_lt ?_ hsmall) hroom
    calc m * unitsPerOne / units ≤ m * units / units :=
          Nat.div_le_div_right (Nat.mul_le_mul_left m hunits)
      _ = m := Nat.mul_div_cancel m hpos

theorem representable_whole {n : Nat} (h : n ≤ twoPow 53) : Representable (n * unitsPerOne) := by
  refine ⟨?_, ?_⟩
  · have hsmall : n < twoPow 1024 := Nat.lt_of_le_of_lt h (twoPow_lt (by omega))
    rw [overflowUnits_eq]
    exact Nat.mul_lt_mul_of_pos_right hsmall unitsPerOne_pos
  · unfold unitsPerOne
    exact spacing_dvd_mul h

/-- **A whole number of at most 53 binary digits is its own double.** -/
theorem ofInt_natCast {n : Nat} (h : n ≤ twoPow 53) :
    ofInt n = finite false (n * unitsPerOne) (representable_whole h) := by
  have hsign : decide ((n : Int) < 0) = false := by simp
  unfold ofInt
  rw [hsign, Int.natAbs_natCast]
  exact ofRatio_eq_finite (nearest_one_eq_self (representable_whole h)) false

/-- Whole numbers of at most 53 binary digits are added exactly. -/
theorem ofInt_add {m n : Nat} (h : m + n ≤ twoPow 53) :
    ofInt m + ofInt n = ofInt (m + n : Nat) := by
  rw [ofInt_natCast (n := m) (by omega), ofInt_natCast (n := n) (by omega), ofInt_natCast h]
  have hsum : ((m * unitsPerOne : Nat) : Int) + (n * unitsPerOne : Nat) =
      ((m + n) * unitsPerOne : Nat) := by
    rw [Nat.add_mul, Int.natCast_add]
  show (if ((m * unitsPerOne : Nat) : Int) + (n * unitsPerOne : Nat) = 0 then zero (false && false)
    else ofRatio (decide (((m * unitsPerOne : Nat) : Int) + (n * unitsPerOne : Nat) < 0))
      (((m * unitsPerOne : Nat) : Int) + (n * unitsPerOne : Nat)).natAbs 1) = _
  rw [hsum]
  split
  · rename_i hzero
    simp only [zero, Bool.and_self, Int.natCast_eq_zero.1 hzero]
  · have hsign : decide ((((m + n) * unitsPerOne : Nat) : Int) < 0) = false :=
      decide_eq_false (Int.not_lt.2 (Int.natCast_nonneg _))
    rw [hsign, Int.natAbs_natCast]
    exact ofRatio_eq_finite (nearest_one_eq_self (representable_whole h)) false

theorem ofWhole_of_below {n : Int} (h : Below k (ofInt n)) : ofWhole n = .ok (ofInt n) := by
  unfold ofWhole
  rw [if_pos h.isFinite]

end Binary64

end DeskCalc
