import DeskCalc.Proofs.Bounds

/-!
# How exact doubles are

Below `2^32` doubles lie no further apart than `2^-20`, so that one rounding is off by at most
`2^-21`, a *grain*, and a chain of operations by one grain more with each. This file fixes

* `near_roundQuotient`: the nearest whole number is off by at most a half;
* `grain`, and **`nearest_close`**: a quotient below `2^32` is off by at most a grain;
* `Binary64.Close`: a double within some grains of an exact place;
* `close_natCast_mul`, `close_div`, **`Close.add`**: what an operation adds to the grains;
* `Close.round_mem`: how far the nearest whole number is from the exact place.
-/

namespace DeskCalc

/-! ## 1. One rounding -/

/-- **The nearest whole number is near**: off by at most a half. -/
theorem near_roundQuotient {num den : Nat} (hden : 0 < den) :
    Near num den (roundQuotient num den) := by
  have hnum := Nat.div_add_mod num den
  have hexcess := Nat.mod_lt num hden
  rw [Nat.mul_comm] at hnum
  have hnext : (num / den + 1) * den = num / den * den + den := Nat.succ_mul _ _
  unfold roundQuotient
  dsimp only
  generalize num / den = floor at *
  generalize num % den = excess at *
  split
  · exact ⟨by omega, by omega, fun _ => by omega⟩
  · split
    · exact ⟨by omega, by omega, fun _ => by omega⟩
    · -- the very middle goes to the even neighbour
      rcases Nat.mod_two_eq_zero_or_one floor with heven | hodd
      · rw [heven, Nat.add_zero]
        exact ⟨by omega, by omega, fun hodd => by omega⟩
      · rw [hodd]
        exact ⟨by omega, by omega, fun hodd => by omega⟩

/-- Half the distance between doubles from `2^31` on. -/
@[irreducible] def grain : Nat := twoPow 1053

theorem grain_mul : twoPow 21 * grain = unitsPerOne := by
  unfold grain unitsPerOne
  exact (twoPow_add 21 1053).symm

/-- **A quotient below `2^32` is off by at most a grain.** -/
theorem nearest_close {num den : Nat} (hden : 0 < den)
    (h : num ≤ twoPow 32 * unitsPerOne * den) :
    num ≤ (nearest num den + grain) * den ∧ nearest num den * den ≤ num + grain * den := by
  have hspacing : spacing (num / den) ≤ 1054 := by
    have hbound : twoPow 32 * unitsPerOne = twoPow 1106 := by
      unfold unitsPerOne
      exact (twoPow_add 32 1074).symm
    have hfloor : num / den ≤ twoPow 1106 := Nat.div_le_of_le_mul (by rwa [Nat.mul_comm, ← hbound])
    have hlog := log2_le_log2 hfloor
    rw [log2_twoPow] at hlog
    unfold spacing
    omega
  have hstep : twoPow (spacing (num / den)) ≤ 2 * grain := by
    unfold grain
    rw [two_mul_twoPow]
    exact twoPow_le hspacing
  have hpos := twoPow_pos (spacing (num / den))
  unfold nearest
  dsimp only
  generalize twoPow (spacing (num / den)) = step at hstep hpos ⊢
  have hdown : den * step ≤ 2 * (grain * den) := by
    rw [← Nat.mul_assoc, Nat.mul_comm]
    exact Nat.mul_le_mul_right den hstep
  obtain ⟨hbelow, habove, -⟩ : Near num (den * step) (roundQuotient num (den * step)) :=
    near_roundQuotient (Nat.mul_pos hden hpos)
  have hplace : roundQuotient num (den * step) * (den * step) =
      roundQuotient num (den * step) * step * den := by
    rw [Nat.mul_comm den, ← Nat.mul_assoc]
  rw [hplace] at hbelow habove
  rw [Nat.add_mul]
  omega

namespace Binary64

variable {x y : Binary64} {m n k a b : Nat} {units units' : Int}

/-- What is settled below `2^32` is off by at most a grain. -/
theorem settle_close (hnonneg : 0 ≤ units) (h : units ≤ twoPow 32 * unitsPerOne) :
    units ≤ settle units + grain ∧ settle units ≤ units + grain := by
  have hroom : settle units ≤ twoPow 32 * unitsPerOne := by
    have hwhole := settle_natCast (n := twoPow 32) (twoPow_le (by decide))
    rw [← hwhole]
    exact settle_mono h
  have hoverflow : twoPow 32 * unitsPerOne < overflowUnits :=
    (representable_whole (twoPow_le (by decide))).1
  have hcast := Int.natCast_mul (twoPow 32) unitsPerOne
  have hexact : units.natAbs ≤ twoPow 32 * unitsPerOne * 1 := by omega
  obtain ⟨hbelow, habove⟩ := nearest_close Nat.one_pos hexact
  unfold settle at hroom ⊢
  rw [if_neg (Int.not_lt.2 hnonneg)] at hroom ⊢
  omega

/-! ## 2. Chains of operations -/

/-- A finite double within some grains of an exact place. -/
structure Close (grains : Nat) (units : Int) (x : Binary64) : Prop where
  isFinite : x.isFinite = true
  below : units ≤ x.line + grains * grain
  above : x.line ≤ units + grains * grain

theorem close_line (hx : x.isFinite = true) : x.Close 0 x.line :=
  ⟨hx, by omega, by omega⟩

/-- A multiple is off by one grain. -/
theorem UpTo.close_natCast_mul (hx : UpTo n x) (hk : k ≤ twoPow 53) (hroom : k * n ≤ twoPow 32) :
    (ofInt k * x).Close 1 (k * x.line) := by
  have hlarge : twoPow 32 ≤ twoPow 53 := twoPow_le (by decide)
  have hline := (line_natCast_mul hk hx.isFinite hx.nonneg).2
  have hexact : (k : Int) * x.line ≤ twoPow 32 * unitsPerOne :=
    calc (k : Int) * x.line ≤ k * (n * unitsPerOne) :=
          Int.mul_le_mul_of_nonneg_left hx.le (Int.natCast_nonneg k)
      _ = (k * n : Nat) * unitsPerOne := by rw [Int.natCast_mul, Int.mul_assoc]
      _ ≤ twoPow 32 * unitsPerOne :=
          Int.mul_le_mul_of_nonneg_right (Int.ofNat_le.2 hroom) (Int.natCast_nonneg _)
  have hclose := settle_close (Int.mul_nonneg (Int.natCast_nonneg k) hx.nonneg) hexact
  refine ⟨(hx.natCast_mul hk (by omega)).isFinite, ?_, ?_⟩ <;> rw [hline] <;> omega

/-- **A sum is off by what its summands are, and one grain more.** -/
theorem Close.add (hx : x.Close a units) (hy : y.Close b units') (hxUpTo : x.UpTo m)
    (hyUpTo : y.UpTo n) (hroom : m + n ≤ twoPow 32) :
    (x + y).Close (a + b + 1) (units + units') := by
  have hlarge : twoPow 32 ≤ twoPow 53 := twoPow_le (by decide)
  have hline := line_add hx.isFinite hy.isFinite
  have hsum : x.line + y.line ≤ twoPow 32 * unitsPerOne :=
    calc x.line + y.line ≤ m * unitsPerOne + n * unitsPerOne := Int.add_le_add hxUpTo.le hyUpTo.le
      _ = (m + n : Nat) * unitsPerOne := by rw [Int.natCast_add, Int.add_mul]
      _ ≤ twoPow 32 * unitsPerOne :=
          Int.mul_le_mul_of_nonneg_right (Int.ofNat_le.2 hroom) (Int.natCast_nonneg _)
  obtain ⟨hbelow, habove⟩ := settle_close (Int.add_nonneg hxUpTo.nonneg hyUpTo.nonneg) hsum
  have hgrains : ((a + b + 1 : Nat) : Int) * grain = a * grain + b * grain + grain := by
    rw [Int.natCast_add, Int.natCast_add, Int.add_mul, Int.add_mul, Int.natCast_one, Int.one_mul]
  have hxBelow := hx.below
  have hxAbove := hx.above
  have hyBelow := hy.below
  have hyAbove := hy.above
  refine ⟨(hxUpTo.add hyUpTo (by omega)).isFinite, ?_, ?_⟩ <;> rw [hline, hgrains] <;> omega

/-- A quotient of whole numbers in units is off by at most a grain. -/
theorem nearest_units_close {total sum : Nat} (hpos : 0 < sum) (htotal : total ≤ twoPow 32) :
    let rounded := nearest (total * unitsPerOne * unitsPerOne) (sum * unitsPerOne)
    total * unitsPerOne ≤ (rounded + grain) * sum ∧
      rounded * sum ≤ total * unitsPerOne + grain * sum := by
  intro rounded
  have hunits := unitsPerOne_pos
  have hexact : total * unitsPerOne * unitsPerOne ≤
      twoPow 32 * unitsPerOne * (sum * unitsPerOne) :=
    Nat.mul_le_mul (Nat.mul_le_mul_right _ htotal) (Nat.le_mul_of_pos_left _ hpos)
  obtain ⟨hbelow, habove⟩ := nearest_close (Nat.mul_pos hpos hunits) hexact
  change _ ≤ (rounded + grain) * (sum * unitsPerOne) at hbelow
  change rounded * (sum * unitsPerOne) ≤ _ at habove
  -- the units of the divisor cancel
  constructor
  · refine Nat.le_of_mul_le_mul_right ?_ hunits
    rwa [← Nat.mul_assoc] at hbelow
  · refine Nat.le_of_mul_le_mul_right ?_ hunits
    rwa [Nat.add_mul, Nat.mul_assoc, Nat.mul_assoc grain]

/-- A quotient that is off by a grain is no larger than the next whole number. -/
theorem le_next_of_close {total sum rounded : Nat} (hpos : 0 < sum) (hsum : sum ≤ twoPow 20)
    (h : rounded * sum ≤ total * unitsPerOne + grain * sum) :
    rounded ≤ (total / sum + 1) * unitsPerOne := by
  have hgrains : grain * sum ≤ unitsPerOne := by
    rw [← grain_mul, Nat.mul_comm]
    exact Nat.mul_le_mul_right _ (Nat.le_trans hsum (twoPow_le (by decide)))
  have hfloor := Nat.div_add_mod total sum
  have hrest := Nat.mod_lt total hpos
  have hnext : (total + 1) * unitsPerOne ≤ (total / sum + 1) * unitsPerOne * sum := by
    rw [Nat.mul_right_comm]
    refine Nat.mul_le_mul_right _ ?_
    rw [Nat.succ_mul, Nat.mul_comm]
    omega
  rw [Nat.succ_mul] at hnext
  exact Nat.le_of_mul_le_mul_right (by omega) hpos

/-- **The quotient of whole numbers is off by one grain**, and no larger than the next whole
    number. -/
theorem close_div {total sum : Nat} (hpos : 0 < sum) (hsum : sum ≤ twoPow 20)
    (htotal : total ≤ twoPow 32) :
    (ofInt total / ofInt sum).UpTo (total / sum + 1) ∧
      (total * unitsPerOne : Int) ≤ ((ofInt total / ofInt sum).line + grain) * sum ∧
      (ofInt total / ofInt sum).line * sum ≤ total * unitsPerOne + grain * sum := by
  have hlarge : twoPow 20 ≤ twoPow 53 ∧ twoPow 32 < twoPow 53 ∧ twoPow 32 < twoPow 33 :=
    ⟨twoPow_le (by decide), twoPow_lt (by decide), twoPow_lt (by decide)⟩
  have hunits := unitsPerOne_pos
  have hmagnitude {n : Nat} (h : n ≤ twoPow 53) : (ofInt n).magnitude = n * unitsPerOne := by
    rw [ofInt_natCast h]
    rfl
  have hfinite : (ofInt total / ofInt sum).isFinite = true := by
    have hbelow : Below 34 (ofInt total) := below_ofInt (k := 33) (by omega) (by decide)
    rw [ofInt_natCast (n := sum) (by omega)]
    exact (hbelow.div _ (Nat.le_mul_of_pos_left _ hpos) (by decide)).isFinite
  have hquotient := line_div (x := ofInt total) (y := ofInt sum)
    (isFinite_ofInt_natCast (by omega)) (isFinite_ofInt_natCast (by omega))
    (nonneg_line_ofInt (Int.natCast_nonneg total))
    (by rw [line_ofInt_natCast (by omega)]; exact Int.mul_pos (by omega) (by omega))
  rw [hmagnitude (by omega), hmagnitude (by omega)] at hquotient
  obtain ⟨hleast, hmost⟩ := nearest_units_close hpos htotal
  generalize nearest _ (sum * unitsPerOne) = rounded at hquotient hleast hmost
  have hle := le_next_of_close hpos hsum hmost
  have hsmall : rounded < overflowUnits := by
    have hquot := Nat.div_le_self total sum
    have hwhole := (representable_whole (n := total / sum + 1) (by omega)).1
    omega
  have hline : (ofInt total / ofInt sum).line = rounded := by
    rw [hquotient]
    omega
  rw [hline]
  refine ⟨⟨hfinite, by omega, ?_⟩, Int.ofNat_le.2 hleast, Int.ofNat_le.2 hmost⟩
  rw [hline]
  exact Int.ofNat_le.2 hle

/-- The nearest whole number is off by a half and the grains. -/
theorem Close.round_mem (hx : x.Close a units) (hnonneg : 0 ≤ x.line) :
    2 * units ≤ 2 * (x.round * unitsPerOne) + unitsPerOne + 2 * (a * grain) ∧
      2 * (x.round * unitsPerOne) ≤ 2 * units + unitsPerOne + 2 * (a * grain) := by
  obtain ⟨hbelow, habove, -⟩ :
      Near x.line.natAbs unitsPerOne (roundQuotient x.line.natAbs unitsPerOne) :=
    near_roundQuotient unitsPerOne_pos
  have hxBelow := hx.below
  have hxAbove := hx.above
  rw [round_eq, if_neg (Int.not_lt.2 hnonneg)]
  have hcast := Int.natCast_mul (roundQuotient x.line.natAbs unitsPerOne) unitsPerOne
  omega

end Binary64

end DeskCalc
