import DeskCalc.Decimal.Shortest
import DeskCalc.Proofs.Decimal.Rounding

/-!
# The shortest decimal rounds back

Every decimal that the search accepts rounds to the double it was searched for, and the search finds
one for every positive double. This file fixes

* `toBinary64_eq_ofRatio`: a decimal as a quotient of counts, by the step and the scale of its grid;
* `nearest_of_roundsBack_above`, `nearest_of_roundsBack_below`: the distances that `roundsBack`
  accepts are those that `nearest` closes, also below a power of two, where the spacing halves;
* `two_mul_gridStep_le`: the twentieth grid is finer than half a spacing;
* **`toBinary64_shortest`**: the shortest decimal of a double rounds to it.
-/

namespace DeskCalc

namespace Decimal

/-! ## 1. A decimal as a quotient -/

/-- Units are measured against this count of parts on the grid of a power of ten. -/
def gridScale (exponent : Int) : Nat := if exponent < 0 then tenPow (-exponent).toNat else 1

/-- The step of the grid in parts of a unit. -/
def gridStep (exponent : Int) : Nat :=
  if exponent < 0 then unitsPerOne else unitsPerOne * tenPow exponent.toNat

theorem tenPow_pos (n : Nat) : 0 < tenPow n := Nat.pow_pos (by decide)

theorem gridScale_pos (exponent : Int) : 0 < gridScale exponent := by
  unfold gridScale
  split
  · exact tenPow_pos _
  · exact Nat.one_pos

theorem gridStep_pos (exponent : Int) : 0 < gridStep exponent := by
  unfold gridStep
  split
  · exact unitsPerOne_pos
  · exact Nat.mul_pos unitsPerOne_pos (tenPow_pos _)

theorem toBinary64_eq_ofRatio (negative : Bool) (coefficient : Nat) (exponent : Int) :
    (⟨coefficient, exponent⟩ : Decimal).toBinary64 negative =
      .ofRatio negative (coefficient * gridStep exponent) (gridScale exponent) := by
  unfold toBinary64 Binary64.ofDecimal gridStep gridScale
  by_cases h : exponent < 0
  · simp only [h, if_true, if_neg (Int.not_le.2 h)]
  · simp only [h, if_false, if_pos (Int.not_lt.1 h)]
    rw [Nat.mul_assoc, Nat.mul_comm unitsPerOne]

theorem toBinary64_whole (negative : Bool) (n : Nat) :
    (⟨n, 0⟩ : Decimal).toBinary64 negative = .ofRatio negative (n * unitsPerOne) 1 := by
  unfold toBinary64 Binary64.ofDecimal
  rw [if_pos (Int.le_refl 0), Int.toNat_zero, show tenPow 0 = 1 from rfl, Nat.mul_one]

/-- Ten steps are one step of the next coarser grid. -/
theorem ten_mul_gridStep (exponent : Int) :
    10 * gridStep exponent * gridScale (exponent + 1) =
      gridStep (exponent + 1) * gridScale exponent := by
  unfold gridStep gridScale tenPow
  rcases Int.lt_trichotomy exponent (-1) with h | rfl | h
  · have hsucc : (-exponent).toNat = (-(exponent + 1)).toNat + 1 := by omega
    rw [if_pos (by omega), if_pos (by omega), if_pos (by omega), if_pos (by omega), hsucc]
    show 10 * unitsPerOne * 10 ^ _ = unitsPerOne * 10 ^ (_ + 1)
    rw [Nat.pow_succ, Nat.mul_comm 10, Nat.mul_assoc, Nat.mul_comm 10]
  · simp [Nat.mul_comm]
  · have hsucc : (exponent + 1).toNat = exponent.toNat + 1 := by omega
    rw [if_neg (by omega), if_neg (by omega), if_neg (by omega), if_neg (by omega), hsucc]
    show 10 * (unitsPerOne * 10 ^ _) * 1 = unitsPerOne * 10 ^ (_ + 1) * 1
    rw [Nat.pow_succ, Nat.mul_comm 10, Nat.mul_assoc unitsPerOne]

/-- Final zeros do not count. -/
theorem toBinary64_stripZeros (negative : Bool) (coefficient : Nat) (exponent : Int) :
    (stripZeros coefficient exponent).toBinary64 negative =
      (⟨coefficient, exponent⟩ : Decimal).toBinary64 negative := by
  induction coefficient using Nat.strongRecOn generalizing exponent with
  | ind coefficient ih =>
    rw [stripZeros]
    split
    · rename_i h
      rw [ih _ (by omega), toBinary64_eq_ofRatio, toBinary64_eq_ofRatio]
      have hten : coefficient = coefficient / 10 * 10 := by omega
      refine Binary64.ofRatio_eq_of_cross (gridScale_pos _) (gridScale_pos _) ?_ negative
      calc coefficient / 10 * gridStep (exponent + 1) * gridScale exponent
          = coefficient / 10 * (gridStep (exponent + 1) * gridScale exponent) := by
            rw [Nat.mul_assoc]
        _ = coefficient / 10 * (10 * gridStep exponent * gridScale (exponent + 1)) := by
            rw [ten_mul_gridStep]
        _ = coefficient / 10 * 10 * gridStep exponent * gridScale (exponent + 1) := by
            simp only [Nat.mul_assoc]
        _ = coefficient * gridStep exponent * gridScale (exponent + 1) := by rw [← hten]
    · rfl

/-! ## 2. The spacing -/

/-- The spacing of a count: it has 53 digits in front of it, unless the spacing is one unit. -/
theorem spacing_eq_iff {n s : Nat} :
    spacing n = s ↔ n < twoPow (s + 53) ∧ (s = 0 ∨ twoPow (s + 52) ≤ n) := by
  unfold spacing
  rcases Nat.eq_zero_or_pos n with rfl | hn
  · have hpos := twoPow_pos (s + 53)
    have hpos' := twoPow_pos (s + 52)
    rw [Nat.log2_zero]
    omega
  · have hne := Nat.pos_iff_ne_zero.1 hn
    rw [← log2_lt_iff hne, ← Nat.not_lt, ← log2_lt_iff hne]
    omega

theorem roundsBack_iff {units gap distance scale : Nat} :
    roundsBack units gap distance scale = true ↔
      2 * distance ≤ gap * scale ∧
        (units / twoPow (spacing units) % 2 = 1 → 2 * distance < gap * scale) := by
  unfold roundsBack
  split
  · rw [decide_eq_true_eq]
    omega
  · rw [decide_eq_true_eq]
    omega

section Back

variable {units num den : Nat}

/-- A distance above a count that `roundsBack` accepts is one that `nearest` closes. -/
theorem nearest_of_roundsBack_above (h : Representable units) (hden : 0 < den)
    (hle : units * den ≤ num)
    (hback : roundsBack units (gapAbove units) (num - units * den) den = true) :
    nearest num den = units := by
  obtain ⟨m, hm, hlt⟩ := h.exists_mul
  obtain ⟨hupper, hlower⟩ := spacing_eq_iff.1 (rfl : spacing units = spacing units)
  rw [roundsBack_iff] at hback
  unfold gapAbove at hback
  generalize spacing units = s at *
  have hstep := twoPow_pos s
  have hprod : units * den = m * (den * twoPow s) := by
    rw [hm, Nat.mul_comm den, Nat.mul_assoc]
  rw [hm, Nat.mul_div_cancel _ hstep, ← hm, hprod, Nat.mul_comm (twoPow s)] at hback
  have hs : spacing (num / den) = s := by
    rw [spacing_eq_iff]
    refine ⟨?_, hlower.imp id fun hle' => ?_⟩
    · rw [Nat.div_lt_iff_lt_mul hden]
      have hnext := Nat.mul_le_mul_right (den * twoPow s) (Nat.succ_le_of_lt hlt)
      rw [Nat.succ_mul] at hnext
      have hpos := Nat.mul_pos hden hstep
      calc num < m * (den * twoPow s) + den * twoPow s := by omega
        _ ≤ twoPow 53 * (den * twoPow s) := hnext
        _ = twoPow (s + 53) * den := by
          rw [Nat.add_comm, twoPow_add, Nat.mul_comm den, Nat.mul_assoc]
    · exact Nat.le_trans hle' ((Nat.le_div_iff_mul_le hden).2 hle)
  have hnear : Near num (den * twoPow s) m := ⟨by omega, by omega, by omega⟩
  rw [nearest_eq_of_near hden hs hnear, ← hm]

/-- Below a power of two the spacing is half of that above it. -/
theorem gapBelow_cases (units : Nat) :
    gapBelow units = twoPow (spacing units) ∧ (spacing units = 0 ∨ units ≠ twoPow units.log2) ∨
      ∃ t, units = twoPow 53 * twoPow t ∧ gapBelow units = twoPow t := by
  unfold gapBelow
  by_cases hpower : 1 < twoPow (spacing units) ∧ units = twoPow units.log2
  · obtain ⟨hstep, hunits⟩ := hpower
    have hs : spacing units ≠ 0 := by
      intro hzero
      rw [hzero] at hstep
      exact absurd hstep (by decide)
    obtain ⟨t, ht⟩ := Nat.exists_eq_succ_of_ne_zero hs
    have hlog : units.log2 = 53 + t := by
      unfold spacing at ht
      omega
    refine .inr ⟨t, by rw [← twoPow_add, ← hlog, ← hunits], ?_⟩
    rw [if_pos (by simp only [hstep, ← hunits, decide_true, beq_self_eq_true, Bool.and_self]), ht]
    show twoPow (t + 1) / 2 = twoPow t
    rw [twoPow_add, show twoPow 1 = 2 from rfl, Nat.mul_div_cancel _ Nat.two_pos]
  · refine .inl ⟨if_neg ?_, ?_⟩
    · rwa [Bool.and_eq_true, decide_eq_true_eq, beq_iff_eq]
    · by_cases hs : spacing units = 0
      · exact .inl hs
      · refine .inr fun hunits => hpower ⟨?_, hunits⟩
        exact Nat.one_lt_two_pow hs

/-- Above a power of two, the next smaller counts lie as far apart as the next larger ones. -/
theorem nearest_of_roundsBack_spacing (h : Representable units) (hden : 0 < den)
    (hlt : num < units * den) (hpower : spacing units = 0 ∨ units ≠ twoPow units.log2)
    (hback : roundsBack units (twoPow (spacing units)) (units * den - num) den = true) :
    nearest num den = units := by
  obtain ⟨m, hm, hmlt⟩ := h.exists_mul
  obtain ⟨hbig, hlower⟩ := spacing_eq_iff.1 (rfl : spacing units = spacing units)
  have hlog : spacing units = units.log2 - 52 := rfl
  have hupper : num / den < units := (Nat.div_lt_iff_lt_mul hden).2 hlt
  rw [roundsBack_iff] at hback
  generalize spacing units = s at *
  have hprod : units * den = m * (den * twoPow s) := by
    rw [hm, Nat.mul_comm den, Nat.mul_assoc]
  rw [hm, Nat.mul_div_cancel _ (twoPow_pos s), ← hm, hprod, Nat.mul_comm (twoPow s)] at hback
  have hs : spacing (num / den) = s := by
    rw [spacing_eq_iff]
    refine ⟨Nat.lt_trans hupper hbig, ?_⟩
    rcases Nat.eq_zero_or_pos s with hzero | hpos
    · exact .inl hzero
    -- the count lies at least one spacing above the power of two
    have hne : units ≠ twoPow (s + 52) := by
      have hne' := hpower.resolve_left (Nat.pos_iff_ne_zero.1 hpos)
      rwa [show units.log2 = s + 52 by omega] at hne'
    have hle := hlower.resolve_left (Nat.pos_iff_ne_zero.1 hpos)
    have hmgt : twoPow 52 < m := by
      have hlt' : twoPow 52 * twoPow s < m * twoPow s := by
        rw [← hm, ← twoPow_add, Nat.add_comm]
        omega
      exact Nat.lt_of_mul_lt_mul_right hlt'
    refine .inr ((Nat.le_div_iff_mul_le hden).2 ?_)
    have hnext := Nat.mul_le_mul_right (den * twoPow s) hmgt
    rw [Nat.succ_mul, ← hprod] at hnext
    have hpower' : twoPow (s + 52) * den = twoPow 52 * (den * twoPow s) := by
      rw [Nat.add_comm, twoPow_add, Nat.mul_comm den, Nat.mul_assoc]
    omega
  have hnear : Near num (den * twoPow s) m := ⟨by omega, by omega, by omega⟩
  rw [nearest_eq_of_near hden hs hnear, ← hm]

/-- Below a power of two, the next smaller counts are half as far apart. -/
theorem nearest_of_roundsBack_half {t : Nat} (hden : 0 < den) (hlt : num < units * den)
    (hunits : units = twoPow 53 * twoPow t)
    (hback : 2 * (units * den - num) ≤ twoPow t * den) : nearest num den = units := by
  have hupper : num / den < units := (Nat.div_lt_iff_lt_mul hden).2 hlt
  have hprod : units * den = twoPow 53 * (den * twoPow t) := by
    rw [hunits, Nat.mul_comm den, Nat.mul_assoc]
  have hcomm : twoPow t * den = den * twoPow t := Nat.mul_comm _ _
  have hs : spacing (num / den) = t := by
    rw [spacing_eq_iff]
    refine ⟨by rwa [Nat.add_comm, twoPow_add, ← hunits], .inr ?_⟩
    rw [Nat.le_div_iff_mul_le hden]
    have hhalf : twoPow (t + 52) * den = twoPow 52 * (den * twoPow t) := by
      rw [Nat.add_comm, twoPow_add, Nat.mul_comm den, Nat.mul_assoc]
    have hpow : twoPow 53 = 2 * twoPow 52 := rfl
    have hone : den * twoPow t ≤ twoPow 52 * (den * twoPow t) :=
      Nat.le_mul_of_pos_left _ (twoPow_pos 52)
    rw [hprod, hpow, Nat.mul_assoc] at hback
    omega
  -- the power of two is an even number of the smaller spacings
  have hnear : Near num (den * twoPow t) (twoPow 53) :=
    ⟨by omega, by omega, fun hodd => absurd hodd (by decide)⟩
  rw [nearest_eq_of_near hden hs hnear, ← hunits]

/-- A distance below a count that `roundsBack` accepts is one that `nearest` closes. -/
theorem nearest_of_roundsBack_below (h : Representable units) (hden : 0 < den)
    (hle : num ≤ units * den)
    (hback : roundsBack units (gapBelow units) (units * den - num) den = true) :
    nearest num den = units := by
  rcases Nat.eq_or_lt_of_le hle with rfl | hlt
  · exact nearest_eq_self h hden
  rcases gapBelow_cases units with ⟨hgap, hpower⟩ | ⟨t, hunits, hgap⟩
  · rw [hgap] at hback
    exact nearest_of_roundsBack_spacing h hden hlt hpower hback
  · rw [hgap] at hback
    exact nearest_of_roundsBack_half hden hlt hunits (roundsBack_iff.1 hback).1

end Back

/-! ## 3. One grid -/

/-- The choice on a grid, by its step and its scale. -/
theorem onGrid?_eq (units : Nat) (exponent : Int) :
    onGrid? units exponent =
      match roundsBack units (gapBelow units)
          (units * gridScale exponent % gridStep exponent) (gridScale exponent),
        roundsBack units (gapAbove units)
          (gridStep exponent - units * gridScale exponent % gridStep exponent)
          (gridScale exponent) with
      | true, false => some ⟨units * gridScale exponent / gridStep exponent, exponent⟩
      | false, true => some ⟨units * gridScale exponent / gridStep exponent + 1, exponent⟩
      | true, true =>
        if units * gridScale exponent % gridStep exponent <
              gridStep exponent - units * gridScale exponent % gridStep exponent ∨
            units * gridScale exponent % gridStep exponent =
                gridStep exponent - units * gridScale exponent % gridStep exponent ∧
              units * gridScale exponent / gridStep exponent % 2 = 0 then
          some ⟨units * gridScale exponent / gridStep exponent, exponent⟩
        else some ⟨units * gridScale exponent / gridStep exponent + 1, exponent⟩
      | false, false => none := by
  rfl

/-- A point of a grid is the lower or the upper neighbour of the double, and rounds back. -/
theorem onGrid?_cases {units : Nat} {exponent : Int} {d : Decimal}
    (h : onGrid? units exponent = some d) :
    d = ⟨units * gridScale exponent / gridStep exponent, exponent⟩ ∧
        roundsBack units (gapBelow units) (units * gridScale exponent % gridStep exponent)
          (gridScale exponent) = true ∨
      d = ⟨units * gridScale exponent / gridStep exponent + 1, exponent⟩ ∧
        roundsBack units (gapAbove units)
          (gridStep exponent - units * gridScale exponent % gridStep exponent)
          (gridScale exponent) = true := by
  rw [onGrid?_eq] at h
  split at h
  · rename_i hbelow _
    exact .inl ⟨(Option.some.inj h).symm, hbelow⟩
  · rename_i _ habove
    exact .inr ⟨(Option.some.inj h).symm, habove⟩
  · rename_i hbelow habove
    split at h
    · exact .inl ⟨(Option.some.inj h).symm, hbelow⟩
    · exact .inr ⟨(Option.some.inj h).symm, habove⟩
  · cases h

/-- **A point of a grid rounds to the double.** -/
theorem toBinary64_of_onGrid? {units : Nat} (representable : Representable units) {exponent : Int}
    {d : Decimal} (h : onGrid? units exponent = some d) (negative : Bool) :
    d.toBinary64 negative = .finite negative units representable := by
  have hscale := gridScale_pos exponent
  have hdiv := Nat.div_add_mod (units * gridScale exponent) (gridStep exponent)
  have hmod := Nat.mod_lt (units * gridScale exponent) (gridStep_pos exponent)
  rw [Nat.mul_comm] at hdiv
  rcases onGrid?_cases h with ⟨rfl, hback⟩ | ⟨rfl, hback⟩
  · rw [toBinary64_eq_ofRatio]
    refine Binary64.ofRatio_eq_finite (nearest_of_roundsBack_below representable hscale ?_ ?_) _
    · exact Nat.div_mul_le_self _ _
    · rwa [show units * gridScale exponent
          - units * gridScale exponent / gridStep exponent * gridStep exponent =
        units * gridScale exponent % gridStep exponent by omega]
  · have hnext : (units * gridScale exponent / gridStep exponent + 1) * gridStep exponent =
        units * gridScale exponent / gridStep exponent * gridStep exponent
          + gridStep exponent := Nat.succ_mul _ _
    rw [toBinary64_eq_ofRatio]
    refine Binary64.ofRatio_eq_finite (nearest_of_roundsBack_above representable hscale ?_ ?_) _
    · omega
    · rwa [show (units * gridScale exponent / gridStep exponent + 1) * gridStep exponent
          - units * gridScale exponent =
        gridStep exponent - units * gridScale exponent % gridStep exponent by omega]

theorem gapBelow_pos (units : Nat) : 0 < gapBelow units := by
  rcases gapBelow_cases units with ⟨h, _⟩ | ⟨t, _, h⟩
  · rw [h]
    exact twoPow_pos _
  · rw [h]
    exact twoPow_pos t

/-- A grid finer than half a spacing has a point that rounds back. -/
theorem exists_onGrid? {units : Nat} {exponent : Int}
    (h : 2 * gridStep exponent ≤ twoPow (spacing units) * gridScale exponent) :
    ∃ d, onGrid? units exponent = some d := by
  have hmod := Nat.mod_lt (units * gridScale exponent) (gridStep_pos exponent)
  have hgap := Nat.mul_pos (gapBelow_pos units) (gridScale_pos exponent)
  have hback : roundsBack units (gapBelow units)
        (units * gridScale exponent % gridStep exponent) (gridScale exponent) = true ∨
      roundsBack units (gapAbove units)
        (gridStep exponent - units * gridScale exponent % gridStep exponent)
        (gridScale exponent) = true := by
    rw [roundsBack_iff, roundsBack_iff]
    unfold gapAbove
    omega
  rw [onGrid?_eq]
  split
  · exact ⟨_, rfl⟩
  · exact ⟨_, rfl⟩
  · split
    · exact ⟨_, rfl⟩
    · exact ⟨_, rfl⟩
  · rename_i hbelow habove
    rw [hbelow, habove] at hback
    simp at hback

/-! ## 4. The finest grid of the search -/

theorem tenPow_add (m n : Nat) : tenPow (m + n) = tenPow m * tenPow n := Nat.pow_add 10 m n

/-- Ten to the fifty-nine lies below two to the hundred and ninety-six. -/
theorem tenPow_le_twoPow {a l : Nat} (h : 100000 * a ≤ 30103 * l) (hl : l ≤ 1100) :
    tenPow a ≤ twoPow (l + 1) := by
  have hexp : 196 * a ≤ 59 * (l + 1) := by omega
  rw [← Nat.pow_le_pow_iff_left (show 59 ≠ 0 by decide)]
  calc (10 ^ a) ^ 59 = (10 ^ 59) ^ a := by rw [← Nat.pow_mul, ← Nat.pow_mul, Nat.mul_comm]
    _ ≤ (2 ^ 196) ^ a := Nat.pow_le_pow_left (by decide) a
    _ = 2 ^ (196 * a) := (Nat.pow_mul 2 196 a).symm
    _ ≤ 2 ^ (59 * (l + 1)) := Nat.pow_le_pow_right Nat.two_pos hexp
    _ = (2 ^ (l + 1)) ^ 59 := by rw [Nat.mul_comm, Nat.pow_mul]

/-- Two to the ninety-three lies below ten to the twenty-eight. -/
theorem twoPow_le_two_mul_tenPow {b l : Nat} (h : 30103 * l ≤ 100000 * b) (hl : l ≤ 1100) :
    twoPow l ≤ 2 * tenPow b := by
  have hexp : 28 * l ≤ 93 * b + 5 := by omega
  rw [← Nat.pow_le_pow_iff_left (show 93 ≠ 0 by decide)]
  calc (2 ^ l) ^ 93 = (2 ^ 93) ^ l := by rw [← Nat.pow_mul, ← Nat.pow_mul, Nat.mul_comm]
    _ ≤ (10 ^ 28) ^ l := Nat.pow_le_pow_left (by decide) l
    _ = 10 ^ (28 * l) := (Nat.pow_mul 10 28 l).symm
    _ ≤ 10 ^ (93 * b + 5) := Nat.pow_le_pow_right (by decide) hexp
    _ = 10 ^ 5 * (10 ^ b) ^ 93 := by rw [Nat.pow_add, Nat.mul_comm, Nat.mul_comm 93, Nat.pow_mul]
    _ ≤ 2 ^ 93 * (10 ^ b) ^ 93 := Nat.mul_le_mul_right _ (by decide)
    _ = (2 * 10 ^ b) ^ 93 := (Nat.mul_pow 2 (10 ^ b) 93).symm

/-- The finest step in units, where it is a whole number of ones. -/
theorem two_mul_tenPow_le {l n : Nat} (h : 100000 * (n + 17) ≤ 30103 * l) (hl : l ≤ 1100) :
    2 * (twoPow 1074 * tenPow n) ≤ twoPow (l + 1021) := by
  have hsmall : tenPow n ≤ twoPow (l - 55) := by
    refine Nat.le_of_mul_le_mul_right ?_ (twoPow_pos 56)
    calc tenPow n * twoPow 56 ≤ tenPow n * tenPow 17 := Nat.mul_le_mul_left _ (by decide)
      _ = tenPow (n + 17) := (tenPow_add n 17).symm
      _ ≤ twoPow (l + 1) := tenPow_le_twoPow h hl
      _ = twoPow (l - 55 + 56) := congrArg twoPow (by omega)
      _ = twoPow (l - 55) * twoPow 56 := twoPow_add _ _
  calc 2 * (twoPow 1074 * tenPow n) ≤ twoPow 1 * (twoPow 1074 * twoPow (l - 55)) :=
        Nat.mul_le_mul_left 2 (Nat.mul_le_mul_left _ hsmall)
    _ = twoPow (1 + (1074 + (l - 55))) := by rw [twoPow_add, twoPow_add]
    _ ≤ twoPow (l + 1021) := twoPow_le (by omega)

/-- The finest step in parts of a unit, at doubles from one on. -/
theorem twoPow_le_mul_tenPow {a l n : Nat} (h : 100000 * a ≤ 30103 * l) (hl : l ≤ 1100)
    (hn : a + n = 17) : 2 * twoPow 1074 ≤ twoPow (l + 1021) * tenPow n := by
  refine Nat.le_of_mul_le_mul_right ?_ (twoPow_pos (l + 1))
  rw [two_mul_twoPow]
  calc twoPow (1074 + 1) * twoPow (l + 1) = twoPow (1074 + 1 + (l + 1)) :=
        (twoPow_add _ _).symm
    _ ≤ twoPow (l + 1021 + 56) := twoPow_le (by omega)
    _ = twoPow (l + 1021) * twoPow 56 := twoPow_add _ _
    _ ≤ twoPow (l + 1021) * tenPow 17 := Nat.mul_le_mul_left _ (by decide)
    _ = twoPow (l + 1021) * (tenPow n * tenPow a) := by
        rw [← hn, Nat.add_comm a, tenPow_add]
    _ ≤ twoPow (l + 1021) * (tenPow n * twoPow (l + 1)) :=
        Nat.mul_le_mul_left _ (Nat.mul_le_mul_left _ (tenPow_le_twoPow h hl))
    _ = twoPow (l + 1021) * tenPow n * twoPow (l + 1) := (Nat.mul_assoc _ _ _).symm

/-- The finest step in parts of a unit, at doubles below one. -/
theorem twoPow_le_mul_tenPow_of_small {b m s : Nat} (h : 30103 * m ≤ 100000 * b) (hm : m ≤ 1100)
    (hs : 1021 ≤ s + m) : 2 * twoPow 1074 ≤ twoPow s * tenPow (17 + b) := by
  refine Nat.le_of_mul_le_mul_right ?_ Nat.two_pos
  rw [two_mul_twoPow, Nat.mul_comm, two_mul_twoPow]
  calc twoPow (1074 + 1 + 1) ≤ twoPow (s + (56 + m)) := twoPow_le (by omega)
    _ = twoPow s * (twoPow 56 * twoPow m) := by rw [twoPow_add, twoPow_add]
    _ ≤ twoPow s * (tenPow 17 * (2 * tenPow b)) :=
        Nat.mul_le_mul_left _ (Nat.mul_le_mul (by decide) (twoPow_le_two_mul_tenPow h hm))
    _ = twoPow s * tenPow (17 + b) * 2 := by
        rw [tenPow_add, Nat.mul_comm 2, ← Nat.mul_assoc, ← Nat.mul_assoc, ← Nat.mul_assoc]

/-- **The twentieth grid is finer than half a spacing.** -/
theorem two_mul_gridStep_le {units : Nat} (h : units < overflowUnits) :
    2 * gridStep (coarseExponent units - 19) ≤
      twoPow (spacing units) * gridScale (coarseExponent units - 19) := by
  have hlog : units.log2 < 2098 := by
    rcases Nat.eq_zero_or_pos units with rfl | hpos
    · rw [Nat.log2_zero]
      decide
    · rw [log2_lt_iff (Nat.pos_iff_ne_zero.1 hpos)]
      unfold overflowUnits at h
      exact h
  unfold gridStep gridScale unitsPerOne coarseExponent spacing
  generalize units.log2 = log at hlog ⊢
  by_cases hneg : ((log : Int) - 1073) * 30103 / 100000 + 2 - 19 < 0
  · rw [if_pos hneg, if_pos hneg]
    rcases Nat.lt_or_ge log 1073 with hlt | hge
    · obtain ⟨b, hb⟩ : ∃ b : Nat, ((log : Int) - 1073) * 30103 / 100000 = -(b : Int) :=
        ⟨(-(((log : Int) - 1073) * 30103 / 100000)).toNat, by omega⟩
      rw [hb, show (-(-(b : Int) + 2 - 19)).toNat = 17 + b by omega]
      exact twoPow_le_mul_tenPow_of_small (show 30103 * (1073 - log) ≤ 100000 * b by omega)
        (by omega) (by omega)
    · obtain ⟨a, ha⟩ : ∃ a : Nat, ((log : Int) - 1073) * 30103 / 100000 = (a : Int) :=
        ⟨(((log : Int) - 1073) * 30103 / 100000).toNat, by omega⟩
      rw [ha, show log - 52 = log - 1073 + 1021 by omega]
      exact twoPow_le_mul_tenPow (show 100000 * a ≤ 30103 * (log - 1073) by omega) (by omega)
        (by omega)
  · rw [if_neg hneg, if_neg hneg, Nat.mul_one, show log - 52 = log - 1073 + 1021 by omega]
    exact two_mul_tenPow_le (by omega) (by omega)

/-! ## 5. The search -/

/-- The search finds a point of one of its grids. -/
theorem exists_shortest_eq {units : Nat} (h : units < overflowUnits) :
    ∃ exponent d, onGrid? units exponent = some d ∧
      shortest units = stripZeros d.coefficient d.exponent := by
  unfold shortest
  dsimp only
  cases hfound : (List.range 20).findSome? fun (k : Nat) =>
      onGrid? units (coarseExponent units - k) with
  | some d =>
    obtain ⟨k, _, hk⟩ := List.exists_of_findSome?_eq_some hfound
    exact ⟨_, d, hk, rfl⟩
  | none =>
    obtain ⟨d, hd⟩ := exists_onGrid? (two_mul_gridStep_le h)
    have hnone := List.findSome?_eq_none_iff.1 hfound 19 (by decide)
    cases hd.symm.trans hnone

/-- **The shortest decimal of a double rounds to it.** -/
theorem toBinary64_shortest {units : Nat} (representable : Representable units) (negative : Bool) :
    (shortest units).toBinary64 negative = .finite negative units representable := by
  obtain ⟨exponent, d, hd, hshortest⟩ := exists_shortest_eq representable.1
  rw [hshortest, toBinary64_stripZeros]
  exact toBinary64_of_onGrid? representable hd negative

end Decimal

end DeskCalc
