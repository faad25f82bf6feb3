import DeskCalc.Binary64

/-!
# Which quotients round to a given count

`nearest num den` depends on the value of the quotient alone, and it is a given representable count
exactly when the quotient lies close enough to it. This file fixes

* `Near`: a quotient lies within half a spacing of a count, at the very middle only when the count
  is an even multiple of the spacing;
* `nearest_eq_of_near`: a quotient near a count rounds to it, if the spacing is that of the quotient;
* `nearest_eq_self`: a representable count rounds to itself;
* `ofRatio_eq_of_cross`: the rounding of a quotient in two written forms.
-/

namespace DeskCalc

theorem unitsPerOne_pos : 0 < unitsPerOne := by
  unfold unitsPerOne
  exact twoPow_pos 1074

theorem twoPow_le {m n : Nat} (h : m ≤ n) : twoPow m ≤ twoPow n :=
  Nat.pow_le_pow_right Nat.two_pos h

theorem twoPow_lt {m n : Nat} (h : m < n) : twoPow m < twoPow n :=
  Nat.pow_lt_pow_right Nat.one_lt_two h

theorem two_mul_twoPow (n : Nat) : 2 * twoPow n = twoPow (n + 1) := by
  rw [twoPow_add, Nat.mul_comm]
  rfl

/-! ## 1. The nearest whole number -/

theorem roundQuotient_mul {c : Nat} (hc : 0 < c) (num den : Nat) :
    roundQuotient (num * c) (den * c) = roundQuotient num den := by
  unfold roundQuotient
  dsimp only
  rw [Nat.mul_div_mul_right _ _ hc, Nat.mul_mod_mul_right]
  have htwice : 2 * (num % den * c) = 2 * (num % den) * c := by rw [Nat.mul_assoc]
  have hbelow : 2 * (num % den) * c < den * c ↔ 2 * (num % den) < den := Nat.mul_lt_mul_right hc
  have habove : den * c < 2 * (num % den) * c ↔ den < 2 * (num % den) := Nat.mul_lt_mul_right hc
  simp only [htwice, hbelow, habove]

/-- The quotient `num / den` lies within one half of `n`, at the middle only of an even one. -/
structure Near (num den n : Nat) : Prop where
  below : 2 * (n * den) ≤ 2 * num + den
  above : 2 * num ≤ 2 * (n * den) + den
  odd : n % 2 = 1 → 2 * (n * den) < 2 * num + den ∧ 2 * num < 2 * (n * den) + den

/-- **A quotient near a whole number rounds to it.** -/
theorem roundQuotient_eq_of_near {num den n : Nat} (hden : 0 < den) (h : Near num den n) :
    roundQuotient num den = n := by
  obtain ⟨hbelow, habove, hodd⟩ := h
  have hnum := Nat.div_add_mod num den
  have hexcess := Nat.mod_lt num hden
  rw [Nat.mul_comm] at hnum
  unfold roundQuotient
  dsimp only
  generalize num / den = floor at *
  generalize num % den = excess at *
  -- the number is the floor or the next one
  have hlow : floor ≤ n := by
    refine Nat.le_of_not_lt fun hlt => ?_
    have hmul := Nat.mul_le_mul_right den hlt
    rw [Nat.succ_mul] at hmul
    omega
  have hhigh : n ≤ floor + 1 := by
    refine Nat.le_of_not_lt fun hlt => ?_
    have hmul := Nat.mul_le_mul_right den hlt
    rw [Nat.succ_mul, Nat.succ_mul] at hmul
    omega
  rcases Nat.lt_or_ge floor n with hlt | hge
  · obtain rfl : n = floor + 1 := by omega
    have hnext : (floor + 1) * den = floor * den + den := Nat.succ_mul floor den
    rw [hnext] at hbelow habove hodd
    split
    · omega
    · split
      · rfl
      · omega
  · obtain rfl : n = floor := by omega
    split
    · rfl
    · split
      · omega
      · omega

/-! ## 2. The nearest count -/

theorem nearest_mul {c : Nat} (hc : 0 < c) (num den : Nat) :
    nearest (num * c) (den * c) = nearest num den := by
  unfold nearest
  dsimp only
  rw [Nat.mul_div_mul_right _ _ hc]
  generalize twoPow (spacing (num / den)) = step
  rw [show den * c * step = den * step * c by rw [Nat.mul_assoc, Nat.mul_comm c, ← Nat.mul_assoc],
    roundQuotient_mul hc]

/-- Two written forms of one quotient round alike. -/
theorem nearest_eq_of_cross {num den num' den' : Nat} (hden : 0 < den) (hden' : 0 < den')
    (h : num * den' = num' * den) : nearest num den = nearest num' den' := by
  calc nearest num den = nearest (num * den') (den * den') := (nearest_mul hden' num den).symm
    _ = nearest (num' * den) (den' * den) := by rw [h, Nat.mul_comm den]
    _ = nearest num' den' := nearest_mul hden num' den'

/-- **A quotient near a multiple of its spacing rounds to it.** -/
theorem nearest_eq_of_near {num den n s : Nat} (hden : 0 < den) (hs : spacing (num / den) = s)
    (h : Near num (den * twoPow s) n) : nearest num den = n * twoPow s := by
  unfold nearest
  dsimp only
  rw [hs, roundQuotient_eq_of_near (Nat.mul_pos hden (twoPow_pos s)) h]

theorem near_self (n den : Nat) (hden : 0 < den) : Near (n * den) den n where
  below := by omega
  above := by omega
  odd _ := by omega

/-- A representable count is a multiple of its spacing, less than `2^53` of them. -/
theorem Representable.exists_mul {units : Nat} (h : Representable units) :
    ∃ m, units = m * twoPow (spacing units) ∧ m < twoPow 53 := by
  refine ⟨units / twoPow (spacing units), (Nat.div_mul_cancel h.2).symm, div_spacing_lt units⟩

/-- **A representable count rounds to itself.** -/
theorem nearest_eq_self {units den : Nat} (h : Representable units) (hden : 0 < den) :
    nearest (units * den) den = units := by
  obtain ⟨m, hm, -⟩ := h.exists_mul
  have hs : spacing (units * den / den) = spacing units := by rw [Nat.mul_div_cancel _ hden]
  have hnear : Near (units * den) (den * twoPow (spacing units)) m := by
    have hself := near_self m (den * twoPow (spacing units))
      (Nat.mul_pos hden (twoPow_pos _))
    rwa [show m * (den * twoPow (spacing units)) = units * den by
      rw [Nat.mul_comm den, ← Nat.mul_assoc, ← hm]] at hself
  rw [nearest_eq_of_near hden hs hnear, ← hm]

theorem nearest_one_eq_self {m : Nat} (h : Representable m) : nearest m 1 = m := by
  have hself := nearest_eq_self h Nat.one_pos
  rwa [Nat.mul_one] at hself

namespace Binary64

theorem ofRatio_eq_finite {num den units : Nat} {representable : Representable units}
    (h : nearest num den = units) (negative : Bool) :
    ofRatio negative num den = .finite negative units representable := by
  subst h
  unfold ofRatio
  rw [dif_pos representable.1]

theorem ofRatio_eq_of_cross {num den num' den' : Nat} (hden : 0 < den) (hden' : 0 < den')
    (h : num * den' = num' * den) (negative : Bool) :
    ofRatio negative num den = ofRatio negative num' den' := by
  unfold ofRatio
  simp only [nearest_eq_of_cross hden hden' h]

end Binary64

end DeskCalc
