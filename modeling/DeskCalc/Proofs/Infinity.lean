import DeskCalc.Proofs.Bounds

/-!
# Sums up to infinity

A running sum of numbers that are not below zero may come to infinity, and stays there. With
infinity at the end of the number line such sums keep the order, however far they go. This file
fixes

* `Binary64.NonNegative`: the numbers from zero on, infinity included, and that sums are among them;
* `NonNegative.line_le_line_add`: a sum is never smaller than what something was added to;
* **`NonNegative.line_add_mono`**: behind the smaller number the sum is smaller.
-/

namespace DeskCalc.Binary64

variable {x x' y : Binary64}

/-- A number that is not below zero, infinity included. -/
structure NonNegative (x : Binary64) : Prop where
  number : x.isNaN = false
  nonneg : 0 ≤ x.line

theorem line_lt_overflowUnits (h : x.isFinite = true) : x.line < overflowUnits := by
  cases x with
  | nan | infinite => cases h
  | finite s units representable =>
    have hunits := representable.1
    have habs := natAbs_line (finite s units representable)
    change _ = units at habs
    omega

theorem line_le_overflowUnits (x : Binary64) : x.line ≤ overflowUnits := by
  cases x with
  | nan => exact Int.natCast_nonneg _
  | infinite s =>
    have habs := natAbs_line (infinite s)
    change _ = overflowUnits at habs
    omega
  | finite s units representable => exact Int.le_of_lt (line_lt_overflowUnits rfl)

namespace NonNegative

theorem finite_or_infinite (h : x.NonNegative) : x.isFinite = true ∨ x = infinite false := by
  cases x with
  | nan => exact nomatch h.number
  | infinite s => exact .inr (congrArg infinite (nonneg_line_infinite h.nonneg))
  | finite => exact .inl rfl

/-- Nothing but what is below zero leads back from infinity. -/
theorem infinite_add (hy : y.isFinite = true ∨ y = infinite false) :
    infinite false + y = infinite false := by
  rcases hy with hfinite | rfl
  · cases y with
    | nan | infinite => cases hfinite
    | finite => rfl
  · rfl

theorem add_infinite (hx : x.NonNegative) : x + infinite false = infinite false := by
  rcases hx.finite_or_infinite with hfinite | rfl
  · cases x with
    | nan | infinite => cases hfinite
    | finite => rfl
  · rfl

theorem isNaN_add (hx : x.NonNegative) (hy : y.isFinite = true ∨ y = infinite false) :
    (x + y).isNaN = false := by
  rcases hx.finite_or_infinite with hfinite | rfl
  · rcases hy with hfinite' | rfl
    · exact Binary64.isNaN_add hfinite hfinite'
    · rw [hx.add_infinite]
      rfl
  · rw [infinite_add hy]
    rfl

theorem add (hx : x.NonNegative) (hy : y.NonNegative) : (x + y).NonNegative :=
  ⟨hx.isNaN_add hy.finite_or_infinite, nonneg_line_add hx.nonneg hy.nonneg⟩

/-- Adding what is not negative leads no further down, not even from infinity. -/
theorem line_le_line_add (hx : x.NonNegative) (hy : y.NonNegative) : x.line ≤ (x + y).line := by
  rcases (hx.add hy).finite_or_infinite with hfinite | hinfinite
  · exact Binary64.line_le_line_add hfinite hy.nonneg
  · rw [hinfinite]
    exact line_le_overflowUnits x

/-- **Behind the smaller number the sum is smaller.** -/
theorem line_add_mono (hx : x.NonNegative) (hx' : x'.NonNegative) (hle : x.line ≤ x'.line)
    (hy : y.isFinite = true ∨ y = infinite false) : (x + y).line ≤ (x' + y).line := by
  rcases hy with hy | rfl
  · rcases hx'.finite_or_infinite with hfinite' | rfl
    · have hfinite : x.isFinite = true := by
        rcases hx.finite_or_infinite with hfinite | rfl
        · exact hfinite
        · exact absurd hle (Int.not_le.2 (line_lt_overflowUnits hfinite'))
      rw [line_add hfinite hy, line_add hfinite' hy]
      exact settle_mono (Int.add_le_add_right hle _)
    · rw [infinite_add (.inl hy)]
      exact line_le_overflowUnits _
  · exact Int.le_of_eq (congrArg line (hx.add_infinite.trans hx'.add_infinite.symm))

end NonNegative

end DeskCalc.Binary64
