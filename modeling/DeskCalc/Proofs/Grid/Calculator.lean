import DeskCalc.Grid.Layout
import DeskCalc.Proofs.Grid.Edges
import DeskCalc.Proofs.Grid.Tracks

/-!
# The calculator's grid

The grid that the calculator's template writes, read once and for all, so that no proof about a
concrete panel reads the template again. This file fixes

* `Layout.calculator_eq`: the layout, not yet fitted, and the sign of its fractions;
* `Moderate`: lengths far below the largest double, such as those of all windows;
* **`Layout.exists_resize_calculator`**: the layout can be fitted to every moderate size.
-/

namespace DeskCalc

namespace Layout

theorem templateRows_calculatorTemplate :
    Grid.templateRows calculatorTemplate =
      [["display", "display", "display", "display", "history"],
       ["clear", "bkspc", "lparen", "rparen", "history"],
       ["seven", "eight", "nine", "divide", "history"],
       ["four", "five", "six", "multiply", "history"],
       ["one", "two", "three", "minus", "history"],
       ["zero", "point", "equals", "plus", "history"]] := by
  unfold Grid.templateRows calculatorTemplate
  rw [String.toList_ofList]
  decide +kernel

/-- **The calculator's layout**: every button in a cell of its own. -/
theorem calculator_eq :
    calculator =
      { grid :=
          [["display", "display", "display", "display", "history"],
           ["clear", "bkspc", "lparen", "rparen", "history"],
           ["seven", "eight", "nine", "divide", "history"],
           ["four", "five", "six", "multiply", "history"],
           ["one", "two", "three", "minus", "history"],
           ["zero", "point", "equals", "plus", "history"]]
        columns := calculatorColumns
        rows := calculatorRows
        blocks :=
          [("display", ⟨0, 0, 0, 3⟩), ("history", ⟨0, 4, 5, 4⟩), ("clear", .single 1 0),
           ("bkspc", .single 1 1), ("lparen", .single 1 2), ("rparen", .single 1 3),
           ("seven", .single 2 0), ("eight", .single 2 1), ("nine", .single 2 2),
           ("divide", .single 2 3), ("four", .single 3 0), ("five", .single 3 1),
           ("six", .single 3 2), ("multiply", .single 3 3), ("one", .single 4 0),
           ("two", .single 4 1), ("three", .single 4 2), ("minus", .single 4 3),
           ("zero", .single 5 0), ("point", .single 5 1), ("equals", .single 5 2),
           ("plus", .single 5 3)] } := by
  unfold calculator
  rw [templateRows_calculatorTemplate]
  rfl

theorem nonNegative_calculatorColumns : ∀ f ∈ calculatorColumns, f.NonNegative :=
  Quantity.forall_nonNegative (by decide +kernel)

theorem nonNegative_calculatorRows : ∀ f ∈ calculatorRows, f.NonNegative :=
  Quantity.forall_nonNegative (by decide +kernel)

end Layout

/-- A length that doubles have room for, with all that is computed from it. -/
def Moderate (length : Int) : Prop := length.natAbs < twoPow 998

instance (length : Int) : Decidable (Moderate length) := inferInstanceAs (Decidable (_ < _))

/-- **The calculator's grid can be fitted to every moderate size.** -/
theorem Layout.exists_resize_calculator {width height padding : Int} (hwidth : Moderate width)
    (hheight : Moderate height) (hpadding : Moderate padding) :
    ∃ layout, calculator.resize width height padding = .ok layout := by
  have hpow : twoPow 1000 = 4 * twoPow 998 := by
    rw [← two_mul_twoPow, ← two_mul_twoPow, ← Nat.mul_assoc]
  unfold Moderate at hwidth hheight hpadding
  have hstart : padding.natAbs < twoPow 1000 := by omega
  have hwide : (width - 2 * padding).natAbs < twoPow 1000 := by omega
  have hhigh : (height - 2 * padding).natAbs < twoPow 1000 := by omega
  obtain ⟨xs, hxs⟩ : ∃ xs, Grid.tracks calculatorColumns padding (width - 2 * padding) = .ok xs :=
    Grid.exists_tracks [1, 1, 1, 1, 2] (by decide) (by decide) (by decide) hstart hwide (by decide)
  obtain ⟨ys, hys⟩ : ∃ ys, Grid.tracks calculatorRows padding (height - 2 * padding) = .ok ys :=
    Grid.exists_tracks [2, 2, 2, 2, 2, 2] (by decide) (by decide) (by decide) hstart hhigh
      (by decide)
  exact ⟨_, do_eq_ok.2 ⟨xs, hxs, do_eq_ok.2 ⟨ys, hys, rfl⟩⟩⟩

end DeskCalc
