import Mathlib.Algebra.BigOperators.Ring.List
import Mathlib.Algebra.GroupWithZero.Nat
import Mathlib.Algebra.Order.BigOperators.Group.List
import Mathlib.Algebra.Order.Ring.Nat
import Mathlib.Algebra.Ring.Nat
import DeskCalc.Proofs.Bounds
import DeskCalc.Proofs.Picture.Shrinking

/-!
# How wide and how high a text can be

The pen goes on by the width of one byte after another, in doubles. This file fixes

* `Pen.putAll_upTo`: how far a text takes the pen at a scale that is not too large;
* `TextStyle.advance_upTo_of_keeps`: lines that keep a width are no wider than that, 32 bits or not;
* `textHeight_le`: how much higher a text with thicker strokes is.
-/

namespace DeskCalc

/-! ## 1. Widths -/

/-- The widths of the bytes of a text, before they are scaled. -/
def Typeface.plainWidth (face : Typeface) (text : List Char) : Nat :=
  (text.map fun c => (face.byteWidths c).sum).sum

theorem Typeface.plainWidth_cons (face : Typeface) (c : Char) (rest : List Char) :
    face.plainWidth (c :: rest) = (face.byteWidths c).sum + face.plainWidth rest := by
  simp [plainWidth]

/-- No character is wider than four question marks. -/
theorem Typeface.sum_byteWidths_le (c : Char) : (Typeface.simplex.byteWidths c).sum ≤ 72 := by
  unfold byteWidths
  split
  · rename_i hprintable
    have hall : (List.range 95).all (fun i =>
        (Typeface.simplex.widths.getD i Typeface.simplex.unknownWidth) ≤ 72) = true := by decide
    have hwidth := List.all_eq_true.1 hall (c.toNat - 32) (List.mem_range.2 (by omega))
    simpa using hwidth
  · have hsize := c.utf8Size_le_four
    rw [List.sum_replicate_nat, unknownWidth]
    omega

theorem Typeface.plainWidth_le (text : List Char) :
    Typeface.simplex.plainWidth text ≤ 72 * text.length := by
  induction text with
  | nil => exact Nat.le_refl _
  | cons c rest ih =>
    have hfirst := sum_byteWidths_le c
    rw [plainWidth_cons, List.length_cons]
    omega

namespace Pen

variable {style : TextStyle} {pen : Pen} {most : Nat}

/-- Bytes that are no wider than their shares take the pen no further than the shares together. -/
theorem foldl_upTo {widths : List Nat} {sum factor : Binary64} {n : Nat} {share : Nat → Nat}
    (hshare : ∀ width ∈ widths, (Binary64.ofInt width * factor).UpTo (share width))
    (h : sum.UpTo n) (hroom : n + (widths.map share).sum ≤ twoPow 53) :
    (widths.foldl (fun sum (width : Nat) => sum + Binary64.ofInt width * factor) sum).UpTo
      (n + (widths.map share).sum) := by
  induction widths generalizing sum n with
  | nil => exact h
  | cons width rest ih =>
    rw [List.map_cons, List.sum_cons] at hroom ⊢
    have hnext := h.add (hshare width List.mem_cons_self) (by omega)
    rw [List.foldl_cons, ← Nat.add_assoc]
    exact ih (fun other hother => hshare other (List.mem_cons_of_mem _ hother)) hnext (by omega)

theorem put_upTo (hface : style.face = .simplex) (hfactor : style.factor.UpTo most) {n : Nat}
    (h : pen.advance.UpTo n) (c : Char)
    (hroom : n + most * (Typeface.simplex.byteWidths c).sum ≤ twoPow 53) :
    (pen.put style c).advance.UpTo (n + most * (Typeface.simplex.byteWidths c).sum) := by
  unfold put
  split
  · exact h.mono (by omega)
  · have hsum : ((Typeface.simplex.byteWidths c).map (most * ·)).sum =
        most * (Typeface.simplex.byteWidths c).sum := by
      rw [List.sum_map_mul_left, List.map_id']
    rw [hface, ← hsum]
    refine foldl_upTo (fun width hwidth => ?_) h (hsum ▸ hroom)
    have hall := Typeface.sum_byteWidths_le c
    have hone := List.le_sum_of_mem hwidth
    have hlarge : 72 ≤ twoPow 53 := by decide
    have hshare := Nat.mul_le_mul_left most hone
    rw [Nat.mul_comm]
    exact hfactor.natCast_mul (by omega) (by rw [Nat.mul_comm]; omega)

/-- **How far a text takes the pen** at a scale that is not too large. -/
theorem putAll_upTo (hface : style.face = .simplex) (hfactor : style.factor.UpTo most) {n : Nat}
    (h : pen.advance.UpTo n) (text : List Char)
    (hroom : n + most * Typeface.simplex.plainWidth text ≤ twoPow 53) :
    (pen.putAll style text).advance.UpTo (n + most * Typeface.simplex.plainWidth text) := by
  induction text generalizing pen n with
  | nil => exact h
  | cons c rest ih =>
    rw [Typeface.plainWidth_cons, Nat.mul_add, ← Nat.add_assoc] at hroom ⊢
    have hnext := put_upTo hface hfactor h c (by omega)
    exact ih hnext hroom

theorem upTo_advance_nil : (({} : Pen).advance).UpTo 0 := Binary64.upTo_ofInt (Nat.zero_le _)

end Pen

namespace TextStyle

variable {style : TextStyle} {text : List Char} {most : Nat}

/-- Where a text takes the pen, whatever the strokes. -/
def advance (style : TextStyle) (text : List Char) : Binary64 :=
  (Pen.putAll style {} text).advance

theorem advance_upTo (hface : style.face = .simplex) (hfactor : style.factor.UpTo most)
    (hroom : most * Typeface.simplex.plainWidth text ≤ twoPow 53) :
    (style.advance text).UpTo (most * Typeface.simplex.plainWidth text) := by
  have h := Pen.putAll_upTo hface hfactor Pen.upTo_advance_nil text (by omega)
  rwa [Nat.zero_add] at h

theorem advance_append_upTo (hface : style.face = .simplex) (hfactor : style.factor.UpTo most)
    {n : Nat} (h : (style.advance text).UpTo n) (more : List Char)
    (hroom : n + most * Typeface.simplex.plainWidth more ≤ twoPow 53) :
    (style.advance (text ++ more)).UpTo (n + most * Typeface.simplex.plainWidth more) := by
  rw [advance, Pen.putAll_append]
  exact Pen.putAll_upTo hface hfactor h more hroom

/-- As long as 32 bits hold it, the width is where the pen has come to and the thickness. -/
theorem textWidth_eq {n thickness : Nat} (hthickness : style.thickness = thickness)
    (h : (style.advance text).UpTo n) (hroom : n + thickness < twoPow 31) :
    style.textWidth text = (style.advance text + Binary64.ofInt thickness).round := by
  have hlarge : twoPow 31 ≤ twoPow 53 := twoPow_le (by decide)
  have hsum := h.add (Binary64.upTo_ofInt (n := thickness) (by omega)) (by omega)
  rw [textWidth, Pen.width, hthickness]
  exact hsum.round32_eq hroom

/-- **Lines that keep a width** are no wider than that, as long as there are 32 bits for a character
    more. -/
theorem advance_upTo_of_keeps (hface : style.face = .simplex) (hfactor : style.factor.UpTo most)
    (hthickness : style.thickness = 2) {width : Nat} (hwide : 72 * most ≤ width)
    (hroom : width + 72 * most + 2 < twoPow 31) (h : Keeps style width text) :
    (style.advance text).UpTo width := by
  have hlarge : twoPow 31 ≤ twoPow 53 := twoPow_le (by decide)
  induction text using List.reverseRecOn with
  | nil => exact Pen.upTo_advance_nil.mono (Nat.zero_le _)
  | append_singleton front c ih =>
    have hcharacter : most * Typeface.simplex.plainWidth [c] ≤ 72 * most := by
      rw [Nat.mul_comm 72]
      exact Nat.mul_le_mul_left most (Typeface.plainWidth_le [c])
    have hfront : Keeps style width front := fun other hother hlong =>
      h other (hother.trans (List.prefix_append _ _)) hlong
    by_cases hnil : front = []
    · subst hnil
      have hfirst : (style.advance [c]).UpTo _ := advance_upTo hface hfactor (by omega)
      exact hfirst.mono (by omega)
    · have hmore := advance_append_upTo hface hfactor (ih hfront) [c] (by omega)
      have hlong : 2 ≤ (front ++ [c]).length := by
        have hpos := List.length_pos_iff.2 hnil
        simp
        omega
      have hthick : style.thickness = (2 : Nat) := hthickness
      have hwidth := h.textWidth_le hlong
      rw [textWidth_eq hthick hmore (by omega)] at hwidth
      have hline := Binary64.line_lt_of_round_add_le hmore.isFinite (by omega) (by omega) hwidth
      refine ⟨hmore.isFinite, hmore.nonneg, ?_⟩
      rw [Int.natCast_add, Int.add_mul] at hline
      have hunits := unitsPerOne_pos
      omega

/-! ## 2. Heights -/

theorem exists_halfThickness_eq {thickness : Nat} (hthickness : style.thickness = thickness)
    (hthin : 1 ≤ thickness) (hthick : thickness ≤ 4) :
    ∃ more : Nat, more ≤ 1 ∧ style.halfThickness = ((1 + more : Nat) : Int) := by
  have hcases : thickness = 1 ∨ thickness = 2 ∨ thickness = 3 ∨ thickness = 4 := by omega
  unfold halfThickness
  rw [hthickness]
  rcases hcases with rfl | rfl | rfl | rfl
  · exact ⟨0, by decide, by decide⟩
  · exact ⟨0, by decide, by decide⟩
  · exact ⟨1, by decide, by decide⟩
  · exact ⟨1, by decide, by decide⟩

theorem textHeight_eq {half : Nat} (hfactor : style.factor.UpTo 3)
    (hhalf : style.halfThickness = half) (hsmall : half ≤ 2) :
    style.textHeight = (Binary64.ofInt (21 : Nat) * style.factor + Binary64.ofInt half).round ∧
      0 ≤ style.textHeight := by
  have hshape := hfactor.natCast_mul (k := 21) (by decide) (by decide)
  have hroom : 21 * 3 + half ≤ twoPow 53 := Nat.le_trans (by omega) (by decide : 65 ≤ twoPow 53)
  have hsum := hshape.add (Binary64.upTo_ofInt (n := half) (by omega)) hroom
  have hround : style.textHeight =
      (Binary64.ofInt (21 : Nat) * style.factor + Binary64.ofInt half).round := by
    rw [textHeight, hhalf]
    exact hsum.round32_eq (Nat.lt_of_le_of_lt (by omega) (by decide : 65 < twoPow 31))
  exact ⟨hround, hround ▸ (hsum.round_mem hroom).1⟩

/-- **How much higher a text is** when it is drawn with other strokes. -/
theorem textHeight_le {other : TextStyle} (hfactor : style.factor.UpTo 3)
    (hother : other.factor = style.factor) (hthickness : style.thickness = 2) {thickness : Nat}
    (hthick : other.thickness = thickness) (hlow : 1 ≤ thickness) (hhigh : thickness ≤ 4) :
    0 ≤ other.textHeight ∧ other.textHeight ≤ style.textHeight + 2 := by
  have hhalf : style.halfThickness = ((1 : Nat) : Int) := by
    unfold halfThickness
    rw [hthickness]
    decide
  obtain ⟨more, hmore, hotherHalf⟩ := exists_halfThickness_eq hthick hlow hhigh
  obtain ⟨hheight, -⟩ := textHeight_eq hfactor hhalf (by decide)
  obtain ⟨hotherHeight, hnonneg⟩ := textHeight_eq (hother ▸ hfactor) hotherHalf (by omega)
  refine ⟨hnonneg, ?_⟩
  rw [hotherHeight, hother]
  -- the shape alone is 63 pixels high at most
  have hshape := hfactor.natCast_mul (k := 21) (by decide) (by decide)
  have hsum := (hshape.add (Binary64.upTo_ofInt (n := 1) (by decide)) (by decide)).round_mem
    (by decide)
  rw [← hheight] at hsum
  have hroom : 66 ≤ twoPow 53 := by decide
  have hbelow : style.textHeight.toNat ≤ 64 := Int.toNat_le.2 hsum.2
  have hrounded : (Binary64.ofInt (21 : Nat) * style.factor + Binary64.ofInt (1 : Nat)).round ≤
      style.textHeight.toNat := by
    rw [← hheight]
    exact Int.self_le_toNat _
  have hle := Binary64.round_add_le_of_le (d := more) hshape.isFinite (by omega) (by omega) hrounded
  omega

/-- Below the baseline there are at least two pixels, from a scale of a half on. -/
theorem two_le_textDepth (hfactor : style.factor.UpTo 3)
    (hhalf : (0.5 : Binary64).line ≤ style.factor.line) (hthickness : style.thickness = 2) :
    2 ≤ style.textDepth := by
  have hshape := hfactor.natCast_mul (k := 9) (by decide) (by decide)
  have hone : (Binary64.ofInt 2 * 0.5).UpTo 1 :=
    ⟨by decide +kernel, by decide +kernel, by decide +kernel⟩
  have hsum := hshape.add hone (by decide)
  have hround : style.textDepth =
      (Binary64.ofInt (9 : Nat) * style.factor + Binary64.ofInt 2 * 0.5).round := by
    rw [textDepth, hthickness]
    exact hsum.round32_eq (by decide)
  rw [hround]
  have hline : (unitsPerOne : Int) ≤ (Binary64.ofInt (9 : Nat) * style.factor).line := by
    rw [(Binary64.line_natCast_mul (by decide) hfactor.isFinite hfactor.nonneg).2]
    have hunit := Binary64.settle_natCast (n := 1) (by decide)
    have hexact : (unitsPerOne : Int) ≤ 2 * (0.5 : Binary64).line := by decide +kernel
    rw [Int.natCast_one, Int.one_mul] at hunit
    rw [← hunit]
    exact Binary64.settle_mono (by omega)
  refine Binary64.le_round_of_le_line (n := 2) (by decide) ?_
  have hgap : (Binary64.ofInt 2 * 0.5).line = unitsPerOne := by decide +kernel
  have htwo := Binary64.settle_natCast (n := 2) (by decide)
  rw [Binary64.line_add hshape.isFinite hone.isFinite, hgap, ← htwo]
  exact Binary64.settle_mono (by omega)

end TextStyle

end DeskCalc
