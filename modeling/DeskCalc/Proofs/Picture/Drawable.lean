import DeskCalc.Proofs.Magnitude
import DeskCalc.Proofs.Picture.Panel

/-!
# Pictures that can be drawn

Two things can keep a picture from being drawn: a canvas that cannot be prepared, and a text that
cannot be fitted. With scales of a sensible size and room for a line no text is of the second kind,
however long it is and however small its box. This file fixes

* `Quantity.Below`: quantities closer to zero than `2^k`, and what the operations make of them;
* `Box.Tame`: boxes with such scales, and **`exists_fit`**: every text fits into them;
* `Settings.Drawable`: settings that give the display such a box, as the default ones do;
* **`Panel.exists_render`**: a picture can be drawn whenever there is a canvas for it.
-/

namespace DeskCalc

/-! ## 1. Quantities that are small -/

namespace Binary64

variable {x : Binary64} {k : Nat}

theorem Below.of_magnitude (hfinite : x.isFinite = true)
    (h : x.magnitude < twoPow k * unitsPerOne) : Below k x := by
  cases x with
  | nan | infinite => cases hfinite
  | finite negative units representable => exact .intro _ _ _ h

theorem Below.magnitude_lt (h : Below k x) : x.magnitude < twoPow k * unitsPerOne := by
  cases h with
  | intro negative units representable below => exact below

theorem Below.roundWhole (h : Below k x) : x.roundWhole = .ok x.round := by
  cases h
  rfl

theorem Below.truncateWhole (h : Below k x) : x.truncateWhole = .ok x.truncate := by
  cases h
  rfl

theorem Below.natAbs_round_le (h : Below k x) : x.round.natAbs ≤ twoPow k := by
  have hquotient : x.magnitude / unitsPerOne < twoPow k :=
    (Nat.div_lt_iff_lt_mul unitsPerOne_pos).2 h.magnitude_lt
  have hround := roundQuotient_le x.magnitude unitsPerOne
  have habs : x.round.natAbs = roundQuotient x.magnitude unitsPerOne := by
    unfold round
    split
    · rw [Int.natAbs_neg, Int.natAbs_natCast]
    · exact Int.natAbs_natCast _
  omega

end Binary64

namespace Quantity

/-- A quantity closer to zero than `2^k`. -/
inductive Below (k : Nat) : Quantity → Prop where
  | whole {n : Int} (h : n.natAbs < twoPow k) : Below k (.whole n)
  | real {x : Binary64} (h : x.Below k) : Below k (.real x)

variable {q p : Quantity} {k j : Nat}

theorem Below.magnitude_lt (h : q.Below k) : q.magnitude < twoPow k * unitsPerOne := by
  cases h with
  | whole h => exact Nat.mul_lt_mul_of_pos_right h unitsPerOne_pos
  | real h => exact h.magnitude_lt

theorem Below.mono (h : q.Below k) (hle : k ≤ j) : q.Below j := by
  cases h with
  | whole h => exact .whole (Nat.lt_of_lt_of_le h (twoPow_le hle))
  | real h => exact .real (h.mono hle)

/-- What is no larger is below the same bound. -/
theorem Below.of_magnitude_lt (h : q.Below k) (hp : p.Below j) (hless : p.magnitude < q.magnitude) :
    p.Below k := by
  have hbound := Nat.lt_trans hless h.magnitude_lt
  cases hp with
  | whole hp => exact .whole (Nat.lt_of_mul_lt_mul_right hbound)
  | real hp => exact .real (.of_magnitude hp.isFinite hbound)

theorem Below.larger (hq : q.Below k) (hp : p.Below k) : (q.larger p).Below k := by
  unfold Quantity.larger
  split
  · exact hp
  · exact hq

theorem Below.exists_toBinary64 (h : q.Below k) (hroom : k < 1024) :
    ∃ x, q.toBinary64 = .ok x ∧ x.Below (k + 1) := by
  cases h with
  | whole h =>
    have hbelow := Binary64.below_ofInt h hroom
    exact ⟨_, Binary64.ofWhole_of_below hbelow, hbelow⟩
  | real h => exact ⟨_, rfl, h.mono (Nat.le_succ k)⟩

theorem Below.exists_scaled {factor : Binary64} (h : q.Below k) (hfactor : factor.Below j)
    (hroom : k + j + 1 < 1024) : ∃ x, q.scaled factor = .ok x ∧ x.Below (k + j + 2) := by
  obtain ⟨x, hx, hbelow⟩ := h.exists_toBinary64 (by omega)
  have hproduct := hbelow.mul hfactor (by omega)
  exact ⟨x * factor, do_eq_ok.2 ⟨x, hx, rfl⟩, hproduct.mono (by omega)⟩

theorem Below.exists_eightfold (h : q.Below k) (hroom : k + 5 < 1024) :
    ∃ n, q.eightfold = .ok n := by
  have hfactor : Binary64.Below 4 8 := .of_magnitude (by decide +kernel) (by decide +kernel)
  cases h with
  | whole h => exact ⟨_, rfl⟩
  | real h => exact ⟨_, (hfactor.mul h (by omega)).truncateWhole⟩

end Quantity

/-! ## 2. Boxes that every text fits into -/

/-- The scales are small, the strokes are of a thickness that can be drawn, and there is room for a
    line. -/
structure Box.Tame (box : Box) : Prop where
  maxScale : box.maxScale.Below 16
  minScale : box.minScale.Below 16
  thickness : -(twoPow 31 : Int) ≤ box.thickness ∧ box.thickness < twoPow 31
  lines : 0 < box.maxLines

namespace Box

variable {box : Box}

theorem exists_atScale (box : Box) {scale : Quantity} (h : scale.Below 18) (text : List Char) :
    ∃ fitted, box.atScale text scale = .ok fitted ∧ fitted.scale = scale := by
  obtain ⟨gap, hgap⟩ := h.exists_eightfold (by omega)
  exact ⟨_, do_eq_ok.2 ⟨_, do_eq_ok.2 ⟨gap, hgap, rfl⟩, rfl⟩, rfl⟩

/-- The next scale is hardly larger, if at all. -/
theorem exists_nextScale (htame : box.Tame) {scale : Quantity} (h : scale.Below 16) :
    ∃ next, box.nextScale scale = .ok next ∧ next.Below 18 := by
  have hfactor : Binary64.Below 0 0.9 := .of_magnitude (by decide +kernel) (by decide +kernel)
  obtain ⟨product, hproduct, hbelow⟩ := h.exists_scaled hfactor (by omega)
  exact ⟨_, do_eq_ok.2 ⟨product, hproduct, rfl⟩,
    (Quantity.Below.real hbelow).larger (htame.minScale.mono (by omega))⟩

theorem exists_search (htame : box.Tame) (text : List Char) {scale : Quantity}
    (h : scale.Below 16) :
    ∃ fitted, box.search text scale = .ok fitted ∧ fitted.scale.Below 18 := by
  -- As long as the scales shrink, the first one bounds them all.
  fun_induction box.search text scale with
  | case1 scale fault hfault =>
    obtain ⟨fitted, hfitted, -⟩ := exists_atScale box (h.mono (by omega)) text
    exact nomatch hfault.symm.trans hfitted
  | case2 scale fitted hfitted hstop =>
    obtain ⟨same, hsame, hscale⟩ := exists_atScale box (h.mono (by omega)) text
    obtain rfl := Except.ok.inj (hfitted.symm.trans hsame)
    exact ⟨fitted, rfl, hscale ▸ h.mono (by omega)⟩
  | case3 scale fitted hfitted hlarge fault hfault =>
    obtain ⟨next, hnext, -⟩ := exists_nextScale htame h
    exact nomatch hfault.symm.trans hnext
  | case4 scale fitted hfitted hlarge next hnext hless ih =>
    obtain ⟨same, hsame, hbelow⟩ := exists_nextScale htame h
    obtain rfl := Except.ok.inj (hnext.symm.trans hsame)
    exact ih (h.of_magnitude_lt hbelow hless)
  | case5 scale fitted hfitted hlarge next hnext hlast =>
    obtain ⟨same, hsame, hbelow⟩ := exists_nextScale htame h
    obtain rfl := Except.ok.inj (hnext.symm.trans hsame)
    obtain ⟨last, hat, hscale⟩ := exists_atScale box hbelow text
    exact ⟨last, hat, hscale ▸ hbelow⟩

/-- A line is left for the dots if there may be one. -/
theorem exists_trim (h : 0 < box.maxLines) (fitted : Fitted) :
    ∃ trimmed, box.trim fitted = .ok trimmed ∧ trimmed.scale = fitted.scale := by
  unfold trim
  split
  · exact ⟨fitted, rfl, rfl⟩
  · rename_i hmany
    have hlines : box.visibleLines fitted.lines ≠ [] := by
      rw [visibleLines, if_pos (Int.le_of_lt h), ← List.length_pos_iff, List.length_take]
      omega
    rw [List.getLast?_eq_some_getLast hlines]
    exact ⟨_, rfl, rfl⟩

/-- **Every text fits into a tame box.** -/
theorem exists_fit (htame : box.Tame) (text : List Char) :
    ∃ fitted, box.fit text = .ok fitted ∧ fitted.scale.Below 18 := by
  have hmeasurable : (box.style box.maxScale).fault? = none := by
    obtain ⟨x, hx, -⟩ := htame.maxScale.exists_toBinary64 (by omega)
    simp [TextStyle.fault?, style, hx, htame.thickness]
  obtain ⟨found, hfound, hbelow⟩ := exists_search htame text htame.maxScale
  obtain ⟨trimmed, htrimmed, hscale⟩ := exists_trim htame.lines found
  simp only [fit, hmeasurable, hfound]
  exact ⟨trimmed, htrimmed, hscale ▸ hbelow⟩

end Box

/-! ## 3. Pictures -/

/-- The scales of the display's text are small, it may have a line, and the background is a
    colour. -/
structure Settings.Drawable (s : Settings) : Prop where
  displayScale : s.displayScale.Below 16
  displayMinScale : s.displayMinScale.Below 16
  displayMaxLines : 0 < s.displayMaxLines
  background : ∀ width height, Canvas.backgroundFault? width height s.backgroundColor = none

theorem Settings.drawable_default : ({} : Settings).Drawable where
  displayScale := .real (.of_magnitude (by decide +kernel) (by decide +kernel))
  displayMinScale := .real (.of_magnitude (by decide +kernel) (by decide +kernel))
  displayMaxLines := by decide
  background width height := by
    have hbytes : Canvas.channelsFault? [255, 255, 255] = none := by decide +kernel
    simp [Canvas.backgroundFault?, Color.bgr, hbytes]

namespace Panel

theorem thickness_two : -(twoPow 31 : Int) ≤ 2 ∧ (2 : Int) < twoPow 31 := by decide +kernel

theorem exists_displayStyle {scale : Quantity} (h : scale.Below 18) :
    ∃ style, displayStyle scale = .ok style := by
  have hfactor : Binary64.Below 1 1.5 := .of_magnitude (by decide +kernel) (by decide +kernel)
  obtain ⟨product, hproduct, hbelow⟩ := h.exists_scaled hfactor (by omega)
  obtain ⟨x, hx, -⟩ := h.exists_toBinary64 (by omega)
  have hthickness : max 1 product.round < twoPow 31 := by
    have hround := hbelow.natAbs_round_le
    have hsmall : twoPow (18 + 1 + 2) < twoPow 31 := twoPow_lt (by omega)
    have hone := twoPow_pos (18 + 1 + 2)
    omega
  let style : TextStyle := { scale := scale, thickness := max 1 product.round }
  have hmeasurable : style.fault? = none := by
    have hpositive : -(twoPow 31 : Int) ≤ max 1 product.round := by omega
    simp only [style, TextStyle.fault?, hx, hpositive, hthickness, decide_true, Bool.and_self,
      if_true]
  refine ⟨style, ?_⟩
  simp only [style] at hmeasurable
  simp only [displayStyle, hproduct, Except.bind, hbelow.roundWhole, hmeasurable, style]

theorem exists_drawDisplay {settings : Settings} (h : settings.Drawable) (p : Panel) (s : State) :
    ∃ strokes, p.drawDisplay settings s = .ok strokes := by
  have htame : (displayBox settings (p.layout.rect "display")).Tame :=
    ⟨h.displayScale, h.displayMinScale, thickness_two, h.displayMaxLines⟩
  obtain ⟨fitted, hfitted, hbelow⟩ := Box.exists_fit htame s.display.toList
  obtain ⟨style, hstyle⟩ := exists_displayStyle hbelow
  exact ⟨_, do_eq_ok.2 ⟨fitted, hfitted, do_eq_ok.2 ⟨style, hstyle, rfl⟩⟩⟩

theorem tame_entryBox (r : Rect) : (entryBox r).Tame where
  maxScale := .real (.of_magnitude (by decide +kernel) (by decide +kernel))
  minScale := .real (.of_magnitude (by decide +kernel) (by decide +kernel))
  thickness := thickness_two
  lines := Int.one_pos

theorem exists_drawEntries (settings : Settings) (r : Rect) (baseline : Int)
    (entries : List String) : ∃ strokes, drawEntries settings r baseline entries = .ok strokes := by
  induction entries generalizing baseline with
  | nil => exact ⟨[], rfl⟩
  | cons entry rest ih =>
    unfold drawEntries
    split
    · exact ⟨[], rfl⟩
    · obtain ⟨fitted, hfitted, -⟩ := Box.exists_fit (tame_entryBox r) entry.toList
      obtain ⟨strokes, hstrokes⟩ := ih (baseline + (max fitted.lineHeight 28 + 8))
      exact ⟨_, do_eq_ok.2 ⟨fitted, hfitted, do_eq_ok.2 ⟨strokes, hstrokes, rfl⟩⟩⟩

theorem exists_drawHistory (settings : Settings) (p : Panel) (s : State) :
    ∃ strokes, p.drawHistory settings s = .ok strokes := by
  obtain ⟨strokes, hstrokes⟩ := exists_drawEntries settings (p.layout.rect "history")
    ((p.layout.rect "history").y + 85) s.history
  exact ⟨_, do_eq_ok.2 ⟨strokes, hstrokes, rfl⟩⟩

/-- **A picture can be drawn whenever there is a canvas of its size.** -/
theorem exists_render {settings : Settings} (h : settings.Drawable) {p : Panel} (s : State)
    (hsize : Canvas.sizeFault? p.width p.height = none) :
    ∃ strokes, p.render settings s = .ok (strokes, p.tick) := by
  have hcanvas : Canvas.fault? p.width p.height settings.backgroundColor = none := by
    rw [Canvas.fault?, hsize, Option.none_or, h.background]
  obtain ⟨display, hdisplay⟩ := exists_drawDisplay h p s
  obtain ⟨history, hhistory⟩ := exists_drawHistory settings p s
  exact ⟨_, render_eq_ok.2 ⟨hcanvas, display, history, hdisplay, hhistory, rfl, rfl⟩⟩

end Panel

end DeskCalc
