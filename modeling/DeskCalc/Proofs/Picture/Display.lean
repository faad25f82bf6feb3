import DeskCalc.Proofs.Picture.Widths

/-!
# The display's text in its box

The display's text is fitted with strokes of one thickness and drawn with strokes of another one, of
one pixel to four. So a line may be drawn up to three pixels wider than it was fitted, which the
margins of eight pixels have room for. This file fixes

* `Settings.UsualDisplay`: the scales and the number of lines that hold unless something else is
  asked for;
* `exists_displayStyle_eq`: the strokes that a scale between a half and three is drawn with;
* `Shown`: all that is known of the display's lines, and **`exists_shown`**: every text is shown so;
* **`display_stays_inside`**: the display's text is shown faithfully and inside its box, and
  `wide_line_leaves_box`: a line that is not.
-/

namespace DeskCalc

/-! ## 1. The scales and strokes of the display -/

/-- The display's scales and the number of its lines hold unless something else is asked for. -/
structure Settings.UsualDisplay (settings : Settings) : Prop where
  displayScale : settings.displayScale = .real 3.0
  displayMinScale : settings.displayMinScale = .real 0.5
  displayMaxLines : settings.displayMaxLines = 2

/-- A scale between a half and three. -/
structure UsualScale (x : Binary64) : Prop where
  isFinite : x.isFinite = true
  half_le : (0.5 : Binary64).line ≤ x.line
  le_three : x.line ≤ (3.0 : Binary64).line

theorem UsualScale.pos {x : Binary64} (h : UsualScale x) : 0 < x.line := by
  have hhalf : 0 < (0.5 : Binary64).line := by decide +kernel
  exact Int.lt_of_lt_of_le hhalf h.half_le

theorem UsualScale.nonneg {x : Binary64} (h : UsualScale x) : 0 ≤ x.line := Int.le_of_lt h.pos

theorem UsualScale.upTo {x : Binary64} (h : UsualScale x) : x.UpTo 3 := by
  have hthree : (3.0 : Binary64).line = (3 : Nat) * unitsPerOne := by decide +kernel
  exact ⟨h.isFinite, h.nonneg, hthree ▸ h.le_three⟩

/-- Single characters and the dots have room in a box that is not too narrow. -/
theorem UsualScale.roomy {x : Binary64} (h : UsualScale x) {style : TextStyle}
    (hface : style.face = .simplex) (hfactor : style.factor = x) {width : Nat}
    (hwide : 218 ≤ width) : Roomy style width := by
  intro line hline
  have hplain : Typeface.simplex.plainWidth line ≤ 72 := by
    rcases hline with hshort | rfl
    · have hbytes := Typeface.plainWidth_le line
      omega
    · decide
  have hlarge : 218 ≤ twoPow 53 := by decide
  have hadvance : (style.advance line).UpTo _ :=
    TextStyle.advance_upTo hface (hfactor ▸ h.upTo) (by omega)
  have hsum := (hadvance.add (Binary64.upTo_ofInt (n := 2) (by omega)) (by omega)).round_mem
    (by omega)
  omega

theorem UsualScale.below {x : Binary64} (h : UsualScale x) : (Quantity.real x).Below 1021 := by
  refine .real (.of_magnitude h.isFinite ?_)
  have hthree : (3.0 : Binary64).line < twoPow 1021 * unitsPerOne := by decide +kernel
  have habs := Binary64.natAbs_line x
  have hnonneg := h.nonneg
  have hle := h.le_three
  omega

namespace Panel

variable {settings : Settings} {r : Rect}

theorem shrinking_displayBox (h : settings.UsualDisplay) (r : Rect) :
    (displayBox settings r).Shrinking := by
  refine .of_half ?_ h.displayMinScale rfl ?_
  · show settings.displayScale.Below 1021
    rw [h.displayScale]
    exact .real (.of_magnitude (by decide +kernel) (by decide +kernel))
  · show 1 ≤ settings.displayMaxLines
    rw [h.displayMaxLines]
    decide

/-- The display stops at a scale between a half and three. -/
theorem exists_usualScale (h : settings.UsualDisplay) {text : List Char} {k : Nat}
    (hbefore : ∀ i < k, ¬(displayBox settings r).StopsAt text ((displayBox settings r).scaleAt i)) :
    ∃ x, (displayBox settings r).scaleAt k = .real x ∧ UsualScale x := by
  have hless : (0.5 : Binary64).line ≤ (3.0 : Binary64).line := by decide +kernel
  obtain ⟨x, hx, hfinite, hleast, hmost⟩ := (shrinking_displayBox h r).exists_scaleAt_between
    h.displayScale h.displayMinScale hless hbefore
  exact ⟨x, hx, hfinite, hleast, hmost⟩

/-- **The strokes that a usual scale is drawn with** are one to four pixels thick. -/
theorem exists_displayStyle_eq {x : Binary64} (h : UsualScale x) :
    ∃ thickness : Nat, 1 ≤ thickness ∧ thickness ≤ 4 ∧
      displayStyle (.real x) = .ok { scale := .real x, thickness := thickness } := by
  have hfactor : (1.5 : Binary64).isFinite = true ∧ 0 ≤ (1.5 : Binary64).line := by decide +kernel
  obtain ⟨hnumber, hline⟩ := Binary64.line_mul h.isFinite hfactor.1 h.nonneg hfactor.2
  have hthree : (3.0 : Binary64).isFinite = true := by decide +kernel
  have hle := Binary64.line_mul_mono h.isFinite hthree hfactor.1 hfactor.1 h.nonneg h.le_three
    hfactor.2 (Int.le_refl _)
  have hmost : (3.0 * 1.5 : Binary64).round = 4 := by decide +kernel
  have hround : (x * 1.5).round ≤ 4 := hmost ▸ Binary64.round_mono hle
  have hfinite : (x * 1.5).isFinite = true := by
    refine Binary64.isFinite_of_magnitude_lt hnumber ?_
    have hbound : (3.0 * 1.5 : Binary64).line < overflowUnits := by decide +kernel
    have hnonneg := Binary64.nonneg_line_mul h.nonneg hfactor.2
    have habs := Binary64.natAbs_line (x * 1.5)
    omega
  have hwhole : (x * 1.5).roundWhole = .ok (x * 1.5).round := by
    generalize x * 1.5 = product at hfinite
    cases product with
    | nan | infinite => cases hfinite
    | finite => rfl
  refine ⟨(max 1 (x * 1.5).round).toNat, by omega, by omega, ?_⟩
  have hthickness : ((max 1 (x * 1.5).round).toNat : Int) = max 1 (x * 1.5).round := by omega
  have hbits : -(twoPow 31 : Int) ≤ max 1 (x * 1.5).round ∧ max 1 (x * 1.5).round < twoPow 31 := by
    have hpow : twoPow 31 = 2147483648 := by decide
    omega
  have hscaled : (Quantity.real x).scaled 1.5 = .ok (x * 1.5) := rfl
  rw [hthickness]
  simp only [displayStyle, hscaled, Except.bind, hwhole, TextStyle.fault?, Quantity.toBinary64, hbits,
    decide_true, Bool.and_self, if_true]

/-! ## 2. The lines of the display -/

/-- A line of the display is at least as high as its text, whatever the strokes. -/
theorem textHeight_le_lineHeight {x : Binary64} (h : UsualScale x) {height : Int}
    (hheight : (displayBox settings r).lineHeight (.real x) = .ok height) {thickness : Nat}
    (hlow : 1 ≤ thickness) (hhigh : thickness ≤ 4) :
    0 ≤ TextStyle.textHeight { scale := .real x, thickness := thickness } ∧
      TextStyle.textHeight { scale := .real x, thickness := thickness } ≤ height := by
  obtain ⟨gap, hgap, hsum⟩ := do_eq_ok.1 hheight
  have hnonneg : 0 ≤ gap := by
    have hline : 0 ≤ (8 * x).line := Binary64.nonneg_line_mul (by decide +kernel) h.nonneg
    have htruncate := Binary64.nonneg_truncate hline
    change (8 * x).truncateWhole = .ok gap at hgap
    generalize 8 * x = product at htruncate hgap
    cases product with
    | nan | infinite => cases hgap
    | finite =>
      cases hgap
      exact htruncate
  have hfactor : ((displayBox settings r).style (.real x)).factor.UpTo 3 := h.upTo
  let other : TextStyle := { scale := .real x, thickness := thickness }
  have hother : other.factor = ((displayBox settings r).style (.real x)).factor := rfl
  obtain ⟨hpositive, hthick⟩ := TextStyle.textHeight_le hfactor hother rfl rfl hlow hhigh
  have hdepth := TextStyle.two_le_textDepth hfactor h.half_le rfl
  have hheight : height = ((displayBox settings r).style (.real x)).textHeight +
      ((displayBox settings r).style (.real x)).textDepth + gap := (Except.ok.inj hsum).symm
  refine ⟨hpositive, ?_⟩
  show other.textHeight ≤ height
  omega

/-- At the smallest scale a line is 22 pixels high. -/
theorem lineHeight_eq_of_atMost (h : settings.UsualDisplay) {x : Binary64} (husual : UsualScale x)
    (hsmall : (Quantity.real x).atMost (displayBox settings r).minScale = true) {height : Int}
    (hheight : (displayBox settings r).lineHeight (.real x) = .ok height) : height = 22 := by
  have hshrinking := shrinking_displayBox h r
  have hbelow : (Quantity.real x).Below 1021 := husual.below
  have hhalf : (displayBox settings r).minScale = .real 0.5 := h.displayMinScale
  have hline : (Quantity.real x).line = (displayBox settings r).minScale.line := by
    have hle := (hbelow.atMost_iff hshrinking.below_minScale).1 hsmall
    have hge := husual.half_le
    rw [hhalf] at hle ⊢
    exact Int.le_antisymm hle hge
  have hsame := hshrinking.lineHeight_minScale hbelow hline
  have hplain : Box.lineHeight { maxWidth := 0, maxHeight := 0, maxScale := .real 3.0 } (.real 0.5) =
      .ok 22 := by decide +kernel
  rw [hsame, hhalf] at hheight
  exact Except.ok.inj (hheight.symm.trans hplain)

/-- The lines that the display stops at have room one above the other. -/
theorem lineHeight_mul_length_le (h : settings.UsualDisplay) {x : Binary64} (husual : UsualScale x)
    (hhigh : 60 ≤ r.height) {text : List Char} {lines : List (List Char)} {height : Int}
    (hheight : (displayBox settings r).lineHeight (.real x) = .ok height) (hnonneg : 0 ≤ height)
    (hstop : (displayBox settings r).StopsAt text (.real x))
    (hspells : Spells ((displayBox settings r).style (.real x)) (r.width - 2 * 8) text lines)
    (hfew : (lines.length : Int) ≤ 2) : height * lines.length ≤ r.height - 2 * 8 := by
  rcases hstop with ⟨height', hheight', -, hfits⟩ | hsmall
  · obtain rfl := Except.ok.inj (hheight.symm.trans hheight')
    have hlines := Int.ofNat_le.2 hspells.length_le_wrap
    exact Int.le_trans (Int.mul_le_mul_of_nonneg_left hlines hnonneg) hfits
  · -- at the smallest scale a line is 22 pixels high
    rw [lineHeight_eq_of_atMost h husual hsmall hheight]
    omega

/-- All that is known of the lines that the display is fitted to, and of the style that they are
    drawn in. -/
structure Shown (settings : Settings) (r : Rect) (text : List Char) (fitted : DeskCalc.Fitted)
    (style : TextStyle) : Prop where
  fit : (displayBox settings r).fit text = .ok fitted
  style_eq : displayStyle fitted.scale = .ok style
  scale_eq : style.scale = fitted.scale
  lineHeight_eq : (displayBox settings r).lineHeight fitted.scale = .ok fitted.lineHeight
  spells : Spells ((displayBox settings r).style fitted.scale) (r.width - 2 * 8) text fitted.lines
  few : fitted.lines.length = 1 ∨ fitted.lines.length = 2
  measured_le : ∀ line ∈ fitted.lines, ¬style.Overlong line →
    TextStyle.textWidth { style with thickness := 2 } line ≤ r.width - 2 * 8
  width_le : ∀ line ∈ fitted.lines, ¬style.Overlong line → 0 ≤ style.textWidth line ∧
    style.textWidth line ≤ r.width - 2 * 8 + 3 ∧
    (style.thickness ≤ 2 → style.textWidth line ≤ r.width - 2 * 8)
  not_overlong : Measurable r.width text → ∀ line ∈ fitted.lines, ¬style.Overlong line
  height_le : 60 ≤ r.height →
    fitted.lineHeight * ((fitted.lines.length : Int) - 1) + style.textHeight ≤ r.height - 2 * 8

/-- **How the display shows a text.** -/
theorem exists_shown (h : settings.UsualDisplay) (hwide : 240 ≤ r.width) (text : List Char) :
    ∃ fitted style, Shown settings r text fitted style := by
  have hshrinking := shrinking_displayBox h r
  obtain ⟨k, fitted, hfit, hscale, hheight, hstop, hbefore, hspells, hsome, hfew⟩ :=
    Box.exists_fit_spells hshrinking text
  obtain ⟨x, hx, husual⟩ := exists_usualScale h hbefore
  obtain ⟨thickness, hlow, hhigh, hstyle⟩ := exists_displayStyle_eq husual
  have hmaxLines : (displayBox settings r).maxLines = 2 := h.displayMaxLines
  rw [hmaxLines] at hfew
  rw [hx] at hscale hheight hstop hspells
  let measured := (displayBox settings r).style (.real x)
  let drawn : TextStyle := { scale := .real x, thickness := thickness }
  have hdrawn : drawn = { measured with thickness := (thickness : Int) } := rfl
  -- what the fit has measured, in natural numbers
  obtain ⟨width, hwidth⟩ := Int.eq_ofNat_of_zero_le (show 0 ≤ r.width - 2 * 8 by omega)
  have hroom : (width : Int) + 16 = r.width := by omega
  have hspells' : Spells measured width text fitted.lines := hwidth ▸ hspells
  have hroomy : Roomy measured width := husual.roomy rfl rfl (by omega)
  have hwidths {other : TextStyle} {t : Nat}
      (hother : other = { measured with thickness := (t : Int) }) (ht : t ≤ 4) {line : List Char}
      (hline : line ∈ fitted.lines) (hbits : ¬other.Overlong line) :=
    hwidth ▸ hspells'.textWidth_other_le rfl husual.pos rfl hroomy hother ht hline hbits
  refine ⟨fitted, drawn, hfit, hscale ▸ hstyle, hscale.symm, hscale ▸ hheight, hscale ▸ hspells,
    by omega, fun line hline hbits => ?_, fun line hline hbits => ?_,
    fun hmeasurable line hline => ?_, fun hhighEnough => ?_⟩
  · have hbits' : ¬measured.Overlong line := fun hlong => hbits (.inr (hlong.elim id id))
    have htwo : measured = { measured with thickness := ((2 : Nat) : Int) } := rfl
    exact (hwidths htwo (by decide) hline hbits').2.2 (by decide)
  · obtain ⟨hnonneg, hle, hthin⟩ := hwidths hdrawn hhigh hline hbits
    exact ⟨hnonneg, hle, fun hthickness => hthin (Int.ofNat_le.1 hthickness)⟩
  · exact hspells'.not_overlong rfl husual.upTo (Nat.le_refl 3) rfl (hroom ▸ hmeasurable) hdrawn
      hhigh hline
  · obtain ⟨hnonneg, htext⟩ := textHeight_le_lineHeight husual hheight hlow hhigh
    change 0 ≤ drawn.textHeight at hnonneg
    change drawn.textHeight ≤ fitted.lineHeight at htext
    have hall := lineHeight_mul_length_le h husual hhighEnough hheight (by omega) hstop hspells hfew
    rw [Int.mul_sub, Int.mul_one]
    omega

/-! ## 3. The display -/

/-- Every line is one text, at the left or at the right, as many line heights above the last one as
    there are lines behind it. -/
theorem Shown.drawDisplay_eq {p : Panel} {s : State} {fitted : DeskCalc.Fitted} {style : TextStyle}
    (h : Shown settings (p.layout.rect "display") s.display.toList fitted style) :
    let r := p.layout.rect "display"
    p.drawDisplay settings s = .ok (fitted.lines.zipIdx.map fun (line, i) =>
      .text (String.ofList line)
        (if s.error.isEmpty then r.x + r.width - 8 - style.textWidth line else r.x + 8)
        (r.y + r.height - 8 - fitted.lineHeight * ((fitted.lines.length : Int) - 1 - (i : Int)))
        style
        (if s.error.isEmpty then settings.textColor else settings.errorColor)) := by
  intro r
  refine do_eq_ok.2 ⟨fitted, h.fit, do_eq_ok.2 ⟨style, h.style_eq, ?_⟩⟩
  refine congrArg Except.ok (List.map_congr_left fun entry _ => ?_)
  have hbaseline : r.y + r.height - 8 - fitted.lineHeight * ((fitted.lines.length : Int) - 1) +
      fitted.lineHeight * entry.2 =
      r.y + r.height - 8 -
        fitted.lineHeight * ((fitted.lines.length : Int) - 1 - (entry.2 : Int)) := by
    simp only [Int.mul_sub]
    omega
  simp only [← hbaseline]
  cases s.error.isEmpty <;> rfl

/-- A text that is taken whole is one line at the bottom. -/
theorem drawDisplay_eq_of_fit {p : Panel} {s : State} {scale : Quantity} {height : Int}
    {style : TextStyle}
    (hfit : (displayBox settings (p.layout.rect "display")).fit s.display.toList =
      .ok ⟨[s.display.toList], scale, height⟩)
    (hstyle : displayStyle scale = .ok style) :
    let r := p.layout.rect "display"
    p.drawDisplay settings s = .ok [.text s.display
      (if s.error.isEmpty then r.x + r.width - 8 - style.textWidth s.display.toList else r.x + 8)
      (r.y + r.height - 8) style
      (if s.error.isEmpty then settings.textColor else settings.errorColor)] := by
  intro r
  refine do_eq_ok.2 ⟨_, hfit, do_eq_ok.2 ⟨style, hstyle, ?_⟩⟩
  have hbottom : r.y + r.height - 8 - height * (((1 : Nat) : Int) - 1) +
      height * ((0 : Nat) : Int) = r.y + r.height - 8 := by
    simp
  dsimp only [r] at hbottom
  simp only [List.zipIdx_singleton, List.map_singleton, List.length_singleton, hbottom,
    String.ofList_toList]
  cases s.error.isEmpty <;> rfl

/-- **The display's text stays in its box and is shown faithfully**, if 32 bits hold the widths of
    its lines, as they do unless the box is almost `2^31` pixels wide and the text has millions of
    characters. One line or two spell the whole text, or a part of it with dots behind it, and every
    line lies between the left and the right edge, measured as it is drawn. What is seen of a line
    is all of it unless the text has a NUL. The last baseline is eight pixels above the lower edge,
    the others one line height apart, and the text of the first line reaches up to eight pixels
    below the upper edge at most. An error stands at the left in its colour, the buffer at the
    right. -/
theorem display_stays_inside (h : settings.UsualDisplay) (p : Panel) (s : State)
    (hwide : 240 ≤ (p.layout.rect "display").width)
    (hhigh : 60 ≤ (p.layout.rect "display").height)
    (hmeasurable : Measurable (p.layout.rect "display").width s.display.toList) :
    let r := p.layout.rect "display"
    let text := (if s.error.isEmpty then s.buffer else s.error).toList
    ∃ (lines : List (List Char)) (lineHeight : Int) (style : TextStyle),
      let left := fun line =>
        if s.error.isEmpty then r.x + r.width - 8 - style.textWidth line else r.x + 8
      let baseline := fun (i : Nat) =>
        r.y + r.height - 8 - lineHeight * ((lines.length : Int) - 1 - i)
      p.drawDisplay settings s = .ok (lines.zipIdx.map fun (line, i) =>
        .text (String.ofList line) (left line) (baseline i) style
          (if s.error.isEmpty then settings.textColor else settings.errorColor)) ∧
      (lines.length = 1 ∨ lines.length = 2) ∧
      (lines.flatten = text ∨
        ∃ kept, lines.flatten = kept ++ ellipsis ∧ kept <+: text ∧ kept ≠ text) ∧
      ('\x00' ∉ text → ∀ line ∈ lines, TextStyle.seen line = line) ∧
      displayStyle style.scale = .ok style ∧
      (displayBox settings r).lineHeight style.scale = .ok lineHeight ∧
      (∀ line ∈ lines, r.x ≤ left line ∧ 0 ≤ style.textWidth line ∧
        left line + style.textWidth line ≤ r.x + r.width) ∧
      r.y + 8 ≤ baseline 0 - style.textHeight := by
  intro r text
  change 60 ≤ r.height at hhigh
  change Measurable r.width text at hmeasurable
  obtain ⟨fitted, style, hshown⟩ : ∃ fitted style, Shown settings r text fitted style :=
    exists_shown h hwide text
  refine ⟨fitted.lines, fitted.lineHeight, style, ?_⟩
  intro left baseline
  refine ⟨hshown.drawDisplay_eq, hshown.few, ?_, fun hnul line hline => ?_,
    hshown.scale_eq ▸ hshown.style_eq, hshown.scale_eq ▸ hshown.lineHeight_eq,
    fun line hline => ?_, ?_⟩
  · rcases hshown.spells.flatten_eq with hwhole | ⟨earlier, last, kept, hlines, hbegins, hless, -⟩
    · exact .inl hwhole
    · refine .inr ⟨earlier.flatten ++ kept, ?_, hbegins, hless⟩
      rw [hlines]
      simp
  · exact TextStyle.seen_eq_self (hshown.spells.nul_not_mem hnul hline)
  · have hbits := hshown.not_overlong hmeasurable line hline
    obtain ⟨hnonneg, hwidth, -⟩ := hshown.width_le line hline hbits
    simp only [left]
    split <;> omega
  · have hheight := hshown.height_le hhigh
    simp only [baseline, Int.natCast_zero, Int.sub_zero]
    omega

/-- A panel of which only the display is there, in a smallest window. -/
def displayPanel : Panel where
  width := 600
  height := 500
  layout := { Layout.calculator with rects := [("display", ⟨15, 15, 380, 78⟩)] }

/-- An error is shown in at most two texts. -/
theorem drawDisplay_error :
    let s : State := { error := "Division by zero" }
    Settings.UsualDisplay {} ∧ 240 ≤ (displayPanel.layout.rect "display").width ∧
    60 ≤ (displayPanel.layout.rect "display").height ∧
    Measurable (displayPanel.layout.rect "display").width s.display.toList ∧
    ∃ strokes, displayPanel.drawDisplay {} s = .ok strokes ∧
      (strokes.length = 1 ∨ strokes.length = 2) := by
  intro s
  have hrect : displayPanel.layout.rect "display" = ⟨15, 15, 380, 78⟩ := rfl
  have husual : Settings.UsualDisplay {} := ⟨rfl, rfl, rfl⟩
  have hwide : 240 ≤ (displayPanel.layout.rect "display").width := by rw [hrect]; decide
  have hhigh : 60 ≤ (displayPanel.layout.rect "display").height := by rw [hrect]; decide
  have hmeasurable : Measurable (displayPanel.layout.rect "display").width s.display.toList := by
    rw [hrect]
    exact .inl (by decide)
  obtain ⟨lines, lineHeight, style, hdrawn, hfew, -⟩ :=
    display_stays_inside husual displayPanel s hwide hhigh hmeasurable
  refine ⟨husual, hwide, hhigh, hmeasurable, _, hdrawn, ?_⟩
  rw [List.length_map, List.length_zipIdx]
  exact hfew

/-- A panel of which only the display is there, `2^32` pixels wide. -/
def widePanel : Panel where
  width := 4294967296
  height := 1000
  layout := { Layout.calculator with rects := [("display", ⟨0, 0, 4294967296, 1000⟩)] }

/-- The wide display takes a text whole that keeps its width. -/
theorem exists_drawDisplay_widePanel {text : String}
    (hkeeps : Keeps { scale := .real 3.0 } (4294967296 - 2 * 8) text.toList) :
    ∃ style : TextStyle, style.face = .simplex ∧ style.factor = 3.0 ∧ style.fault? = none ∧
      1 ≤ style.thickness ∧ style.thickness ≤ 4 ∧
      widePanel.drawDisplay {} { buffer := text } =
        .ok [.text text (4294967296 - 8 - style.textWidth text.toList) (1000 - 8) style
          ({} : Settings).textColor] := by
  have hthree : UsualScale (3.0 : Binary64) :=
    ⟨by decide +kernel, by decide +kernel, Int.le_refl _⟩
  obtain ⟨thickness, hlow, hhigh, hstyle⟩ := exists_displayStyle_eq hthree
  let box := displayBox {} (widePanel.layout.rect "display")
  have hmeasurable : (box.style box.maxScale).fault? = none := by decide +kernel
  have hheight : box.lineHeight box.maxScale = .ok 116 := by decide +kernel
  have hfit := Box.fit_eq_of_wrap hmeasurable (wrap_eq_of_keeps hkeeps) hheight (by decide)
    (by decide)
  refine ⟨{ scale := .real 3.0, thickness := thickness }, rfl, rfl,
    TextStyle.fault?_eq_none rfl rfl hhigh, Int.ofNat_le.2 hlow, Int.ofNat_le.2 hhigh, ?_⟩
  exact drawDisplay_eq_of_fit (s := { buffer := text }) hfit hstyle

/-- Letters that have room in the wide display and are wider than 32 bits hold. -/
theorem exists_drawDisplay_letters {n : Nat} (hlong : twoPow 31 ≤ n * 72)
    (hroom : n * 72 + 2 ≤ 4294967280) :
    ∃ x baseline style color,
      widePanel.drawDisplay {} { buffer := String.ofList (List.replicate n 'W') } =
        .ok [.text (String.ofList (List.replicate n 'W')) x baseline style color] ∧
      4294967296 < x := by
  have hlarge : 4294967296 ≤ twoPow 53 := by decide
  have hnul : '\x00' ∉ List.replicate n 'W' := TextStyle.nul_not_mem_replicate (by decide) n
  have hbyte : Typeface.simplex.byteWidths 'W' = [24] := by decide
  have hshare : Binary64.ofInt (24 : Nat) * 3.0 = Binary64.ofInt (72 : Nat) := by decide +kernel
  have hadvance {style : TextStyle} (hface : style.face = .simplex) (hfactor : style.factor = 3.0) :
      style.advance (List.replicate n 'W') = Binary64.ofInt (n * 72 : Nat) :=
    TextStyle.advance_replicate (by decide) (hface ▸ hbyte) (hfactor ▸ hshare) (by omega)
  have hkeeps : Keeps { scale := .real 3.0 } (4294967296 - 2 * 8) (List.replicate n 'W') := by
    have htwo : ({ scale := .real 3.0 } : TextStyle).thickness = (2 : Nat) := rfl
    refine TextStyle.keeps_of_fullWidth_le (by decide +kernel) (by decide +kernel) hnul ?_
    rw [TextStyle.fullWidth_of_advance htwo (hadvance rfl rfl) (by omega)]
    omega
  rw [← String.toList_ofList (l := List.replicate n 'W')] at hkeeps
  obtain ⟨style, hface, hfactor, hmeasurable, hlow, hhigh, hdrawn⟩ :=
    exists_drawDisplay_widePanel hkeeps
  refine ⟨_, _, style, _, hdrawn, ?_⟩
  have hscale : 0 < style.factor.line := by
    rw [hfactor]
    decide +kernel
  obtain ⟨thickness, hthickness⟩ := Int.eq_ofNat_of_zero_le (show 0 ≤ style.thickness by omega)
  have hfull := TextStyle.fullWidth_of_advance hthickness (hadvance hface hfactor) (by omega)
  have hwidth := TextStyle.textWidth_of_le hscale hmeasurable (show _ ≤ _ by rw [hfull]; omega)
  have hbits : twoPow 31 = 2147483648 := by decide
  rw [String.toList_ofList, hwidth]
  omega

/-- Where less holds. A line of millions of letters has room in so wide a display and is wider than
    32 bits hold; it measures less than nothing, and so it is drawn right of the display. And a line
    with a NUL is taken for the whole text, while only what stands before the NUL is seen. -/
theorem wide_line_leaves_box :
    240 ≤ (widePanel.layout.rect "display").width ∧
    60 ≤ (widePanel.layout.rect "display").height ∧
    (let s : State := { buffer := String.ofList (List.replicate 33554432 'W') }
     ∃ x baseline style color,
       widePanel.drawDisplay {} s = .ok [.text s.buffer x baseline style color] ∧
         (widePanel.layout.rect "display").x + (widePanel.layout.rect "display").width < x) ∧
    (let s : State := { buffer := "12\x0034" }
     ∃ x baseline style color,
       widePanel.drawDisplay {} s = .ok [.text s.buffer x baseline style color] ∧
         TextStyle.seen s.buffer.toList = ['1', '2']) := by
  have hrect : widePanel.layout.rect "display" = ⟨0, 0, 4294967296, 1000⟩ := rfl
  rw [hrect]
  refine ⟨by decide, by decide, ?_, ?_⟩
  · obtain ⟨x, baseline, style, color, hdrawn, hleaves⟩ :=
      exists_drawDisplay_letters (n := 33554432) (by decide) (by decide)
    exact ⟨x, baseline, style, color, hdrawn, hleaves⟩
  · have hkeeps : Keeps { scale := .real 3.0 } (4294967296 - 2 * 8) "12\x0034".toList := by
      decide +kernel
    obtain ⟨style, -, -, -, -, -, hdrawn⟩ := exists_drawDisplay_widePanel hkeeps
    exact ⟨_, _, style, _, hdrawn, by decide⟩

end Panel

end DeskCalc
