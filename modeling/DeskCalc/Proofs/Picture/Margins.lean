import DeskCalc.Proofs.Grid.Calculator
import DeskCalc.Proofs.Grid.Shares
import DeskCalc.Proofs.Picture.Display
import DeskCalc.Proofs.Picture.Fitted

/-!
# The margins of the display

In a window of any size the display is at least 380 pixels wide and 78 high. Its text is fitted with
eight pixels to spare on each side, and with the strokes that it was fitted with every line keeps
them. Strokes of four pixels, as a large scale has them, take up to three pixels of a margin. This
file fixes

* `Panel.exists_edges_of_create`: the display of a new panel, by the edges of its tracks;
* `Panel.le_rect_display`, `Panel.measurable_display`: how large the display is at least, and at most
  if there is a canvas for it;
* **`lines_keep_margins_as_fitted`**: how wide the lines of the display are, as they were fitted and
  as they are drawn;
* `line_enters_margin`: a window in which a margin is entered.
-/

namespace DeskCalc

/-- A canvas has no more bytes than memory has room for. -/
theorem Canvas.bytes_le_of_sizeFault? {width height : Int} (h : sizeFault? width height = none) :
    3 * (height.toNat * width.toNat) ≤ memory := by
  unfold sizeFault? at h
  dsimp only at h
  split at h
  · cases h
  · split at h
    · cases h
    · split at h
      · cases h
      · exact Nat.le_of_not_lt ‹_›

namespace Panel

variable {width height : Int} {p : Panel}

/-! ## 1. The size of the display -/

/-- The display of a new panel lies between the first edges of the rows and four columns. -/
theorem exists_edges_of_create (h : create {} width height = .ok p) :
    ∃ xs ys, Grid.tracks Layout.calculatorColumns 15 (p.width - 2 * 15) = .ok xs ∧
      Grid.tracks Layout.calculatorRows 15 (p.height - 2 * 15) = .ok ys ∧
      p.width = max width 600 ∧ p.height = max height 500 ∧
      p.layout.rect "display" = ⟨15, 15, xs.getD 4 0 - 15, ys.getD 1 0 - 15⟩ := by
  obtain ⟨layout, hlayout, rfl⟩ := exists_refit_of_create h
  change Layout.calculator.resize (max width 600) (max height 500) 15 = .ok layout at hlayout
  rw [Layout.calculator_eq] at hlayout
  simp only [Layout.resize, do_eq_ok] at hlayout
  obtain ⟨xs, hxs, ys, hys, hlayout⟩ := hlayout
  cases hlayout
  refine ⟨xs, ys, hxs, hys, rfl, rfl, ?_⟩
  have hleft : xs.getD 0 0 = 15 := by rw [Grid.head_tracks hxs]; rfl
  have htop : ys.getD 0 0 = 15 := by rw [Grid.head_tracks hys]; rfl
  show Layout.blockRect xs ys ⟨0, 0, 0, 3⟩ = _
  simp only [Layout.blockRect, hleft, htop]

/-- **The display of a new panel** is at least as large as in the smallest window. -/
theorem le_rect_display (h : create {} width height = .ok p) :
    380 ≤ (p.layout.rect "display").width ∧ 78 ≤ (p.layout.rect "display").height := by
  obtain ⟨xs, ys, hxs, hys, hwidth, hheight, hrect⟩ := exists_edges_of_create h
  have hcolumns : Grid.tracks Layout.calculatorColumns 15 570 =
      .ok [15, 110, 205, 300, 395, 585] := by
    decide +kernel
  have hrows : Grid.tracks Layout.calculatorRows 15 470 =
      .ok [15, 93, 172, 250, 328, 407, 485] := by
    decide +kernel
  have hright := Grid.getD_tracks_mono Layout.nonNegative_calculatorColumns hcolumns hxs
    (by decide) (by omega) 4
  have hbottom := Grid.getD_tracks_mono Layout.nonNegative_calculatorRows hrows hys (by decide)
    (by omega) 1
  change 395 ≤ xs.getD 4 0 at hright
  change 93 ≤ ys.getD 1 0 at hbottom
  rw [hrect]
  show 380 ≤ xs.getD 4 0 - 15 ∧ 78 ≤ ys.getD 1 0 - 15
  omega

/-- **Every text is measurable on a display that there is a canvas for.** -/
theorem measurable_display (h : create {} width height = .ok p)
    (hcanvas : Canvas.sizeFault? p.width p.height = none) (text : List Char) :
    Measurable (p.layout.rect "display").width text := by
  obtain ⟨xs, ys, hxs, -, hwidth, hheight, hrect⟩ := exists_edges_of_create h
  -- a window of 500 rows or more has less than `2^30` columns
  have hbytes := Canvas.bytes_le_of_sizeFault? hcanvas
  have hmemory : Canvas.memory = 1099511627776 := by decide
  have hrows : 500 * p.width.toNat ≤ p.height.toNat * p.width.toNat :=
    Nat.mul_le_mul_right _ (by omega)
  have hcolumns : Grid.tracks Layout.calculatorColumns 15 1073741824 =
      .ok [15, 178956986, 357913956, 536870927, 715827898, 1073741839] := by
    decide +kernel
  have hright := Grid.getD_tracks_mono Layout.nonNegative_calculatorColumns hxs hcolumns
    (by omega) (by omega) 4
  change xs.getD 4 0 ≤ 715827898 at hright
  have hbits : twoPow 31 = 2147483648 := by decide
  rw [hrect]
  refine .inl ?_
  show xs.getD 4 0 - 15 ≤ twoPow 31 - 300
  omega

/-! ## 2. The width of the lines -/

/-- **How wide the lines of the display are.** There are one or two. Fitted with strokes of two
    pixels every line leaves eight pixels on each side; drawn with its own strokes a line is up to
    three pixels wider, and not wider if they are no thicker than two pixels. -/
theorem lines_keep_margins_as_fitted (h : create {} width height = .ok p) (s : State)
    (hmeasurable : Measurable (p.layout.rect "display").width s.display.toList) :
    ∃ strokes style, p.drawDisplay {} s = .ok strokes ∧
      (strokes.length = 1 ∨ strokes.length = 2) ∧
      ∀ stroke ∈ strokes, ∃ content x y color, stroke = .text content x y style color ∧
        TextStyle.textWidth { style with thickness := 2 } content.toList ≤
          (p.layout.rect "display").width - 2 * 8 ∧
        style.textWidth content.toList ≤ (p.layout.rect "display").width - 2 * 8 + 3 ∧
        (style.thickness ≤ 2 →
          style.textWidth content.toList ≤ (p.layout.rect "display").width - 2 * 8) := by
  obtain ⟨hwide, -⟩ := le_rect_display h
  have husual : Settings.UsualDisplay {} := ⟨rfl, rfl, rfl⟩
  obtain ⟨fitted, style, hshown⟩ := exists_shown (r := p.layout.rect "display") husual (by omega)
    s.display.toList
  refine ⟨_, style, hshown.drawDisplay_eq, ?_, fun stroke hstroke => ?_⟩
  · rw [List.length_map, List.length_zipIdx]
    exact hshown.few
  obtain ⟨⟨line, i⟩, hentry, rfl⟩ := List.mem_map.1 hstroke
  have hline : line ∈ fitted.lines := List.fst_mem_of_mem_zipIdx hentry
  have hbits := hshown.not_overlong hmeasurable line hline
  obtain ⟨-, hmargin, hthin⟩ := hshown.width_le line hline hbits
  refine ⟨_, _, _, _, rfl, ?_⟩
  rw [String.toList_ofList]
  exact ⟨hshown.measured_le line hline hbits, hmargin, hthin⟩

/-- In a window of 687 pixels a text keeps the margins as it was fitted. -/
theorem lines_keep_margins_sevenDigits :
    let s : State := { buffer := "1234567" }
    ∃ p strokes style, create {} 687 900 = .ok p ∧
      Measurable (p.layout.rect "display").width s.display.toList ∧
      p.drawDisplay {} s = .ok strokes ∧
      ∀ stroke ∈ strokes, ∃ content x y color, stroke = .text content x y style color ∧
        TextStyle.textWidth { style with thickness := 2 } content.toList ≤
          (p.layout.rect "display").width - 2 * 8 := by
  intro s
  obtain ⟨p, hp⟩ : ∃ p, create {} 687 900 = .ok p := by
    have hsettings : ({} : Settings).Moderate :=
      ⟨by decide +kernel, by decide +kernel, by decide +kernel⟩
    have hwidth : Moderate 687 := by decide +kernel
    have hheight : Moderate 900 := by decide +kernel
    obtain ⟨p, hp⟩ := exists_resize_of_moderate (gridded_new 687 900) hsettings hwidth hheight
    exact ⟨p, create_eq_ok.2 hp⟩
  have hcanvas : Canvas.sizeFault? p.width p.height = none := by
    obtain ⟨-, -, -, -, hwidth, hheight, -⟩ := exists_edges_of_create hp
    rw [hwidth, hheight]
    decide +kernel
  have hmeasurable := measurable_display hp hcanvas s.display.toList
  obtain ⟨strokes, style, hdrawn, -, hlines⟩ := lines_keep_margins_as_fitted hp s hmeasurable
  refine ⟨p, strokes, style, hp, hmeasurable, hdrawn, fun stroke hstroke => ?_⟩
  obtain ⟨content, x, y, color, hstroke, hfitted, -⟩ := hlines stroke hstroke
  exact ⟨content, x, y, color, hstroke, hfitted⟩

/-- Whether a stroke is a text wider than the display without its margins. -/
def entersMargin (p : Panel) : Stroke → Bool
  | .text content _ _ style _ =>
    (p.layout.rect "display").width - 2 * 8 < style.textWidth content.toList
  | _ => false

/-- In the same window the text is drawn into a margin, with strokes of four pixels. -/
theorem line_enters_margin :
    ∃ p strokes, create {} 687 900 = .ok p ∧
      p.drawDisplay {} { buffer := "1234567" } = .ok strokes ∧
      ∃ stroke ∈ strokes, p.entersMargin stroke = true := by
  have hdrawn : ((create {} 687 900).toOption.any fun p =>
      (p.drawDisplay {} { buffer := "1234567" }).toOption.any fun strokes =>
        strokes.any p.entersMargin) = true := by
    unfold create
    rw [Layout.calculator_eq]
    decide +kernel
  cases hp : create {} 687 900 with
  | error fault =>
    rw [hp] at hdrawn
    cases hdrawn
  | ok p =>
    rw [hp] at hdrawn
    change (Except.toOption (p.drawDisplay {} { buffer := "1234567" })).any _ = true at hdrawn
    cases hstrokes : p.drawDisplay {} { buffer := "1234567" } with
    | error fault =>
      rw [hstrokes] at hdrawn
      cases hdrawn
    | ok strokes =>
      rw [hstrokes] at hdrawn
      exact ⟨p, strokes, rfl, hstrokes, List.any_eq_true.1 hdrawn⟩

end Panel

end DeskCalc
