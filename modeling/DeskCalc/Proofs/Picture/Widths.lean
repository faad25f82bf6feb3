import DeskCalc.Proofs.Picture.Stretches

/-!
# The widths of fitted lines

A box measures its lines with strokes of two pixels, and they may be drawn with other strokes. This
file fixes

* `TextStyle.Overlong`: a text that is wider than 32 bits hold;
* `Measurable`: a text whose lines come not near to the end of 32 bits, and
  `Spells.not_overlong`: none of them is overlong;
* `Roomy`: a width that single characters and the dots keep, which are not broken any more;
* **`Spells.fullWidth_le`**: fitted lines are no wider than the box, as far as 32 bits hold them;
* `Spells.textWidth_other_le`: what other strokes add to their widths.
-/

namespace DeskCalc

/-! ## 1. Fitted lines -/

namespace Spells

variable {style : TextStyle} {maxWidth : Int} {text : List Char} {lines : List (List Char)}

theorem length_le_wrap (h : Spells style maxWidth text lines) :
    lines.length ≤ (wrap style maxWidth text).length := by
  cases h with
  | whole h => exact Nat.le_of_eq (congrArg List.length h)
  | part hlines hless hcut =>
    rw [List.length_append, List.length_singleton] at hless ⊢
    exact Nat.le_of_lt hless

/-- A line has no more characters than the text and the dots. -/
theorem length_le (h : Spells style maxWidth text lines) {line : List Char} (hline : line ∈ lines) :
    line.length ≤ text.length + 3 := by
  have hflatten : line.length ≤ lines.flatten.length :=
    (List.sublist_flatten_of_mem hline).length_le
  rcases h.flatten_eq with hwhole | ⟨earlier, last, kept, hlines, hbegins, -, -, -⟩
  · rw [hwhole] at hflatten
    omega
  · have hle := hbegins.length_le
    rw [hlines] at hflatten
    simp [ellipsis] at hflatten hle
    omega

/-- A line has no NUL unless the text has one. -/
theorem nul_not_mem (h : Spells style maxWidth text lines) (hnul : '\x00' ∉ text)
    {line : List Char} (hline : line ∈ lines) : '\x00' ∉ line := by
  intro hmem
  have hall := List.mem_flatten_of_mem hline hmem
  rcases h.flatten_eq with hwhole | ⟨earlier, last, kept, hlines, hbegins, -, -, -⟩
  · exact hnul (hwhole ▸ hall)
  · rw [hlines, List.flatten_append, List.flatten_singleton, ← List.append_assoc] at hall
    rcases List.mem_append.1 hall with hkept | hdots
    · exact hnul (hbegins.subset hkept)
    · exact absurd hdots (by decide)

/-- Every line keeps the width, up to the dots behind it. -/
theorem exists_keeps (h : Spells style maxWidth text lines) {line : List Char}
    (hline : line ∈ lines) :
    Keeps style maxWidth line ∨ ∃ kept, line = kept ++ ellipsis ∧ Keeps style maxWidth kept := by
  cases h with
  | whole h => exact .inl (wrap_keeps (h ▸ hline))
  | @part earlier last kept hlines hless hcut =>
    rcases List.mem_append.1 hline with hline | hline
    · exact .inl (wrap_keeps (hlines.subset (List.mem_append_left _ hline)))
    · obtain rfl := List.mem_singleton.1 hline
      have hlast : Keeps style maxWidth last := wrap_keeps (hlines.subset (by simp))
      exact .inr ⟨kept, rfl, fun front hfront => hlast front (hfront.trans hcut.begins)⟩

end Spells

/-- Lengths in pixels are numbers of 32 bits. They have room for more than the box is wide, or else
    the text is too short to come near to their end. -/
def Measurable (width : Int) (text : List Char) : Prop :=
  width ≤ twoPow 31 - 300 ∨ text.length ≤ 9900000

theorem Measurable.mono {width narrower : Int} {text : List Char} (h : Measurable width text)
    (hle : narrower ≤ width) : Measurable narrower text :=
  h.imp_left (Int.le_trans hle)

section Widths

variable {style : TextStyle} {width most : Nat} {text : List Char} {lines : List (List Char)}

/-- What cannot be broken any more keeps the width: single characters and the dots. -/
def Roomy (style : TextStyle) (width : Nat) : Prop :=
  ∀ line : List Char, line.length ≤ 1 ∨ line = ellipsis →
    (style.advance line + Binary64.ofInt (2 : Nat)).round ≤ width

theorem plainWidth_ellipsis : Typeface.simplex.plainWidth ellipsis = 30 := by decide

/-- No fitted line comes near to the end of 32 bits. -/
theorem Spells.advance_upTo (h : Spells style width text lines) (hface : style.face = .simplex)
    (hfactor : style.factor.UpTo most) (hmost : most ≤ 3) (hthickness : style.thickness = 2)
    (hmeasurable : Measurable (width + 16) text) {line : List Char} (hline : line ∈ lines) :
    (style.advance line).UpTo (twoPow 31 - 8) := by
  have hlarge : twoPow 31 ≤ twoPow 53 := twoPow_le (by decide)
  have hbits : twoPow 31 = 2147483648 := by decide
  rcases hmeasurable with hroom | hshort
  · -- a line of one character may be wider than the box
    have hkept {kept : List Char} (hkeeps : Keeps style width kept) :
        (style.advance kept).UpTo (max width 216) :=
      TextStyle.advance_upTo_of_keeps hface hfactor hthickness (by omega) (by omega)
        (hkeeps.mono (by omega))
    rcases h.exists_keeps hline with hkeeps | ⟨kept, rfl, hkeeps⟩
    · exact (hkept hkeeps).mono (by omega)
    · have hdots := plainWidth_ellipsis
      have hmore := TextStyle.advance_append_upTo hface hfactor (hkept hkeeps) ellipsis
        (by rw [hdots]; omega)
      rw [hdots] at hmore
      exact hmore.mono (by omega)
  · have hlength := h.length_le hline
    have hplain := Nat.mul_le_mul hmost (Typeface.plainWidth_le line)
    exact (TextStyle.advance_upTo hface hfactor (by omega)).mono (by omega)

/-- At a scale that is a double, and with strokes of a few pixels, every text can be measured. -/
theorem TextStyle.fault?_eq_none {x : Binary64} (hreal : style.scale = .real x) {thickness : Nat}
    (hthickness : style.thickness = thickness) (hfew : thickness ≤ 4) : style.fault? = none := by
  have hbits : 4 < twoPow 31 := by decide
  have hholds : -(twoPow 31 : Int) ≤ thickness ∧ (thickness : Int) < twoPow 31 := by omega
  simp only [fault?, hreal, Quantity.toBinary64, hthickness, hholds, decide_true, Bool.and_self,
    if_true]

/-- **Fitted lines are no wider than the box**, if 32 bits hold them. -/
theorem Spells.fullWidth_le (h : Spells style width text lines) (hscale : 0 < style.factor.line)
    (hstyle : style.fault? = none) (hthickness : style.thickness = 2) (hroomy : Roomy style width)
    {line : List Char} (hline : line ∈ lines) (hbits : style.fullWidth line < twoPow 31) :
    style.fullWidth line ≤ width := by
  have hthick : style.thickness = (2 : Nat) := hthickness
  have hround := TextStyle.fullWidth_eq hthick line
  rcases h.textWidth_le hline with hwidth | hone | rfl | ⟨rfl, -⟩
  · rwa [TextStyle.textWidth_eq_ite hscale hstyle, if_pos hbits] at hwidth
  · exact hround ▸ hroomy line (.inl (Nat.le_of_eq hone))
  · exact hround ▸ hroomy ellipsis (.inr rfl)
  · exact hround ▸ hroomy [] (.inl (Nat.zero_le 1))

/-! ## 2. Other strokes -/

namespace TextStyle

/-- The text is wider than 32 bits hold, as it is drawn or as it is fitted with strokes of two
    pixels. -/
def Overlong (style : TextStyle) (text : List Char) : Prop :=
  twoPow 31 ≤ style.fullWidth text ∨
    twoPow 31 ≤ TextStyle.fullWidth { style with thickness := 2 } text

/-- Where a text takes the pen depends on the typeface and the scale alone. -/
theorem fullWidth_strokes (text : List Char) (thickness : Nat) :
    TextStyle.fullWidth { style with thickness := thickness } text =
      (style.advance text + Binary64.ofInt thickness).round := by
  have hput : Pen.put { style with thickness := thickness } = Pen.put style :=
    Pen.put_congr rfl rfl
  rw [fullWidth, advance, advance, Pen.putAll, Pen.putAll, hput]

theorem fullWidth_lt {n : Nat} (h : (style.advance text).UpTo n) (thickness : Nat)
    (hroom : n + thickness < twoPow 31) :
    TextStyle.fullWidth { style with thickness := thickness } text < twoPow 31 := by
  have hlarge : twoPow 31 ≤ twoPow 53 := twoPow_le (by decide)
  have hsum := (h.add (Binary64.upTo_ofInt (n := thickness) (by omega)) (by omega)).round_mem
    (by omega)
  rw [fullWidth_strokes]
  omega

/-- **Strokes of four pixels** take three pixels more than strokes of two do, at most, and thinner
    ones take nothing more. -/
theorem fullWidth_strokes_le (hthickness : style.thickness = (2 : Nat))
    (hfinite : (style.advance text).isFinite = true) (hnonneg : 0 ≤ style.fullWidth text)
    (hbits : style.fullWidth text < twoPow 31) {thickness : Nat} (hhigh : thickness ≤ 4) :
    TextStyle.fullWidth { style with thickness := thickness } text ≤ style.fullWidth text + 3 ∧
      (thickness ≤ 2 →
        TextStyle.fullWidth { style with thickness := thickness } text ≤ style.fullWidth text) := by
  have hlarge : twoPow 31 + 3 ≤ twoPow 53 := by decide
  have htwo := fullWidth_eq hthickness text
  have hmono {t : Nat} (ht : thickness ≤ t) (hsmall : t ≤ 4) :=
    Binary64.round_add_mono hfinite ht (Nat.le_trans hsmall (by decide))
  rw [fullWidth_strokes]
  refine ⟨?_, fun hthin => htwo ▸ hmono hthin (by decide)⟩
  -- two of the four pixels are there already
  have hfour := hmono (t := 4) hhigh (Nat.le_refl 4)
  have hnatural := Int.self_le_toNat (style.fullWidth text)
  rw [htwo] at hnatural
  have hmore := Binary64.round_add_le_of_le (d := 2) hfinite (by omega) (by decide) hnatural
  change (style.advance text + Binary64.ofInt (4 : Nat)).round ≤ _ at hmore
  omega

end TextStyle

section OtherStrokes

variable {thickness : Nat} {other : TextStyle} {line : List Char}

/-- **No line of a measurable text is overlong.** -/
theorem Spells.not_overlong (h : Spells style width text lines) (hface : style.face = .simplex)
    (hfactor : style.factor.UpTo most) (hmost : most ≤ 3) (hthickness : style.thickness = 2)
    (hmeasurable : Measurable (width + 16) text)
    (hother : other = { style with thickness := (thickness : Int) }) (hhigh : thickness ≤ 4)
    (hline : line ∈ lines) : ¬other.Overlong line := by
  have hupTo := h.advance_upTo hface hfactor hmost hthickness hmeasurable hline
  have hbits : twoPow 31 = 2147483648 := by decide
  subst hother
  rintro (hdrawn | hfitted)
  · have hless := TextStyle.fullWidth_lt hupTo thickness (by omega)
    omega
  · have hless := TextStyle.fullWidth_lt hupTo 2 (by omega)
    exact absurd hfitted (Int.not_le.2 hless)

/-- **Drawn with other strokes** a fitted line is up to three pixels wider, and not wider at all
    with strokes no thicker than those that it was fitted with. -/
theorem Spells.textWidth_other_le (h : Spells style width text lines)
    {x : Binary64} (hreal : style.scale = .real x) (hscale : 0 < style.factor.line)
    (hthickness : style.thickness = 2) (hroomy : Roomy style width)
    (hother : other = { style with thickness := (thickness : Int) }) (hhigh : thickness ≤ 4)
    (hline : line ∈ lines) (hbits : ¬other.Overlong line) :
    0 ≤ other.textWidth line ∧ other.textWidth line ≤ width + 3 ∧
      (thickness ≤ 2 → other.textWidth line ≤ width) := by
  obtain ⟨hdrawn, hfitted⟩ := not_or.1 hbits
  have hsame : { other with thickness := 2 } = style := by
    rw [hother, ← hthickness]
  rw [hsame, Int.not_le] at hfitted
  -- as it was fitted
  have hthick : style.thickness = (2 : Nat) := hthickness
  have hstyle := TextStyle.fault?_eq_none hreal hthick (by decide)
  have hle := h.fullWidth_le hscale hstyle hthickness hroomy hline hfitted
  have htwo := TextStyle.thickness_le_fullWidth hscale hstyle line
  have hfinite := (TextStyle.isFinite_of_fullWidth_lt hscale hstyle hfitted).1
  -- as it is drawn
  have hotherThickness : other.thickness = thickness := by rw [hother]
  have hotherReal : other.scale = .real x := by rw [hother, hreal]
  have hotherScale : 0 < other.factor.line := hother ▸ hscale
  have hotherStyle := TextStyle.fault?_eq_none hotherReal hotherThickness hhigh
  have hnonneg := TextStyle.thickness_le_fullWidth hotherScale hotherStyle line
  obtain ⟨hmore, hthin⟩ :=
    TextStyle.fullWidth_strokes_le hthick hfinite (by omega) hfitted hhigh
  rw [← hother] at hmore hthin
  rw [TextStyle.textWidth_eq_ite hotherScale hotherStyle, if_pos (Int.not_le.1 hdrawn)]
  exact ⟨by omega, by omega, fun hthickness => Int.le_trans (hthin hthickness) hle⟩

end OtherStrokes

end Widths

end DeskCalc
