import Mathlib.Data.List.Chain
import DeskCalc.Proofs.Picture.Stretches

/-!
# Breaking into the fewest lines

A line ends only where one more character would make it too wide. Since no stretch of a text is
wider than the text, another way of cutting the text is never ahead of the lines, and does not come
to its end with fewer pieces. This file fixes

* `BreaksLate`: a line is too wide with the first character of the next one, and
  `wrap_isChain`: every line but the last is;
* `length_le_of_isChain`: lines that are broken late are no more than pieces whose stretches all
  fit;
* `FewestLines`: what the lines of a text are, with what 32 bits make of their widths;
* **`Box.takes_fewest_lines`**: so breaks every text that can be measured, and a box takes a scale
  at which any cut of the text fits.
-/

namespace DeskCalc

/-! ## 1. Late breaks -/

/-- With the first character of the next line the line is too wide. -/
def BreaksLate (style : TextStyle) (maxWidth : Int) (line next : List Char) : Prop :=
  ∀ c, next.head? = some c → maxWidth < style.textWidth (line ++ [c])

section

variable {style : TextStyle} {maxWidth : Int}

/-- The running line, whose beginning is drawn, and the lines behind it are broken late. -/
theorem continueLine_isChain (begun text : List Char) :
    ((begun ++ (continueLine style maxWidth (Pen.putAll style {} begun) text).1) ::
      (continueLine style maxWidth (Pen.putAll style {} begun) text).2).IsChain
        (BreaksLate style maxWidth) := by
  induction text generalizing begun with
  | nil => exact List.isChain_singleton _
  | cons c rest ih =>
    unfold continueLine
    split
    · rename_i hwide
      rw [← Pen.putAll_concat] at hwide
      refine List.isChain_cons_cons.2 ⟨fun d hd => ?_, ih [c]⟩
      cases hd
      rwa [List.append_nil]
    · have hmore := ih (begun ++ [c])
      rw [Pen.putAll_concat] at hmore
      rwa [List.append_assoc] at hmore

theorem wrap_isChain (text : List Char) :
    (wrap style maxWidth text).IsChain (BreaksLate style maxWidth) := by
  cases text with
  | nil => exact List.isChain_singleton _
  | cons c rest => exact continueLine_isChain [c] rest

/-- A line has the characters of the text. -/
theorem subset_of_mem_wrap {text line : List Char} (h : line ∈ wrap style maxWidth text) :
    line ⊆ text := by
  intro c hc
  rw [← flatten_wrap style maxWidth text]
  exact List.mem_flatten_of_mem h hc

end

theorem exists_next_of_mem_dropLast {α : Type} {r : α → α → Prop} {xs : List α} (h : xs.IsChain r)
    {x : α} (hx : x ∈ xs.dropLast) : ∃ next ∈ xs, r x next := by
  induction xs with
  | nil => cases hx
  | cons first rest ih =>
    rcases rest with _ | ⟨second, rest⟩
    · cases hx
    · rcases List.mem_cons.1 hx with rfl | hx
      · exact ⟨second, by simp, (List.isChain_cons_cons.1 h).1⟩
      · obtain ⟨next, hnext, hr⟩ := ih h.tail hx
        exact ⟨next, List.mem_cons_of_mem _ hnext, hr⟩

/-! ## 2. Other cuts -/

section

variable {α : Type} {fits : List α → Prop} {line piece : List α} {rest others : List (List α)}

/-- If a first line is broken late, what is behind it is no longer than what is behind a first piece
    of which every stretch fits. -/
theorem flatten_suffix_of_isChain
    (hlate : (line :: rest).IsChain fun line next =>
      ∀ c, next.head? = some c → ¬fits (line ++ [c]))
    (hsome : ∀ next ∈ rest, next ≠ []) (hpiece : ∀ part, part <:+: piece → fits part)
    (hcover : (line :: rest).flatten <:+ (piece :: others).flatten) :
    rest.flatten <:+ others.flatten := by
  have hrest : rest.flatten <:+ (piece :: others).flatten :=
    (List.suffix_append line _).trans hcover
  rcases List.suffix_or_suffix_of_suffix hrest (List.suffix_append piece _) with hle | hlonger
  · exact hle
  obtain ⟨left, hleft⟩ := hlonger
  rcases left with _ | ⟨c, left⟩
  · rw [← hleft]
    exact List.suffix_refl _
  · -- or the line and the character behind it would be a stretch of the piece
    exfalso
    rcases rest with _ | ⟨next, rest⟩
    · cases hleft
    obtain ⟨d, next, rfl⟩ := List.exists_cons_of_ne_nil (hsome next List.mem_cons_self)
    have hfirst : some d = some c := (congrArg List.head? hleft).symm
    obtain ⟨front, hfront⟩ := hcover
    rw [List.flatten_cons, ← hleft, List.flatten_cons] at hfront
    have hstretch : front ++ (line ++ [c]) ++ left = piece := by
      refine List.append_cancel_right (Eq.trans ?_ hfront)
      simp
    exact (List.isChain_cons_cons.1 hlate).1 c hfirst (hpiece _ ⟨front, left, hstretch⟩)

/-- **Lines that are broken late are no more than pieces of which every stretch fits,** if the
    pieces have at least as much to cover. -/
theorem length_le_of_isChain {lines pieces : List (List α)}
    (hlate : lines.IsChain fun line next => ∀ c, next.head? = some c → ¬fits (line ++ [c]))
    (hsome : ∀ line ∈ lines, line ≠ [])
    (hpieces : ∀ piece ∈ pieces, ∀ part, part <:+: piece → fits part)
    (hcover : lines.flatten <:+ pieces.flatten) : lines.length ≤ pieces.length := by
  induction pieces generalizing lines with
  | nil =>
    have hnone := List.flatten_eq_nil_iff.1 (List.suffix_nil.1 hcover)
    rcases lines with _ | ⟨line, rest⟩
    · exact Nat.le_refl _
    · exact absurd (hnone line List.mem_cons_self) (hsome line List.mem_cons_self)
  | cons piece others ih =>
    rcases lines with _ | ⟨line, rest⟩
    · exact Nat.zero_le _
    · obtain ⟨-, hrest⟩ := List.forall_mem_cons.1 hsome
      obtain ⟨hpiece, hothers⟩ := List.forall_mem_cons.1 hpieces
      have hless := flatten_suffix_of_isChain hlate hrest hpiece hcover
      exact Nat.succ_le_succ (ih hlate.tail hrest hothers hless)

end

/-! ## 3. The lines of a text -/

/-- A way of cutting the text into pieces that are not too wide. -/
structure CutWithin (style : TextStyle) (maxWidth : Int) (text : List Char)
    (pieces : List (List Char)) : Prop where
  whole : pieces.flatten = text
  fits : ∀ piece ∈ pieces, style.fullWidth piece ≤ maxWidth

/-- The text is broken into lines that measure no more than the width, and no cut within the width
    has fewer pieces. The lines themselves are no wider than that, but for a last one of a width that
    32 bits do not hold. -/
structure FewestLines (style : TextStyle) (maxWidth : Int) (text : List Char)
    (lines : List (List Char)) : Prop where
  whole : lines.flatten = text
  nonempty : ∀ line ∈ lines, line ≠ []
  measured : ∀ line ∈ lines, style.textWidth line ≤ maxWidth
  earlier : ∀ line ∈ lines.dropLast, style.fullWidth line ≤ maxWidth
  last : ∀ line ∈ lines, style.fullWidth line ≤ maxWidth ∨ twoPow 31 ≤ style.fullWidth line
  fewest : ∀ pieces, CutWithin style maxWidth text pieces → lines.length ≤ pieces.length

section

variable {style : TextStyle} {maxWidth : Int} {text : List Char}

/-- A line measures no more than the width if single characters do not. -/
theorem textWidth_le_of_mem (htext : text ≠ [])
    (hcharacters : ∀ c ∈ text, style.textWidth [c] ≤ maxWidth) {line : List Char}
    (hline : line ∈ wrap style maxWidth text) : style.textWidth line ≤ maxWidth := by
  rcases textWidth_le_of_mem_wrap hline with hle | hsingle | ⟨-, hempty⟩
  · exact hle
  · obtain ⟨c, rfl⟩ := List.length_eq_one_iff.1 hsingle
    exact hcharacters c (subset_of_mem_wrap hline List.mem_cons_self)
  · exact absurd hempty htext

section

variable (hscale : 0 < style.factor.line) (hmeasurable : style.fault? = none)
  (hnul : '\x00' ∉ text)
include hscale hmeasurable hnul

/-- What is behind a line that is broken off tells that 32 bits hold the line. -/
theorem fullWidth_le_of_mem_dropLast {line : List Char}
    (hmeasured : style.textWidth line ≤ maxWidth)
    (hline : line ∈ (wrap style maxWidth text).dropLast) : style.fullWidth line ≤ maxWidth := by
  have htext : text ≠ [] := by
    rintro rfl
    cases hline
  obtain ⟨next, hnext, hlate⟩ := exists_next_of_mem_dropLast (wrap_isChain text) hline
  obtain ⟨c, rest, rfl⟩ := List.exists_cons_of_ne_nil (ne_nil_of_mem_wrap htext hnext)
  have hnulLine : '\x00' ∉ line := fun hmem =>
    hnul (subset_of_mem_wrap (List.mem_of_mem_dropLast hline) hmem)
  have hnulMore : '\x00' ∉ line ++ [c] := by
    intro hmem
    rcases List.mem_append.1 hmem with hmem | hmem
    · exact hnulLine hmem
    · rw [List.mem_singleton.1 hmem] at hnul
      exact hnul (subset_of_mem_wrap hnext List.mem_cons_self)
  have hwide := hlate c rfl
  have hmono := TextStyle.fullWidth_mono hscale hmeasurable
    (List.prefix_append line [c]).isInfix hnulMore
  rw [TextStyle.textWidth_eq_ite hscale hmeasurable] at hmeasured hwide
  split at hmeasured
  · exact hmeasured
  · rw [if_neg (by omega)] at hwide
    exact absurd hwide (Int.not_lt.2 hmeasured)

/-- **No cut within the width has fewer pieces than there are lines.** -/
theorem length_wrap_le (htext : text ≠ []) {pieces : List (List Char)}
    (hpieces : CutWithin style maxWidth text pieces) :
    (wrap style maxWidth text).length ≤ pieces.length := by
  let Fits (part : List Char) : Prop := '\x00' ∉ part ∧ style.fullWidth part ≤ maxWidth
  have hlate : (wrap style maxWidth text).IsChain fun line next =>
      ∀ c, next.head? = some c → ¬Fits (line ++ [c]) := by
    refine (wrap_isChain text).imp fun line next hlate c hc hfits => ?_
    have hle := TextStyle.textWidth_le_fullWidth hscale hmeasurable (line ++ [c])
    exact absurd (Int.lt_of_lt_of_le (hlate c hc) hle) (Int.not_lt.2 hfits.2)
  have hstretches : ∀ piece ∈ pieces, ∀ part, part <:+: piece → Fits part := by
    intro piece hpiece part hpart
    have hnulPiece : '\x00' ∉ piece := fun hmem =>
      hnul (hpieces.whole ▸ List.mem_flatten_of_mem hpiece hmem)
    refine ⟨fun hmem => hnulPiece (hpart.subset hmem), ?_⟩
    calc style.fullWidth part ≤ style.fullWidth piece :=
          TextStyle.fullWidth_mono hscale hmeasurable hpart hnulPiece
      _ ≤ maxWidth := hpieces.fits piece hpiece
  have hcover : (wrap style maxWidth text).flatten <:+ pieces.flatten := by
    rw [flatten_wrap, hpieces.whole]
  exact length_le_of_isChain hlate (fun line hline => ne_nil_of_mem_wrap htext hline) hstretches
    hcover

/-- **The lines of a text are the fewest within the width.** -/
theorem fewestLines_wrap (htext : text ≠ [])
    (hcharacters : ∀ c ∈ text, style.textWidth [c] ≤ maxWidth) :
    FewestLines style maxWidth text (wrap style maxWidth text) where
  whole := flatten_wrap style maxWidth text
  nonempty line hline := ne_nil_of_mem_wrap htext hline
  measured line hline := textWidth_le_of_mem htext hcharacters hline
  earlier line hline := fullWidth_le_of_mem_dropLast hscale hmeasurable hnul
    (textWidth_le_of_mem htext hcharacters (List.mem_of_mem_dropLast hline)) hline
  last line hline := by
    have hmeasured := textWidth_le_of_mem htext hcharacters hline
    rw [TextStyle.textWidth_eq_ite hscale hmeasurable] at hmeasured
    split at hmeasured
    · exact .inl hmeasured
    · exact .inr (by omega)
  fewest pieces hpieces := length_wrap_le hscale hmeasurable hnul htext hpieces

end

end

/-! ## 4. What a box takes -/

/-- What can be measured is broken into lines. -/
theorem wrap?_eq_ok {style : TextStyle} (h : style.fault? = none) (maxWidth : Int)
    (text : List Char) : wrap? style maxWidth text = .ok (wrap style maxWidth text) := by
  rcases text with _ | ⟨c, _ | ⟨d, rest⟩⟩ <;> simp only [wrap?, h]

namespace Box

/-- A box that takes seven digits in two lines. -/
def narrowBox : Box := { maxWidth := 100, maxHeight := 120, maxScale := .real 1.0 }

/-- **A box breaks a text into the fewest lines, and takes a scale at which any cut fits.** At a
    positive scale at which the text can be measured and no single character is too wide, the lines
    are as few as those of any cut within the width. If there is a cut of so few pieces that the box
    has room for lines of their number, the search does not go on from this scale. A text measures
    what it is wide as long as 32 bits hold it. -/
theorem takes_fewest_lines (box : Box) {scale : Quantity} {text : List Char}
    (hmeasurable : (box.style scale).fault? = none) (hscale : 0 < (box.style scale).factor.line)
    (htext : text ≠ []) (hnul : '\x00' ∉ text)
    (hcharacters : ∀ c ∈ text, (box.style scale).textWidth [c] ≤ box.maxWidth) :
    wrap? (box.style scale) box.maxWidth text =
        .ok (wrap (box.style scale) box.maxWidth text) ∧
      FewestLines (box.style scale) box.maxWidth text
        (wrap (box.style scale) box.maxWidth text) ∧
      (∀ pieces height, CutWithin (box.style scale) box.maxWidth text pieces →
        (pieces.length : Int) ≤ box.maxLines → box.lineHeight scale = .ok height → 0 ≤ height →
        height * pieces.length ≤ box.maxHeight →
        box.search text scale =
          .ok ⟨wrap (box.style scale) box.maxWidth text, scale, height⟩) ∧
      ∀ part, part <:+: text →
        (box.style scale).textWidth part =
          if (box.style scale).fullWidth part < twoPow 31 then (box.style scale).fullWidth part
          else -(twoPow 31 : Int) := by
  refine ⟨wrap?_eq_ok hmeasurable _ _, fewestLines_wrap hscale hmeasurable hnul htext hcharacters,
    fun pieces height hcut hfew hheight hupright hlow => ?_, fun part _ => ?_⟩
  · have hle : ((wrap (box.style scale) box.maxWidth text).length : Int) ≤ pieces.length :=
      Int.ofNat_le.2 (length_wrap_le hscale hmeasurable hnul htext hcut)
    have hlower := Int.mul_le_mul_of_nonneg_left hle hupright
    have hat : box.atScale text scale =
        .ok ⟨wrap (box.style scale) box.maxWidth text, scale, height⟩ :=
      do_eq_ok.2 ⟨height, hheight, rfl⟩
    refine search_eq_of_stop hat (Bool.or_eq_true_iff.2 (.inl ?_))
    simp only [holds, Bool.and_eq_true, decide_eq_true_eq]
    exact ⟨Int.le_trans hle hfew, Int.le_trans hlower hlow⟩
  · exact TextStyle.textWidth_eq_ite hscale hmeasurable part

/-- Seven digits in two lines: no cut within the width has fewer pieces, and the box takes them at
    its largest scale. -/
theorem two_lines_for_seven_digits :
    ((narrowBox.style (.real 1.0)).fault? = none ∧
      0 < (narrowBox.style (.real 1.0)).factor.line ∧
      "1234567".toList ≠ [] ∧ '\x00' ∉ "1234567".toList ∧
      ∀ c ∈ "1234567".toList, (narrowBox.style (.real 1.0)).textWidth [c] ≤ 100) ∧
    wrap? (narrowBox.style (.real 1.0)) 100 "1234567".toList =
      .ok ["1234".toList, "567".toList] ∧
    (∀ pieces, CutWithin (narrowBox.style (.real 1.0)) 100 "1234567".toList pieces →
      2 ≤ pieces.length) ∧
    narrowBox.search "1234567".toList (.real 1.0) =
      .ok ⟨["1234".toList, "567".toList], .real 1.0, 40⟩ := by
  have hmeasurable : (narrowBox.style (.real 1.0)).fault? = none := by decide +kernel
  have hscale : 0 < (narrowBox.style (.real 1.0)).factor.line := by decide +kernel
  have htext : "1234567".toList ≠ [] := by decide
  have hnul : '\x00' ∉ "1234567".toList := by decide
  have hall : "1234567".toList.all
      (fun c => decide ((narrowBox.style (.real 1.0)).textWidth [c] ≤ 100)) = true := by
    decide +kernel
  have hcharacters : ∀ c ∈ "1234567".toList,
      (narrowBox.style (.real 1.0)).textWidth [c] ≤ 100 :=
    fun c hc => of_decide_eq_true (List.all_eq_true.1 hall c hc)
  have hlines : wrap (narrowBox.style (.real 1.0)) 100 "1234567".toList =
      ["1234".toList, "567".toList] := by decide +kernel
  have hcut : CutWithin (narrowBox.style (.real 1.0)) 100 "1234567".toList
      ["1234".toList, "567".toList] := ⟨by decide, by decide +kernel⟩
  obtain ⟨hwrap, hfewest, hsearch, -⟩ :=
    takes_fewest_lines narrowBox hmeasurable hscale htext hnul hcharacters
  have htaken := hsearch _ 40 hcut (by decide) (by decide +kernel) (by decide) (by decide)
  refine ⟨⟨hmeasurable, hscale, htext, hnul, hcharacters⟩, ?_, fun pieces hpieces => ?_, ?_⟩
  · exact hwrap.trans (congrArg _ hlines)
  · have hfew := hfewest.fewest pieces hpieces
    rwa [show narrowBox.maxWidth = 100 from rfl, hlines] at hfew
  · rwa [show narrowBox.maxWidth = 100 from rfl, hlines] at htaken

/-- A style so large that three letters are wider than 32 bits hold. -/
def farStyle : TextStyle := ⟨.simplex, .real 5e7, 2⟩

/-- A box whose lines are so high that 32 bits make their height negative. -/
def sunkenBox : Box :=
  { maxWidth := 2000000000, maxHeight := -500000000, maxScale := .real 103e6 }

/-- Where less holds. Two letters that are wider together than `2^31` pixels measure less than
    nothing and stay in one line; so would all three. And where the height of a line is negative,
    two lines may fit where one does not. -/
theorem two_letters_too_wide :
    (farStyle.fault? = none ∧ 0 < farStyle.factor.line ∧
      ∀ c ∈ ['l', 'm', 'm'], farStyle.textWidth [c] = farStyle.fullWidth [c] ∧
        farStyle.fullWidth [c] ≤ 1800000000) ∧
    wrap? farStyle 1800000000 ['l', 'm', 'm'] = .ok [['l'], ['m', 'm']] ∧
    1800000000 < farStyle.fullWidth ['m', 'm'] ∧
    farStyle.textWidth ['l', 'm', 'm'] ≤ 1800000000 ∧
    CutWithin (sunkenBox.style sunkenBox.maxScale) sunkenBox.maxWidth ['l', 'l'] [['l'], ['l']] ∧
    sunkenBox.lineHeight sunkenBox.maxScale = .ok (-396483647) ∧
    -396483647 * 2 ≤ sunkenBox.maxHeight ∧
    ¬sunkenBox.FitsAt ['l', 'l'] sunkenBox.maxScale := by
  have height : sunkenBox.lineHeight sunkenBox.maxScale = .ok (-396483647) := by decide +kernel
  have hall : ['l', 'm', 'm'].all (fun c =>
      decide (farStyle.textWidth [c] = farStyle.fullWidth [c] ∧
        farStyle.fullWidth [c] ≤ 1800000000)) = true := by
    decide +kernel
  refine ⟨⟨by decide +kernel, by decide +kernel,
      fun c hc => of_decide_eq_true (List.all_eq_true.1 hall c hc)⟩, by decide +kernel,
    by decide +kernel, by decide +kernel, ⟨rfl, by decide +kernel⟩, height, by decide, ?_⟩
  rintro ⟨other, hother, -, hlow⟩
  cases height.symm.trans hother
  revert hlow
  decide +kernel

end Box

end DeskCalc
