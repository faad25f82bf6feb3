import Mathlib.Data.List.TakeWhile
import DeskCalc.Proofs.Infinity
import DeskCalc.Proofs.Picture.Measure

/-!
# The width of a stretch of a text

The pen only goes forward: a text with something in front of it or behind it is no narrower,
whatever is rounded on the way and however far it goes. This file fixes

* `TextStyle.addUp`: the widths of some bytes added up behind a sum, and `advance_eq`: where a text
  without a NUL takes the pen;
* `TextStyle.seen`: what is seen of a text, and `textWidth_seen`: the rest takes no room;
* `TextStyle.fullWidth`: the width of a text as it is before 32 bits hold it;
* **`TextStyle.fullWidth_mono`**: a stretch of a text is no wider than the text;
* `TextStyle.textWidth_eq_ite`: what 32 bits make of a width.
-/

namespace DeskCalc

open Binary64 (NonNegative)

/-! ## 1. Bytes one after another -/

theorem Typeface.byteWidths_bounds {face : Typeface} {c : Char} {width : Nat}
    (h : width ∈ face.byteWidths c) : 1 ≤ width ∧ width ≤ 31 := by
  unfold byteWidths at h
  split at h
  · rename_i hprintable
    have hall : (List.range 95).all (fun i =>
        1 ≤ face.widths.getD i face.unknownWidth && face.widths.getD i face.unknownWidth ≤ 31) =
          true := by
      cases face <;> decide
    have hwidth := List.all_eq_true.1 hall (c.toNat - 32) (List.mem_range.2 (by omega))
    rw [List.mem_singleton.1 h]
    simpa using hwidth
  · rw [List.eq_of_mem_replicate h]
    cases face <;> decide

namespace TextStyle

variable {style : TextStyle} {start start' : Binary64} {widths : List Nat}

/-- The widths of some bytes at the scale, added up behind a sum from left to right. -/
def addUp (style : TextStyle) (start : Binary64) (widths : List Nat) : Binary64 :=
  widths.foldl (fun sum (width : Nat) => sum + Binary64.ofInt width * style.factor) start

theorem addUp_append (widths more : List Nat) :
    style.addUp start (widths ++ more) = style.addUp (style.addUp start widths) more :=
  List.foldl_append

theorem addUp_singleton (width : Nat) :
    style.addUp start [width] = start + Binary64.ofInt width * style.factor := rfl

/-- A byte of a whole number of pixels takes the sum on by just as many each time. -/
theorem addUp_replicate {width share : Nat}
    (hshare : Binary64.ofInt width * style.factor = Binary64.ofInt share) {n : Nat}
    (hroom : n * share ≤ twoPow 53) :
    style.addUp 0 (List.replicate n width) = Binary64.ofInt (n * share : Nat) := by
  induction n with
  | zero =>
    rw [Nat.zero_mul]
    rfl
  | succ n ih =>
    rw [Nat.succ_mul] at hroom ⊢
    rw [List.replicate_succ', addUp_append, ih (by omega), addUp_singleton, hshare,
      Binary64.ofInt_add hroom]

/-- No byte leads back. -/
def Forward (style : TextStyle) (widths : List Nat) : Prop :=
  ∀ width ∈ widths, (Binary64.ofInt width * style.factor).NonNegative

theorem forward_cons {width : Nat} :
    style.Forward (width :: widths) ↔
      (Binary64.ofInt width * style.factor).NonNegative ∧ style.Forward widths :=
  List.forall_mem_cons

theorem Forward.nonNegative (h : style.Forward widths) (hstart : start.NonNegative) :
    (style.addUp start widths).NonNegative := by
  induction widths generalizing start with
  | nil => exact hstart
  | cons width rest ih =>
    obtain ⟨hwidth, hrest⟩ := forward_cons.1 h
    exact ih hrest (hstart.add hwidth)

/-- Behind more bytes the sum is no smaller. -/
theorem Forward.line_le (h : style.Forward widths) (hstart : start.NonNegative) :
    start.line ≤ (style.addUp start widths).line := by
  induction widths generalizing start with
  | nil => exact Int.le_refl _
  | cons width rest ih =>
    obtain ⟨hwidth, hrest⟩ := forward_cons.1 h
    calc start.line ≤ (start + Binary64.ofInt width * style.factor).line :=
          hstart.line_le_line_add hwidth
      _ ≤ _ := ih hrest (hstart.add hwidth)

/-- From further on the same bytes lead no less far. -/
theorem Forward.line_mono (h : style.Forward widths) (hstart : start.NonNegative)
    (hstart' : start'.NonNegative) (hle : start.line ≤ start'.line) :
    (style.addUp start widths).line ≤ (style.addUp start' widths).line := by
  induction widths generalizing start start' with
  | nil => exact hle
  | cons width rest ih =>
    obtain ⟨hwidth, hrest⟩ := forward_cons.1 h
    exact ih hrest (hstart.add hwidth) (hstart'.add hwidth)
      (hstart.line_add_mono hstart' hle hwidth.finite_or_infinite)

/-- At a positive scale every byte leads forward. -/
theorem nonNegative_share (hscale : 0 < style.factor.line) {width : Nat} (hsome : 1 ≤ width)
    (hfew : width ≤ 31) : (Binary64.ofInt width * style.factor).NonNegative := by
  have hexact : width ≤ twoPow 53 := Nat.le_trans hfew (by decide)
  have hwidth : 0 ≤ (Binary64.ofInt width).line := by
    rw [Binary64.line_ofInt_natCast hexact]
    exact Int.mul_nonneg (Int.natCast_nonneg _) (Int.natCast_nonneg _)
  refine ⟨?_, Binary64.nonneg_line_mul hwidth (Int.le_of_lt hscale)⟩
  cases hfactor : style.factor with
  | nan =>
    rw [hfactor] at hscale
    exact absurd hscale (Int.lt_irrefl 0)
  | infinite s =>
    have hunits : width * unitsPerOne ≠ 0 :=
      Nat.pos_iff_ne_zero.1 (Nat.mul_pos hsome unitsPerOne_pos)
    rw [Binary64.ofInt_natCast hexact]
    show (if width * unitsPerOne = 0 then Binary64.nan else .infinite (false != s)).isNaN = false
    rw [if_neg hunits]
    rfl
  | finite s units representable =>
    rw [Binary64.ofInt_natCast hexact]
    exact Binary64.isNaN_ofRatio _ _ _

/-! ## 2. Texts -/

/-- The widths of the bytes of a text. -/
def bytes (style : TextStyle) (text : List Char) : List Nat := text.flatMap style.face.byteWidths

theorem bytes_cons (c : Char) (rest : List Char) :
    style.bytes (c :: rest) = style.face.byteWidths c ++ style.bytes rest :=
  List.flatMap_cons

theorem bytes_append (text more : List Char) :
    style.bytes (text ++ more) = style.bytes text ++ style.bytes more :=
  List.flatMap_append

theorem forward_byteWidths (hscale : 0 < style.factor.line) (c : Char) :
    style.Forward (style.face.byteWidths c) := by
  intro width hwidth
  obtain ⟨hsome, hfew⟩ := Typeface.byteWidths_bounds hwidth
  exact nonNegative_share hscale hsome hfew

theorem forward_bytes (hscale : 0 < style.factor.line) (text : List Char) :
    style.Forward (style.bytes text) := by
  intro width hwidth
  obtain ⟨c, -, hwidth⟩ := List.mem_flatMap.1 hwidth
  exact forward_byteWidths hscale c width hwidth

/-- Without a NUL a text takes the pen on by all of its bytes. -/
theorem putAll_eq {pen : Pen} (hopen : pen.ended = false) {text : List Char}
    (hnul : '\x00' ∉ text) :
    pen.putAll style text = { pen with advance := style.addUp pen.advance (style.bytes text) } := by
  induction text generalizing pen with
  | nil => rfl
  | cons c rest ih =>
    have hc : c ≠ '\x00' := fun heq => hnul (heq ▸ List.mem_cons_self)
    have hput : pen.put style c =
        { pen with advance := style.addUp pen.advance (style.face.byteWidths c) } := by
      simp [Pen.put, hopen, hc, addUp]
    have hrest : '\x00' ∉ rest := fun hmem => hnul (List.mem_cons_of_mem _ hmem)
    have hopen' : (pen.put style c).ended = false := by rw [hput, hopen]
    show (pen.put style c).putAll style rest = _
    rw [ih hopen' hrest, hput, bytes_cons, addUp_append]

theorem advance_eq {text : List Char} (hnul : '\x00' ∉ text) :
    style.advance text = style.addUp 0 (style.bytes text) := by
  rw [advance, putAll_eq rfl hnul]

theorem bytes_replicate {c : Char} {width : Nat} (h : style.face.byteWidths c = [width]) (n : Nat) :
    style.bytes (List.replicate n c) = List.replicate n width := by
  induction n with
  | zero => rfl
  | succ n ih =>
    rw [List.replicate_succ, bytes_cons, h, ih, List.replicate_succ, List.singleton_append]

theorem nul_not_mem_replicate {c : Char} (hc : c ≠ '\x00') (n : Nat) :
    '\x00' ∉ List.replicate n c :=
  fun hmem => hc (List.eq_of_mem_replicate hmem).symm

/-- A character of a whole number of pixels takes the pen on by just as many each time. -/
theorem advance_replicate {c : Char} (hc : c ≠ '\x00') {width share n : Nat}
    (hbyte : style.face.byteWidths c = [width])
    (hshare : Binary64.ofInt width * style.factor = Binary64.ofInt share)
    (hroom : n * share ≤ twoPow 53) :
    style.advance (List.replicate n c) = Binary64.ofInt (n * share : Nat) := by
  rw [advance_eq (nul_not_mem_replicate hc n), bytes_replicate hbyte, addUp_replicate hshare hroom]

theorem nonNegative_zero : (0 : Binary64).NonNegative :=
  ⟨by decide +kernel, by decide +kernel⟩

/-- No text leads back, with a NUL or without one. -/
theorem nonNegative_putAll (hscale : 0 < style.factor.line) {pen : Pen}
    (h : pen.advance.NonNegative) (text : List Char) :
    (pen.putAll style text).advance.NonNegative := by
  induction text generalizing pen with
  | nil => exact h
  | cons c rest ih =>
    have hput : (pen.put style c).advance.NonNegative := by
      unfold Pen.put
      split
      · exact h
      · exact (forward_byteWidths hscale c).nonNegative h
    exact ih hput

theorem nonNegative_advance (hscale : 0 < style.factor.line) (text : List Char) :
    (style.advance text).NonNegative :=
  nonNegative_putAll hscale nonNegative_zero text

/-- **A stretch of a text takes the pen no further than the text.** -/
theorem advance_mono (hscale : 0 < style.factor.line) {part text : List Char}
    (hpart : part <:+: text) (hnul : '\x00' ∉ text) :
    (style.advance part).line ≤ (style.advance text).line := by
  have hnulPart : '\x00' ∉ part := fun hmem => hnul (hpart.subset hmem)
  obtain ⟨before, behind, rfl⟩ := hpart
  rw [advance_eq hnul, advance_eq hnulPart, bytes_append, bytes_append]
  have hbefore := (forward_bytes hscale before).nonNegative nonNegative_zero
  have hpart := forward_bytes hscale part
  calc (style.addUp 0 (style.bytes part)).line
      ≤ (style.addUp (style.addUp 0 (style.bytes before)) (style.bytes part)).line :=
        hpart.line_mono nonNegative_zero hbefore
          ((forward_bytes hscale before).line_le nonNegative_zero)
    _ ≤ (style.addUp (style.addUp (style.addUp 0 (style.bytes before)) (style.bytes part))
          (style.bytes behind)).line :=
        (forward_bytes hscale behind).line_le (hpart.nonNegative hbefore)
    _ = _ := by rw [addUp_append, addUp_append]

/-- What is seen of a text, which ends at its first NUL. -/
def seen (text : List Char) : List Char := text.takeWhile (· != '\x00')

theorem seen_eq_self {text : List Char} (hnul : '\x00' ∉ text) : seen text = text := by
  refine List.takeWhile_eq_self_iff.2 fun c hc => bne_iff_ne.2 ?_
  rintro rfl
  exact hnul hc

theorem advance_putAll_of_ended {pen : Pen} (h : pen.ended = true) (text : List Char) :
    (pen.putAll style text).advance = pen.advance := by
  induction text generalizing pen with
  | nil => rfl
  | cons c rest ih =>
    have hput : pen.put style c = { pen with ended := true } := by simp [Pen.put, h]
    show ((pen.put style c).putAll style rest).advance = pen.advance
    rw [hput]
    exact ih rfl

theorem advance_putAll_seen (pen : Pen) (text : List Char) :
    (pen.putAll style (seen text)).advance = (pen.putAll style text).advance := by
  induction text generalizing pen with
  | nil => rfl
  | cons c rest ih =>
    by_cases hc : c = '\x00'
    · subst hc
      have hput : pen.put style '\x00' = { pen with ended := true } := by simp [Pen.put]
      show pen.advance = ((pen.put style '\x00').putAll style rest).advance
      rw [hput, advance_putAll_of_ended rfl]
    · have hseen : seen (c :: rest) = c :: seen rest :=
        List.takeWhile_cons_of_pos (bne_iff_ne.2 hc)
      rw [hseen]
      exact ih _

/-- **What stands behind a NUL takes no room.** -/
theorem textWidth_seen (text : List Char) : style.textWidth (seen text) = style.textWidth text := by
  show ((Pen.putAll style {} (seen text)).advance + _).round32 = _
  rw [advance_putAll_seen]
  rfl

/-! ## 3. Widths and 32 bits -/

/-- The width of a text as it is before 32 bits hold it; what lies beyond every double counts as
    `2^1024`. -/
def fullWidth (style : TextStyle) (text : List Char) : Int :=
  (style.advance text + Binary64.ofInt style.thickness).round

theorem fullWidth_eq {thickness : Nat} (h : style.thickness = thickness) (text : List Char) :
    style.fullWidth text = (style.advance text + Binary64.ofInt thickness).round := by
  rw [fullWidth, h]

theorem fullWidth_of_advance {n thickness : Nat} (h : style.thickness = thickness)
    {text : List Char} (hadvance : style.advance text = Binary64.ofInt n)
    (hroom : n + thickness ≤ twoPow 53) : style.fullWidth text = (n + thickness : Nat) := by
  rw [fullWidth_eq h, hadvance, Binary64.ofInt_add hroom, Binary64.round_ofInt_natCast hroom]

/-- What can be measured has a thickness of 32 bits. -/
theorem thickness_of_measurable (h : style.fault? = none) :
    -(twoPow 31 : Int) ≤ style.thickness ∧ style.thickness < twoPow 31 := by
  unfold fault? at h
  split at h
  · cases h
  · split at h
    · rename_i hthickness
      simpa using hthickness
    · cases h

theorem natAbs_thickness_le (h : style.fault? = none) : style.thickness.natAbs ≤ twoPow 31 := by
  have hthickness := thickness_of_measurable h
  omega

theorem isFinite_thickness (h : style.fault? = none) :
    (Binary64.ofInt style.thickness).isFinite = true := by
  have hpower : twoPow 31 < twoPow 32 := twoPow_lt (by decide)
  have habs := natAbs_thickness_le h
  exact (Binary64.below_ofInt (k := 32) (by omega) (by decide)).isFinite

/-- **A stretch of a text is no wider than the text.** -/
theorem fullWidth_mono (hscale : 0 < style.factor.line) (hmeasurable : style.fault? = none)
    {part text : List Char} (hpart : part <:+: text) (hnul : '\x00' ∉ text) :
    style.fullWidth part ≤ style.fullWidth text := by
  refine Binary64.round_mono ?_
  exact (nonNegative_advance hscale part).line_add_mono (nonNegative_advance hscale text)
    (advance_mono hscale hpart hnul) (.inl (isFinite_thickness hmeasurable))

/-- Nothing is narrower than its strokes are thick. -/
theorem thickness_le_fullWidth (hscale : 0 < style.factor.line) (hmeasurable : style.fault? = none)
    (text : List Char) : style.thickness ≤ style.fullWidth text := by
  have hroom : twoPow 31 ≤ twoPow 53 := twoPow_le (by decide)
  have habs := natAbs_thickness_le hmeasurable
  have hfinite := isFinite_thickness hmeasurable
  have hzero : (0 : Binary64).line = 0 := by decide +kernel
  have hadvance := nonNegative_advance hscale text
  have hempty : (0 + Binary64.ofInt style.thickness).line =
      (Binary64.ofInt style.thickness).line := by
    rw [Binary64.line_add Pen.upTo_advance_nil.isFinite hfinite, hzero, Int.zero_add,
      Binary64.settle_line hfinite]
  have hsum : (Binary64.ofInt style.thickness).line ≤
      (style.advance text + Binary64.ofInt style.thickness).line :=
    hempty ▸ nonNegative_zero.line_add_mono hadvance (hzero ▸ hadvance.nonneg) (.inl hfinite)
  calc style.thickness = (Binary64.ofInt style.thickness).round :=
        (Binary64.round_ofInt (by omega)).symm
    _ ≤ style.fullWidth text := Binary64.round_mono hsum

/-- What 32 bits hold is finite. -/
theorem isFinite_of_round {x : Binary64} (hnumber : x.isNaN = false)
    (hlow : -(twoPow 31 : Int) ≤ x.round) (hhigh : x.round < twoPow 31) : x.isFinite = true := by
  cases x with
  | nan => cases hnumber
  | finite => rfl
  | infinite s =>
    -- infinity rounds to `2^1024`
    have hlarge : twoPow 31 < twoPow 1024 := twoPow_lt (by decide)
    have hround : twoPow 1024 ≤ roundQuotient overflowUnits unitsPerOne :=
      le_roundQuotient unitsPerOne_pos (Nat.le_of_eq overflowUnits_eq.symm)
    cases s with
    | false =>
      change ((roundQuotient overflowUnits unitsPerOne : Nat) : Int) < _ at hhigh
      omega
    | true =>
      change _ ≤ -((roundQuotient overflowUnits unitsPerOne : Nat) : Int) at hlow
      omega

theorem neg_twoPow_le_fullWidth (hscale : 0 < style.factor.line)
    (hmeasurable : style.fault? = none) (text : List Char) :
    -(twoPow 31 : Int) ≤ style.fullWidth text :=
  Int.le_trans (thickness_of_measurable hmeasurable).1
    (thickness_le_fullWidth hscale hmeasurable text)

/-- What 32 bits hold has not come to infinity on the way. -/
theorem isFinite_of_fullWidth_lt (hscale : 0 < style.factor.line)
    (hmeasurable : style.fault? = none) {text : List Char}
    (hbits : style.fullWidth text < twoPow 31) :
    (style.advance text).isFinite = true ∧
      (style.advance text + Binary64.ofInt style.thickness).isFinite = true := by
  have hadvance := nonNegative_advance hscale text
  have hthickness := isFinite_thickness hmeasurable
  have hsum := isFinite_of_round (hadvance.isNaN_add (.inl hthickness))
    (neg_twoPow_le_fullWidth hscale hmeasurable text) hbits
  refine ⟨?_, hsum⟩
  rcases hadvance.finite_or_infinite with hfinite | hinfinite
  · exact hfinite
  · rw [hinfinite, NonNegative.infinite_add (.inl hthickness)] at hsum
    cases hsum

/-- **What 32 bits make of a width**: it is exact below `2^31`, and wider texts come out as the
    smallest number. -/
theorem textWidth_eq_ite (hscale : 0 < style.factor.line) (hmeasurable : style.fault? = none)
    (text : List Char) :
    style.textWidth text =
      if style.fullWidth text < twoPow 31 then style.fullWidth text else -(twoPow 31 : Int) := by
  have hlow := neg_twoPow_le_fullWidth hscale hmeasurable text
  show (if (style.advance text + Binary64.ofInt style.thickness).isFinite &&
      -(twoPow 31 : Int) ≤ style.fullWidth text && style.fullWidth text < twoPow 31
    then style.fullWidth text else _) = _
  by_cases hhigh : style.fullWidth text < twoPow 31
  · have hfinite := (isFinite_of_fullWidth_lt hscale hmeasurable hhigh).2
    simp [hfinite, hlow, hhigh]
  · simp [hhigh]

/-- A text that is wider than 32 bits hold measures less than nothing. -/
theorem textWidth_of_le (hscale : 0 < style.factor.line) (hmeasurable : style.fault? = none)
    {text : List Char} (hwide : twoPow 31 ≤ style.fullWidth text) :
    style.textWidth text = -(twoPow 31 : Int) := by
  rw [textWidth_eq_ite hscale hmeasurable, if_neg (Int.not_lt.2 hwide)]

theorem textWidth_le_fullWidth (hscale : 0 < style.factor.line) (hmeasurable : style.fault? = none)
    (text : List Char) : style.textWidth text ≤ style.fullWidth text := by
  have hpower := twoPow_pos 31
  rw [textWidth_eq_ite hscale hmeasurable]
  split
  · exact Int.le_refl _
  · omega

/-- A text that is no wider keeps the width. -/
theorem keeps_of_fullWidth_le (hscale : 0 < style.factor.line) (hmeasurable : style.fault? = none)
    {text : List Char} (hnul : '\x00' ∉ text) {maxWidth : Int}
    (hwidth : style.fullWidth text ≤ maxWidth) : Keeps style maxWidth text := fun front hfront _ =>
  calc style.textWidth front
      ≤ style.fullWidth front := textWidth_le_fullWidth hscale hmeasurable front
    _ ≤ style.fullWidth text := fullWidth_mono hscale hmeasurable hfront.isInfix hnul
    _ ≤ maxWidth := hwidth

end TextStyle

end DeskCalc
