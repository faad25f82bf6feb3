import DeskCalc.Proofs.Monotone
import DeskCalc.Proofs.Picture.Drawable
import DeskCalc.Proofs.Picture.Lines

/-!
# The scale at which a text fits

A box tries one scale after another, each nine tenths of the one before but never below the smallest
one. Above the smallest scale nine tenths of a double are always less than the double, so the search
comes to an end. This file fixes

* `Box.scaleAt`: the scales in the order in which they are tried;
* `Box.FitsAt`: the lines at a scale are few and low enough;
* `Shrinking.scaleAfter_spec`: above the smallest scale the next one is smaller;
* `exists_search_eq`: the search stops at the first scale that holds the text or is small enough;
* **`fit_stops_at_first`**: what a box makes of any text.
-/

namespace DeskCalc

/-! ## 1. Places of quantities -/

namespace Quantity

variable {q p : Quantity} {k j : Nat}

/-- The place of a quantity on the number line in units, infinities at the overflow bounds. -/
def line : Quantity → Int
  | whole n => n * unitsPerOne
  | real x => x.line

theorem natAbs_line (q : Quantity) : q.line.natAbs = q.magnitude := by
  cases q with
  | whole n => rw [line, Int.natAbs_mul, Int.natAbs_natCast]; rfl
  | real x => exact x.natAbs_line

theorem Below.place?_eq (h : q.Below k) : q.place? = some (0, q.line) := by
  cases h with
  | whole h => rfl
  | real h =>
    cases h
    rfl

theorem Below.atMost_iff (hq : q.Below k) (hp : p.Below j) :
    q.atMost p = true ↔ q.line ≤ p.line := by
  simp [atMost, hq.place?_eq, hp.place?_eq]

theorem Below.less_iff (hq : q.Below k) (hp : p.Below j) :
    q.less p = true ↔ q.line < p.line := by
  simp [less, hq.place?_eq, hp.place?_eq]

theorem Below.toBinary64_eq (h : q.Below k) (hroom : k < 1024) :
    q.toBinary64 = .ok q.nearest := by
  cases h with
  | whole h => exact Binary64.ofWhole_of_below (Binary64.below_ofInt h hroom)
  | real h => rfl

end Quantity

/-! ## 2. Nine tenths -/

namespace Binary64

/-- Nine tenths, as a double, and how far they are from one. -/
theorem exists_nineTenths :
    ∃ units representable, (0.9 : Binary64) = finite false units representable ∧
      unitsPerOne ≤ twoPow 52 * (unitsPerOne - units) := by
  have hfinite : (0.9 : Binary64).isFinite = true := by decide +kernel
  have hsign : (0.9 : Binary64).isNegative = false := by decide +kernel
  have hgap : unitsPerOne ≤ twoPow 52 * (unitsPerOne - (0.9 : Binary64).magnitude) := by
    decide +kernel
  cases hnine : (0.9 : Binary64) with
  | nan | infinite =>
    rw [hnine] at hfinite
    cases hfinite
  | finite negative units representable =>
    rw [hnine] at hsign hgap
    obtain rfl : negative = false := hsign
    exact ⟨units, representable, rfl, hgap⟩

/-- The double before a normal one. -/
theorem representable_sub_spacing {m : Nat} (h : Representable m) :
    Representable (m - twoPow (spacing m)) := by
  obtain ⟨digits, hdigits, hsmall⟩ := h.exists_mul
  have hless : m - twoPow (spacing m) = (digits - 1) * twoPow (spacing m) := by
    rw [Nat.sub_mul, Nat.one_mul, ← hdigits]
  refine ⟨Nat.lt_of_le_of_lt (Nat.sub_le _ _) h.1, ?_⟩
  rw [hless]
  exact spacing_dvd_mul (by omega)

/-- **Nine tenths of a normal double are less than the double.** -/
theorem nearest_nineTenths_lt {m units : Nat} (h : Representable m) (hnormal : twoPow 52 ≤ m)
    (hgap : unitsPerOne ≤ twoPow 52 * (unitsPerOne - units)) :
    nearest (m * units) unitsPerOne < m := by
  have hm : m ≠ 0 := Nat.pos_iff_ne_zero.1 (Nat.lt_of_lt_of_le (twoPow_pos 52) hnormal)
  have hlog : 52 ≤ m.log2 := by
    rcases Nat.lt_or_ge m.log2 52 with hlt | hge
    · exact absurd ((log2_lt_iff hm).1 hlt) (Nat.not_lt.2 hnormal)
    · exact hge
  -- the spacing is at most one part in `2^52`
  have hspacing : twoPow (spacing m) * twoPow 52 ≤ m := by
    rw [← twoPow_add, spacing, Nat.sub_add_cancel hlog]
    exact Nat.log2_self_le hm
  have hstep := twoPow_pos (spacing m)
  have hless : m * units ≤ (m - twoPow (spacing m)) * unitsPerOne := by
    have hcut : twoPow (spacing m) * unitsPerOne ≤ m * (unitsPerOne - units) :=
      calc twoPow (spacing m) * unitsPerOne
          ≤ twoPow (spacing m) * (twoPow 52 * (unitsPerOne - units)) := Nat.mul_le_mul_left _ hgap
        _ = twoPow (spacing m) * twoPow 52 * (unitsPerOne - units) := (Nat.mul_assoc _ _ _).symm
        _ ≤ m * (unitsPerOne - units) := Nat.mul_le_mul_right _ hspacing
    rw [Nat.mul_sub] at hcut
    rw [Nat.sub_mul]
    have hunits : units ≤ unitsPerOne := by
      refine Nat.le_of_not_lt fun hlt => ?_
      rw [Nat.sub_eq_zero_of_le (Nat.le_of_lt hlt), Nat.mul_zero] at hgap
      exact absurd hgap (Nat.not_le.2 unitsPerOne_pos)
    have hall := Nat.mul_le_mul_left m hunits
    have hpart := Nat.mul_le_mul_right unitsPerOne (Nat.le_trans
      (Nat.le_mul_of_pos_right (twoPow (spacing m)) (twoPow_pos 52)) hspacing)
    omega
  calc nearest (m * units) unitsPerOne
      ≤ nearest ((m - twoPow (spacing m)) * unitsPerOne) unitsPerOne :=
        nearest_mono unitsPerOne_pos hless
    _ = m - twoPow (spacing m) := nearest_eq_self (representable_sub_spacing h) unitsPerOne_pos
    _ < m := Nat.sub_lt (Nat.pos_iff_ne_zero.2 hm) hstep

theorem mul_nineTenths {m : Nat} (h : Representable m) (hnormal : twoPow 52 ≤ m) :
    ∃ less, less < m ∧ ∃ representable : Representable less,
      finite false m h * 0.9 = finite false less representable := by
  obtain ⟨units, representable, hnine, hgap⟩ := exists_nineTenths
  have hless := nearest_nineTenths_lt h hnormal hgap
  have hbelow : nearest (m * units) unitsPerOne < overflowUnits := Nat.lt_trans hless h.1
  refine ⟨_, hless, representable_nearest hbelow, ?_⟩
  rw [hnine]
  exact ofRatio_eq_finite rfl false

theorem eight_mul_twoPow (n : Nat) : 8 * twoPow n = twoPow (n + 3) := by
  rw [twoPow_add, Nat.mul_comm]
  rfl

/-- Below `2^1021` there is room for eight times as much. -/
theorem eight_mul_lt {units : Nat} (h : units < twoPow 1021 * unitsPerOne) :
    8 * units < overflowUnits := by
  rw [overflowUnits_eq, ← eight_mul_twoPow 1021, Nat.mul_assoc]
  exact Nat.mul_lt_mul_of_pos_left h (by decide)

/-- Eight times a double is exact. -/
theorem representable_eight_mul {m : Nat} (h : Representable m) (hroom : 8 * m < overflowUnits) :
    Representable (8 * m) := by
  obtain ⟨digits, hdigits, hsmall⟩ := h.exists_mul
  refine ⟨hroom, ?_⟩
  have hdouble : 8 * m = digits * twoPow (spacing m + 3) := by
    rw [← eight_mul_twoPow, Nat.mul_left_comm, ← hdigits]
  rw [hdouble]
  exact spacing_dvd_mul (Nat.le_of_lt hsmall)

theorem eight_mul {s : Bool} {m : Nat} (h : Representable m) (hroom : 8 * m < overflowUnits) :
    8 * finite s m h = finite s (8 * m) (representable_eight_mul h hroom) := by
  have hwhole : (8 : Binary64) = finite false (8 * unitsPerOne) (representable_whole (by decide)) :=
    ofInt_natCast (by decide)
  rw [hwhole]
  show ofRatio (false != s) (8 * unitsPerOne * m) unitsPerOne = _
  rw [Bool.false_bne]
  refine ofRatio_eq_finite ?_ s
  rw [Nat.mul_right_comm]
  exact nearest_eq_self (representable_eight_mul h hroom) unitsPerOne_pos

end Binary64

namespace Quantity

variable {q : Quantity} {k : Nat}

/-- The double of a positive quantity is the rounded count of its units. -/
theorem Below.exists_nearest_eq (h : q.Below k) (hroom : k < 1024) (hpos : 0 < q.line) :
    ∃ representable, q.nearest = .finite false (DeskCalc.nearest q.magnitude 1) representable := by
  cases h with
  | @whole n h =>
    have hn : 0 < n := Int.pos_of_mul_pos_left hpos (Int.natCast_pos.2 unitsPerOne_pos)
    have hsign : decide (n < 0) = false := decide_eq_false (Int.not_lt.2 (Int.le_of_lt hn))
    have hfinite := (Binary64.below_ofInt h hroom).isFinite
    have hdouble : (Quantity.whole n).nearest =
        .ofRatio false (n.natAbs * unitsPerOne) 1 := by
      rw [← hsign]
      rfl
    have hbelow : DeskCalc.nearest (n.natAbs * unitsPerOne) 1 < overflowUnits := by
      refine Nat.lt_of_not_le fun hle => ?_
      change ((Quantity.whole n).nearest).isFinite = true at hfinite
      rw [hdouble, Binary64.ofRatio, dif_neg (Nat.not_lt.2 hle)] at hfinite
      cases hfinite
    exact ⟨representable_nearest hbelow, hdouble.trans (Binary64.ofRatio_eq_finite rfl false)⟩
  | real h =>
    cases h with
    | intro negative units representable below =>
      have hself := nearest_one_eq_self representable
      cases negative with
      | false =>
        refine ⟨hself.symm ▸ representable, ?_⟩
        show Binary64.finite false units representable = .finite false (DeskCalc.nearest units 1) _
        congr 1
        exact hself.symm
      | true =>
        change 0 < -(units : Int) at hpos
        omega

/-- **Nine tenths of a normal quantity, rounded, are less than the quantity.** -/
theorem Below.exists_mul_nineTenths (h : q.Below k) (hroom : k < 1024)
    (hnormal : (twoPow 52 : Int) ≤ q.line) :
    ∃ less representable, q.nearest * 0.9 = .finite false less representable ∧
      (less : Int) < q.line := by
  have hpower := twoPow_pos 52
  have hline : q.line = (q.magnitude : Int) := by
    have habs := q.natAbs_line
    omega
  obtain ⟨representable, hdouble⟩ := h.exists_nearest_eq hroom (by omega)
  have hlarge : twoPow 52 ≤ DeskCalc.nearest q.magnitude 1 := by
    rw [← nearest_one_eq_self (m := twoPow 52) (by decide +kernel)]
    exact nearest_mono Nat.one_pos (by omega)
  obtain ⟨less, hless, hrepresentable, hproduct⟩ :=
    Binary64.mul_nineTenths representable hlarge
  refine ⟨less, hrepresentable, hdouble ▸ hproduct, ?_⟩
  -- the product is a double, and no double lies between the quantity and its own double
  rw [hline, Int.ofNat_lt]
  refine Nat.lt_of_not_le fun hle => ?_
  have hself := nearest_one_eq_self hrepresentable
  have hmono := nearest_mono Nat.one_pos hle
  omega

theorem larger_eq_or (q p : Quantity) : q.larger p = q ∨ q.larger p = p := by
  unfold larger
  split
  · exact .inr rfl
  · exact .inl rfl

end Quantity

/-! ## 3. Scales that are worth the same -/

section Congruence

variable {style style' : TextStyle}

/-- A pen depends on the scale through its double alone, and so do lines. -/
theorem Pen.put_congr (hface : style.face = style'.face) (hfactor : style.factor = style'.factor) :
    Pen.put style = Pen.put style' := by
  funext pen c
  simp only [Pen.put, hface, hfactor]

theorem continueLine_congr (hface : style.face = style'.face)
    (hfactor : style.factor = style'.factor) (hthickness : style.thickness = style'.thickness)
    (maxWidth : Int) (pen : Pen) (text : List Char) :
    continueLine style maxWidth pen text = continueLine style' maxWidth pen text := by
  induction text generalizing pen with
  | nil => rfl
  | cons c rest ih =>
    have hwidth : Pen.width style = Pen.width style' := by
      funext pen
      simp only [Pen.width, hthickness]
    unfold continueLine
    rw [Pen.put_congr hface hfactor, hwidth]
    simp only [ih]

theorem wrap_congr (hface : style.face = style'.face) (hfactor : style.factor = style'.factor)
    (hthickness : style.thickness = style'.thickness) (maxWidth : Int) (text : List Char) :
    wrap style maxWidth text = wrap style' maxWidth text := by
  cases text with
  | nil => rfl
  | cons c rest =>
    simp only [wrap, Pen.put_congr hface hfactor, continueLine_congr hface hfactor hthickness]

end Congruence

namespace Quantity

/-- A quantity that is a positive double exactly is worth the same as the double. -/
theorem Below.alike {q : Quantity} {k units : Nat} (h : q.Below k) (hroom : k ≤ 1021)
    (representable : Representable units) (hline : q.line = units) (hpos : 0 < units) :
    q.nearest = .finite false units representable ∧
      q.eightfold = (Quantity.real (.finite false units representable)).eightfold := by
  have hmagnitude : q.magnitude = units := by
    rw [← q.natAbs_line, hline]
    rfl
  obtain ⟨representable', hdouble⟩ := h.exists_nearest_eq (by omega) (by omega)
  have hself : DeskCalc.nearest q.magnitude 1 = units := by
    rw [hmagnitude]
    exact nearest_one_eq_self representable
  have hnearest : q.nearest = .finite false units representable := by
    rw [hdouble]
    congr 1
  refine ⟨hnearest, ?_⟩
  cases h with
  | real h => exact congrArg (fun x => (Quantity.real x).eightfold) hnearest
  | @whole n h =>
    have hroom' : 8 * units < overflowUnits := by
      have hbound : units < twoPow 1021 * unitsPerOne :=
        calc units = n.natAbs * unitsPerOne := hmagnitude.symm
          _ < twoPow k * unitsPerOne := Nat.mul_lt_mul_of_pos_right h unitsPerOne_pos
          _ ≤ twoPow 1021 * unitsPerOne := Nat.mul_le_mul_right _ (twoPow_le hroom)
      exact Binary64.eight_mul_lt hbound
    have hn : (n.natAbs : Int) = n := by
      have hfactor : 0 < n * (unitsPerOne : Int) := by
        change (n * (unitsPerOne : Int) : Int) = units at hline
        omega
      have hn := Int.pos_of_mul_pos_left hfactor (Int.natCast_pos.2 unitsPerOne_pos)
      omega
    have hwhole : 8 * units / unitsPerOne = 8 * n.natAbs := by
      rw [← hmagnitude, magnitude, ← Nat.mul_assoc, Nat.mul_div_cancel _ unitsPerOne_pos]
    show Except.ok (8 * n) =
      (8 * Binary64.finite false units representable).truncateWhole
    rw [Binary64.eight_mul representable hroom']
    show Except.ok (8 * n) = Except.ok (((8 * units / unitsPerOne : Nat) : Int))
    rw [hwhole]
    congr 1
    omega

end Quantity

/-! ## 4. The scales of a box -/

/-- What the search relies on: doubles hold eight times the largest scale, the smallest one is a
    positive normal double, strokes of the thickness can be drawn, and there may be a line. -/
structure Box.Shrinking (box : Box) : Prop where
  maxScale : box.maxScale.Below 1021
  minScale : ∃ units representable, box.minScale = .real (.finite false units representable) ∧
    twoPow 52 ≤ units
  thickness : -(twoPow 31 : Int) ≤ box.thickness ∧ box.thickness < twoPow 31
  maxLines : 1 ≤ box.maxLines

namespace Box

/-- Nine tenths of a scale, or the smallest scale if that is larger. -/
def scaleAfter (box : Box) (scale : Quantity) : Quantity :=
  (Quantity.real (scale.nearest * 0.9)).larger box.minScale

/-- The scales that a box tries, from the largest one on. -/
def scaleAt (box : Box) : Nat → Quantity
  | 0 => box.maxScale
  | k + 1 => box.scaleAfter (box.scaleAt k)

/-- At this scale the lines are few and low enough. -/
def FitsAt (box : Box) (text : List Char) (scale : Quantity) : Prop :=
  ∃ height, box.lineHeight scale = .ok height ∧
    ((wrap (box.style scale) box.maxWidth text).length : Int) ≤ box.maxLines ∧
    height * (wrap (box.style scale) box.maxWidth text).length ≤ box.maxHeight

/-- The search stops at this scale: the text fits, or the scale is small enough. -/
def StopsAt (box : Box) (text : List Char) (scale : Quantity) : Prop :=
  box.FitsAt text scale ∨ scale.atMost box.minScale = true

variable {box : Box} {scale : Quantity} {text : List Char}

namespace Shrinking

theorem below_minScale (h : box.Shrinking) : box.minScale.Below 1024 := by
  obtain ⟨units, representable, hmin, -⟩ := h.minScale
  rw [hmin]
  refine .real (.intro _ _ _ ?_)
  rw [← overflowUnits_eq]
  exact representable.1

theorem le_line_minScale (h : box.Shrinking) : (twoPow 52 : Int) ≤ box.minScale.line := by
  obtain ⟨units, representable, hmin, hnormal⟩ := h.minScale
  rw [hmin]
  exact Int.ofNat_le.2 hnormal

theorem below_minScale_of_le (h : box.Shrinking) {k : Nat} (hscale : scale.Below k)
    (hle : box.minScale.line ≤ scale.line) : box.minScale.Below k := by
  obtain ⟨units, representable, hmin, -⟩ := h.minScale
  have hbound := hscale.magnitude_lt
  have habs := scale.natAbs_line
  rw [hmin] at hle ⊢
  change (units : Int) ≤ scale.line at hle
  exact .real (.intro _ _ _ (by omega))

/-- **Above the smallest scale the next one is smaller,** and no smaller than that one. -/
theorem scaleAfter_spec (h : box.Shrinking) (hscale : scale.Below 1021)
    (hlarge : scale.atMost box.minScale = false) :
    (box.scaleAfter scale).Below 1021 ∧ (box.scaleAfter scale).line < scale.line ∧
      box.minScale.line ≤ (box.scaleAfter scale).line := by
  have hmin := h.below_minScale
  have hnormal := h.le_line_minScale
  have habove : box.minScale.line < scale.line := by
    refine Int.not_le.1 fun hle => ?_
    rw [(hscale.atMost_iff hmin).2 hle] at hlarge
    cases hlarge
  obtain ⟨less, representable, hproduct, hless⟩ :=
    hscale.exists_mul_nineTenths (by omega) (by omega)
  have hproductBelow : (Quantity.real (.finite false less representable)).Below 1021 := by
    have hbound := hscale.magnitude_lt
    have habs := scale.natAbs_line
    exact .real (.intro _ _ _ (by omega))
  have hminBelow := h.below_minScale_of_le hscale (Int.le_of_lt habove)
  unfold scaleAfter
  rw [hproduct]
  unfold Quantity.larger
  split
  · exact ⟨hminBelow, habove, Int.le_refl _⟩
  · rename_i hnotLess
    refine ⟨hproductBelow, hless, Int.not_lt.1 fun hlt => hnotLess ?_⟩
    exact (hproductBelow.less_iff hmin).2 hlt

end Shrinking

theorem nextScale_eq (box : Box) (h : scale.Below 1021) :
    box.nextScale scale = .ok (box.scaleAfter scale) := by
  have hdouble := h.toBinary64_eq (by omega)
  simp only [nextScale, Quantity.scaled, hdouble]
  rfl

/-- The height of a line can be computed. -/
theorem exists_lineHeight (box : Box) (h : scale.Below 1021) :
    ∃ height, box.lineHeight scale = .ok height := by
  have height : ∃ n, scale.eightfold = .ok n := by
    cases h with
    | whole h => exact ⟨_, rfl⟩
    | real h =>
      cases h with
      | intro negative units representable below =>
        rw [Quantity.eightfold, Binary64.eight_mul representable (Binary64.eight_mul_lt below)]
        exact ⟨_, rfl⟩
  obtain ⟨n, hn⟩ := height
  exact ⟨_, do_eq_ok.2 ⟨n, hn, rfl⟩⟩

/-- The lines at one scale, and whether the search stops there. -/
theorem exists_atScale_eq (box : Box) (h : scale.Below 1021) (text : List Char) :
    ∃ height, box.lineHeight scale = .ok height ∧
      box.atScale text scale = .ok ⟨wrap (box.style scale) box.maxWidth text, scale, height⟩ ∧
      ((box.holds ⟨wrap (box.style scale) box.maxWidth text, scale, height⟩ ||
        scale.atMost box.minScale) = true ↔ box.StopsAt text scale) := by
  obtain ⟨height, hheight⟩ := box.exists_lineHeight h
  refine ⟨height, hheight, do_eq_ok.2 ⟨height, hheight, rfl⟩, ?_⟩
  simp only [holds, Bool.or_eq_true, Bool.and_eq_true, decide_eq_true_eq, StopsAt, FitsAt, hheight,
    Except.ok.injEq, exists_eq_left']

/-! ## 5. The search -/

theorem search_eq_of_stop {fitted : Fitted} (hat : box.atScale text scale = .ok fitted)
    (hstop : (box.holds fitted || scale.atMost box.minScale) = true) :
    box.search text scale = .ok fitted := by
  rw [search, hat]
  dsimp only
  rw [if_pos hstop]

/-- **The search stops at the first scale that holds the text or is small enough.** -/
theorem exists_search_eq (h : box.Shrinking) (text : List Char) {k : Nat}
    (hscale : (box.scaleAt k).Below 1021) (hbefore : ∀ i < k, ¬box.StopsAt text (box.scaleAt i)) :
    ∃ j height, box.search text (box.scaleAt k) =
        .ok ⟨wrap (box.style (box.scaleAt j)) box.maxWidth text, box.scaleAt j, height⟩ ∧
      box.lineHeight (box.scaleAt j) = .ok height ∧ box.StopsAt text (box.scaleAt j) ∧
      ∀ i < j, ¬box.StopsAt text (box.scaleAt i) := by
  -- the scale shrinks from one step to the next
  induction hsize : (box.scaleAt k).magnitude using Nat.strong_induction_on generalizing k with
  | h size ih =>
    obtain ⟨height, hheight, hat, hstops⟩ := box.exists_atScale_eq hscale text
    by_cases hstop : box.StopsAt text (box.scaleAt k)
    · refine ⟨k, height, ?_, hheight, hstop, hbefore⟩
      exact search_eq_of_stop hat (hstops.2 hstop)
    · have hlarge : (box.scaleAt k).atMost box.minScale = false :=
        Bool.eq_false_iff.2 fun hsmall => hstop (.inr hsmall)
      obtain ⟨hbelow, hless, hmin⟩ := h.scaleAfter_spec hscale hlarge
      have hnormal := h.le_line_minScale
      have hmagnitude : (box.scaleAfter (box.scaleAt k)).magnitude < (box.scaleAt k).magnitude := by
        have habs := (box.scaleAt k).natAbs_line
        have habs' := (box.scaleAfter (box.scaleAt k)).natAbs_line
        omega
      have hmore : ∀ i < k + 1, ¬box.StopsAt text (box.scaleAt i) := by
        intro i hi
        rcases Nat.lt_succ_iff_lt_or_eq.1 hi with hi | rfl
        · exact hbefore i hi
        · exact hstop
      obtain ⟨j, height', hsearch, hresult⟩ := ih (k := k + 1) _ (hsize ▸ hmagnitude) hbelow hmore rfl
      refine ⟨j, height', ?_, hresult⟩
      rw [search, hat]
      dsimp only
      rw [if_neg (fun hholds => hstop (hstops.1 hholds)), box.nextScale_eq hscale]
      dsimp only
      rw [dif_pos hmagnitude]
      exact hsearch

/-! ## 6. The smallest scale -/

/-- A scale that is worth as much as the smallest one counts as the same double. -/
theorem Shrinking.alike_minScale (h : box.Shrinking) (hscale : scale.Below 1021)
    (hline : scale.line = box.minScale.line) :
    scale.nearest = box.minScale.nearest ∧ scale.eightfold = box.minScale.eightfold := by
  obtain ⟨units, representable, hmin, hnormal⟩ := h.minScale
  have hpos : 0 < units := Nat.lt_of_lt_of_le (twoPow_pos 52) hnormal
  rw [hmin] at hline ⊢
  exact hscale.alike (Nat.le_refl _) representable hline hpos

theorem Shrinking.lineHeight_minScale (h : box.Shrinking) (hscale : scale.Below 1021)
    (hline : scale.line = box.minScale.line) :
    box.lineHeight scale = box.lineHeight box.minScale := by
  obtain ⟨hdouble, heightfold⟩ := h.alike_minScale hscale hline
  unfold lineHeight
  rw [heightfold]
  simp only [TextStyle.textHeight, TextStyle.textDepth, TextStyle.factor, style, hdouble,
    TextStyle.halfThickness]
  rfl

theorem Shrinking.wrap_minScale (h : box.Shrinking) (hscale : scale.Below 1021)
    (hline : scale.line = box.minScale.line) (text : List Char) :
    wrap (box.style scale) box.maxWidth text = wrap (box.style box.minScale) box.maxWidth text := by
  have hfactor : (box.style scale).factor = (box.style box.minScale).factor :=
    (h.alike_minScale hscale hline).1
  exact wrap_congr (by rfl) hfactor (by rfl) _ _

theorem Shrinking.fitsAt_minScale_iff (h : box.Shrinking) (hscale : scale.Below 1021)
    (hline : scale.line = box.minScale.line) :
    box.FitsAt text scale ↔ box.FitsAt text box.minScale := by
  unfold FitsAt
  rw [h.wrap_minScale hscale hline, h.lineHeight_minScale hscale hline]

/-- Behind a scale as small as the smallest one there is only the smallest one. -/
theorem Shrinking.scaleAfter_eq (h : box.Shrinking) (hscale : scale.Below 1021)
    (hline : scale.line = box.minScale.line) : box.scaleAfter scale = box.minScale := by
  obtain ⟨less, representable, hproduct, hless⟩ :=
    hscale.exists_mul_nineTenths (by omega) (hline ▸ h.le_line_minScale)
  have hbelow : (Quantity.real (.finite false less representable)).Below 1021 := by
    have hbound := hscale.magnitude_lt
    have habs := scale.natAbs_line
    exact .real (.intro _ _ _ (by omega))
  have hsmaller : (Quantity.real (.finite false less representable)).less box.minScale = true :=
    (hbelow.less_iff h.below_minScale).2 (hline ▸ hless)
  rw [scaleAfter, hproduct, Quantity.larger, if_pos hsmaller]

theorem Shrinking.scaleAt_succ_eq (h : box.Shrinking) {k : Nat}
    (hscale : (box.scaleAt k).Below 1021) (hline : (box.scaleAt k).line = box.minScale.line)
    (n : Nat) : box.scaleAt (k + n + 1) = box.minScale := by
  have hmin := h.below_minScale_of_le hscale (Int.le_of_eq hline.symm)
  induction n with
  | zero => exact h.scaleAfter_eq hscale hline
  | succ n ih =>
    show box.scaleAfter (box.scaleAt (k + n + 1)) = _
    rw [ih]
    exact h.scaleAfter_eq hmin rfl

/-- As long as the scales are above the smallest one they shrink, and not below that one. -/
theorem Shrinking.below_scaleAt (h : box.Shrinking) {k : Nat}
    (hlarge : ∀ i < k, (box.scaleAt i).atMost box.minScale = false) :
    (box.scaleAt k).Below 1021 ∧ (box.scaleAt k).line ≤ box.maxScale.line ∧
      (box.minScale.line ≤ box.maxScale.line → box.minScale.line ≤ (box.scaleAt k).line) := by
  induction k with
  | zero => exact ⟨h.maxScale, Int.le_refl _, id⟩
  | succ k ih =>
    obtain ⟨hbelow, hmax, -⟩ := ih fun i hi => hlarge i (Nat.lt_succ_of_lt hi)
    obtain ⟨hnext, hless, hmin⟩ := h.scaleAfter_spec hbelow (hlarge k (Nat.lt_succ_self k))
    exact ⟨hnext, Int.le_trans (Int.le_of_lt hless) hmax, fun _ => hmin⟩

/-- The scales between a largest and a smallest one that are doubles are doubles. -/
theorem exists_scaleAt_eq_real {most least : Binary64} (hmax : box.maxScale = .real most)
    (hmin : box.minScale = .real least) (k : Nat) : ∃ x, box.scaleAt k = .real x := by
  cases k with
  | zero => exact ⟨most, hmax⟩
  | succ k =>
    rcases Quantity.larger_eq_or (.real ((box.scaleAt k).nearest * 0.9)) box.minScale with heq | heq
    · exact ⟨_, heq⟩
    · exact ⟨least, heq.trans hmin⟩

/-- **The search stops between the smallest and the largest scale.** -/
theorem Shrinking.exists_scaleAt_between (h : box.Shrinking) {most least : Binary64}
    (hmax : box.maxScale = .real most) (hmin : box.minScale = .real least)
    (hle : least.line ≤ most.line) {k : Nat}
    (hbefore : ∀ i < k, ¬box.StopsAt text (box.scaleAt i)) :
    ∃ x, box.scaleAt k = .real x ∧ x.isFinite = true ∧ least.line ≤ x.line ∧
      x.line ≤ most.line := by
  obtain ⟨x, hx⟩ := exists_scaleAt_eq_real hmax hmin k
  obtain ⟨hbelow, hmost, hleast⟩ := h.below_scaleAt (k := k) fun i hi =>
    Bool.eq_false_iff.2 fun hsmall => hbefore i hi (.inr hsmall)
  rw [hx] at hbelow
  rw [hx, hmax] at hmost
  rw [hx, hmax, hmin] at hleast
  cases hbelow with
  | real hbelow => exact ⟨x, hx, hbelow.isFinite, hleast hle, hmost⟩

/-- If the text fits at any scale that comes up, it fits where the search stops, unless the largest
    scale is below the smallest one. -/
theorem Shrinking.fitsAt_of_exists (h : box.Shrinking) {k : Nat}
    (hstop : box.StopsAt text (box.scaleAt k))
    (hbefore : ∀ i < k, ¬box.StopsAt text (box.scaleAt i))
    (hscales : box.minScale.atMost box.maxScale = true)
    (hfits : ∃ i, box.FitsAt text (box.scaleAt i)) : box.FitsAt text (box.scaleAt k) := by
  have hlarge : ∀ i < k, (box.scaleAt i).atMost box.minScale = false := fun i hi =>
    Bool.eq_false_iff.2 fun hsmall => hbefore i hi (.inr hsmall)
  obtain ⟨hbelow, -, hmin⟩ := h.below_scaleAt hlarge
  rcases hstop with hfit | hsmall
  · exact hfit
  -- the scale is worth as much as the smallest one, and so are all behind it
  have hline : (box.scaleAt k).line = box.minScale.line := by
    have hle := (hbelow.atMost_iff h.below_minScale).1 hsmall
    have hge := hmin ((h.below_minScale.atMost_iff h.maxScale).1 hscales)
    omega
  obtain ⟨i, hfit⟩ := hfits
  rcases Nat.lt_trichotomy i k with hlt | rfl | hgt
  · exact absurd (.inl hfit) (hbefore i hlt)
  · exact hfit
  · obtain ⟨n, rfl⟩ := Nat.exists_eq_add_of_lt hgt
    rw [h.scaleAt_succ_eq hbelow hline n] at hfit
    exact (h.fitsAt_minScale_iff hbelow hline).2 hfit

/-! ## 7. What a box makes of a text -/

/-- The scale is the first one at which the search stops, and the lines that remain spell the
    text. -/
theorem exists_fit_spells (h : box.Shrinking) (text : List Char) :
    ∃ k fitted, box.fit text = .ok fitted ∧ fitted.scale = box.scaleAt k ∧
      box.lineHeight (box.scaleAt k) = .ok fitted.lineHeight ∧
      box.StopsAt text (box.scaleAt k) ∧ (∀ i < k, ¬box.StopsAt text (box.scaleAt i)) ∧
      Spells (box.style (box.scaleAt k)) box.maxWidth text fitted.lines ∧
      1 ≤ fitted.lines.length ∧ (fitted.lines.length : Int) ≤ box.maxLines := by
  have hmeasurable : (box.style box.maxScale).fault? = none := by
    have hdouble := h.maxScale.toBinary64_eq (by omega)
    simp only [TextStyle.fault?, style, hdouble, h.thickness, decide_true, Bool.and_self, if_true]
  obtain ⟨k, height, hsearch, hheight, hstop, hbefore⟩ :=
    exists_search_eq h text (k := 0) h.maxScale fun i hi => absurd hi (Nat.not_lt_zero i)
  let found : Fitted := ⟨wrap (box.style (box.scaleAt k)) box.maxWidth text, box.scaleAt k, height⟩
  have hfound : found.lines = wrap (box.style found.scale) box.maxWidth text := rfl
  obtain ⟨lines, htrim, hspells, hsome, hfew⟩ := exists_trim_eq h.maxLines hfound
  refine ⟨k, ⟨lines, box.scaleAt k, height⟩, ?_, rfl, hheight, hstop, hbefore, hspells, hsome, hfew⟩
  change box.search text box.maxScale = _ at hsearch
  simp only [fit, hmeasurable, hsearch]
  exact htrim

/-- A text that has room in one line is taken whole, at the largest scale. -/
theorem fit_eq_of_wrap (hstyle : (box.style box.maxScale).fault? = none)
    (hwrap : wrap (box.style box.maxScale) box.maxWidth text = [text]) {height : Int}
    (hheight : box.lineHeight box.maxScale = .ok height) (hlines : 1 ≤ box.maxLines)
    (hroom : height ≤ box.maxHeight) : box.fit text = .ok ⟨[text], box.maxScale, height⟩ := by
  have hat : box.atScale text box.maxScale = .ok ⟨[text], box.maxScale, height⟩ :=
    do_eq_ok.2 ⟨height, hheight, by rw [hwrap]; rfl⟩
  have hholds : box.holds ⟨[text], box.maxScale, height⟩ = true := by
    simp [holds, hlines, hroom]
  have hsearch := search_eq_of_stop hat (by rw [hholds, Bool.true_or])
  simp only [fit, hstyle, hsearch]
  exact if_pos hlines

/-- A smallest scale that is a positive normal double, and the usual thickness. -/
theorem Shrinking.of_normal (hmax : box.maxScale.Below 1021) {least : Binary64}
    (hmin : box.minScale = .real least) (hfinite : least.isFinite = true)
    (hnormal : (twoPow 52 : Int) ≤ least.line) (hthickness : box.thickness = 2)
    (hlines : 1 ≤ box.maxLines) : box.Shrinking where
  maxScale := hmax
  minScale := by
    have hpower := twoPow_pos 52
    cases least with
    | nan | infinite => cases hfinite
    | finite negative units representable =>
      cases negative with
      | true =>
        change (twoPow 52 : Int) ≤ -(units : Int) at hnormal
        omega
      | false => exact ⟨units, representable, hmin, Int.ofNat_le.1 hnormal⟩
  thickness := hthickness ▸ Panel.thickness_two
  maxLines := hlines

/-- The usual smallest scale, a half, and the usual thickness. -/
theorem Shrinking.of_half (hmax : box.maxScale.Below 1021) (hmin : box.minScale = .real 0.5)
    (hthickness : box.thickness = 2) (hlines : 1 ≤ box.maxLines) : box.Shrinking :=
  .of_normal hmax hmin (by decide +kernel) (by decide +kernel) hthickness hlines

/-- A box that is too low for its largest scale. -/
def lowBox : Box := { maxWidth := 100, maxHeight := 60, maxScale := .real 3.0 }

/-- **What a box makes of any text.** The scale is the first one that holds the text or is at most
    the smallest one; if any scale holds it, so does this one. Between one line and as many as there
    may be spell the text, or a part of it with dots behind it: the beginning of a line that is cut
    short as little as possible. No line is too wide but a single character, the dots alone and the
    line of the empty text. -/
theorem fit_stops_at_first (h : box.Shrinking) (text : List Char) :
    ∃ k fitted, box.fit text = .ok fitted ∧ fitted.scale = box.scaleAt k ∧
      box.lineHeight (box.scaleAt k) = .ok fitted.lineHeight ∧
      (box.FitsAt text (box.scaleAt k) ∨ (box.scaleAt k).atMost box.minScale = true) ∧
      (∀ i < k, ¬box.FitsAt text (box.scaleAt i) ∧
        (box.scaleAt i).atMost box.minScale = false) ∧
      (box.minScale.atMost box.maxScale = true → (∃ i, box.FitsAt text (box.scaleAt i)) →
        box.FitsAt text (box.scaleAt k)) ∧
      1 ≤ fitted.lines.length ∧ (fitted.lines.length : Int) ≤ box.maxLines ∧
      (fitted.lines.flatten = text ∨ ∃ earlier line kept,
        fitted.lines = earlier ++ [kept ++ ellipsis] ∧
        earlier.flatten ++ kept <+: text ∧ earlier.flatten ++ kept ≠ text ∧
        earlier ++ [line] <+: wrap (box.style (box.scaleAt k)) box.maxWidth text ∧
        CutShort (box.style (box.scaleAt k)) box.maxWidth line kept) ∧
      ∀ line ∈ fitted.lines, (box.style (box.scaleAt k)).textWidth line ≤ box.maxWidth ∨
        line.length = 1 ∨ line = ellipsis ∨ (line = [] ∧ text = []) := by
  obtain ⟨k, fitted, hfit, hscale, hheight, hstop, hbefore, hspells, hsome, hfew⟩ :=
    exists_fit_spells h text
  refine ⟨k, fitted, hfit, hscale, hheight, hstop, fun i hi => ?_,
    h.fitsAt_of_exists hstop hbefore, hsome, hfew, hspells.flatten_eq,
    fun line hline => hspells.textWidth_le hline⟩
  exact ⟨fun hfits => hbefore i hi (.inl hfits),
    Bool.eq_false_iff.2 fun hsmall => hbefore i hi (.inr hsmall)⟩

/-- The largest scale is too large for a text in the low box. -/
theorem fit_lowBox :
    lowBox.Shrinking ∧
    ∃ k fitted, lowBox.fit "1234567".toList = .ok fitted ∧ fitted.scale = lowBox.scaleAt k ∧
      0 < k ∧ fitted.lines.length ≤ 2 := by
  have hshrinking : lowBox.Shrinking :=
    .of_half (.real (.of_magnitude (by decide +kernel) (by decide +kernel))) rfl rfl (by decide)
  obtain ⟨k, fitted, hfit, hscale, -, hstop, -, -, -, hfew, -⟩ :=
    fit_stops_at_first hshrinking "1234567".toList
  refine ⟨hshrinking, k, fitted, hfit, hscale, Nat.pos_of_ne_zero ?_, Int.ofNat_le.1 hfew⟩
  rintro rfl
  have height : lowBox.lineHeight (.real 3.0) = .ok 116 := by decide +kernel
  rcases hstop with ⟨_, hline, -, hlow⟩ | hsmall
  · cases height.symm.trans hline
    revert hlow
    decide +kernel
  · revert hsmall
    decide +kernel

/-- A box whose largest scale has no line height. -/
def hugeBox : Box := { maxWidth := 100, maxHeight := -10000000000, maxScale := .real 1e308 }

/-- A box narrower than any stroke. -/
def thinBox : Box := { maxWidth := 1, maxHeight := 100, maxScale := .real 1.0 }

/-- A box whose largest scale is below its smallest one. -/
def risingBox : Box :=
  { maxWidth := 100, maxHeight := tenPow 302, maxScale := .real 10.0, minScale := .real 1e300,
    maxLines := 1 }

/-- Where less holds. A scale from `2^1021` on has no line height, because no double holds eight
    times as much. The line of the empty text is wider than one pixel. And a largest scale below the
    smallest one is taken, although the next one holds the text by a length beyond 32 bits. -/
theorem fit_of_extreme_scales :
    hugeBox.fit ['5'] = .error (.arithmetic .infiniteToWhole) ∧
    (∃ fitted, thinBox.fit [] = .ok fitted ∧ [] ∈ fitted.lines ∧
      thinBox.maxWidth < (thinBox.style fitted.scale).textWidth []) ∧
    (∃ fitted, risingBox.fit ['0', '0'] = .ok fitted ∧ fitted.scale = risingBox.scaleAt 0 ∧
      ¬risingBox.FitsAt ['0', '0'] (risingBox.scaleAt 0) ∧
      risingBox.FitsAt ['0', '0'] (risingBox.scaleAt 1)) := by
  refine ⟨?_, ?_, ?_⟩
  · have hmeasurable : (hugeBox.style hugeBox.maxScale).fault? = none := by decide +kernel
    have height : hugeBox.lineHeight hugeBox.maxScale = .error .infiniteToWhole := by
      decide +kernel
    have hsearch : hugeBox.search ['5'] hugeBox.maxScale = .error .infiniteToWhole := by
      rw [search, atScale, height]
      rfl
    simp only [fit, hmeasurable, hsearch]
  · -- the width of the empty text does not depend on the scale
    have hshrinking : thinBox.Shrinking :=
      .of_half (.real (.of_magnitude (by decide +kernel) (by decide +kernel))) rfl rfl (by decide)
    have hwidth : ∀ scale, (thinBox.style scale).textWidth [] = (0 + Binary64.ofInt 2).round32 :=
      fun scale => rfl
    obtain ⟨k, fitted, hfit, -, -, -, -, hspells, -⟩ := exists_fit_spells hshrinking []
    refine ⟨fitted, hfit, ?_, ?_⟩
    · generalize fitted.lines = lines at hspells ⊢
      cases hspells with
      | whole h =>
        rw [h, wrap_nil]
        exact List.mem_singleton_self _
      | part hlines hless hcut => simp [wrap_nil] at hless
    · rw [hwidth]
      decide +kernel
  · have hmeasurable : (risingBox.style risingBox.maxScale).fault? = none := by decide +kernel
    have height : risingBox.lineHeight risingBox.maxScale = .ok 382 := by decide +kernel
    have hat : risingBox.atScale ['0', '0'] risingBox.maxScale =
        .ok ⟨wrap (risingBox.style risingBox.maxScale) 100 ['0', '0'], risingBox.maxScale, 382⟩ :=
      do_eq_ok.2 ⟨382, height, rfl⟩
    have hsearch := search_eq_of_stop hat (by decide +kernel)
    have hlines : (wrap (risingBox.style risingBox.maxScale) 100 ['0', '0']).length = 2 := by
      decide +kernel
    have hroom : 0 < risingBox.maxLines := by decide
    obtain ⟨trimmed, htrimmed, hscale⟩ := exists_trim hroom
      ⟨wrap (risingBox.style risingBox.maxScale) 100 ['0', '0'], risingBox.maxScale, 382⟩
    refine ⟨trimmed, ?_, hscale, ?_, ?_⟩
    · simp only [fit, hmeasurable, hsearch, htrimmed]
    · rintro ⟨_, -, hfew, -⟩
      revert hfew
      show ¬(((wrap (risingBox.style risingBox.maxScale) 100 ['0', '0']).length : Int) ≤ 1)
      rw [hlines]
      decide
    · have hwide : risingBox.lineHeight (risingBox.scaleAt 1) =
          .ok (8 * (1e300 : Binary64).truncate - 2 * twoPow 31) := by decide +kernel
      exact ⟨_, hwide, by decide +kernel, by decide +kernel⟩

end Box

end DeskCalc
