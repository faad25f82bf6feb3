import DeskCalc.Proofs.Binary64
import DeskCalc.Proofs.Magnitude

/-!
# Doubles keep the order

Rounding never swaps two numbers, so that a sum is never smaller than what something was added to,
and whole numbers taken from doubles come in the same order. Neither depends on how much is lost.
This file fixes

* **`nearest_mono`**: the rounding of quotients is monotone;
* `Binary64.settle`: where a signed count of units comes to lie on the number line, and
  **`line_add`**: a sum lies where the exact sum comes to lie;
* the sides of zero on which products and quotients lie;
* `round_mono`, `round_ofInt`: the way back to the whole numbers;
* `line_add_mono`, `line_mul_mono`, `line_div_mono`: the order of sums, products and quotients.
-/

namespace DeskCalc

/-! ## 1. Rounding a quotient -/

theorem le_roundQuotient {num den m : Nat} (hden : 0 < den) (h : m * den ≤ num) :
    m ≤ roundQuotient num den := by
  have hfloor : m ≤ num / den := (Nat.le_div_iff_mul_le hden).2 h
  unfold roundQuotient
  dsimp only
  split
  · exact hfloor
  · split <;> omega

theorem roundQuotient_le_of_le {num den m : Nat} (hden : 0 < den) (h : num ≤ m * den) :
    roundQuotient num den ≤ m := by
  rcases Nat.lt_or_eq_of_le h with hlt | heq
  · have hfloor : num / den < m := (Nat.div_lt_iff_lt_mul hden).2 hlt
    exact Nat.le_trans (roundQuotient_le num den) hfloor
  · have hexact := roundQuotient_eq_of_near hden (near_self m den hden)
    rw [← heq] at hexact
    exact Nat.le_of_eq hexact

theorem roundQuotient_mono {num num' den : Nat} (hden : 0 < den) (h : num ≤ num') :
    roundQuotient num den ≤ roundQuotient num' den := by
  rcases Nat.lt_or_eq_of_le (Nat.div_le_div_right h : num / den ≤ num' / den) with hlt | heq
  · calc roundQuotient num den ≤ num / den + 1 := roundQuotient_le num den
      _ ≤ num' / den := hlt
      _ ≤ roundQuotient num' den := le_roundQuotient hden (Nat.div_mul_le_self num' den)
  · -- the same floor: the excess decides
    have hnum := Nat.div_add_mod num den
    have hnum' := Nat.div_add_mod num' den
    rw [← heq] at hnum'
    have hexcess : num % den ≤ num' % den := by omega
    unfold roundQuotient
    dsimp only
    rw [← heq]
    repeat' split
    all_goals omega

theorem nearest_le_twoPow {num den k : Nat} (hden : 0 < den) (h : num ≤ twoPow k * den)
    (hk : spacing (num / den) ≤ k) : nearest num den ≤ twoPow k := by
  obtain ⟨j, rfl⟩ := Nat.exists_eq_add_of_le' hk
  unfold nearest
  dsimp only
  rw [twoPow_add]
  refine Nat.mul_le_mul_right _ (roundQuotient_le_of_le (Nat.mul_pos hden (twoPow_pos _)) ?_)
  rwa [Nat.mul_comm den, ← Nat.mul_assoc, ← twoPow_add]

theorem twoPow_le_nearest {num den k : Nat} (hden : 0 < den) (h : twoPow k * den ≤ num)
    (hk : spacing (num / den) ≤ k) : twoPow k ≤ nearest num den := by
  obtain ⟨j, rfl⟩ := Nat.exists_eq_add_of_le' hk
  unfold nearest
  dsimp only
  rw [twoPow_add]
  refine Nat.mul_le_mul_right _ (le_roundQuotient (Nat.mul_pos hden (twoPow_pos _)) ?_)
  rwa [Nat.mul_comm den, ← Nat.mul_assoc, ← twoPow_add]

theorem log2_le_log2 {m n : Nat} (h : m ≤ n) : m.log2 ≤ n.log2 := by
  rcases Nat.eq_zero_or_pos m with rfl | hm
  · exact Nat.zero_le _
  · have hlt : m < twoPow (n.log2 + 1) := Nat.lt_of_le_of_lt h Nat.lt_log2_self
    exact Nat.le_of_lt_succ ((log2_lt_iff (Nat.pos_iff_ne_zero.1 hm)).2 hlt)

/-- **Rounding never swaps two quotients.** -/
theorem nearest_mono {num num' den : Nat} (hden : 0 < den) (h : num ≤ num') :
    nearest num den ≤ nearest num' den := by
  have hfloor : num / den ≤ num' / den := Nat.div_le_div_right h
  have hlog := log2_le_log2 hfloor
  rcases Nat.lt_or_ge (spacing (num / den)) (spacing (num' / den)) with hlt | hge
  · -- a power of two lies between quotients of different spacings
    unfold spacing at hlt
    have hne : num' / den ≠ 0 := by
      rintro hzero
      rw [hzero] at hlt
      exact absurd hlt (Nat.not_lt_zero _)
    have habove : twoPow (num' / den).log2 * den ≤ num' :=
      (Nat.le_div_iff_mul_le hden).1 (Nat.log2_self_le hne)
    have hbelow : num ≤ twoPow (num' / den).log2 * den := by
      refine Nat.le_of_lt ((Nat.div_lt_iff_lt_mul hden).1 ?_)
      rcases Nat.eq_zero_or_pos (num / den) with hzero | hpos
      · rw [hzero]
        exact twoPow_pos _
      · exact (log2_lt_iff (Nat.pos_iff_ne_zero.1 hpos)).1 (by omega)
    exact Nat.le_trans (nearest_le_twoPow hden hbelow (by unfold spacing; omega))
      (twoPow_le_nearest hden habove (Nat.sub_le _ _))
  · have hsame : spacing (num / den) = spacing (num' / den) :=
      Nat.le_antisymm (Nat.sub_le_sub_right hlog 52) hge
    unfold nearest
    dsimp only
    rw [hsame]
    exact Nat.mul_le_mul_right _ (roundQuotient_mono (Nat.mul_pos hden (twoPow_pos _)) h)

namespace Binary64

/-! ## 2. Sums -/

theorem magnitude_ofRatio (negative : Bool) (num den : Nat) :
    (ofRatio negative num den).magnitude = min (nearest num den) overflowUnits := by
  unfold ofRatio
  split
  · rename_i hfinite
    exact (Nat.min_eq_left (Nat.le_of_lt hfinite)).symm
  · rename_i hinfinite
    exact (Nat.min_eq_right (Nat.le_of_not_lt hinfinite)).symm

theorem isNegative_ofRatio (negative : Bool) (num den : Nat) :
    (ofRatio negative num den).isNegative = negative := by
  unfold ofRatio
  split <;> rfl

/-- Where a signed count of units comes to lie on the number line when it is rounded. -/
def settle (units : Int) : Int :=
  if units < 0 then -(min (nearest units.natAbs 1) overflowUnits : Nat)
  else (min (nearest units.natAbs 1) overflowUnits : Nat)

theorem line_ofRatio_eq_settle (units : Int) :
    (ofRatio (units < 0) units.natAbs 1).line = settle units := by
  unfold line settle
  rw [isNegative_ofRatio, magnitude_ofRatio]
  by_cases hneg : units < 0
  · rw [decide_eq_true hneg, if_pos hneg]
    rfl
  · rw [decide_eq_false hneg, if_neg hneg]
    rfl

theorem settle_mono {m n : Int} (h : m ≤ n) : settle m ≤ settle n := by
  have hmono {a b : Nat} (hab : a ≤ b) :
      min (nearest a 1) overflowUnits ≤ min (nearest b 1) overflowUnits := by
    have hle := nearest_mono Nat.one_pos hab
    omega
  unfold settle
  by_cases hm : m < 0
  · rw [if_pos hm]
    by_cases hn : n < 0
    · rw [if_pos hn]
      have hle := hmono (a := n.natAbs) (b := m.natAbs) (by omega)
      omega
    · rw [if_neg hn]
      omega
  · have hn : ¬n < 0 := by omega
    rw [if_neg hm, if_neg hn]
    have hle := hmono (a := m.natAbs) (b := n.natAbs) (by omega)
    omega

theorem nearest_magnitude {x : Binary64} (h : x.isFinite = true) :
    min (nearest x.magnitude 1) overflowUnits = x.magnitude := by
  cases x with
  | nan | infinite => cases h
  | finite negative units representable =>
    show min (nearest units 1) overflowUnits = units
    rw [nearest_one_eq_self representable]
    exact Nat.min_eq_left (Nat.le_of_lt representable.1)

/-- A finite double lies where it is. -/
theorem settle_line {x : Binary64} (h : x.isFinite = true) : settle x.line = x.line := by
  have hself := nearest_magnitude h
  have habs := natAbs_line x
  unfold settle
  rw [habs, hself]
  split <;> omega

/-- **A sum lies where the exact sum comes to lie.** -/
theorem line_add {x y : Binary64} (hx : x.isFinite = true) (hy : y.isFinite = true) :
    (x + y).line = settle (x.line + y.line) := by
  cases x with
  | nan | infinite => cases hx
  | finite s m hm =>
    cases y with
    | nan | infinite => cases hy
    | finite t n hn =>
      show (if (finite s m hm).line + (finite t n hn).line = 0 then zero (s && t)
        else ofRatio _ _ 1).line = _
      by_cases hzero : (finite s m hm).line + (finite t n hn).line = 0
      · rw [if_pos hzero, hzero]
        have hline : (zero (s && t)).line = 0 := by cases s && t <;> rfl
        rw [hline, ← hline, settle_line rfl]
      · rw [if_neg hzero]
        exact line_ofRatio_eq_settle _

theorem isFinite_of_add {x y : Binary64} (h : (x + y).isFinite = true) :
    x.isFinite = true ∧ y.isFinite = true := by
  cases x with
  | nan => cases h
  | infinite s =>
    cases y with
    | nan | finite => cases h
    | infinite t =>
      change (if s = t then infinite s else nan).isFinite = true at h
      split at h <;> cases h
  | finite s m hm =>
    cases y with
    | nan | infinite => cases h
    | finite t n hn => exact ⟨rfl, rfl⟩

/-- Adding what is not negative leads no further down. -/
theorem line_le_line_add {x y : Binary64} (hfinite : (x + y).isFinite = true) (h : 0 ≤ y.line) :
    x.line ≤ (x + y).line := by
  obtain ⟨hx, hy⟩ := isFinite_of_add hfinite
  rw [line_add hx hy]
  calc x.line = settle x.line := (settle_line hx).symm
    _ ≤ settle (x.line + y.line) := settle_mono (by omega)

/-- Adding what is not positive leads no further up. -/
theorem line_add_le_line {x y : Binary64} (hfinite : (x + y).isFinite = true) (h : y.line ≤ 0) :
    (x + y).line ≤ x.line := by
  obtain ⟨hx, hy⟩ := isFinite_of_add hfinite
  rw [line_add hx hy]
  calc settle (x.line + y.line) ≤ settle x.line := settle_mono (by omega)
    _ = x.line := settle_line hx

/-! ## 3. Sides of zero -/

theorem nonneg_line_iff (x : Binary64) :
    0 ≤ x.line ↔ x.isNegative = false ∨ x.magnitude = 0 := by
  unfold line
  cases x.isNegative with
  | false => simp
  | true =>
    simp only [↓reduceIte, Bool.true_eq_false, false_or]
    omega

theorem nonneg_line_infinite {s : Bool} (h : 0 ≤ (infinite s).line) : s = false := by
  rcases (nonneg_line_iff _).1 h with hsign | hzero
  · exact hsign
  · exact absurd hzero (Nat.pos_iff_ne_zero.1 representable_zero.1)

/-- A rounded quotient is not negative if its sign is not, or if nothing is divided. -/
theorem nonneg_line_ofRatio {negative : Bool} {num den : Nat} (hden : 0 < den)
    (h : negative = true → num = 0) : 0 ≤ (ofRatio negative num den).line := by
  rw [nonneg_line_iff]
  cases negative with
  | false => exact .inl (isNegative_ofRatio _ _ _)
  | true =>
    rw [h rfl, ofRatio_zero _ hden]
    exact .inr rfl

theorem nonneg_line_add {x y : Binary64} (hx : 0 ≤ x.line) (hy : 0 ≤ y.line) :
    0 ≤ (x + y).line := by
  cases x with
  | nan => exact Int.le_refl 0
  | infinite s =>
    cases y with
    | nan => exact Int.le_refl 0
    | infinite t =>
      show 0 ≤ (if s = t then infinite s else nan).line
      split
      · exact hx
      · exact Int.le_refl 0
    | finite t n hn => exact hx
  | finite s m hm =>
    cases y with
    | nan => exact Int.le_refl 0
    | infinite t => exact hy
    | finite t n hn =>
      rw [line_add rfl rfl]
      calc 0 = settle 0 := (settle_line (x := zero false) rfl).symm
        _ ≤ _ := settle_mono (Int.add_nonneg hx hy)

theorem nonneg_line_mul {x y : Binary64} (hx : 0 ≤ x.line) (hy : 0 ≤ y.line) :
    0 ≤ (x * y).line := by
  cases x with
  | nan => exact Int.le_refl 0
  | infinite s =>
    obtain rfl := nonneg_line_infinite hx
    cases y with
    | nan => exact Int.le_refl 0
    | infinite t =>
      obtain rfl := nonneg_line_infinite hy
      exact hx
    | finite t n hn =>
      show 0 ≤ (if n = 0 then nan else infinite (false != t)).line
      split
      · exact Int.le_refl 0
      · rename_i hne
        obtain rfl | hzero := (nonneg_line_iff _).1 hy
        · exact hx
        · exact absurd hzero hne
  | finite s m hm =>
    cases y with
    | nan => exact Int.le_refl 0
    | infinite t =>
      obtain rfl := nonneg_line_infinite hy
      show 0 ≤ (if m = 0 then nan else infinite (s != false)).line
      split
      · exact Int.le_refl 0
      · rename_i hne
        obtain rfl | hzero := (nonneg_line_iff _).1 hx
        · exact hy
        · exact absurd hzero hne
    | finite t n hn =>
      show 0 ≤ (ofRatio (s != t) (m * n) unitsPerOne).line
      refine nonneg_line_ofRatio unitsPerOne_pos fun hsigns => ?_
      rcases (nonneg_line_iff _).1 hx with rfl | hzero
      · rcases (nonneg_line_iff _).1 hy with rfl | hzero
        · cases hsigns
        · rw [show n = 0 from hzero, Nat.mul_zero]
      · rw [show m = 0 from hzero, Nat.zero_mul]

theorem nonneg_line_div {x y : Binary64} (hx : 0 ≤ x.line) (hy : 0 < y.line) :
    0 ≤ (x / y).line := by
  have hpositive : y.isNegative = false ∧ y.magnitude ≠ 0 := by
    unfold line at hy
    split at hy
    · omega
    · rename_i hsign
      exact ⟨by simpa using hsign, by omega⟩
  obtain ⟨hsign, hne⟩ := hpositive
  cases x with
  | nan => exact Int.le_refl 0
  | infinite s =>
    obtain rfl := nonneg_line_infinite hx
    cases y with
    | nan | infinite => exact Int.le_refl 0
    | finite t n hn =>
      obtain rfl : t = false := hsign
      exact hx
  | finite s m hm =>
    cases y with
    | nan => exact Int.le_refl 0
    | infinite t => exact (nonneg_line_iff _).2 (.inr rfl)
    | finite t n hn =>
      obtain rfl : t = false := hsign
      show 0 ≤ (if n = 0 then if m = 0 then nan else infinite (s != false)
        else ofRatio (s != false) (m * unitsPerOne) n).line
      rw [if_neg (show n ≠ 0 from hne)]
      refine nonneg_line_ofRatio (Nat.pos_iff_ne_zero.2 hne) fun hsigns => ?_
      rcases (nonneg_line_iff _).1 hx with rfl | hzero
      · cases hsigns
      · rw [show m = 0 from hzero, Nat.zero_mul]

theorem line_infinite_not (s : Bool) : (infinite !s).line = -(infinite s).line := by
  cases s
  · rfl
  · exact (Int.neg_neg _).symm

theorem line_ofRatio_not (s : Bool) (num den : Nat) :
    (ofRatio (!s) num den).line = -(ofRatio s num den).line := by
  unfold line
  rw [isNegative_ofRatio, isNegative_ofRatio, magnitude_ofRatio, magnitude_ofRatio]
  cases s
  · rfl
  · exact (Int.neg_neg _).symm

theorem line_neg (x : Binary64) : (-x).line = -x.line := by
  cases x with
  | nan => rfl
  | infinite s => exact line_infinite_not s
  | finite s m hm =>
    cases s
    · rfl
    · exact (Int.neg_neg _).symm

/-- The sign of a factor is the sign of the product. -/
theorem line_mul_neg (x y : Binary64) : (x * -y).line = -(x * y).line := by
  cases x with
  | nan => rfl
  | infinite s =>
    cases y with
    | nan => rfl
    | infinite t =>
      show (infinite (s != !t)).line = _
      rw [Bool.bne_not]
      exact line_infinite_not _
    | finite t n hn =>
      show (if n = 0 then nan else infinite (s != !t)).line =
        -(if n = 0 then nan else infinite (s != t)).line
      split
      · rfl
      · rw [Bool.bne_not]
        exact line_infinite_not _
  | finite s m hm =>
    cases y with
    | nan => rfl
    | infinite t =>
      show (if m = 0 then nan else infinite (s != !t)).line =
        -(if m = 0 then nan else infinite (s != t)).line
      split
      · rfl
      · rw [Bool.bne_not]
        exact line_infinite_not _
    | finite t n hn =>
      show (ofRatio (s != !t) (m * n) unitsPerOne).line = -(ofRatio (s != t) (m * n) unitsPerOne).line
      rw [Bool.bne_not]
      exact line_ofRatio_not _ _ _

/-- The sign of the dividend is the sign of the quotient. -/
theorem line_neg_div (x y : Binary64) : (-x / y).line = -(x / y).line := by
  cases x with
  | nan => rfl
  | infinite s =>
    cases y with
    | nan | infinite => rfl
    | finite t n hn =>
      show (infinite ((!s) != t)).line = _
      rw [Bool.not_bne]
      exact line_infinite_not _
  | finite s m hm =>
    cases y with
    | nan => rfl
    | infinite t =>
      show (zero ((!s) != t)).line = -(zero (s != t)).line
      cases s <;> cases t <;> rfl
    | finite t n hn =>
      show (if n = 0 then if m = 0 then nan else infinite ((!s) != t)
          else ofRatio ((!s) != t) (m * unitsPerOne) n).line =
        -(if n = 0 then if m = 0 then nan else infinite (s != t)
          else ofRatio (s != t) (m * unitsPerOne) n).line
      rw [Bool.not_bne]
      split
      · split
        · rfl
        · exact line_infinite_not _
      · exact line_ofRatio_not _ _ _

theorem nonpos_line_mul {x y : Binary64} (hx : 0 ≤ x.line) (hy : y.line ≤ 0) :
    (x * y).line ≤ 0 := by
  have hneg : 0 ≤ (-y).line := by
    rw [line_neg]
    omega
  have hproduct := nonneg_line_mul hx hneg
  rw [line_mul_neg] at hproduct
  omega

theorem nonpos_line_div {x y : Binary64} (hx : x.line ≤ 0) (hy : 0 < y.line) :
    (x / y).line ≤ 0 := by
  have hneg : 0 ≤ (-x).line := by
    rw [line_neg]
    omega
  have hquotient := nonneg_line_div hneg hy
  rw [line_neg_div] at hquotient
  omega

/-! ## 4. Whole numbers -/

theorem round_eq (x : Binary64) :
    x.round = if x.line < 0 then -(roundQuotient x.line.natAbs unitsPerOne : Int)
      else roundQuotient x.line.natAbs unitsPerOne := by
  have hzero : roundQuotient 0 unitsPerOne = 0 := by
    unfold roundQuotient
    simp [unitsPerOne_pos]
  rw [natAbs_line]
  unfold round line
  dsimp only
  cases x.isNegative with
  | false =>
    have hnonneg : ¬(x.magnitude : Int) < 0 := by omega
    simp only [Bool.false_eq_true, ↓reduceIte, hnonneg]
  | true =>
    by_cases hmagnitude : x.magnitude = 0
    · simp [hmagnitude, hzero]
    · have hneg : -(x.magnitude : Int) < 0 := by omega
      simp only [↓reduceIte, hneg]

/-- **Whole numbers taken from doubles come in the order of the doubles.** -/
theorem round_mono {x y : Binary64} (h : x.line ≤ y.line) : x.round ≤ y.round := by
  rw [round_eq, round_eq]
  by_cases hx : x.line < 0
  · rw [if_pos hx]
    by_cases hy : y.line < 0
    · rw [if_pos hy]
      have hle : roundQuotient y.line.natAbs unitsPerOne ≤
          roundQuotient x.line.natAbs unitsPerOne := roundQuotient_mono unitsPerOne_pos (by omega)
      omega
    · rw [if_neg hy]
      omega
  · have hy : ¬y.line < 0 := by omega
    rw [if_neg hx, if_neg hy]
    have hle : roundQuotient x.line.natAbs unitsPerOne ≤
        roundQuotient y.line.natAbs unitsPerOne := roundQuotient_mono unitsPerOne_pos (by omega)
    omega

theorem nonneg_line_ofInt {n : Int} (h : 0 ≤ n) : 0 ≤ (ofInt n).line := by
  refine nonneg_line_ofRatio Nat.one_pos fun hneg => ?_
  exact absurd (of_decide_eq_true hneg) (Int.not_lt.2 h)

theorem nonpos_line_ofInt {n : Int} (h : n ≤ 0) : (ofInt n).line ≤ 0 := by
  rcases Int.lt_or_eq_of_le h with hneg | rfl
  · unfold line ofInt
    rw [isNegative_ofRatio, if_pos (decide_eq_true hneg)]
    omega
  · rw [show ofInt 0 = _ from ofInt_natCast (Nat.zero_le _)]
    exact Int.le_of_eq (by simp [line, isNegative, magnitude])

/-- A whole number of at most 53 binary digits comes back from its double. -/
theorem round_ofInt {n : Int} (h : n.natAbs ≤ twoPow 53) : (ofInt n).round = n := by
  have hexact : roundQuotient (n.natAbs * unitsPerOne) unitsPerOne = n.natAbs :=
    roundQuotient_eq_of_near unitsPerOne_pos (near_self _ _ unitsPerOne_pos)
  unfold round ofInt
  rw [isNegative_ofRatio, magnitude_ofRatio, nearest_one_eq_self (representable_whole h),
    Nat.min_eq_left (Nat.le_of_lt (representable_whole h).1), hexact]
  by_cases hneg : n < 0
  · rw [if_pos (decide_eq_true hneg)]
    omega
  · rw [decide_eq_false hneg]
    simp only [Bool.false_eq_true, ↓reduceIte]
    omega

/-! ## 5. Order of results -/

section Order

variable {x x' y y' : Binary64}

/-- A whole number lies where rounding takes it. -/
theorem line_ofInt (n : Int) : (ofInt n).line = settle (n * unitsPerOne) := by
  have hunits : (0 : Int) < unitsPerOne := Int.natCast_pos.2 unitsPerOne_pos
  have hsign : decide (n < 0) = decide (n * (unitsPerOne : Int) < 0) := by
    rw [decide_eq_decide]
    constructor
    · exact fun hneg => Int.mul_neg_of_neg_of_pos hneg hunits
    · intro hneg
      refine Int.not_le.1 fun hn => ?_
      exact absurd hneg (Int.not_lt.2 (Int.mul_nonneg hn (Int.le_of_lt hunits)))
  rw [ofInt, hsign, ← line_ofRatio_eq_settle, Int.natAbs_mul, Int.natAbs_natCast]

theorem line_ofInt_mono {m n : Int} (h : m ≤ n) : (ofInt m).line ≤ (ofInt n).line := by
  rw [line_ofInt, line_ofInt]
  exact settle_mono (Int.mul_le_mul_of_nonneg_right h (Int.natCast_nonneg _))

theorem line_add_mono (hsum : (x + y).isFinite = true) (hsum' : (x' + y').isFinite = true)
    (hx : x.line ≤ x'.line) (hy : y.line ≤ y'.line) : (x + y).line ≤ (x' + y').line := by
  obtain ⟨hxFinite, hyFinite⟩ := isFinite_of_add hsum
  obtain ⟨hxFinite', hyFinite'⟩ := isFinite_of_add hsum'
  rw [line_add hxFinite hyFinite, line_add hxFinite' hyFinite']
  exact settle_mono (Int.add_le_add hx hy)

theorem isFinite_of_mul (h : (x * y).isFinite = true) : x.isFinite = true ∧ y.isFinite = true := by
  cases x with
  | nan => cases h
  | infinite s =>
    cases y with
    | nan | infinite => cases h
    | finite t n hn =>
      change (if n = 0 then nan else infinite (s != t)).isFinite = true at h
      split at h <;> cases h
  | finite s m hm =>
    cases y with
    | nan => cases h
    | infinite t =>
      change (if m = 0 then nan else infinite (s != t)).isFinite = true at h
      split at h <;> cases h
    | finite => exact ⟨rfl, rfl⟩

theorem isNaN_ofRatio (negative : Bool) (num den : Nat) :
    (ofRatio negative num den).isNaN = false := by
  unfold ofRatio
  split <;> rfl

/-- The product of two numbers that are not negative lies where the exact product is rounded to. -/
theorem line_mul (hx : x.isFinite = true) (hy : y.isFinite = true) (hx0 : 0 ≤ x.line)
    (hy0 : 0 ≤ y.line) :
    (x * y).isNaN = false ∧
      (x * y).line = (min (nearest (x.magnitude * y.magnitude) unitsPerOne) overflowUnits : Nat) := by
  cases x with
  | nan | infinite => cases hx
  | finite s m hm =>
    cases y with
    | nan | infinite => cases hy
    | finite t n hn =>
      have hnonneg := nonneg_line_mul hx0 hy0
      have habs := natAbs_line (finite s m hm * finite t n hn)
      have hmagnitude : (finite s m hm * finite t n hn).magnitude =
          min (nearest (m * n) unitsPerOne) overflowUnits := magnitude_ofRatio (s != t) _ _
      refine ⟨isNaN_ofRatio _ _ _, ?_⟩
      show _ = ((min (nearest (m * n) unitsPerOne) overflowUnits : Nat) : Int)
      omega

theorem magnitude_le_of_line_le (hx0 : 0 ≤ x.line) (h : x.line ≤ y.line) :
    x.magnitude ≤ y.magnitude := by
  have habs := natAbs_line x
  have habs' := natAbs_line y
  omega

theorem line_mul_mono (hx : x.isFinite = true) (hx' : x'.isFinite = true)
    (hy : y.isFinite = true) (hy' : y'.isFinite = true) (hx0 : 0 ≤ x.line)
    (hxle : x.line ≤ x'.line) (hy0 : 0 ≤ y.line) (hyle : y.line ≤ y'.line) :
    (x * y).line ≤ (x' * y').line := by
  rw [(line_mul hx hy hx0 hy0).2,
    (line_mul hx' hy' (Int.le_trans hx0 hxle) (Int.le_trans hy0 hyle)).2]
  have hmono := nearest_mono unitsPerOne_pos
    (Nat.mul_le_mul (magnitude_le_of_line_le hx0 hxle) (magnitude_le_of_line_le hy0 hyle))
  omega

/-- Where a quotient that is not negative comes to lie. -/
theorem line_div (hx : x.isFinite = true) (hy : y.isFinite = true) (hx0 : 0 ≤ x.line)
    (hy0 : 0 < y.line) :
    (x / y).line = (min (nearest (x.magnitude * unitsPerOne) y.magnitude) overflowUnits : Nat) := by
  have hnonneg := nonneg_line_div hx0 hy0
  have habs := natAbs_line (x / y)
  have hy0' := natAbs_line y
  cases x with
  | nan | infinite => cases hx
  | finite s m hm =>
    cases y with
    | nan | infinite => cases hy
    | finite t n hn =>
      have hne : n ≠ 0 := fun hzero => by
        change _ = n at hy0'
        omega
      have hquotient : finite s m hm / finite t n hn = ofRatio (s != t) (m * unitsPerOne) n :=
        if_neg hne
      rw [hquotient] at hnonneg habs ⊢
      rw [magnitude_ofRatio] at habs
      show _ = ((min (nearest (m * unitsPerOne) n) overflowUnits : Nat) : Int)
      omega

/-- Nothing comes of dividing by what is not a number; by infinity, zero. -/
theorem line_div_of_not_finite (hx : x.isFinite = true) (hy : y.isFinite = false) :
    (x / y).line = 0 := by
  cases x with
  | nan | infinite => cases hx
  | finite s m hm =>
    cases y with
    | nan => rfl
    | infinite t =>
      show (zero (s != t)).line = 0
      cases s != t <;> rfl
    | finite => cases hy

theorem line_div_mono (hx : x.isFinite = true) (hx' : x'.isFinite = true) (hx0 : 0 ≤ x.line)
    (hle : x.line ≤ x'.line) (hy0 : y.isNaN = true ∨ 0 < y.line) :
    (x / y).line ≤ (x' / y).line := by
  cases hy : y.isFinite with
  | false =>
    have hzero := line_div_of_not_finite hx hy
    exact Int.le_of_eq (hzero.trans (line_div_of_not_finite hx' hy).symm)
  | true =>
    have hpositive : 0 < y.line := by
      rcases hy0 with hnan | hpositive
      · cases y with
        | nan => cases hy
        | infinite | finite => cases hnan
      · exact hpositive
    have hden : 0 < y.magnitude := by
      have habs := natAbs_line y
      omega
    rw [line_div hx hy hx0 hpositive, line_div hx' hy (Int.le_trans hx0 hle) hpositive]
    have hmono := nearest_mono hden
      (Nat.mul_le_mul_right unitsPerOne (magnitude_le_of_line_le hx0 hle))
    omega

end Order

end Binary64

end DeskCalc
