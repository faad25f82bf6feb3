import DeskCalc.Proofs.Monotone

/-!
# Doubles between whole numbers

Rounding keeps the order, so that what is computed lies between the whole numbers between which the
exact result lies, however many steps it took. This file fixes

* `settle_natCast`: whole numbers stay where they are;
* `Binary64.UpTo`: a finite double from zero to a whole number, and what sums and multiples are;
* `UpTo.round_mem`, `UpTo.round32_eq`: the whole numbers taken from it;
* **`round_add_le_of_le`**: what is added to a double shows in the rounded sum, up to one.
-/

namespace DeskCalc

namespace Binary64

variable {x y : Binary64} {m n k : Nat}

theorem line_ofInt_natCast (h : n ≤ twoPow 53) : (ofInt n).line = n * unitsPerOne := by
  rw [ofInt_natCast h]
  exact Int.natCast_mul n unitsPerOne

theorem isFinite_ofInt_natCast (h : n ≤ twoPow 53) : (ofInt n).isFinite = true := by
  rw [ofInt_natCast h]
  rfl

theorem settle_natCast (h : n ≤ twoPow 53) :
    settle (n * unitsPerOne) = n * unitsPerOne := by
  rw [← line_ofInt_natCast h]
  exact settle_line (isFinite_ofInt_natCast h)

theorem round_ofInt_natCast (h : n ≤ twoPow 53) : (ofInt n).round = n :=
  round_ofInt (by rwa [Int.natAbs_natCast])

theorem round_le_of_line_le (h : n ≤ twoPow 53) (hx : x.line ≤ n * unitsPerOne) :
    x.round ≤ n := by
  rw [← line_ofInt_natCast h] at hx
  calc x.round ≤ (ofInt n).round := round_mono hx
    _ = n := round_ofInt_natCast h

theorem le_round_of_le_line (h : n ≤ twoPow 53) (hx : n * unitsPerOne ≤ x.line) :
    n ≤ x.round := by
  rw [← line_ofInt_natCast h] at hx
  calc (n : Int) = (ofInt n).round := (round_ofInt_natCast h).symm
    _ ≤ x.round := round_mono hx

theorem isFinite_of_magnitude_lt (hnumber : x.isNaN = false) (h : x.magnitude < overflowUnits) :
    x.isFinite = true := by
  cases x with
  | nan => cases hnumber
  | infinite => exact absurd h (Nat.lt_irrefl _)
  | finite => rfl

theorem isNaN_add (hx : x.isFinite = true) (hy : y.isFinite = true) :
    (x + y).isNaN = false := by
  cases x with
  | nan | infinite => cases hx
  | finite s m hm =>
    cases y with
    | nan | infinite => cases hy
    | finite t n hn =>
      show (if (finite s m hm).line + (finite t n hn).line = 0 then zero (s && t)
        else ofRatio _ _ 1).isNaN = false
      split
      · rfl
      · exact isNaN_ofRatio _ _ _

/-- A multiple lies where the exact multiple comes to lie. -/
theorem line_natCast_mul (hk : k ≤ twoPow 53) (hx : x.isFinite = true) (hx0 : 0 ≤ x.line) :
    (ofInt k * x).isNaN = false ∧ (ofInt k * x).line = settle (k * x.line) := by
  have hk0 : 0 ≤ (ofInt k).line := nonneg_line_ofInt (Int.natCast_nonneg k)
  obtain ⟨hnumber, hline⟩ := line_mul (isFinite_ofInt_natCast hk) hx hk0 hx0
  refine ⟨hnumber, hline.trans ?_⟩
  have hmultiple : 0 ≤ (k : Int) * x.line := Int.mul_nonneg (Int.natCast_nonneg k) hx0
  have hmagnitude : (ofInt k).magnitude = k * unitsPerOne := by
    rw [ofInt_natCast hk]
    rfl
  have hexact : ((k : Int) * x.line).natAbs = k * x.magnitude := by
    rw [Int.natAbs_mul, natAbs_line, Int.natAbs_natCast]
  have hcross : nearest (k * unitsPerOne * x.magnitude) unitsPerOne =
      nearest (k * x.magnitude) 1 :=
    nearest_eq_of_cross unitsPerOne_pos Nat.one_pos (by rw [Nat.mul_one, Nat.mul_right_comm])
  rw [settle, if_neg (Int.not_lt.2 hmultiple), hexact, hmagnitude, hcross]

/-- A finite double from zero to a whole number. -/
structure UpTo (n : Nat) (x : Binary64) : Prop where
  isFinite : x.isFinite = true
  nonneg : 0 ≤ x.line
  le : x.line ≤ n * unitsPerOne

theorem UpTo.mono (h : UpTo m x) (hle : m ≤ n) : UpTo n x where
  isFinite := h.isFinite
  nonneg := h.nonneg
  le := Int.le_trans h.le
    (Int.mul_le_mul_of_nonneg_right (Int.ofNat_le.2 hle) (Int.natCast_nonneg _))

/-- A number that is settled between zero and a whole number is finite and lies there. -/
theorem upTo_of_settle {units : Int} (hn : n ≤ twoPow 53) (hnumber : x.isNaN = false)
    (hline : x.line = settle units) (hnonneg : 0 ≤ units) (hle : units ≤ n * unitsPerOne) :
    UpTo n x := by
  have hlow : 0 ≤ x.line := by
    calc (0 : Int) = settle 0 := (settle_line (x := zero false) rfl).symm
      _ ≤ settle units := settle_mono hnonneg
      _ = x.line := hline.symm
  have hhigh : x.line ≤ n * unitsPerOne := by
    calc x.line = settle units := hline
      _ ≤ settle (n * unitsPerOne) := settle_mono hle
      _ = n * unitsPerOne := settle_natCast hn
  have hbound : n * unitsPerOne < overflowUnits := (representable_whole hn).1
  refine ⟨isFinite_of_magnitude_lt hnumber ?_, hlow, hhigh⟩
  have habs := natAbs_line x
  have hcast := Int.natCast_mul n unitsPerOne
  omega

theorem UpTo.add (hx : UpTo m x) (hy : UpTo n y) (hroom : m + n ≤ twoPow 53) :
    UpTo (m + n) (x + y) := by
  refine upTo_of_settle hroom (isNaN_add hx.isFinite hy.isFinite)
    (line_add hx.isFinite hy.isFinite) (Int.add_nonneg hx.nonneg hy.nonneg) ?_
  have hsum : ((m + n : Nat) : Int) * unitsPerOne = m * unitsPerOne + n * unitsPerOne := by
    rw [Int.natCast_add, Int.add_mul]
  rw [hsum]
  exact Int.add_le_add hx.le hy.le

theorem upTo_ofInt (h : n ≤ twoPow 53) : UpTo n (ofInt n) where
  isFinite := isFinite_ofInt_natCast h
  nonneg := nonneg_line_ofInt (Int.natCast_nonneg n)
  le := Int.le_of_eq (line_ofInt_natCast h)

theorem upTo_natCast_mul (hk : k ≤ twoPow 53) (hroom : n ≤ twoPow 53) (hx : x.isFinite = true)
    (hx0 : 0 ≤ x.line) (hle : k * x.line ≤ n * unitsPerOne) : UpTo n (ofInt k * x) := by
  obtain ⟨hnumber, hline⟩ := line_natCast_mul hk hx hx0
  exact upTo_of_settle hroom hnumber hline (Int.mul_nonneg (Int.natCast_nonneg k) hx0) hle

theorem UpTo.natCast_mul (hx : UpTo n x) (hk : k ≤ twoPow 53) (hroom : k * n ≤ twoPow 53) :
    UpTo (k * n) (ofInt k * x) := by
  refine upTo_natCast_mul hk hroom hx.isFinite hx.nonneg ?_
  rw [Int.natCast_mul, Int.mul_assoc]
  exact Int.mul_le_mul_of_nonneg_left hx.le (Int.natCast_nonneg k)

theorem UpTo.round_mem (hx : UpTo n x) (hn : n ≤ twoPow 53) : 0 ≤ x.round ∧ x.round ≤ n := by
  refine ⟨?_, round_le_of_line_le hn hx.le⟩
  have hzero : ((0 : Nat) : Int) * unitsPerOne ≤ x.line := by simpa using hx.nonneg
  exact le_round_of_le_line (Nat.zero_le _) hzero

/-- Below `2^31` nothing is lost to the 32 bits. -/
theorem UpTo.round32_eq (hx : UpTo n x) (hn : n < twoPow 31) : x.round32 = x.round := by
  have hroom : twoPow 31 ≤ twoPow 53 := twoPow_le (by decide)
  obtain ⟨hlow, hhigh⟩ := hx.round_mem (by omega)
  have hsmall : -(twoPow 31 : Int) ≤ x.round := by omega
  have hlarge : x.round < twoPow 31 := by omega
  simp [round32, hx.isFinite, hsmall, hlarge]

theorem UpTo.round32_le (hx : UpTo n x) (hn : n < twoPow 31) : x.round32 ≤ n := by
  rw [hx.round32_eq hn]
  exact (hx.round_mem (Nat.le_trans (Nat.le_of_lt hn) (twoPow_le (by decide)))).2

/-- What 32 bits hold. -/
theorem round32_lt (x : Binary64) : x.round32 < twoPow 31 := by
  have hpower := twoPow_pos 31
  unfold round32
  split
  · rename_i hholds
    simp only [Bool.and_eq_true, decide_eq_true_eq] at hholds
    exact hholds.2
  · omega

theorem UpTo.truncate_le (hx : UpTo n x) : x.truncate ≤ n := by
  have habs := natAbs_line x
  have hcast := Int.natCast_mul n unitsPerOne
  have hnonneg := hx.nonneg
  have hle := hx.le
  have hmagnitude : x.magnitude ≤ unitsPerOne * n := by
    rw [Nat.mul_comm]
    omega
  have hwhole : x.magnitude / unitsPerOne ≤ n := Nat.div_le_of_le_mul hmagnitude
  unfold truncate
  dsimp only
  generalize x.magnitude / unitsPerOne = whole at hwhole ⊢
  split <;> omega

theorem nonneg_truncate (h : 0 ≤ x.line) : 0 ≤ x.truncate := by
  unfold truncate
  rcases (nonneg_line_iff _).1 h with hsign | hzero
  · rw [hsign]
    exact Int.natCast_nonneg _
  · rw [hzero, Nat.zero_div]
    split <;> decide

/-- A rounded sum tells how large the exact one can be. -/
theorem line_lt_of_round_add_le {s : Nat} (hx : x.isFinite = true) (hroom : n + 1 ≤ twoPow 53)
    (hs : s ≤ twoPow 53) (h : (x + ofInt s).round ≤ n) :
    x.line + s * unitsPerOne < (n + 1 : Nat) * unitsPerOne := by
  have hsum := line_add hx (isFinite_ofInt_natCast hs)
  rw [line_ofInt_natCast hs] at hsum
  -- or it would be rounded to the next whole number
  refine Int.not_le.1 fun hle => ?_
  have hsettle := settle_mono hle
  rw [settle_natCast hroom, ← hsum] at hsettle
  have hround := le_round_of_le_line hroom hsettle
  omega

/-- **What more is added shows in the rounded sum**, up to one. -/
theorem round_add_le_of_le {s d : Nat} (hx : x.isFinite = true) (hroom : n + d + 1 ≤ twoPow 53)
    (hs : s + d ≤ twoPow 53) (h : (x + ofInt s).round ≤ n) :
    (x + ofInt ((s + d : Nat) : Int)).round ≤ n + d + 1 := by
  have hbelow := line_lt_of_round_add_le hx (by omega) (by omega) h
  have hmore := line_add hx (isFinite_ofInt_natCast hs)
  rw [line_ofInt_natCast hs] at hmore
  have hle : (x + ofInt ((s + d : Nat) : Int)).line ≤ ((n + d + 1 : Nat) : Int) * unitsPerOne := by
    rw [hmore, ← settle_natCast hroom]
    refine settle_mono ?_
    have hthick : ((s + d : Nat) : Int) * unitsPerOne = s * unitsPerOne + d * unitsPerOne := by
      rw [Int.natCast_add, Int.add_mul]
    have hsplit : ((n + d + 1 : Nat) : Int) * unitsPerOne =
        (n + 1 : Nat) * unitsPerOne + d * unitsPerOne := by
      rw [← Int.add_mul]
      congr 1
      omega
    omega
  have hround := round_le_of_line_le hroom hle
  omega

theorem round_add_mono {s t : Nat} (hx : x.isFinite = true) (hle : s ≤ t) (ht : t ≤ twoPow 53) :
    (x + ofInt s).round ≤ (x + ofInt t).round := by
  have hs : s ≤ twoPow 53 := Nat.le_trans hle ht
  refine round_mono ?_
  rw [line_add hx (isFinite_ofInt_natCast hs), line_add hx (isFinite_ofInt_natCast ht),
    line_ofInt_natCast hs, line_ofInt_natCast ht]
  have hmul := Int.mul_le_mul_of_nonneg_right (Int.ofNat_le.2 hle) (Int.natCast_nonneg unitsPerOne)
  exact settle_mono (by omega)

end Binary64

end DeskCalc
