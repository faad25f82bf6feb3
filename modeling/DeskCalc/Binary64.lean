/-!
# Binary64: double-precision numbers as exact counts of a smallest unit

A finite double is a whole number of units of `2^-1074`, with a sign; every operation forms its
exact result and rounds it once, to the nearest double, a tie going to the even significand.
This file fixes

* `Representable`: the counts that a significand of 53 binary digits can write below `2^1024`;
* `Binary64`: not a number, the two infinities, and the signed representable counts;
* `nearest`: the rounding of an exact quotient to 53 significant digits, and
  `representable_nearest`: what it gives below the overflow bound is representable;
* the arithmetic, the comparisons and the ways back to the integers.
-/

namespace DeskCalc

/-! ## 1. Powers -/

/-- The power `2^n`. -/
def twoPow (n : Nat) : Nat := Nat.pow 2 n

/-- The power `10^n`. -/
def tenPow (n : Nat) : Nat := Nat.pow 10 n

theorem twoPow_pos (n : Nat) : 0 < twoPow n := Nat.pow_pos Nat.two_pos

theorem twoPow_add (m n : Nat) : twoPow (m + n) = twoPow m * twoPow n := Nat.pow_add 2 m n

theorem twoPow_dvd {m n : Nat} (h : m ≤ n) : twoPow m ∣ twoPow n := Nat.pow_dvd_pow 2 h

theorem log2_twoPow (n : Nat) : (twoPow n).log2 = n := Nat.log2_two_pow

theorem log2_lt_iff {n k : Nat} (h : n ≠ 0) : n.log2 < k ↔ n < twoPow k := Nat.log2_lt h

/-! ## 2. Rounding a quotient -/

/-- The whole number nearest to `num / den`; a tie goes to the even neighbour. -/
def roundQuotient (num den : Nat) : Nat :=
  let floor := num / den
  let excess := num % den
  if 2 * excess < den then floor
  else if den < 2 * excess then floor + 1
  else floor + floor % 2

/-- The smallest unit is `2^-1074`: one is this many of them. -/
@[irreducible] def unitsPerOne : Nat := twoPow 1074

/-- Counts of units from this one on lie beyond every finite double: it is `2^1024`. -/
@[irreducible] def overflowUnits : Nat := twoPow 2098

/-- Doubles near a count of `units` lie `2^(spacing units)` units apart. -/
def spacing (units : Nat) : Nat := units.log2 - 52

/-- A count of units that 53 significant binary digits write, below the overflow bound. -/
def Representable (units : Nat) : Prop :=
  units < overflowUnits ∧ twoPow (spacing units) ∣ units

instance (units : Nat) : Decidable (Representable units) :=
  inferInstanceAs (Decidable (_ ∧ _))

/-- The count nearest to `num / den` among those with 53 significant binary digits, as if there
    were no largest one. -/
def nearest (num den : Nat) : Nat :=
  let step := twoPow (spacing (num / den))
  roundQuotient num (den * step) * step

theorem roundQuotient_le (num den : Nat) : roundQuotient num den ≤ num / den + 1 := by
  unfold roundQuotient
  dsimp only
  split
  · omega
  · split <;> omega

/-- A significand of at most `2^53` spacings is a multiple of the spacing at its own size. -/
theorem spacing_dvd_mul {m e : Nat} (h : m ≤ twoPow 53) :
    twoPow (spacing (m * twoPow e)) ∣ m * twoPow e := by
  rcases Nat.eq_zero_or_pos m with rfl | hm
  · rw [Nat.zero_mul]
    exact Nat.dvd_zero _
  rcases Nat.lt_or_ge m (twoPow 53) with hlt | hge
  · have hne : m * twoPow e ≠ 0 := Nat.pos_iff_ne_zero.1 (Nat.mul_pos hm (twoPow_pos e))
    have hlog : (m * twoPow e).log2 < 53 + e := by
      rw [log2_lt_iff hne, twoPow_add]
      exact Nat.mul_lt_mul_of_pos_right hlt (twoPow_pos e)
    refine Nat.dvd_trans (twoPow_dvd ?_) (Nat.dvd_mul_left (twoPow e) m)
    unfold spacing
    omega
  · have hm' : m = twoPow 53 := Nat.le_antisymm h hge
    rw [hm', ← twoPow_add]
    apply twoPow_dvd
    unfold spacing
    rw [log2_twoPow]
    omega

/-- A count has at most 53 significant digits before its spacing. -/
theorem div_spacing_lt (n : Nat) : n / twoPow (spacing n) < twoPow 53 := by
  rw [Nat.div_lt_iff_lt_mul (twoPow_pos _), ← twoPow_add]
  rcases Nat.eq_zero_or_pos n with rfl | hn
  · exact twoPow_pos _
  · apply (log2_lt_iff (Nat.pos_iff_ne_zero.1 hn)).1
    unfold spacing
    omega

/-- Rounding leaves a multiple of the spacing at the result's own size. -/
theorem spacing_dvd_nearest (num den : Nat) :
    twoPow (spacing (nearest num den)) ∣ nearest num den := by
  unfold nearest
  apply spacing_dvd_mul
  refine Nat.le_trans (roundQuotient_le _ _) ?_
  rw [← Nat.div_div_eq_div_mul]
  exact div_spacing_lt _

/-- **What rounding gives below the overflow bound is representable.** -/
theorem representable_nearest {num den : Nat} (h : nearest num den < overflowUnits) :
    Representable (nearest num den) :=
  ⟨h, spacing_dvd_nearest num den⟩

theorem representable_zero : Representable 0 :=
  ⟨by unfold overflowUnits; exact twoPow_pos 2098, Nat.dvd_zero _⟩

/-! ## 3. The numbers -/

/-- A double-precision number. -/
inductive Binary64 where
  | nan
  | infinite (negative : Bool)
  | finite (negative : Bool) (units : Nat) (representable : Representable units)
  deriving DecidableEq

namespace Binary64

/-- The double nearest to `num / den` units, with the given sign; infinite when that lies beyond
    every finite double. -/
def ofRatio (negative : Bool) (num den : Nat) : Binary64 :=
  if h : nearest num den < overflowUnits then
    .finite negative (nearest num den) (representable_nearest h)
  else .infinite negative

/-- Zero with the given sign. -/
def zero (negative : Bool) : Binary64 := .finite negative 0 representable_zero

instance : Inhabited Binary64 := ⟨zero false⟩

/-- The double nearest to `± coefficient * 10^exponent`. -/
def ofDecimal (negative : Bool) (coefficient : Nat) (exponent : Int) : Binary64 :=
  if 0 ≤ exponent then ofRatio negative (coefficient * tenPow exponent.toNat * unitsPerOne) 1
  else ofRatio negative (coefficient * unitsPerOne) (tenPow (-exponent).toNat)

/-- The double nearest to a whole number; infinite when there is none near enough. -/
def ofInt (n : Int) : Binary64 := ofRatio (n < 0) (n.natAbs * unitsPerOne) 1

instance (n : Nat) : OfNat Binary64 n := ⟨ofInt n⟩

instance : OfScientific Binary64 :=
  ⟨fun coefficient down places =>
    ofDecimal false coefficient (if down then -(places : Int) else (places : Int))⟩

/-! ## 4. Kinds of number -/

def isNaN : Binary64 → Bool
  | nan => true
  | _ => false

def isFinite : Binary64 → Bool
  | finite .. => true
  | _ => false

/-- The sign bit; a number that is not one counts as positive. -/
def isNegative : Binary64 → Bool
  | nan => false
  | infinite negative => negative
  | finite negative _ _ => negative

/-- The count of units without its sign, infinity counting as the overflow bound. -/
def magnitude : Binary64 → Nat
  | nan => 0
  | infinite _ => overflowUnits
  | finite _ units _ => units

/-- The place on the number line in units, infinities at the overflow bounds. -/
def line (x : Binary64) : Int :=
  if x.isNegative then -(x.magnitude : Int) else x.magnitude

/-! ## 5. Arithmetic -/

protected def neg : Binary64 → Binary64
  | nan => nan
  | infinite negative => infinite !negative
  | finite negative units h => finite (!negative) units h

/-- The double nearest to a signed count of units; an exact zero takes the sign of both summands
    when they agree and is positive otherwise. -/
protected def add : Binary64 → Binary64 → Binary64
  | nan, _ => nan
  | _, nan => nan
  | infinite s, infinite t => if s = t then infinite s else nan
  | infinite s, finite .. => infinite s
  | finite .., infinite t => infinite t
  | x@(finite s _ _), y@(finite t _ _) =>
    let sum := x.line + y.line
    if sum = 0 then zero (s && t) else ofRatio (sum < 0) sum.natAbs 1

protected def sub (x y : Binary64) : Binary64 := x.add y.neg

/-- The double nearest to the product; zero times infinity is not a number. -/
protected def mul : Binary64 → Binary64 → Binary64
  | nan, _ => nan
  | _, nan => nan
  | infinite s, infinite t => infinite (s != t)
  | infinite s, finite t units _ => if units = 0 then nan else infinite (s != t)
  | finite s units _, infinite t => if units = 0 then nan else infinite (s != t)
  | finite s m _, finite t n _ => ofRatio (s != t) (m * n) unitsPerOne

/-- The double nearest to the quotient. A non-zero number over zero is infinite, zero over zero
    and infinity over infinity are not numbers. -/
protected def div : Binary64 → Binary64 → Binary64
  | nan, _ => nan
  | _, nan => nan
  | infinite _, infinite _ => nan
  | infinite s, finite t _ _ => infinite (s != t)
  | finite s _ _, infinite t => zero (s != t)
  | finite s m _, finite t n _ =>
    if n = 0 then if m = 0 then nan else infinite (s != t)
    else ofRatio (s != t) (m * unitsPerOne) n

instance : Neg Binary64 := ⟨Binary64.neg⟩
instance : Add Binary64 := ⟨Binary64.add⟩
instance : Sub Binary64 := ⟨Binary64.sub⟩
instance : Mul Binary64 := ⟨Binary64.mul⟩
instance : Div Binary64 := ⟨Binary64.div⟩

/-! ## 6. Comparison -/

/-- The numeric order; nothing compares with what is not a number. -/
def less (x y : Binary64) : Bool := !x.isNaN && !y.isNaN && x.line < y.line

/-- The numeric order, equality included. -/
def atMost (x y : Binary64) : Bool := !x.isNaN && !y.isNaN && x.line ≤ y.line

/-- Numeric equality: the two zeros are equal, and nothing equals what is not a number. -/
def sameValue (x y : Binary64) : Bool := !x.isNaN && !y.isNaN && x.line == y.line

/-- The larger of two numbers, the first one unless the second is larger. -/
def larger (x y : Binary64) : Binary64 := if x.less y then y else x

/-! ## 7. Back to whole numbers -/

/-- The whole number nearest to the value, a tie going to the even one. Infinity rounds to the
    overflow bound `2^1024`, beyond every finite double, so that rounding is monotone. -/
def round (x : Binary64) : Int :=
  let rounded := roundQuotient x.magnitude unitsPerOne
  if x.isNegative then -(rounded : Int) else rounded

/-- The whole part, toward zero. -/
def truncate (x : Binary64) : Int :=
  let whole := x.magnitude / unitsPerOne
  if x.isNegative then -(whole : Int) else whole

/-- The nearest whole number as 32 bits with a sign hold it; the smallest number of 32 bits stands
    for everything that they do not hold. -/
def round32 (x : Binary64) : Int :=
  if x.isFinite && -(twoPow 31 : Int) ≤ x.round && x.round < twoPow 31 then x.round
  else -(twoPow 31 : Int)

end Binary64

end DeskCalc
