import DeskCalc.Decimal.Notation

/-!
# Positional notation reads back

What `plain` writes is digits with at most one point, a digit on each side of it, and writes the
same number for a reader. This file fixes

* `Digits` and `Positional`: the shapes of a whole number and of a number in positional notation;
* `ofDigits_digits`: the digits of a whole number write it;
* `ofNumeral_whole`, `ofNumeral_pointed`: what a numeral of each shape writes;
* **`positional_plain`** and **`toBinary64_ofNumeral_plain`**: the shape of what `plain` writes, and
  its double.
-/

namespace DeskCalc

namespace Decimal

/-! ## 1. Digits -/

/-- One or more digits. -/
structure Digits (text : List Char) : Prop where
  nonempty : text ≠ []
  all : ∀ c ∈ text, c.isDigit = true

/-- Digits, and behind a point, if there is one, more digits. -/
inductive Positional : List Char → Prop where
  | whole {digits : List Char} (h : Digits digits) : Positional digits
  | pointed {digits fraction : List Char} (h : Digits digits) (hf : Digits fraction) :
      Positional (digits ++ '.' :: fraction)

theorem digits_digits (n : Nat) : Digits (digits n) where
  nonempty := Nat.toDigits_ne_nil
  all _ hc := Nat.isDigit_of_mem_toDigits (by decide) (by decide) hc

theorem Digits.append {ds : List Char} (h : Digits ds) {es : List Char}
    (he : ∀ c ∈ es, c.isDigit = true) : Digits (ds ++ es) where
  nonempty := List.append_ne_nil_of_left_ne_nil h.nonempty es
  all c hc := (List.mem_append.1 hc).elim (h.all c) (he c)

theorem isDigit_of_mem_zeros {n : Nat} {c : Char} (h : c ∈ List.replicate n '0') :
    c.isDigit = true := by
  rw [List.eq_of_mem_replicate h]
  rfl

/-- The point is no digit. -/
theorem ne_point_of_isDigit {c : Char} (h : c.isDigit = true) : (c != '.') = true := by
  rw [bne_iff_ne]
  rintro rfl
  cases h

theorem Digits.count_point {ds : List Char} (h : Digits ds) : ds.count '.' = 0 := by
  refine List.count_eq_zero.2 fun hmem => ?_
  cases h.all _ hmem

theorem Positional.count_point_le {text : List Char} (h : Positional text) :
    text.count '.' ≤ 1 := by
  cases h with
  | whole h =>
    rw [h.count_point]
    exact Nat.zero_le 1
  | pointed h hf =>
    refine Nat.le_of_eq ?_
    rw [List.count_append, h.count_point, List.count_cons_self, hf.count_point]

theorem Positional.isDigit_or_point {text : List Char} (h : Positional text) {c : Char}
    (hc : c ∈ text) : c.isDigit = true ∨ c = '.' := by
  cases h with
  | whole h => exact .inl (h.all c hc)
  | pointed h hf =>
    rcases List.mem_append.1 hc with hc | hc
    · exact .inl (h.all c hc)
    rcases List.mem_cons.1 hc with rfl | hc
    · exact .inr rfl
    · exact .inl (hf.all c hc)

/-- Positional notation begins with a digit. -/
theorem Positional.exists_cons {text : List Char} (h : Positional text) :
    ∃ c rest, text = c :: rest ∧ c.isDigit = true := by
  cases h with
  | whole h =>
    obtain ⟨c, rest, rfl⟩ := List.exists_cons_of_ne_nil h.nonempty
    exact ⟨c, rest, rfl, h.all c (List.mem_cons_self ..)⟩
  | @pointed ds fraction h hf =>
    obtain ⟨c, rest, rfl⟩ := List.exists_cons_of_ne_nil h.nonempty
    exact ⟨c, rest ++ '.' :: fraction, rfl, h.all c (List.mem_cons_self ..)⟩

theorem ofDigits_eq_ofDigitChars (ds : List Char) : ofDigits ds = Nat.ofDigitChars 10 ds 0 := by
  rfl

/-- **The digits of a whole number write it.** -/
theorem ofDigits_digits (n : Nat) : ofDigits (digits n) = n :=
  Nat.ofDigitChars_ten_toDigits

theorem ofDigits_digits_append_zeros (n k : Nat) :
    ofDigits (digits n ++ List.replicate k '0') = n * tenPow k := by
  rw [ofDigits_eq_ofDigitChars, Nat.ofDigitChars_append, Nat.ofDigitChars_replicate_zero,
    ← ofDigits_eq_ofDigitChars, ofDigits_digits, Nat.mul_comm]
  rfl

theorem ofDigits_zeros_append (k : Nat) (ds : List Char) :
    ofDigits (List.replicate k '0' ++ ds) = ofDigits ds := by
  rw [ofDigits_eq_ofDigitChars, Nat.ofDigitChars_append, Nat.ofDigitChars_replicate_zero,
    Nat.mul_zero, ofDigits_eq_ofDigitChars]

/-! ## 2. Numerals -/

theorem ofNumeral_whole {ds : List Char} (h : Digits ds) : ofNumeral ds = ⟨ofDigits ds, 0⟩ := by
  have hpoint : ∀ c ∈ ds, (c != '.') = true := fun c hc => ne_point_of_isDigit (h.all c hc)
  have htake : (ds ++ []).takeWhile (· != '.') = ds ++ [] := List.takeWhile_append_of_pos hpoint
  have hdrop : (ds ++ []).dropWhile (· != '.') = [] := List.dropWhile_append_of_pos hpoint
  rw [List.append_nil] at htake hdrop
  unfold ofNumeral
  rw [htake, hdrop]
  simp

theorem ofNumeral_pointed {ds : List Char} (h : Digits ds) (fraction : List Char) :
    ofNumeral (ds ++ '.' :: fraction) = ⟨ofDigits (ds ++ fraction), -(fraction.length : Int)⟩ := by
  have hpoint : ∀ c ∈ ds, (c != '.') = true := fun c hc => ne_point_of_isDigit (h.all c hc)
  unfold ofNumeral
  rw [List.takeWhile_append_of_pos hpoint, List.dropWhile_append_of_pos hpoint]
  simp

/-! ## 3. Places -/

theorem places_of_nonneg {d : Decimal} (h : 0 ≤ d.exponent) :
    d.places = (digits d.coefficient ++ List.replicate d.exponent.toNat '0', []) :=
  if_pos h

/-- A decimal of a negative exponent has digits on both sides of the point, and together they are
    those of its coefficient behind some zeros. -/
theorem exists_places_of_neg {d : Decimal} (h : d.exponent < 0) :
    ∃ whole fraction, d.places = (whole, fraction) ∧ Digits whole ∧ Digits fraction ∧
      -(fraction.length : Int) = d.exponent ∧ ofDigits (whole ++ fraction) = d.coefficient := by
  have hplaces : d.places =
      (List.replicate ((-d.exponent).toNat + 1 - (digits d.coefficient).length) '0'
        ++ digits d.coefficient).splitAt
      ((List.replicate ((-d.exponent).toNat + 1 - (digits d.coefficient).length) '0'
        ++ digits d.coefficient).length - (-d.exponent).toNat) := if_neg (Int.not_le.2 h)
  have hvalue := ofDigits_zeros_append ((-d.exponent).toNat + 1 - (digits d.coefficient).length)
    (digits d.coefficient)
  have hlength : (-d.exponent).toNat + 1 ≤
      (List.replicate ((-d.exponent).toNat + 1 - (digits d.coefficient).length) '0'
        ++ digits d.coefficient).length := by
    rw [List.length_append, List.length_replicate]
    omega
  have hall : ∀ c ∈ List.replicate ((-d.exponent).toNat + 1 - (digits d.coefficient).length) '0'
      ++ digits d.coefficient, c.isDigit = true := by
    intro c hc
    exact (List.mem_append.1 hc).elim isDigit_of_mem_zeros ((digits_digits _).all c)
  rw [ofDigits_digits] at hvalue
  generalize List.replicate ((-d.exponent).toNat + 1 - (digits d.coefficient).length) '0'
    ++ digits d.coefficient = padded at *
  rw [List.splitAt_eq] at hplaces
  refine ⟨_, _, hplaces, ⟨?_, fun c hc => hall c (List.mem_of_mem_take hc)⟩,
    ⟨?_, fun c hc => hall c (List.mem_of_mem_drop hc)⟩, ?_, ?_⟩
  · rw [← List.length_pos_iff, List.length_take]
    omega
  · rw [← List.length_pos_iff, List.length_drop]
    omega
  · rw [List.length_drop]
    omega
  · rw [List.take_append_drop, hvalue]

/-! ## 4. Positional notation -/

theorem plain_of_nonneg {d : Decimal} (h : 0 ≤ d.exponent) :
    d.plain = digits d.coefficient ++ List.replicate d.exponent.toNat '0' := by
  unfold plain
  rw [places_of_nonneg h]

theorem exists_plain_of_neg {d : Decimal} (h : d.exponent < 0) :
    ∃ whole fraction, d.plain = whole ++ '.' :: fraction ∧ Digits whole ∧ Digits fraction ∧
      -(fraction.length : Int) = d.exponent ∧ ofDigits (whole ++ fraction) = d.coefficient := by
  obtain ⟨whole, fraction, hplaces, hwhole, hfraction, hrest⟩ := exists_places_of_neg h
  refine ⟨whole, fraction, ?_, hwhole, hfraction, hrest⟩
  obtain ⟨first, others, rfl⟩ := List.exists_cons_of_ne_nil hfraction.nonempty
  unfold plain
  rw [hplaces]

/-- **Positional notation is digits with at most one point between them.** -/
theorem positional_plain (d : Decimal) : Positional d.plain := by
  rcases Int.lt_or_le d.exponent 0 with h | h
  · obtain ⟨whole, fraction, hplain, hwhole, hfraction, _⟩ := exists_plain_of_neg h
    rw [hplain]
    exact .pointed hwhole hfraction
  · rw [plain_of_nonneg h]
    exact .whole ((digits_digits _).append fun c => isDigit_of_mem_zeros)

/-- **Positional notation writes the same number.** -/
theorem toBinary64_ofNumeral_plain (d : Decimal) (negative : Bool) :
    (ofNumeral d.plain).toBinary64 negative = d.toBinary64 negative := by
  rcases Int.lt_or_le d.exponent 0 with h | h
  · obtain ⟨whole, fraction, hplain, hwhole, _, hexponent, hcoefficient⟩ := exists_plain_of_neg h
    rw [hplain, ofNumeral_pointed hwhole, hexponent, hcoefficient]
  · rw [plain_of_nonneg h, ofNumeral_whole ((digits_digits _).append fun c => isDigit_of_mem_zeros),
      ofDigits_digits_append_zeros]
    unfold toBinary64 Binary64.ofDecimal
    rw [if_pos (Int.le_refl 0), if_pos h]
    show Binary64.ofRatio _ (_ * 1 * _) 1 = _
    rw [Nat.mul_one]

end Decimal

end DeskCalc
