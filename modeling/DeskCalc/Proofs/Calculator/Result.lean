import DeskCalc.Calculator.State
import DeskCalc.Proofs.Decimal.Notation
import DeskCalc.Proofs.Decimal.Shortest
import DeskCalc.Proofs.Expression.Operands

/-!
# Results can be read again

A result is written in the notation that expressions use, whichever of the two ways of writing it
takes, and reads back as the same number; only a negative zero loses its sign. So a result can be
evaluated once more and stays what it is. This file fixes

* `positional_plainDigits`, `toBinary64_plainDigits`: the shape of the digits, and their double;
* `exists_literal`: the operand that a result writes;
* `Alike.plain_eq`: alike numbers are written alike;
* `State.evaluate_cases`: an evaluation succeeds with a finite value or fails with a message;
* **`plain_readable_and_stable`**: the main statement.
-/

namespace DeskCalc

/-- An optional sign and a number in positional notation. -/
def Decimal.Signed (text : List Char) : Prop :=
  ∃ body, Positional body ∧ (text = body ∨ text = '-' :: body)

namespace Binary64

/-! ## 1. The digits of a magnitude -/

theorem positional_plainDigits (units : Nat) : Decimal.Positional (plainDigits units) := by
  unfold plainDigits
  split
  · exact .whole (Decimal.digits_digits _)
  · exact Decimal.positional_plain _

/-- **The digits of a magnitude read back as its double.** -/
theorem toBinary64_plainDigits {units : Nat} (representable : Representable units)
    (negative : Bool) :
    (Decimal.ofNumeral (plainDigits units)).toBinary64 negative =
      .finite negative units representable := by
  unfold plainDigits
  split
  · rename_i hwhole
    have hunits : units / unitsPerOne * unitsPerOne = units :=
      Nat.div_mul_cancel (Nat.dvd_of_mod_eq_zero hwhole)
    rw [Decimal.ofNumeral_whole (Decimal.digits_digits _), Decimal.ofDigits_digits,
      Decimal.toBinary64_whole, hunits]
    exact ofRatio_eq_finite (nearest_one_eq_self representable) negative
  · rw [Decimal.toBinary64_ofNumeral_plain, Decimal.toBinary64_shortest representable]

/-! ## 2. The text of a result -/

theorem plain_eq (negative : Bool) (units : Nat) (representable : Representable units) :
    (finite negative units representable).plain.toList =
      if negative && units != 0 then '-' :: plainDigits units else plainDigits units := by
  unfold plain
  rw [String.toList_ofList]
  split
  · rfl
  · rfl

theorem signed_plain {v : Binary64} (h : v.isFinite = true) : Decimal.Signed v.plain.toList := by
  cases v with
  | nan => cases h
  | infinite negative => cases h
  | finite negative units representable =>
    refine ⟨plainDigits units, positional_plainDigits units, ?_⟩
    rw [plain_eq]
    split
    · exact .inr rfl
    · exact .inl rfl

theorem plain_zero (negative : Bool) : (zero negative).plain = "0" := by
  have hdigits : plainDigits 0 = ['0'] := by
    unfold plainDigits
    rw [if_pos (Nat.zero_mod _), Nat.zero_div]
    rfl
  rw [← String.toList_inj]
  refine (plain_eq negative 0 representable_zero).trans ?_
  rw [hdigits]
  cases negative <;> rfl

/-- A result writes an operand of its value, a sign and a numeral at most. -/
theorem exists_literal {v : Binary64} (h : v.isFinite = true) :
    ∃ d : Derivation .operand, Expression.Writes v.plain.toList d ∧ d.nesting ≤ 1 ∧
      d.tree.height ≤ 1 ∧ d.tree.value.Alike v := by
  cases v with
  | nan => cases h
  | infinite negative => cases h
  | finite negative units representable =>
    have hnumber := Expression.Writes.number (positional_plainDigits units)
    have hleaf : (Derivation.number (plainDigits units)).tree.value =
        finite false units representable := toBinary64_plainDigits representable false
    rw [plain_eq]
    split
    · rename_i hsign
      obtain ⟨rfl, _⟩ := Bool.and_eq_true_iff.1 hsign
      refine ⟨_, hnumber.negate, Nat.le_refl 1, Nat.le_refl 1, ?_⟩
      show Alike (-(Derivation.number (plainDigits units)).tree.value) _
      rw [hleaf]
      exact .same _
    · rename_i hsign
      refine ⟨_, hnumber, Nat.zero_le 1, Nat.zero_le 1, ?_⟩
      rw [hleaf]
      cases negative with
      | false => exact .same _
      | true =>
        have hzero : units = 0 := by simpa using hsign
        subst hzero
        exact .zeros false true

/-- A result is an expression of its value. -/
theorem exists_parse_plain {v : Binary64} (h : v.isFinite = true) :
    ∃ tree, Expression.parse v.plain = .ok tree ∧
      Expression.evaluate v.plain = .ok tree.value ∧ tree.value.Alike v := by
  obtain ⟨d, hwrites, hnesting, hheight, hvalue⟩ := exists_literal h
  have hsum : Expression.Writes v.plain.toList (.summand (.factor d)) := hwrites
  have hparse := hsum.parse_eq (Nat.le_trans hnesting (by decide))
  rw [String.ofList_toList] at hparse
  refine ⟨d.tree, hparse, ?_, hvalue⟩
  unfold Expression.evaluate
  rw [hparse]
  exact if_pos (Nat.le_trans hheight (by decide))

/-! ## 3. Alike numbers -/

theorem Alike.plain_eq {x y : Binary64} (h : x.Alike y) : x.plain = y.plain := by
  cases h with
  | same => rfl
  | zeros s t => rw [plain_zero, plain_zero]

theorem Alike.isFinite_eq {x y : Binary64} (h : x.Alike y) : x.isFinite = y.isFinite := by
  cases h with
  | same => rfl
  | zeros s t => rfl

theorem Alike.sameValue {x y : Binary64} (h : x.Alike y) (hx : x.isFinite = true) :
    x.sameValue y = true := by
  cases h with
  | same =>
    cases x with
    | nan => cases hx
    | infinite negative => cases hx
    | finite negative units representable => exact beq_self_eq_true _
  | zeros s t => cases s <;> cases t <;> rfl

end Binary64

/-! ## 4. Evaluating -/

theorem append_ne_empty {s : String} (h : s ≠ "") (t : String) : s ++ t ≠ "" := by
  intro he
  exact h (String.append_eq_empty_iff.1 he).1

theorem ExpressionError.message_ne_empty (fault : ExpressionError) : fault.message ≠ "" := by
  cases fault with
  | invalidCharacter c position => exact append_ne_empty (append_ne_empty (by decide) _) _
  | malformedNumber numeral position => exact append_ne_empty (append_ne_empty (by decide) _) _
  | unexpected text position => exact append_ne_empty (append_ne_empty (by decide) _) _
  | lonePoint position => exact (by decide : "Decimal point without digits" ≠ "")
  | empty => exact (by decide : "Empty expression" ≠ "")
  | endsUnexpectedly position => exact (by decide : "Expression ends unexpectedly" ≠ "")
  | unmatchedOpen position => exact (by decide : "Unmatched '('" ≠ "")
  | unmatchedClose position => exact (by decide : "Unmatched ')'" ≠ "")
  | nestedTooDeeply => exact (by decide : "Expression is nested too deeply" ≠ "")

namespace State

theorem evaluate_of_finite {s : State} {v : Binary64} (h : v.isFinite = true)
    (hvalue : Expression.evaluate s.buffer = .ok v) : s.evaluate = s.succeed v.plain := by
  unfold evaluate
  rw [hvalue]
  cases v with
  | nan => cases h
  | infinite negative => cases h
  | finite negative units representable => rfl

/-- **An evaluation succeeds with a finite value or fails with a message.** -/
theorem evaluate_cases (s : State) :
    (∃ v, v.isFinite = true ∧ Expression.evaluate s.buffer = .ok v ∧
      s.evaluate = s.succeed v.plain) ∨
    ∃ message, message ≠ "" ∧ s.evaluate = s.fail message := by
  cases hvalue : Expression.evaluate s.buffer with
  | error fault =>
    refine .inr ⟨fault.message, fault.message_ne_empty, ?_⟩
    unfold evaluate
    rw [hvalue]
  | ok v =>
    cases v with
    | nan =>
      refine .inr ⟨"Result is Not a Number", by decide, ?_⟩
      unfold evaluate
      rw [hvalue]
    | infinite negative =>
      refine .inr ⟨"Result is Infinite", by decide, ?_⟩
      unfold evaluate
      rw [hvalue]
    | finite negative units representable =>
      exact .inl ⟨_, rfl, rfl, evaluate_of_finite rfl hvalue⟩

theorem exists_finite_of_error {s : State} (h : s.evaluate.error = "") :
    ∃ v, v.isFinite = true ∧ Expression.evaluate s.buffer = .ok v := by
  rcases s.evaluate_cases with ⟨v, hv, hvalue, _⟩ | ⟨message, hmessage, hs⟩
  · exact ⟨v, hv, hvalue⟩
  · rw [hs] at h
    exact absurd h hmessage

/-- A result that is evaluated stays, and is logged as its own result. -/
theorem evaluate_evaluate {s : State} (h : s.evaluate.error = "") :
    s.evaluate.evaluate =
      { buffer := s.evaluate.buffer
        history := (s.evaluate.buffer ++ " = " ++ s.evaluate.buffer) :: s.evaluate.history
        mode := .result
        error := "" } := by
  obtain ⟨v, hv, hv'⟩ := exists_finite_of_error h
  obtain ⟨tree, _, hvalue, halike⟩ := Binary64.exists_parse_plain hv
  have hfinite : tree.value.isFinite = true := halike.isFinite_eq.trans hv
  have hagain : Expression.evaluate (s.succeed v.plain).buffer = .ok tree.value := hvalue
  rw [evaluate_of_finite hv hv', evaluate_of_finite hfinite hagain, halike.plain_eq]
  rfl

end State

/-- **Every result is readable, and evaluating it changes nothing but the log.** The text of a finite
    number is a signed number in positional notation; it is scanned and read, and has that number
    as its value. -/
theorem plain_readable_and_stable :
    (∀ v : Binary64, v.isFinite = true →
      Decimal.Signed v.plain.toList ∧
      (∃ scan tree, Scan.ofText v.plain.toList = .ok scan ∧
        Expression.parse v.plain = .ok tree) ∧
      (∃ w, Expression.evaluate v.plain = .ok w ∧ w.sameValue v = true) ∧
      ∀ negative, v = .zero negative → v.plain = "0") ∧
    ∀ s : State, s.evaluate.error = "" →
      s.evaluate.evaluate =
        { buffer := s.evaluate.buffer
          history := (s.evaluate.buffer ++ " = " ++ s.evaluate.buffer) :: s.evaluate.history
          mode := .result
          error := "" } := by
  refine ⟨fun v hv => ⟨Binary64.signed_plain hv, ?_, ?_, ?_⟩, fun s => State.evaluate_evaluate⟩
  · obtain ⟨tree, hparse, _, _⟩ := Binary64.exists_parse_plain hv
    obtain ⟨scan, hscan, _⟩ := bind_eq_ok.1 hparse
    exact ⟨scan, tree, hscan, hparse⟩
  · obtain ⟨tree, _, hvalue, halike⟩ := Binary64.exists_parse_plain hv
    exact ⟨tree.value, hvalue, halike.sameValue (halike.isFinite_eq.trans hv)⟩
  · rintro negative rfl
    exact Binary64.plain_zero negative

/-- The largest negative number, which needs many zeros behind the point, and a difference that is
    evaluated twice. -/
theorem largest_negative_readable :
    (∃ representable : Representable 1,
      ∃ w, Expression.evaluate (Binary64.finite true 1 representable).plain = .ok w ∧
        w.sameValue (.finite true 1 representable) = true) ∧
    ({ buffer := "2-5", mode := .input } : State).evaluate.evaluate =
      { buffer := "-3", history := ["-3 = -3", "2-5 = -3"], mode := .result, error := "" } := by
  have hs : ({ buffer := "2-5", mode := .input } : State).evaluate =
      { buffer := "-3", history := ["2-5 = -3"], mode := .result, error := "" } := by
    decide +kernel
  have representable : Representable 1 := by decide +kernel
  refine ⟨⟨representable, (plain_readable_and_stable.1 (.finite true 1 representable) rfl).2.2.1⟩, ?_⟩
  have hagain := plain_readable_and_stable.2 { buffer := "2-5", mode := .input } (by rw [hs])
  rw [hs] at hagain
  rw [hs, hagain]
  decide

end DeskCalc
