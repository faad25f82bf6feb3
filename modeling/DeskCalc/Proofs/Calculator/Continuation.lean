import DeskCalc.Proofs.Calculator.Result
import DeskCalc.Proofs.Calculator.Run

/-!
# Going on with a result

Who evaluates an expression and goes on with an operator gets what the expression in parentheses
would have given, whatever is entered behind the operator: the text of the result stands for the
parentheses and all they hold. This file fixes

* `continuation`: evaluate, go on with an operator, and enter some tokens;
* `evaluate_alike`: what a state shows after an evaluation depends on the outcome up to the sign of
  a zero and the place of a fault;
* **`continued_eq_parenthesized`**: the main statement.
-/

namespace DeskCalc

namespace State

/-- The commands that go on with the result of a state: an operator and further tokens. -/
def continuation (op : Operator) (tokens : List String) : List Command :=
  .evaluate :: .append (String.singleton op.symbol) true :: tokens.map (.append · false)

/-! ## 1. Entering tokens -/

/-- Tokens that are entered one after another join the buffer. -/
theorem run_tokens {s : State} (h : s.mode = .input) (tokens : List String) :
    (s.run (tokens.map (.append · false))).buffer = s.buffer ++ String.join tokens := by
  induction tokens generalizing s with
  | nil =>
    rw [String.join_nil, String.append_empty]
    rfl
  | cons token tokens ih =>
    have hs : s.append token false = { s with buffer := s.buffer ++ token, error := "" } := by
      unfold append
      rw [h]
    show (run (s.append token false) (tokens.map (.append · false))).buffer = _
    rw [hs, String.join_cons, ← String.append_assoc]
    exact ih h

theorem run_continuation {s : State} {v : Binary64} (hv : v.isFinite = true)
    (hvalue : Expression.evaluate s.buffer = .ok v) (op : Operator) (tokens : List String) :
    (s.run (continuation op tokens)).buffer =
      v.plain ++ String.singleton op.symbol ++ String.join tokens := by
  have hs := evaluate_of_finite hv hvalue
  show (run (append s.evaluate _ true) _).buffer = _
  rw [hs, run_tokens rfl]
  rfl

/-! ## 2. Alike outcomes -/

/-- Alike outcomes show alike. -/
theorem evaluate_alike {s s' : State}
    (h : Expression.AlikeOutcome (Expression.evaluate s.buffer) (Expression.evaluate s'.buffer)) :
    s.evaluate.buffer = s'.evaluate.buffer ∧ s.evaluate.mode = s'.evaluate.mode ∧
      s.evaluate.error = s'.evaluate.error := by
  unfold evaluate
  generalize Expression.evaluate s.buffer = outcome at *
  generalize Expression.evaluate s'.buffer = outcome' at *
  cases h with
  | fault h => exact ⟨rfl, rfl, h⟩
  | @value x y h =>
    cases h with
    | zeros s t => exact ⟨(Binary64.Alike.zeros s t).plain_eq, rfl, rfl⟩
    | same =>
      cases x with
      | nan => exact ⟨rfl, rfl, rfl⟩
      | infinite negative => exact ⟨rfl, rfl, rfl⟩
      | finite negative units representable => exact ⟨rfl, rfl, rfl⟩

/-- An evaluation that shows no error is not nested too deeply. -/
theorem shallow_of_error {s : State} (h : s.evaluate.error = "") :
    Expression.evaluate s.buffer ≠ .error .nestedTooDeeply := by
  obtain ⟨v, _, hvalue⟩ := exists_finite_of_error h
  rw [hvalue]
  exact fun h => nomatch h

/-! ## 3. Results and parentheses -/

/-- An expression with a value writes an operand of that value, once it stands in parentheses. -/
theorem exists_group {text : String} {v : Binary64} (h : Expression.evaluate text = .ok v) :
    ∃ d : Derivation .operand,
      Expression.Writes ('(' :: (text.toList ++ [')'])) d ∧ d.tree.value = v := by
  obtain ⟨tree, hparse, hvalue⟩ := bind_eq_ok.1 h
  obtain ⟨d, hwrites, rfl⟩ := Expression.exists_writes_of_parse hparse
  refine ⟨.group d, hwrites.group, ?_⟩
  split at hvalue
  · exact Except.ok.inj hvalue
  · cases hvalue

/-- **Going on with a result is going on with the expression in parentheses**, where neither text is
    nested too deeply: whatever is entered behind the operator, the same result or the same error
    is shown in the end. -/
theorem continued_eq_parenthesized {s s' : State} {v : Binary64} (op : Operator)
    (tokens : List String) (finite : v.isFinite = true)
    (value : Expression.evaluate s.buffer = .ok v)
    (whole : s'.buffer =
      "(" ++ s.buffer ++ ")" ++ String.singleton op.symbol ++ String.join tokens)
    (shallow : Expression.evaluate (s.run (continuation op tokens)).buffer ≠
      .error .nestedTooDeeply)
    (shallow' : Expression.evaluate s'.buffer ≠ .error .nestedTooDeeply) :
    (s.run (continuation op tokens ++ [.evaluate])).buffer = (s'.apply .evaluate).buffer ∧
      (s.run (continuation op tokens ++ [.evaluate])).mode = (s'.apply .evaluate).mode ∧
      (s.run (continuation op tokens ++ [.evaluate])).error = (s'.apply .evaluate).error := by
  obtain ⟨d, hresult, _, _, hd⟩ := Binary64.exists_literal finite
  obtain ⟨e, hgroup, he⟩ := exists_group value
  have hbuffer : (s.run (continuation op tokens)).buffer =
      String.ofList (v.plain.toList ++ op.symbol :: (String.join tokens).toList) := by
    rw [run_continuation finite value, ← String.toList_inj]
    simp
  have hbuffer' : s'.buffer =
      String.ofList ('(' :: (s.buffer.toList ++ [')']) ++
        op.symbol :: (String.join tokens).toList) := by
    rw [whole, ← String.toList_inj]
    simp
  have halike : d.tree.value.Alike e.tree.value := by
    rw [he]
    exact hd
  rw [run_append]
  refine evaluate_alike ?_
  rw [hbuffer] at shallow ⊢
  rw [hbuffer'] at shallow' ⊢
  exact Expression.evaluate_operand_alike hresult hgroup halike op _ shallow shallow'

/-- A negative result keeps its sign in front of a product. -/
theorem negative_result_times_two :
    ({ buffer := "1-3" } : State).evaluate.buffer = "-2" ∧
    (({ buffer := "1-3" } : State).run (continuation .multiply ["2"] ++ [.evaluate])).buffer =
      (({ buffer := "(1-3)*2" } : State).apply .evaluate).buffer := by
  have hresult : ({ buffer := "1-3" } : State).evaluate.error = "" := by decide +kernel
  have hcontinued : (({ buffer := "1-3" } : State).run
      (continuation .multiply ["2"])).evaluate.error = "" := by decide +kernel
  have hwhole : ({ buffer := "(1-3)*2" } : State).evaluate.error = "" := by decide +kernel
  obtain ⟨v, finite, value⟩ := exists_finite_of_error hresult
  exact ⟨by decide +kernel, (continued_eq_parenthesized .multiply ["2"] finite value (by decide)
    (shallow_of_error hcontinued) (shallow_of_error hwhole)).1⟩

end State

end DeskCalc
