import DeskCalc.Proofs.Expression.Grammar

/-!
# What readers do, equation by equation

A reader carries a proof that it leaves fewer lexemes than it was given. `Reader.run` and `joinFrom`
are the same readings without that proof; the equations here say what they give for each beginning
of the input, and nothing later unfolds a reader. Every equation is true by the definition of the
readers, apart from the fault that a reader met on the way.
-/

namespace DeskCalc

namespace Expression

/-- A fault, or a tree and the lexemes behind it. -/
abbrev Reading := Except ExpressionError (Tree × List Lexeme)

/-- A reading without the proof that the rest is shorter. -/
def Reader.run (reader : Reader) (input : List Lexeme) : Reading := (reader input).map Subtype.val

/-- Reading on behind `left`, without the proof that the rest is no longer. -/
def joinFrom (level : Operator → Bool) (reader : Reader) (left : Tree) (input : List Lexeme) :
    Reading :=
  (chainFrom level reader left input).map Subtype.val

/-- Whether an operator of the level comes next. -/
def operatorNext (level : Operator → Bool) : List Lexeme → Bool
  | ⟨.operator op, _⟩ :: _ => level op
  | _ => false

/-- What comes of a sum behind a parenthesis that opened at `position`. -/
def closeGroup (position : Nat) : Tree × List Lexeme → Reading
  | (tree, ⟨.closeParen, _⟩ :: rest) => .ok (tree, rest)
  | _ => .error (.unmatchedOpen position)

/-- What comes of a sum at the beginning of a text. -/
def endText : Tree × List Lexeme → Except ExpressionError Tree
  | (tree, []) => .ok tree
  | (_, ⟨.closeParen, position⟩ :: _) => .error (.unmatchedClose position)
  | (_, ⟨token, position⟩ :: _) => .error (.unexpected token.text position)

/-! ## 1. Chains -/

theorem run_length_lt {reader : Reader} {input rest : List Lexeme} {tree : Tree}
    (h : reader.run input = .ok (tree, rest)) : rest.length < input.length := by
  unfold Reader.run at h
  cases hr : reader input with
  | error fault => rw [hr] at h; cases h
  | ok part =>
    obtain ⟨part, shorter⟩ := part
    rw [hr] at h
    cases h
    exact shorter

theorem joinFrom_operator {level : Operator → Bool} {op : Operator} (h : level op = true)
    (reader : Reader) (left : Tree) (position : Nat) (rest : List Lexeme) :
    joinFrom level reader left (⟨.operator op, position⟩ :: rest) =
      (reader.run rest).bind fun part =>
        joinFrom level reader (.binary op left part.1) part.2 := by
  unfold joinFrom Reader.run
  rw [chainFrom]
  simp only [h, if_true]
  cases hr : reader rest with
  | error fault => rfl
  | ok part =>
    obtain ⟨⟨right, behind⟩, shorter⟩ := part
    simp only [Except.map, Except.bind]
    cases chainFrom level reader (.binary op left right) behind <;> rfl

/-- Where no operator of the level comes next, nothing joins. -/
theorem joinFrom_stop {level : Operator → Bool} {input : List Lexeme}
    (h : operatorNext level input = false) (reader : Reader) (left : Tree) :
    joinFrom level reader left input = .ok (left, input) := by
  unfold joinFrom
  rw [chainFrom.eq_def]
  split
  · rename_i op position rest
    have h' : level op = false := h
    simp only [h', Bool.false_eq_true, if_false]
    rfl
  · rfl

theorem run_chain (level : Operator → Bool) (reader : Reader) (input : List Lexeme) :
    (chain level reader).run input =
      (reader.run input).bind fun part => joinFrom level reader part.1 part.2 := by
  unfold joinFrom Reader.run chain
  cases hr : reader input with
  | error fault => rfl
  | ok part =>
    obtain ⟨⟨left, rest⟩, shorter⟩ := part
    simp only [Except.map, Except.bind]
    cases chainFrom level reader left rest <;> rfl

theorem exists_of_operatorNext {level : Operator → Bool} {input : List Lexeme}
    (h : operatorNext level input = true) :
    ∃ op position rest, input = ⟨.operator op, position⟩ :: rest ∧ level op = true := by
  unfold operatorNext at h
  split at h
  · exact ⟨_, _, _, rfl, h⟩
  · cases h

/-- **What holds at every turn of the loop of a chain decides how it ends.** `inv` speaks of the
    tree so far and the lexemes ahead, `out` of the end. -/
theorem joinFrom_invariant {level : Operator → Bool} {reader : Reader}
    (inv : Tree → List Lexeme → Prop) (out : Reading → Prop)
    (stop : ∀ {left input}, inv left input → operatorNext level input = false →
      out (.ok (left, input)))
    (fail : ∀ {left op position rest fault}, level op = true →
      inv left (⟨.operator op, position⟩ :: rest) → reader.run rest = .error fault →
      out (.error fault))
    (turn : ∀ {left op position rest right behind}, level op = true →
      inv left (⟨.operator op, position⟩ :: rest) → reader.run rest = .ok (right, behind) →
      inv (.binary op left right) behind)
    {left : Tree} {input : List Lexeme} (h : inv left input) :
    out (joinFrom level reader left input) := by
  -- the loop gives up lexemes at every turn
  induction hn : input.length using Nat.strongRecOn generalizing left input with
  | ind n ih =>
    cases hnext : operatorNext level input with
    | false =>
      rw [joinFrom_stop hnext]
      exact stop h hnext
    | true =>
      obtain ⟨op, position, rest, rfl, hop⟩ := exists_of_operatorNext hnext
      rw [joinFrom_operator hop]
      cases hright : reader.run rest with
      | error fault => exact fail hop h hright
      | ok part =>
        obtain ⟨right, behind⟩ := part
        have hlt : behind.length < n := by
          rw [← hn]
          exact Nat.lt_succ_of_lt (run_length_lt hright)
        exact ih _ hlt (turn hop h hright) rfl

/-! ## 2. Operands -/

variable (ending allowance : Nat)

theorem run_operand_nil : (operand ending allowance).run [] = .error (.endsUnexpectedly ending) := by
  unfold Reader.run
  cases allowance <;> rfl

theorem run_operand_number (numeral : List Char) (position : Nat) (rest : List Lexeme) :
    (operand ending allowance).run (⟨.number numeral, position⟩ :: rest) =
      .ok (.leaf numeral, rest) := by
  unfold Reader.run
  cases allowance <;> rfl

theorem run_operand_sign (position : Nat) (rest : List Lexeme) :
    (operand ending (allowance + 1)).run (⟨.operator .subtract, position⟩ :: rest) =
      ((operand ending allowance).run rest).map fun part => (.negate part.1, part.2) := by
  unfold Reader.run
  rw [operand]
  cases operand ending allowance rest <;> rfl

theorem run_operand_sign_zero (position : Nat) (rest : List Lexeme) :
    (operand ending 0).run (⟨.operator .subtract, position⟩ :: rest) = .error .nestedTooDeeply := by
  rfl

theorem run_operand_open (position : Nat) (rest : List Lexeme) :
    (operand ending (allowance + 4)).run (⟨.openParen, position⟩ :: rest) =
      ((sum (operand ending allowance)).run rest).bind (closeGroup position) := by
  unfold Reader.run
  rw [operand]
  cases hr : sum (operand ending allowance) rest with
  | error fault => rfl
  | ok part =>
    obtain ⟨⟨tree, behind⟩, shorter⟩ := part
    match behind with
    | [] => rfl
    | ⟨.closeParen, _⟩ :: _ => rfl
    | ⟨.openParen, _⟩ :: _ => rfl
    | ⟨.number _, _⟩ :: _ => rfl
    | ⟨.operator _, _⟩ :: _ => rfl

theorem run_operand_open_short (h : allowance < 4) (position : Nat) (rest : List Lexeme) :
    (operand ending allowance).run (⟨.openParen, position⟩ :: rest) = .error .nestedTooDeeply := by
  match allowance, h with
  | 0, _ => rfl
  | 1, _ => rfl
  | 2, _ => rfl
  | 3, _ => rfl

theorem run_operand_close (position : Nat) (rest : List Lexeme) :
    (operand ending allowance).run (⟨.closeParen, position⟩ :: rest) =
      .error (.unexpected [')'] position) := by
  unfold Reader.run
  cases allowance <;> rfl

theorem run_operand_operator {op : Operator} (h : op ≠ .subtract) (position : Nat)
    (rest : List Lexeme) :
    (operand ending allowance).run (⟨.operator op, position⟩ :: rest) =
      .error (.unexpected [op.symbol] position) := by
  unfold Reader.run
  cases op with
  | subtract => exact absurd rfl h
  | add => cases allowance <;> rfl
  | multiply => cases allowance <;> rfl
  | divide => cases allowance <;> rfl

/-! ## 3. Texts -/

theorem ofScan_empty {scan : Scan} (h : scan.lexemes = []) : ofScan scan = .error .empty := by
  unfold ofScan
  exact if_pos (List.isEmpty_iff.2 h)

theorem ofScan_eq {scan : Scan} (h : scan.lexemes ≠ []) :
    ofScan scan = ((sum (operand scan.ending nestingAllowance)).run scan.lexemes).bind endText := by
  unfold ofScan Reader.run
  rw [if_neg (by simpa using h)]
  cases hr : sum (operand scan.ending nestingAllowance) scan.lexemes with
  | error fault => rfl
  | ok part =>
    obtain ⟨⟨tree, behind⟩, shorter⟩ := part
    match behind with
    | [] => rfl
    | ⟨.closeParen, _⟩ :: _ => rfl
    | ⟨.openParen, _⟩ :: _ => rfl
    | ⟨.number _, _⟩ :: _ => rfl
    | ⟨.operator _, _⟩ :: _ => rfl

theorem parse_eq_ofScan {text : String} {scan : Scan} (h : Scan.ofText text.toList = .ok scan) :
    parse text = ofScan scan := by
  unfold parse
  rw [h]
  rfl

end Expression

end DeskCalc
