import DeskCalc.Proofs.Expression.Operands
import DeskCalc.Proofs.Expression.Spelling

/-!
# Which expressions have a value

A value is computed level by level, from the root of the tree to its leaves and back, and only so many
levels are allowed for. Nothing else stops it: an operation on doubles always has a result. A
repetition is read in a loop, but its tree leans to the left and grows a level with each operator,
so that a long sum is read and has no value. This file fixes

* `Tree.valueWithin`: the computation with a number of levels, and `valueWithin_eq`: it ends with
  the value, or the tree is too high;
* `height_le_operators` and `Spelled.count_operators`: no tree has more levels than its text has
  operators;
* `parse_sumText`: a sum of any length is read, and its tree is as high as the sum is long.

Main statement: **`evaluate_of_parse`**. The sum that has no value is `long_sum_without_value`.
-/

namespace DeskCalc

/-! ## 1. Level by level -/

namespace Tree

/-- The value, if no leaf lies more than `depth` levels down. -/
def valueWithin : (depth : Nat) → Tree → Except ExpressionError Binary64
  | _, number v => .ok v
  | depth + 1, negate operand => (valueWithin depth operand).map (-·)
  | depth + 1, binary op left right =>
    (valueWithin depth left).bind fun x => (valueWithin depth right).map (op.apply x)
  | 0, _ => .error .nestedTooDeeply

/-- **A tree has its value if its levels suffice**, and is nested too deeply otherwise. -/
theorem valueWithin_eq (depth : Nat) (tree : Tree) :
    tree.valueWithin depth =
      if tree.height ≤ depth then .ok tree.value else .error .nestedTooDeeply := by
  induction tree generalizing depth with
  | number v => cases depth <;> rfl
  | negate operand ih =>
    cases depth with
    | zero => rfl
    | succ depth =>
      rw [valueWithin, ih, height]
      simp only [Nat.add_le_add_iff_right]
      split <;> rfl
  | binary op left right ihLeft ihRight =>
    cases depth with
    | zero => rfl
    | succ depth =>
      rw [valueWithin, ihLeft, height]
      by_cases hleft : left.height ≤ depth
      · rw [if_pos hleft]
        show (valueWithin depth right).map (op.apply left.value) = _
        rw [ihRight]
        by_cases hright : right.height ≤ depth
        · rw [if_pos hright, if_pos (by omega)]
          rfl
        · rw [if_neg hright, if_neg (by omega)]
          rfl
      · rw [if_neg hleft, if_neg (by omega)]
        rfl

end Tree

/-! ## 2. Levels and operators -/

/-- Whether the character writes an operator. -/
def Operator.isSymbol (c : Char) : Bool := (Operator.ofChar? c).isSome

def Token.isOperator : Token → Bool
  | operator _ => true
  | _ => false

/-- Every level of a tree comes from an operator or a sign. -/
theorem Derivation.height_le_operators {level : Level} (d : Derivation level) :
    d.tree.height ≤ d.tokens.countP Token.isOperator := by
  induction d with
  | negate inner ih =>
    simp only [tree, tokens, Tree.height, List.countP_cons, Token.isOperator, if_true]
    omega
  | number numeral => exact Nat.zero_le _
  | group inner ih => simpa [tree, tokens, Token.isOperator] using ih
  | factor only ih => exact ih
  | times left op fits right ihLeft ihRight =>
    simp only [tree, tokens, Tree.height, List.countP_append, List.countP_cons, Token.isOperator,
      if_true]
    omega
  | summand only ih => exact ih
  | plus left op fits right ihLeft ihRight =>
    simp only [tree, tokens, Tree.height, List.countP_append, List.countP_cons, Token.isOperator,
      if_true]
    omega

theorem Operator.ofChar?_of_isSymbol {c : Char} (h : isSymbol c = true) :
    ∃ op, Token.ofChar? c = some (.operator op) := by
  obtain ⟨op, hop⟩ := Option.isSome_iff_exists.1 h
  have hc : c = op.symbol := by
    unfold ofChar? at hop
    split at hop <;> cases hop <;> rfl
  exact ⟨op, by rw [hc, Lexeme.ofChar?_symbol]⟩

namespace Lexeme

/-- No operator is blank or in a numeral. -/
theorem separate_of_isSymbol {c : Char} (h : Operator.isSymbol c = true) :
    Text.isBlank c = false ∧ isNumeral c = false := by
  obtain ⟨op, hop⟩ := Operator.ofChar?_of_isSymbol h
  exact separate_of_ofChar? hop

theorem Written.count_symbols {token : Token} (h : Written token) :
    token.text.countP Operator.isSymbol = if token.isOperator then 1 else 0 := by
  cases h with
  | @number run numeral =>
    refine List.countP_eq_zero.2 fun c hc hsymbol => ?_
    exact absurd (numeral.numerals c hc) (by simp [(separate_of_isSymbol hsymbol).2])
  | @single c token ofChar =>
    obtain ⟨hmem, htext⟩ := written_of_ofChar? ofChar
    have hall : "+-*/()".toList.all (fun c =>
        (Token.ofChar? c).map Token.isOperator == some (Operator.isSymbol c)) = true := by decide
    have hc := eq_of_beq (List.all_eq_true.1 hall c hmem)
    rw [ofChar, Option.map_some, Option.some.injEq] at hc
    rw [htext, List.countP_singleton, hc]

/-- The operators among the lexemes are those of the text. -/
theorem Spelled.count_operators {position : Nat} {text : List Char} {lexemes : List Lexeme}
    (h : Spelled position text lexemes) :
    (lexemes.map Lexeme.token).countP Token.isOperator = text.countP Operator.isSymbol := by
  induction h with
  | nothing => rfl
  | @blank position c rest lexemes isBlank others ih =>
    have hsymbol : ¬Operator.isSymbol c = true := fun hsymbol =>
      absurd isBlank (by simp [(separate_of_isSymbol hsymbol).1])
    rw [List.countP_cons_of_neg hsymbol, ih]
  | @lexeme position token rest lexemes written happart others ih =>
    rw [List.map_cons, List.countP_cons, List.countP_append, ih, written.count_symbols, Nat.add_comm]

end Lexeme

namespace Expression

/-! ## 3. Sums of any length -/

/-- A numeral, and the operators and numerals behind it. -/
def sumText (first : List Char) : List (Operator × List Char) → List Char
  | [] => first
  | (op, next) :: more => first ++ op.symbol :: sumText next more

/-- The tokens of an operator and the numeral behind it. -/
def termTokens (term : Operator × List Char) : List Token := [.operator term.1, .number term.2]

theorem content_sumText {first : List Char} {more : List (Operator × List Char)}
    (hfirst : Decimal.Positional first) (hmore : ∀ term ∈ more, Decimal.Positional term.2) :
    Lexeme.content (Lexeme.scanFrom 0 (sumText first more)) =
      .ok (.number first :: more.flatMap termTokens) := by
  induction more generalizing first with
  | nil => exact Writes.number hfirst
  | cons term more ih =>
    obtain ⟨op, next⟩ := term
    obtain ⟨hnext, hothers⟩ := List.forall_mem_cons.1 hmore
    rw [sumText, (Writes.number hfirst).content_append, ih hnext hothers]
    rfl

/-- Every term that joins a sum puts a level on top of its tree. -/
theorem exists_longer_sum (left : Derivation .sum) {more : List (Operator × List Char)}
    (hmore : ∀ term ∈ more, term.1.isAdditive = true) :
    ∃ d : Derivation .sum, d.tokens = left.tokens ++ more.flatMap termTokens ∧
      d.nesting = left.nesting ∧ d.tree.height = left.tree.height + more.length := by
  induction more generalizing left with
  | nil => exact ⟨left, (List.append_nil _).symm, rfl, rfl⟩
  | cons term more ih =>
    obtain ⟨op, next⟩ := term
    obtain ⟨hop, hothers⟩ := List.forall_mem_cons.1 hmore
    obtain ⟨d, htokens, hnesting, hheight⟩ := ih (.plus left op hop (.factor (.number next))) hothers
    refine ⟨d, ?_, ?_, ?_⟩
    · rw [htokens]
      simp [Derivation.tokens, termTokens]
    · rw [hnesting]
      exact Nat.max_zero _
    · have hleaf : (Derivation.factor (.number next)).tree.height = 0 := rfl
      rw [hheight, Derivation.tree, Tree.height, hleaf, Nat.max_zero, List.length_cons]
      omega

/-- **A sum of any length is read**, and its tree has as many levels as it has operators. -/
theorem parse_sumText {first : List Char} {more : List (Operator × List Char)}
    (hfirst : Decimal.Positional first)
    (hmore : ∀ term ∈ more, term.1.isAdditive = true ∧ Decimal.Positional term.2) :
    ∃ tree, parse (String.ofList (sumText first more)) = .ok tree ∧ tree.height = more.length := by
  obtain ⟨d, htokens, hnesting, hheight⟩ :=
    exists_longer_sum (.summand (.factor (.number first))) fun term hterm => (hmore term hterm).1
  have hwrites : Writes (sumText first more) d := by
    unfold Writes
    rw [content_sumText hfirst fun term hterm => (hmore term hterm).2, htokens]
    rfl
  refine ⟨d.tree, hwrites.parse_eq ?_, ?_⟩
  · rw [hnesting]
    exact Nat.zero_le _
  · rw [hheight]
    exact Nat.zero_add _

/-! ## 4. Values of expressions -/

theorem height_le_of_parse {text : String} {tree : Tree} (read : parse text = .ok tree) :
    tree.height ≤ text.toList.countP Operator.isSymbol := by
  unfold parse Scan.ofText at read
  obtain ⟨scan, hscan, hread⟩ := bind_eq_ok.1 read
  obtain ⟨lexemes, hlexemes, rfl⟩ := map_eq_ok.1 hscan
  obtain ⟨d, htokens, rfl, _⟩ := ofScan_eq_ok_iff.1 hread
  have hspelled : Lexeme.Spelled 0 text.toList lexemes := by
    have hcases := Lexeme.scanFrom_cases 0 text.toList
    rwa [hlexemes] at hcases
  rw [← hspelled.count_operators, ← htokens]
  exact d.height_le_operators

theorem evaluate_eq {text : String} {tree : Tree} (read : parse text = .ok tree) :
    evaluate text =
      if tree.height ≤ heightLimit then .ok tree.value else .error .nestedTooDeeply := by
  unfold evaluate
  rw [read]
  rfl

/-- **An expression has the value of its tree if its levels are allowed for**, whatever is divided
    by zero or exceeds the doubles, and is nested too deeply otherwise. Its tree has no more levels
    than its text has operators. -/
theorem evaluate_of_parse {text : String} {tree : Tree} (read : parse text = .ok tree) :
    evaluate text = tree.valueWithin heightLimit ∧
    (evaluate text = .ok tree.value ↔ tree.height ≤ heightLimit) ∧
    (evaluate text = .error .nestedTooDeeply ↔ heightLimit < tree.height) ∧
    tree.height ≤ text.toList.countP Operator.isSymbol := by
  refine ⟨by rw [evaluate_eq read, Tree.valueWithin_eq], ?_, ?_, height_le_of_parse read⟩
  · rw [evaluate_eq read]
    split
    · exact iff_of_true rfl ‹_›
    · exact iff_of_false (fun h => nomatch h) ‹_›
  · rw [evaluate_eq read]
    split
    · exact iff_of_false (fun h => nomatch h) (Nat.not_lt.2 ‹_›)
    · exact iff_of_true rfl (Nat.lt_of_not_le ‹_›)

/-- A division by zero has an infinite value. -/
theorem one_by_zero_infinite :
    ∃ tree, parse "1/0" = .ok tree ∧ tree.height ≤ heightLimit ∧
      evaluate "1/0" = .ok tree.value ∧ tree.value = .infinite false := by
  have read : parse "1/0" = .ok (.binary .divide (.leaf ['1']) (.leaf ['0'])) :=
    eq_ok_of_toOption (by decide +kernel)
  have low : (Tree.binary .divide (.leaf ['1']) (.leaf ['0'])).height ≤ heightLimit := by decide
  exact ⟨_, read, low, (evaluate_of_parse read).2.1.2 low, by decide +kernel⟩

/-- The terms of a sum of ones. -/
def ones (count : Nat) : List (Operator × List Char) := List.replicate count (.add, ['1'])

/-- **Twelve hundred additions in a row are read and have no value**, though nothing in the text is
    nested. -/
theorem long_sum_without_value :
    ∃ tree, parse (String.ofList (sumText ['1'] (ones 1200))) = .ok tree ∧
      ∀ value, evaluate (String.ofList (sumText ['1'] (ones 1200))) ≠ .ok value := by
  have hone : Decimal.Positional ['1'] := .whole ⟨List.cons_ne_nil _ _, by simp⟩
  have hones : ∀ term ∈ ones 1200, term.1.isAdditive = true ∧ Decimal.Positional term.2 := by
    intro term hterm
    rw [List.eq_of_mem_replicate hterm]
    exact ⟨rfl, hone⟩
  obtain ⟨tree, read, hheight⟩ := parse_sumText hone hones
  have hhigh : ¬tree.height ≤ heightLimit := by
    rw [hheight, ones, List.length_replicate]
    decide
  refine ⟨tree, read, fun value hvalue => ?_⟩
  rw [evaluate_eq read, if_neg hhigh] at hvalue
  cases hvalue

end Expression

end DeskCalc
