import DeskCalc.Expression.Reading

/-!
# The grammar of expressions

What an expression is, said without a reader. A derivation shows how a token sequence comes from

    sum     : product (('+' | '-') product)*
    product : operand (('*' | '/') operand)*
    operand : '-' operand | numeral | '(' sum ')'

A repetition grows at its right end, so that equal operators group to the left. This file fixes

* `Level` and `Derivation`: the three nonterminals and one constructor for each way to use a rule;
* `Derivation.tokens` and `Derivation.tree`: the sequence that is derived, and its tree;
* `Derivation.nesting`: how deep signs and parentheses stand inside one another;
* `Derivation.first` and `Derivation.withFirst`: the operand at the left end, and the derivation
  with another operand in its place.
-/

namespace DeskCalc

/-- The leaf of a numeral: the double nearest to what it writes. -/
def Tree.leaf (numeral : List Char) : Tree :=
  .number ((Decimal.ofNumeral numeral).toBinary64 false)

/-! ## 1. Derivations -/

/-- The nonterminals, the loosest first. -/
inductive Level where
  | sum
  | product
  | operand
  deriving DecidableEq, Repr

/-- How a token sequence comes from a nonterminal. -/
inductive Derivation : Level → Type where
  | negate (inner : Derivation .operand) : Derivation .operand
  | number (numeral : List Char) : Derivation .operand
  | group (inner : Derivation .sum) : Derivation .operand
  | factor (only : Derivation .operand) : Derivation .product
  | times (left : Derivation .product) (op : Operator) (fits : op.isMultiplicative = true)
      (right : Derivation .operand) : Derivation .product
  | summand (only : Derivation .product) : Derivation .sum
  | plus (left : Derivation .sum) (op : Operator) (fits : op.isAdditive = true)
      (right : Derivation .product) : Derivation .sum

namespace Derivation

/-- The derived token sequence. -/
def tokens : {level : Level} → Derivation level → List Token
  | _, negate inner => .operator .subtract :: inner.tokens
  | _, number numeral => [.number numeral]
  | _, group inner => .openParen :: (inner.tokens ++ [.closeParen])
  | _, factor only => only.tokens
  | _, times left op _ right => left.tokens ++ .operator op :: right.tokens
  | _, summand only => only.tokens
  | _, plus left op _ right => left.tokens ++ .operator op :: right.tokens

/-- The tree of the derivation: parentheses leave no node, and a numeral leaves its double. -/
def tree : {level : Level} → Derivation level → Tree
  | _, negate inner => .negate inner.tree
  | _, number numeral => .leaf numeral
  | _, group inner => inner.tree
  | _, factor only => only.tree
  | _, times left op _ right => .binary op left.tree right.tree
  | _, summand only => only.tree
  | _, plus left op _ right => .binary op left.tree right.tree

/-- How deep signs and parentheses stand inside one another, a sign counting one and a pair of
    parentheses four. -/
def nesting : {level : Level} → Derivation level → Nat
  | _, negate inner => inner.nesting + 1
  | _, number _ => 0
  | _, group inner => inner.nesting + 4
  | _, factor only => only.nesting
  | _, times left _ _ right => max left.nesting right.nesting
  | _, summand only => only.nesting
  | _, plus left _ _ right => max left.nesting right.nesting

theorem tokens_ne_nil {level : Level} (d : Derivation level) : d.tokens ≠ [] := by
  induction d with
  | negate inner => simp [tokens]
  | number numeral => simp [tokens]
  | group inner => simp [tokens]
  | factor only ih => exact ih
  | times left op fits right => simp [tokens]
  | summand only ih => exact ih
  | plus left op fits right => simp [tokens]

/-! ## 2. The first operand -/

/-- The operand at the left end. -/
def first : {level : Level} → Derivation level → Derivation .operand
  | _, negate inner => negate inner
  | _, number numeral => number numeral
  | _, group inner => group inner
  | _, factor only => only
  | _, times left _ _ _ => left.first
  | _, summand only => only.first
  | _, plus left _ _ _ => left.first

/-- The tokens behind the first operand. -/
def behindFirst : {level : Level} → Derivation level → List Token
  | _, negate _ => []
  | _, number _ => []
  | _, group _ => []
  | _, factor _ => []
  | _, times left op _ right => left.behindFirst ++ .operator op :: right.tokens
  | _, summand only => only.behindFirst
  | _, plus left op _ right => left.behindFirst ++ .operator op :: right.tokens

/-- The derivation with another operand at its left end. -/
def withFirst : {level : Level} → Derivation level → Derivation .operand → Derivation level
  | _, negate _, operand => operand
  | _, number _, operand => operand
  | _, group _, operand => operand
  | _, factor _, operand => factor operand
  | _, times left op fits right, operand => times (left.withFirst operand) op fits right
  | _, summand only, operand => summand (only.withFirst operand)
  | _, plus left op fits right, operand => plus (left.withFirst operand) op fits right

theorem tokens_eq_first_append {level : Level} (d : Derivation level) :
    d.tokens = d.first.tokens ++ d.behindFirst := by
  induction d with
  | negate inner => simp [first, behindFirst]
  | number numeral => simp [first, behindFirst]
  | group inner => simp [first, behindFirst]
  | factor only => simp [first, behindFirst, tokens]
  | times left op fits right ihLeft => simp [first, behindFirst, tokens, ihLeft]
  | summand only ih => simp [first, behindFirst, tokens, ih]
  | plus left op fits right ihLeft => simp [first, behindFirst, tokens, ihLeft]

theorem tokens_withFirst {level : Level} (d : Derivation level) (operand : Derivation .operand) :
    (d.withFirst operand).tokens = operand.tokens ++ d.behindFirst := by
  induction d with
  | negate inner => simp [withFirst, behindFirst]
  | number numeral => simp [withFirst, behindFirst]
  | group inner => simp [withFirst, behindFirst]
  | factor only => simp [withFirst, behindFirst, tokens]
  | times left op fits right ihLeft => simp [withFirst, behindFirst, tokens, ihLeft]
  | summand only ih => simp [withFirst, behindFirst, tokens, ih]
  | plus left op fits right ihLeft => simp [withFirst, behindFirst, tokens, ihLeft]

end Derivation

end DeskCalc
