import DeskCalc.Expression.Tree

/-!
# Reading an expression

The grammar has four levels, the tighter ones inside:

    sum     : product (('+' | '-') product)*
    product : operand (('*' | '/') operand)*
    operand : '-' operand | numeral | '(' sum ')'

Equal operators group to the left. One `chain` reads both upper levels; only `operand` is recursive,
and it recurses on an allowance: each enclosing parenthesis costs four of it and each sign one. An
expression whose nesting exceeds the allowance is refused where it does, whatever follows; one whose
tree is too high is refused when its value is asked for.
-/

namespace DeskCalc

namespace Expression

/-- The depth of signs and parentheses that reading allows for. -/
def nestingAllowance : Nat := 985

/-- The height of the trees that have a value. -/
def heightLimit : Nat := 990

/-- What a reader leaves: a tree and the lexemes behind it, fewer than it was given. -/
abbrev Part (input : List Lexeme) := { part : Tree × List Lexeme // part.2.length < input.length }

/-- A reader of one level of the grammar. -/
abbrev Reader := (input : List Lexeme) → Except ExpressionError (Part input)

/-- Reads on behind `left`: as long as an operator of the level comes, it and the operand behind it
    join the tree. -/
def chainFrom (level : Operator → Bool) (operand : Reader) (left : Tree) (input : List Lexeme) :
    Except ExpressionError
      { part : Tree × List Lexeme // part.2.length ≤ input.length } :=
  match input with
  | ⟨.operator op, position⟩ :: rest =>
    if level op then
      match operand rest with
      | .error fault => .error fault
      | .ok ⟨(right, behind), shorter⟩ =>
        match chainFrom level operand (.binary op left right) behind with
        | .error fault => .error fault
        | .ok ⟨part, noLonger⟩ =>
          .ok ⟨part, Nat.le_trans noLonger (Nat.le_of_lt (Nat.lt_succ_of_lt shorter))⟩
    else .ok ⟨(left, ⟨.operator op, position⟩ :: rest), Nat.le_refl _⟩
  | other => .ok ⟨(left, other), Nat.le_refl _⟩
termination_by input.length
decreasing_by exact Nat.lt_succ_of_lt shorter

/-- Operands joined by the operators of one level, grouped to the left. -/
def chain (level : Operator → Bool) (operand : Reader) : Reader := fun input =>
  match operand input with
  | .error fault => .error fault
  | .ok ⟨(left, rest), shorter⟩ =>
    match chainFrom level operand left rest with
    | .error fault => .error fault
    | .ok ⟨part, noLonger⟩ => .ok ⟨part, Nat.lt_of_le_of_lt noLonger shorter⟩

/-- Sums of products of operands. -/
def sum (operand : Reader) : Reader :=
  chain Operator.isAdditive (chain Operator.isMultiplicative operand)

/-- A numeral, a sign with its operand, or a sum in parentheses. `ending` is the place of the end of
    the text. -/
def operand (ending : Nat) : (allowance : Nat) → Reader
  | allowance, ⟨.operator .subtract, _⟩ :: rest =>
    match allowance with
    | 0 => .error .nestedTooDeeply
    | allowance + 1 =>
      match operand ending allowance rest with
      | .error fault => .error fault
      | .ok ⟨(tree, behind), shorter⟩ =>
        .ok ⟨(.negate tree, behind), Nat.lt_succ_of_lt shorter⟩
  | allowance, ⟨.openParen, position⟩ :: rest =>
    match allowance with
    | allowance + 4 =>
      match sum (operand ending allowance) rest with
      | .error fault => .error fault
      | .ok ⟨(tree, ⟨.closeParen, _⟩ :: behind), shorter⟩ =>
        .ok ⟨(tree, behind), Nat.lt_succ_of_lt (Nat.lt_of_succ_lt shorter)⟩
      | .ok _ => .error (.unmatchedOpen position)
    | _ => .error .nestedTooDeeply
  | _, ⟨.number numeral, _⟩ :: rest =>
    .ok ⟨(.number ((Decimal.ofNumeral numeral).toBinary64 false), rest), Nat.lt_succ_self _⟩
  | _, [] => .error (.endsUnexpectedly ending)
  | _, ⟨token, position⟩ :: _ => .error (.unexpected token.text position)

/-- The tree of a scanned text. -/
def ofScan (scan : Scan) : Except ExpressionError Tree :=
  if scan.lexemes.isEmpty then .error .empty
  else
    match sum (operand scan.ending nestingAllowance) scan.lexemes with
    | .error fault => .error fault
    | .ok ⟨(tree, []), _⟩ => .ok tree
    | .ok ⟨(_, ⟨.closeParen, position⟩ :: _), _⟩ => .error (.unmatchedClose position)
    | .ok ⟨(_, ⟨token, position⟩ :: _), _⟩ => .error (.unexpected token.text position)

/-- The tree of an expression. -/
def parse (text : String) : Except ExpressionError Tree := (Scan.ofText text.toList).bind ofScan

/-- The value of an expression. -/
def evaluate (text : String) : Except ExpressionError Binary64 :=
  (parse text).bind fun tree =>
    if tree.height ≤ heightLimit then .ok tree.value else .error .nestedTooDeeply

end Expression

end DeskCalc
