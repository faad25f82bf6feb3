import DeskCalc.Decimal.Notation
import DeskCalc.Expression.Lexeme

/-!
# Expression trees

A tree has numbers at its leaves, a sign change or an operation at its nodes, and no trace of the
parentheses that shaped it. Its value is that of double-precision arithmetic, so that a division by
zero has one too.
-/

namespace DeskCalc

inductive Tree where
  | number (value : Binary64)
  | negate (operand : Tree)
  | binary (op : Operator) (left right : Tree)
  deriving DecidableEq

namespace Operator

/-- The operation on doubles. -/
def apply : Operator → Binary64 → Binary64 → Binary64
  | add, x, y => x + y
  | subtract, x, y => x - y
  | multiply, x, y => x * y
  | divide, x, y => x / y

end Operator

namespace Tree

/-- The value of a tree. -/
def value : Tree → Binary64
  | number v => v
  | negate operand => -operand.value
  | binary op left right => op.apply left.value right.value

/-- The number of nodes above the deepest leaf. -/
def height : Tree → Nat
  | number _ => 0
  | negate operand => operand.height + 1
  | binary _ left right => max left.height right.height + 1

/-! ## Spelling out -/

/-- The height up to which a tree can be spelled out. -/
def describeLimit : Nat := 494

/-- The tree with its constructors spelled out. -/
def describe : Tree → String
  | number v => "Number(" ++ v.canonical ++ ")"
  | negate operand => "Negate(" ++ operand.describe ++ ")"
  | binary op left right =>
    "BinaryOp(" ++ String.ofList (Text.quoted [op.symbol]) ++ ", " ++ left.describe ++ ", "
      ++ right.describe ++ ")"

/-- A tree is too high to be spelled out. -/
structure TooHigh where
  height : Nat
  deriving DecidableEq, Repr

def TooHigh.message (_ : TooHigh) : String := "maximum recursion depth exceeded"

/-- The tree spelled out, if it is not too high. -/
def describe? (t : Tree) : Except TooHigh String :=
  if t.height ≤ describeLimit then .ok t.describe else .error ⟨t.height⟩

end Tree

end DeskCalc
