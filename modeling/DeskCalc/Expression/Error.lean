/-!
# What can be wrong with an expression

Every fault has a message and, apart from nesting that is too deep, the place of the character where
it was found, counted from zero.
-/

namespace DeskCalc

/-- Why a text is not an expression with a value. -/
inductive ExpressionError where
  | invalidCharacter (c : Char) (position : Nat)
  | malformedNumber (numeral : List Char) (position : Nat)
  | lonePoint (position : Nat)
  | empty
  | endsUnexpectedly (position : Nat)
  | unexpected (text : List Char) (position : Nat)
  | unmatchedOpen (position : Nat)
  | unmatchedClose (position : Nat)
  | nestedTooDeeply
  deriving DecidableEq, Repr

namespace ExpressionError

/-- The message shown for the fault. -/
def message : ExpressionError → String
  | invalidCharacter c _ => "Invalid character '" ++ String.singleton c ++ "'"
  | malformedNumber numeral _ => "Malformed number '" ++ String.ofList numeral ++ "'"
  | lonePoint _ => "Decimal point without digits"
  | empty => "Empty expression"
  | endsUnexpectedly _ => "Expression ends unexpectedly"
  | unexpected text _ => "Unexpected '" ++ String.ofList text ++ "'"
  | unmatchedOpen _ => "Unmatched '('"
  | unmatchedClose _ => "Unmatched ')'"
  | nestedTooDeeply => "Expression is nested too deeply"

/-- The place of the fault. An empty expression is at fault at its beginning. -/
def position? : ExpressionError → Option Nat
  | invalidCharacter _ p | malformedNumber _ p | lonePoint p | endsUnexpectedly p
  | unexpected _ p | unmatchedOpen p | unmatchedClose p => some p
  | empty => some 0
  | nestedTooDeeply => none

end ExpressionError

end DeskCalc
