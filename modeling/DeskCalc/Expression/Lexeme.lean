import DeskCalc.Expression.Error
import DeskCalc.Text.Blank
import DeskCalc.Text.Quoted

/-!
# Lexemes

An expression is written with numerals, four operators and parentheses; blanks between them say
nothing. A numeral is a longest run of digits and points, with at most one point and not a point
alone. `scan` finds the lexemes with their places; its first complaint is the leftmost one.
-/

namespace DeskCalc

/-- The four operations. -/
inductive Operator where
  | add
  | subtract
  | multiply
  | divide
  deriving DecidableEq, Repr

namespace Operator

def symbol : Operator → Char
  | add => '+'
  | subtract => '-'
  | multiply => '*'
  | divide => '/'

def ofChar? : Char → Option Operator
  | '+' => some add
  | '-' => some subtract
  | '*' => some multiply
  | '/' => some divide
  | _ => none

/-- Addition and subtraction. -/
def isAdditive : Operator → Bool
  | add | subtract => true
  | multiply | divide => false

/-- Multiplication and division. -/
def isMultiplicative (op : Operator) : Bool := !op.isAdditive

end Operator

/-- A unit of an expression. -/
inductive Token where
  | number (numeral : List Char)
  | operator (op : Operator)
  | openParen
  | closeParen
  deriving DecidableEq, Repr

namespace Token

/-- The token as it is written. -/
def text : Token → List Char
  | number numeral => numeral
  | operator op => [op.symbol]
  | openParen => ['(']
  | closeParen => [')']

/-- The name of the token's class. -/
def className : Token → String
  | number _ => "NUMBER"
  | operator _ => "OPERATOR"
  | openParen => "LPAREN"
  | closeParen => "RPAREN"

/-- The token that one character is by itself. -/
def ofChar? (c : Char) : Option Token :=
  match c with
  | '(' => some openParen
  | ')' => some closeParen
  | _ => (Operator.ofChar? c).map operator

end Token

/-- A token and the place of its first character. -/
structure Lexeme where
  token : Token
  position : Nat
  deriving DecidableEq, Repr

/-- The lexemes of a text, and the place of its end. -/
structure Scan where
  lexemes : List Lexeme
  ending : Nat
  deriving DecidableEq, Repr

namespace Lexeme

/-- The characters of numerals. -/
def isNumeral (c : Char) : Bool := c.isDigit || c == '.'

/-- What is wrong with a run of digits and points that begins at `position`, if anything. -/
def numeralFault? (run : List Char) (position : Nat) : Option ExpressionError :=
  if 1 < run.count '.' then some (.malformedNumber run position)
  else if run = ['.'] then some (.lonePoint position)
  else none

/-- The lexemes of a text whose first character stands at `position`. -/
def scanFrom (position : Nat) : List Char → Except ExpressionError (List Lexeme)
  | [] => .ok []
  | c :: rest =>
    if Text.isBlank c then scanFrom (position + 1) rest
    else if isNumeral c then
      let run := c :: rest.takeWhile isNumeral
      match numeralFault? run position with
      | some fault => .error fault
      | none =>
        (scanFrom (position + run.length) (rest.dropWhile isNumeral)).map
          (⟨.number run, position⟩ :: ·)
    else
      match Token.ofChar? c with
      | some token => (scanFrom (position + 1) rest).map (⟨token, position⟩ :: ·)
      | none => .error (.invalidCharacter c position)
termination_by text => text.length
decreasing_by
  · simp
  · have := (rest.dropWhile_sublist isNumeral).length_le
    simp only [List.length_cons]
    omega
  · simp

/-- A lexeme with its class, its text and its place. -/
def describe (lexeme : Lexeme) : String :=
  "Token(" ++ lexeme.token.className ++ ", " ++ String.ofList (Text.quoted lexeme.token.text)
    ++ ", " ++ toString lexeme.position ++ ")"

end Lexeme

namespace Scan

/-- The lexemes of a text. -/
def ofText (text : List Char) : Except ExpressionError Scan :=
  (Lexeme.scanFrom 0 text).map (⟨·, text.length⟩)

/-- All lexemes, and the end of the text as the last one. -/
def describe (scan : Scan) : List String :=
  scan.lexemes.map Lexeme.describe ++ ["Token(EOF, None, " ++ toString scan.ending ++ ")"]

end Scan

end DeskCalc
