import DeskCalc.Calculator.State
import DeskCalc.Settings

/-!
# The keypad

The buttons with the commands they give, and the keys of the keyboard that give the same commands.
The four operators go on with the last result; digits, the point and parentheses start afresh.
-/

namespace DeskCalc

/-- How a button looks while it is not pressed. -/
inductive ButtonStyle where
  | outlined
  | elevated
  deriving DecidableEq, Repr

structure Button where
  /-- The area of the grid that the button fills. -/
  area : String
  label : String
  command : Command
  color : Color
  style : ButtonStyle := .outlined
  deriving DecidableEq, Repr

namespace Button

/-- A button with its area and its label. -/
def describe (b : Button) : String :=
  "ButtonDefinition(" ++ String.ofList (Text.quoted b.area.toList) ++ ", "
    ++ String.ofList (Text.quoted b.label.toList) ++ ")"

end Button

namespace Keypad

/-! ## 1. The buttons -/

def purple : Color := .bgr 200 104 186

def green : Color := .bgr 174 240 105

def blue : Color := .bgr 243 150 33

def amber : Color := .bgr 7 193 255

/-- A button that appends its label. -/
def appending (area label : String) (color : Color) : Button :=
  ⟨area, label, .append label false, color, .outlined⟩

/-- A button for an operator. -/
def operating (area label : String) : Button :=
  ⟨area, label, .append label true, amber, .outlined⟩

/-- All buttons, in the order in which they are drawn. -/
def buttons : List Button :=
  [⟨"clear", "C", .clear, purple, .outlined⟩,
   ⟨"bkspc", "<-", .backspace, purple, .outlined⟩,
   appending "lparen" "(" purple,
   appending "rparen" ")" purple,
   appending "seven" "7" green,
   appending "eight" "8" green,
   appending "nine" "9" green,
   appending "four" "4" green,
   appending "five" "5" green,
   appending "six" "6" green,
   appending "one" "1" green,
   appending "two" "2" green,
   appending "three" "3" green,
   appending "zero" "0" green,
   appending "point" "." green,
   ⟨"equals", "=", .evaluate, blue, .elevated⟩,
   operating "plus" "+",
   operating "minus" "-",
   operating "multiply" "*",
   operating "divide" "/"]

/-- The button that fills an area. -/
def button? (area : String) : Option Button := buttons.find? (·.area == area)

/-- Every button is found by its area. -/
theorem button?_area : ∀ b ∈ buttons, button? b.area = some b := by decide

/-! ## 2. The keys -/

/-- The command of a printable key. -/
def commandForChar (c : Char) : Option Command :=
  if c.isDigit || c == '.' || c == '(' || c == ')' then some (.append (String.singleton c) false)
  else if (Operator.ofChar? c).isSome then some (.append (String.singleton c) true)
  else if c == '=' then some .evaluate
  else if c == 'c' || c == 'C' then some .clear
  else none

/-- The command of a key by its code: line feed and carriage return evaluate, backspace and delete
    remove, other codes of one byte count as characters. -/
def commandForKey (key : Int) : Option Command :=
  if key = 10 ∨ key = 13 then some .evaluate
  else if key = 8 ∨ key = 127 then some .backspace
  else if key < 0 ∨ 255 < key then none
  else commandForChar (Char.ofNat key.toNat)

end Keypad

end DeskCalc
