import DeskCalc.Binary64

/-!
# Quantities

A quantity is given either as a whole number, which is exact, or as a double. Mixed arithmetic turns
the whole number into a double first, which fails when it lies beyond every double. This file also
fixes the faults of arithmetic that has no double or no whole number as its result.
-/

namespace DeskCalc

/-- Why a computation has no result. -/
inductive ArithmeticFault where
  | divisionByZero
  | wholeTooLarge
  | infiniteToWhole
  | nanToWhole
  deriving DecidableEq, Repr

def ArithmeticFault.message : ArithmeticFault → String
  | divisionByZero => "float division by zero"
  | wholeTooLarge => "int too large to convert to float"
  | infiniteToWhole => "cannot convert float infinity to integer"
  | nanToWhole => "cannot convert float NaN to integer"

namespace Binary64

/-- The double nearest to a whole number, if one is near enough. -/
def ofWhole (n : Int) : Except ArithmeticFault Binary64 :=
  if (ofInt n).isFinite then .ok (ofInt n) else .error .wholeTooLarge

/-- The nearest whole number of a finite double, a tie going to the even one. -/
def roundWhole : Binary64 → Except ArithmeticFault Int
  | nan => .error .nanToWhole
  | infinite _ => .error .infiniteToWhole
  | x => .ok x.round

/-- The whole part of a finite double. -/
def truncateWhole : Binary64 → Except ArithmeticFault Int
  | nan => .error .nanToWhole
  | infinite _ => .error .infiniteToWhole
  | x => .ok x.truncate

end Binary64

inductive Quantity where
  | whole (n : Int)
  | real (x : Binary64)
  deriving DecidableEq

namespace Quantity

/-- The quantity as a double. -/
def toBinary64 : Quantity → Except ArithmeticFault Binary64
  | whole n => Binary64.ofWhole n
  | real x => .ok x

/-- The double nearest to the quantity, infinite when a whole number lies beyond every double. -/
def nearest : Quantity → Binary64
  | whole n => .ofInt n
  | real x => x

/-- The distance from zero in units of the smallest double, infinity as for doubles. -/
def magnitude : Quantity → Nat
  | whole n => n.natAbs * unitsPerOne
  | real x => x.magnitude

/-- The place on the number line: the side, which is zero for a finite place, and the exact count of
    units. What is not a number has none. -/
def place? : Quantity → Option (Int × Int)
  | whole n => some (0, n * unitsPerOne)
  | real .nan => none
  | real (.infinite negative) => some (if negative then -1 else 1, 0)
  | real x => some (0, x.line)

/-- The exact numeric order, equality included; nothing compares with what is not a number. -/
def atMost (x y : Quantity) : Bool :=
  match x.place?, y.place? with
  | some (side, units), some (side', units') => side < side' || (side = side' && units ≤ units')
  | _, _ => false

/-- The exact numeric order. -/
def less (x y : Quantity) : Bool :=
  match x.place?, y.place? with
  | some (side, units), some (side', units') => side < side' || (side = side' && units < units')
  | _, _ => false

/-- The larger of two quantities, the first one unless the second is larger. -/
def larger (x y : Quantity) : Quantity := if x.less y then y else x

/-- The product with a double. -/
def scaled (x : Quantity) (factor : Binary64) : Except ArithmeticFault Binary64 := do
  return (← x.toBinary64) * factor

/-- The whole part of eight times the quantity, exact for a whole number. -/
def eightfold : Quantity → Except ArithmeticFault Int
  | whole n => .ok (8 * n)
  | real x => (8 * x).truncateWhole

/-- The sum: exact of whole numbers, else rounded to a double. -/
def add : Quantity → Quantity → Except ArithmeticFault Quantity
  | whole m, whole n => .ok (whole (m + n))
  | x, y => do return real ((← x.toBinary64) + (← y.toBinary64))

/-- The sum of a list from left to right. -/
def sum (xs : List Quantity) : Except ArithmeticFault Quantity := xs.foldlM add (whole 0)

end Quantity

end DeskCalc
