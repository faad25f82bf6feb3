import DeskCalc.Decimal.Notation

/-!
# The text of a result

A whole result shows all its digits and no point; any other shows the shortest digits that read back
as the same number, in positional notation. So a result is always something that an expression may
contain.
-/

namespace DeskCalc

namespace Binary64

/-- The digits of a finite magnitude in positional notation. -/
def plainDigits (units : Nat) : List Char :=
  if units % unitsPerOne = 0 then Decimal.digits (units / unitsPerOne)
  else (Decimal.shortest units).plain

/-- The text of a result. Zero has no sign. -/
def plain : Binary64 → String
  | nan => "nan"
  | infinite negative => if negative then "-inf" else "inf"
  | finite negative units _ =>
    String.ofList ((if negative && units != 0 then ['-'] else []) ++ plainDigits units)

end Binary64

end DeskCalc
