import DeskCalc.Quantity

/-!
# Tracks

A length is shared out among tracks by their fractions. The edges are accumulated in doubles from
the start, and each is rounded by itself, so that rounding never adds up.
-/

namespace DeskCalc.Grid

/-- The edges behind `edge` before rounding, each a fraction of `unit` behind the one before. -/
def edgesFrom (unit : Binary64) : (edge : Binary64) → List Quantity →
    Except ArithmeticFault (List Binary64)
  | _, [] => .ok []
  | edge, fraction :: rest => do
    let next := edge + (← fraction.toBinary64) * unit
    return next :: (← edgesFrom unit next rest)

/-- The length of a fraction of one. -/
def trackUnit (fractions : List Quantity) (total : Int) : Except ArithmeticFault Binary64 := do
  let sum ← (← Quantity.sum fractions).toBinary64
  let length ← Binary64.ofWhole total
  if sum.sameValue 0 then .error .divisionByZero else return length / sum

/-- The start of every track and the end of the last, in whole pixels. -/
def tracks (fractions : List Quantity) (start total : Int) : Except ArithmeticFault (List Int) := do
  let unit ← trackUnit fractions total
  match fractions with
  | [] => return [start]
  | _ =>
    let edges ← edgesFrom unit (← Binary64.ofWhole start) fractions
    return start :: (← edges.mapM Binary64.roundWhole)

end DeskCalc.Grid
