import DeskCalc.Decimal.Shortest

/-!
# Written numbers

How the digits of a decimal are laid out. Two layouts are in use:

* `plain`: positional, as many zeros as the exponent asks for, and no point when there is nothing
  behind it;
* `Binary64.canonical`: positional with a point while the first digit stands at a power of ten
  from `10^-4` to `10^15`, and with an exponent of a sign and at least two digits elsewhere.

`Binary64.ofText?` reads either of them back.
-/

namespace DeskCalc

namespace Decimal

/-- The digits of a whole number. -/
def digits (n : Nat) : List Char := Nat.toDigits 10 n

/-- The digits before and behind the point of `coefficient * 10^exponent`; the first part is never
    empty. -/
def places (d : Decimal) : List Char × List Char :=
  let ds := digits d.coefficient
  if 0 ≤ d.exponent then (ds ++ List.replicate d.exponent.toNat '0', [])
  else
    let behind := (-d.exponent).toNat
    let padded := List.replicate (behind + 1 - ds.length) '0' ++ ds
    padded.splitAt (padded.length - behind)

/-- Positional notation; a point only with digits behind it. -/
def plain (d : Decimal) : List Char :=
  match d.places with
  | (whole, []) => whole
  | (whole, fraction) => whole ++ '.' :: fraction

/-- Positional notation that always has a point and a digit behind it. -/
def pointed (d : Decimal) : List Char :=
  match d.places with
  | (whole, []) => whole ++ ['.', '0']
  | (whole, fraction) => whole ++ '.' :: fraction

/-- The power of ten at which the first digit stands. -/
def leading (d : Decimal) : Int := d.exponent + ((digits d.coefficient).length : Int) - 1

/-- One digit before the point, none behind it written as nothing, and the power of ten with its
    sign in at least two digits. -/
def scientific (d : Decimal) : List Char :=
  let mantissa := match digits d.coefficient with
    | [] => []
    | [first] => [first]
    | first :: rest => first :: '.' :: rest
  let power := digits d.leading.natAbs
  mantissa ++ 'e' :: (if d.leading < 0 then '-' else '+') ::
    (List.replicate (2 - power.length) '0' ++ power)

/-! ## Reading -/

/-- The value of a digit. -/
def digitValue (c : Char) : Nat := c.toNat - '0'.toNat

/-- The whole number that the digits write. -/
def ofDigits (ds : List Char) : Nat := ds.foldl (fun n c => 10 * n + digitValue c) 0

/-- The number that digits with at most one point write. -/
def ofNumeral (text : List Char) : Decimal :=
  let whole := text.takeWhile (· != '.')
  let fraction := (text.dropWhile (· != '.')).drop 1
  ⟨ofDigits (whole ++ fraction), -(fraction.length : Int)⟩

/-- The number that a numeral with an optional exponent writes, if the text is one. -/
def ofText? (text : List Char) : Option Decimal :=
  let mantissa := text.takeWhile (fun c => c != 'e' && c != 'E')
  let behind := (text.dropWhile (fun c => c != 'e' && c != 'E')).drop 1
  let mantissaOk := mantissa.all (fun c => c.isDigit || c == '.') && mantissa.any Char.isDigit
    && mantissa.count '.' ≤ 1
  let base := ofNumeral mantissa
  let power? : Option Int :=
    if mantissa.length = text.length then some 0
    else
      let (negative, ds) := match behind with
        | '-' :: ds => (true, ds)
        | '+' :: ds => (false, ds)
        | ds => (false, ds)
      if ds.isEmpty || !ds.all Char.isDigit then none
      else some (if negative then -(ofDigits ds : Int) else ofDigits ds)
  if mantissaOk then power?.map (fun power => ⟨base.coefficient, base.exponent + power⟩)
  else none

end Decimal

namespace Binary64

/-- The digits of a finite magnitude. -/
def canonicalDigits (units : Nat) : List Char :=
  if units = 0 then ['0', '.', '0']
  else
    let d := Decimal.shortest units
    if -4 ≤ d.leading ∧ d.leading < 16 then d.pointed else d.scientific

/-- The text of a double: the fewest digits that read back as the same number. -/
def canonical : Binary64 → String
  | nan => "nan"
  | infinite negative => if negative then "-inf" else "inf"
  | finite negative units _ =>
    String.ofList ((if negative then ['-'] else []) ++ canonicalDigits units)

/-- The double that a text writes: a sign, and a numeral, `inf` or `nan`. -/
def ofText? (text : String) : Option Binary64 :=
  let (negative, body) := match text.toList with
    | '-' :: body => (true, body)
    | '+' :: body => (false, body)
    | body => (false, body)
  if body = ['i', 'n', 'f'] then some (infinite negative)
  else if body = ['n', 'a', 'n'] then some nan
  else (Decimal.ofText? body).map (Decimal.toBinary64 negative)

end Binary64

end DeskCalc
