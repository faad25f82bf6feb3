import DeskCalc.Text.Blank
import DeskCalc.Text.CaseTable

/-!
# Upper and lower case

Both mappings take each character to one or more characters. Lower case alone looks around: a
capital sigma that ends a word becomes the final small sigma.
-/

namespace DeskCalc.Text

open CaseTable

/-- A character under a case mapping: the listed words first, the runs next, else itself. -/
def mapCase (listed : List (Nat × List Nat)) (runs : List CaseTable.Run) (c : Char) : List Char :=
  match listed.lookup c.toNat with
  | some word => word.map Char.ofNat
  | none =>
    match runs.findSome? (·.image? c.toNat) with
    | some n => [Char.ofNat n]
    | none => [c]

/-- The text in upper case. -/
def upper (text : List Char) : List Char := text.flatMap (mapCase upperWords upperRuns)

/-- Whether a letter that has case comes next, characters that case rules pass over left out. -/
def beforeLetter (text : List Char) : Bool :=
  match text.find? (!inRanges caseIgnorable ·) with
  | some c => inRanges cased c
  | none => false

/-- The text in lower case; `afterLetter` says whether a letter that has case stands before it. -/
def lowerFrom (afterLetter : Bool) : List Char → List Char
  | [] => []
  | c :: rest =>
    let mapped :=
      if c = 'Σ' then [if afterLetter && !beforeLetter rest then 'ς' else 'σ']
      else mapCase lowerWords lowerRuns c
    mapped ++
      lowerFrom (if inRanges caseIgnorable c then afterLetter else inRanges cased c) rest

/-- The text in lower case. -/
def lower (text : List Char) : List Char := lowerFrom false text

end DeskCalc.Text
