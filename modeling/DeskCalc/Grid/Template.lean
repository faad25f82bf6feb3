import DeskCalc.Text.Blank

/-!
# Templates of a grid

A grid is written as lines of names, a name for each cell; blank lines say nothing. The cells of one
name form an area, which has to be a full block. This file fixes

* `GridFault`: what can be wrong with a grid;
* `parseTemplate`: the matrix of names;
* `blocks`: the smallest block around each name, in the order of first appearance, and
  `fills`: whether every cell of a block holds the name.
-/

namespace DeskCalc

/-- Why a template and its fractions are no grid. -/
inductive GridFault where
  | emptyTemplate
  | raggedRow (columns expected : Nat)
  | columnFractions
  | rowFractions
  | notRectangular (name : String)
  deriving DecidableEq, Repr

def GridFault.message : GridFault → String
  | emptyTemplate => "Empty grid template"
  | raggedRow columns expected =>
    "Grid row has " ++ toString columns ++ " columns, expected " ++ toString expected
  | columnFractions => "Column fractions do not match grid columns"
  | rowFractions => "Row fractions do not match grid rows"
  | notRectangular name => "Grid area '" ++ name ++ "' is not rectangular"

namespace Grid

/-! ## 1. Reading a template -/

/-- The rows of names that a text writes. -/
def templateRows (template : String) : List (List String) :=
  ((Text.lines template.toList).map fun line => (Text.words line).map String.ofList).filter
    (!·.isEmpty)

/-- The matrix of names, all rows of the length of the first. -/
def parseTemplate (template : String) : Except GridFault (List (List String)) :=
  match templateRows template with
  | [] => .error .emptyTemplate
  | first :: others =>
    match others.find? (·.length != first.length) with
    | some row => .error (.raggedRow row.length first.length)
    | none => .ok (first :: others)

/-! ## 2. Blocks of cells -/

/-- A block of cells by its corners, both inside. -/
structure Block where
  top : Nat
  left : Nat
  bottom : Nat
  right : Nat
  deriving DecidableEq, Repr

namespace Block

/-- The block of one cell. -/
def single (row column : Nat) : Block := ⟨row, column, row, column⟩

/-- The smallest block around a block and a cell. -/
def around (b : Block) (row column : Nat) : Block :=
  ⟨min b.top row, min b.left column, max b.bottom row, max b.right column⟩

/-- The cells of a block. -/
def cells (b : Block) : List (Nat × Nat) :=
  (List.range' b.top (b.bottom + 1 - b.top)).flatMap fun row =>
    (List.range' b.left (b.right + 1 - b.left)).map fun column => (row, column)

end Block

/-- The cells of a matrix with their names, row by row. -/
def namedCells (grid : List (List String)) : List (String × Nat × Nat) :=
  grid.zipIdx.flatMap fun (row, r) => row.zipIdx.map fun (name, c) => (name, r, c)

/-- Takes one more cell into the blocks; a new name goes to the end. -/
def addCell (name : String) (row column : Nat) : List (String × Block) → List (String × Block)
  | [] => [(name, .single row column)]
  | (other, block) :: rest =>
    if other = name then (other, block.around row column) :: rest
    else (other, block) :: addCell name row column rest

/-- The smallest block around the cells of each name. -/
def blocks (grid : List (List String)) : List (String × Block) :=
  (namedCells grid).foldl (fun found (name, row, column) => addCell name row column found) []

/-- The name in a cell. -/
def nameAt? (grid : List (List String)) (row column : Nat) : Option String :=
  grid[row]?.bind (·[column]?)

/-- Whether every cell of a block holds the name. -/
def fills (grid : List (List String)) (name : String) (block : Block) : Bool :=
  block.cells.all fun (row, column) => nameAt? grid row column == some name

end Grid

end DeskCalc
