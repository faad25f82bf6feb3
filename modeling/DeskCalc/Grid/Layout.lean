import DeskCalc.Grid.Template
import DeskCalc.Grid.Tracks

/-!
# Layout

A layout is a grid with a fraction for each column and row, and the rectangle in pixels of each area
for the size it was last fitted to. A rectangle holds its left and upper edge and not its right and
lower one.
-/

namespace DeskCalc

/-- A rectangle in pixels. -/
structure Rect where
  x : Int
  y : Int
  width : Int
  height : Int
  deriving DecidableEq, Repr

/-- Whether a pixel lies in a rectangle. -/
def Rect.holds (r : Rect) (px py : Int) : Bool :=
  r.x ≤ px && px < r.x + r.width && r.y ≤ py && py < r.y + r.height

structure Layout where
  grid : List (List String)
  columns : List Quantity
  rows : List Quantity
  /-- The block of each area, in the order of first appearance. -/
  blocks : List (String × Grid.Block)
  /-- The rectangle of each area, once the layout has been fitted to a size. -/
  rects : List (String × Rect) := []

namespace Layout

/-- The grid that a template describes, with the fractions of its columns and rows. -/
def ofTemplate (template : String) (columns rows : List Quantity) : Except GridFault Layout :=
  match Grid.parseTemplate template with
  | .error fault => .error fault
  | .ok grid =>
    if columns.length ≠ (grid.headD []).length then .error .columnFractions
    else if rows.length ≠ grid.length then .error .rowFractions
    else
      match (Grid.blocks grid).find? fun (name, block) => !Grid.fills grid name block with
      | some (name, _) => .error (.notRectangular name)
      | none => .ok { grid, columns, rows, blocks := Grid.blocks grid }

/-- The rectangle of a block between the edges of its tracks. -/
def blockRect (xs ys : List Int) (block : Grid.Block) : Rect :=
  let x := xs.getD block.left 0
  let y := ys.getD block.top 0
  ⟨x, y, xs.getD (block.right + 1) 0 - x, ys.getD (block.bottom + 1) 0 - y⟩

/-- The layout fitted to a size, with a margin of `padding` on all sides. -/
def resize (l : Layout) (width height padding : Int) : Except ArithmeticFault Layout := do
  let xs ← Grid.tracks l.columns padding (width - 2 * padding)
  let ys ← Grid.tracks l.rows padding (height - 2 * padding)
  return { l with rects := l.blocks.map fun (name, block) => (name, blockRect xs ys block) }

/-- The area that holds a pixel. -/
def areaAt (l : Layout) (px py : Int) : Option String :=
  (l.rects.find? fun (_, rect) => rect.holds px py).map (·.1)

/-- The rectangle of an area; empty before the layout is fitted. -/
def rect (l : Layout) (area : String) : Rect := (l.rects.lookup area).getD ⟨0, 0, 0, 0⟩

/-! ## The calculator's grid -/

/-- The names of the calculator's areas: the display above the buttons, the history beside both. -/
def calculatorTemplate : String :=
  "display display display display  history
   clear   bkspc   lparen  rparen   history
   seven   eight   nine    divide   history
   four    five    six     multiply history
   one     two     three   minus    history
   zero    point   equals  plus     history"

def calculatorColumns : List Quantity := [.whole 1, .whole 1, .whole 1, .whole 1, .whole 2]

def calculatorRows : List Quantity :=
  [.whole 2, .whole 2, .whole 2, .whole 2, .whole 2, .whole 2]

/-- The calculator's layout, not yet fitted to a size. -/
def calculator : Layout where
  grid := Grid.templateRows calculatorTemplate
  columns := calculatorColumns
  rows := calculatorRows
  blocks := Grid.blocks (Grid.templateRows calculatorTemplate)

end Layout

end DeskCalc
