import DeskCalc.Picture.Typeface
import DeskCalc.Settings

/-!
# Strokes

A picture is the list of what is drawn on it, in order.
-/

namespace DeskCalc

inductive Stroke where
  /-- A text with its baseline beginning at a point. -/
  | text (content : String) (x y : Int) (style : TextStyle) (color : Color)
  /-- A rectangle by two corners; thickness `-1` fills it. -/
  | box (x0 y0 x1 y1 : Int) (color : Color) (thickness : Int)
  | line (x0 y0 x1 y1 : Int) (color : Color) (thickness : Int)
  /-- The weighted sum of what was drawn last and what was there before. -/
  | blend (weight opposite offset : Binary64)

/-- The text that a stroke writes, if it writes one. -/
def Stroke.content? : Stroke → Option String
  | text content .. => some content
  | _ => none

end DeskCalc
