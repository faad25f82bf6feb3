import DeskCalc.Grid.Layout
import DeskCalc.Keypad
import DeskCalc.Picture.Canvas
import DeskCalc.Picture.Fitting
import DeskCalc.Picture.Stroke

/-!
# The panel

The panel is the grid fitted to the window, and the button that a click has lit up for some
pictures. This file fixes

* `Panel.resize` and `Panel.button?`: fitting, and finding the button under a pixel;
* `drawDisplay`, `drawButtons`, `drawHistory`: the three parts of a picture;
* `Panel.render`: a whole picture, after which the highlight has one picture less to live.
-/

namespace DeskCalc

structure Panel where
  width : Int
  height : Int
  layout : Layout
  /-- The area of the button lit up by the last click. -/
  pressed : Option String := none
  /-- The number of pictures for which it stays lit. -/
  timer : Int := 0

namespace Panel

/-! ## 1. Fitting and finding -/

/-- The panel fitted to a window of the size asked for, or the smallest allowed. If the layout
    cannot be fitted, the panel takes the size and the layout stays as it was. -/
def resize (settings : Settings) (p : Panel) (width height : Int) :
    Panel × Option ArithmeticFault :=
  let (width, height) := settings.windowSize (some width) (some height)
  let sized := { p with width := width, height := height }
  match p.layout.resize width height settings.padding with
  | .ok layout => ({ sized with layout := layout }, none)
  | .error fault => (sized, some fault)

/-- The panel, unless fitting it went wrong. -/
def unlessFault : Panel × Option ArithmeticFault → Except ArithmeticFault Panel
  | (panel, none) => .ok panel
  | (_, some fault) => .error fault

/-- The panel of a new window. -/
def create (settings : Settings) (width height : Int) : Except ArithmeticFault Panel :=
  unlessFault (resize settings { width, height, layout := Layout.calculator } width height)

/-- The button under a pixel. -/
def button? (p : Panel) (x y : Int) : Option Button := (p.layout.areaAt x y).bind Keypad.button?

/-- Lights a button up. -/
def press (p : Panel) (area : String) (duration : Int) : Panel :=
  { p with pressed := some area, timer := duration }

/-- The panel after one more picture. -/
def tick (p : Panel) : Panel :=
  if 0 < p.timer then
    { p with timer := p.timer - 1, pressed := if p.timer = 1 then none else p.pressed }
  else p

/-! ## 2. The display -/

/-- The box of the display's text. -/
def displayBox (settings : Settings) (r : Rect) : Box :=
  { maxWidth := r.width - 2 * 8
    maxHeight := r.height - 2 * 8
    maxScale := settings.displayScale
    minScale := settings.displayMinScale
    maxLines := settings.displayMaxLines }

/-- The style of the display's text: thicker strokes at a larger scale. -/
def displayStyle (scale : Quantity) : Except PictureFault TextStyle :=
  match (scale.scaled 1.5).bind Binary64.roundWhole with
  | .error fault => .error (.arithmetic fault)
  | .ok thickness =>
    let style : TextStyle := { scale := scale, thickness := max 1 thickness }
    match style.fault? with
    | some fault => .error fault
    | none => .ok style

/-- The display: an error from the left in its colour, else the buffer from the right. The last line
    stands at the bottom, the others above it. -/
def drawDisplay (settings : Settings) (p : Panel) (s : State) :
    Except PictureFault (List Stroke) := do
  let r := p.layout.rect "display"
  let margin := 8
  let isError := !s.error.isEmpty
  let fitted ← (displayBox settings r).fit s.display.toList
  let style ← displayStyle fitted.scale
  let top := r.y + r.height - margin - fitted.lineHeight * ((fitted.lines.length : Int) - 1)
  return fitted.lines.zipIdx.map fun (line, i) =>
    let x := if isError then r.x + margin else r.x + r.width - margin - style.textWidth line
    .text (String.ofList line) x (top + fitted.lineHeight * i) style
      (if isError then settings.errorColor else settings.textColor)

/-! ## 3. The buttons -/

/-- A colour at four fifths of its brightness. -/
def darken (c : Color) : Color :=
  ⟨c.channels.map fun n => (Binary64.ofInt n * 0.8).truncate⟩

/-- One button: filled with a shadow if it is elevated or pressed, else tinted with a border. -/
def drawButton (settings : Settings) (p : Panel) (b : Button) : List Stroke :=
  let r := p.layout.rect b.area
  let x0 := r.x + 3
  let y0 := r.y + 10
  let x1 := r.x + r.width - 3
  let y1 := r.y + r.height - 10
  let isPressed := p.pressed == some b.area
  let body : List Stroke :=
    if b.style = .elevated || isPressed then
      [.box (x0 + 2) (y0 + 3) (x1 + 2) (y1 + 3) (.bgr 190 190 190) (-1),
       .box x0 y0 x1 y1 (if isPressed then darken b.color else b.color) (-1)]
    else
      [.box x0 y0 x1 y1 b.color (-1), .blend 0.35 0.65 0, .box x0 y0 x1 y1 b.color 2]
  let style : TextStyle := { scale := .real 0.8 }
  let x := x0 + (x1 - x0 - style.textWidth b.label.toList) / 2
  let y := y0 + (y1 - y0 + style.textHeight) / 2
  body ++ [.text b.label x y style settings.labelColor]

/-- All buttons. -/
def drawButtons (settings : Settings) (p : Panel) : List Stroke :=
  Keypad.buttons.flatMap (drawButton settings p)

/-! ## 4. The history -/

/-- The box of one entry of the history. -/
def entryBox (r : Rect) : Box :=
  { maxWidth := r.width - 32
    maxHeight := r.height
    maxScale := .real 0.6
    minScale := .real 0.35
    maxLines := 1 }

/-- The entries from a baseline on, as far as the panel reaches. -/
def drawEntries (settings : Settings) (r : Rect) : (baseline : Int) → List String →
    Except PictureFault (List Stroke)
  | _, [] => .ok []
  | baseline, entry :: rest =>
    if r.y + r.height < baseline then .ok []
    else do
      let fitted ← (entryBox r).fit entry.toList
      let shown : Stroke :=
        .text (String.ofList (fitted.lines.headD [])) (r.x + 16) baseline
          { scale := fitted.scale, thickness := 1 } settings.textColor
      return shown :: (← drawEntries settings r (baseline + (max fitted.lineHeight 28 + 8)) rest)

/-- The style of the history's heading. -/
def headingStyle : TextStyle := { face := .duplex, scale := .real 0.8 }

/-- The history with its heading, the newest entry first. -/
def drawHistory (settings : Settings) (p : Panel) (s : State) :
    Except PictureFault (List Stroke) := do
  let r := p.layout.rect "history"
  let heading : List Stroke :=
    [.text "History" (r.x + 16) (r.y + 36) headingStyle settings.textColor,
     .line (r.x + 8) (r.y + 50) (r.x + 8 + (r.width - 16)) (r.y + 50) (.bgr 220 220 220) 1]
  return heading ++ (← drawEntries settings r (r.y + 85) s.history)

/-! ## 5. The picture -/

/-- A picture of the state, and the panel after it. -/
def render (settings : Settings) (p : Panel) (s : State) :
    Except PictureFault (List Stroke × Panel) :=
  match Canvas.fault? p.width p.height settings.backgroundColor with
  | some fault => .error fault
  | none => do
    let display ← p.drawDisplay settings s
    let history ← p.drawHistory settings s
    return (display ++ p.drawButtons settings ++ history, p.tick)

end Panel

end DeskCalc
