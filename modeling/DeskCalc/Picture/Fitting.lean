import DeskCalc.Picture.Typeface

/-!
# Fitting a text into a box

A text is broken into lines character by character, as late as the width allows. The largest scale
of a shrinking sequence at which the lines fit is taken; at the smallest one the lines that are too
many are dropped, and the last line left ends in dots. This file fixes

* `wrap`: the lines of a text at one scale;
* `ellipsize`: a line cut short for the dots;
* `wrap?` and `ellipsize?`: the same for styles in which nothing may be measurable;
* `Box.fit`: the search for the scale.
-/

namespace DeskCalc

/-! ## 1. Lines -/

/-- The rest of the running line, which `pen` has drawn so far, and the lines behind it. -/
def continueLine (style : TextStyle) (maxWidth : Int) (pen : Pen) :
    List Char → List Char × List (List Char)
  | [] => ([], [])
  | c :: rest =>
    if maxWidth < (pen.put style c).width style then
      let (own, others) := continueLine style maxWidth (Pen.put style {} c) rest
      ([], (c :: own) :: others)
    else
      let (own, others) := continueLine style maxWidth (pen.put style c) rest
      (c :: own, others)

/-- The lines of a text no wider than `maxWidth`; a line always takes at least one character, and
    the empty text is one empty line. -/
def wrap (style : TextStyle) (maxWidth : Int) : List Char → List (List Char)
  | [] => [[]]
  | c :: rest =>
    let (own, others) := continueLine style maxWidth (Pen.put style {} c) rest
    (c :: own) :: others

theorem continueLine_flatten (style : TextStyle) (maxWidth : Int) (pen : Pen) (text : List Char) :
    (continueLine style maxWidth pen text).1 ++ (continueLine style maxWidth pen text).2.flatten
      = text := by
  induction text generalizing pen with
  | nil => rfl
  | cons c rest ih =>
    unfold continueLine
    split <;> simp [ih]

/-- Nothing of a text is lost between its lines. -/
theorem flatten_wrap (style : TextStyle) (maxWidth : Int) (text : List Char) :
    (wrap style maxWidth text).flatten = text := by
  cases text with
  | nil => rfl
  | cons c rest => simp [wrap, continueLine_flatten]

/-- What ends a line that is cut short. -/
def ellipsis : List Char := ['.', '.', '.']

/-- The longest beginning of a text that, drawn behind what `pen` has drawn and with dots behind it,
    is no wider than `maxWidth`. -/
def longestKept? (style : TextStyle) (maxWidth : Int) (pen : Pen) :
    List Char → Option (List Char)
  | [] => if (pen.putAll style ellipsis).width style ≤ maxWidth then some [] else none
  | c :: rest =>
    match longestKept? style maxWidth (pen.put style c) rest with
    | some kept => some (c :: kept)
    | none => if (pen.putAll style ellipsis).width style ≤ maxWidth then some [] else none

/-- A line cut short just enough for dots behind it; the dots alone if nothing is short enough. -/
def ellipsize (style : TextStyle) (maxWidth : Int) (line : List Char) : List Char :=
  (longestKept? style maxWidth {} line).getD [] ++ ellipsis

/-! ## 2. Styles that cannot be measured -/

/-- The lines of a text, or why they cannot be found; a text of one character needs no measuring. -/
def wrap? (style : TextStyle) (maxWidth : Int) (text : List Char) :
    Except PictureFault (List (List Char)) :=
  match text, style.fault? with
  | _ :: _ :: _, some fault => .error fault
  | text, _ => .ok (wrap style maxWidth text)

/-- A line cut short, or why it cannot be; an empty line needs no measuring. -/
def ellipsize? (style : TextStyle) (maxWidth : Int) (line : List Char) :
    Except PictureFault (List Char) :=
  match line, style.fault? with
  | _ :: _, some fault => .error fault
  | line, _ => .ok (ellipsize style maxWidth line)

/-! ## 3. The scale -/

/-- A text in the lines in which it will be drawn. -/
structure Fitted where
  lines : List (List Char)
  scale : Quantity
  lineHeight : Int

/-- A box for a text, and the scales it may have. -/
structure Box where
  maxWidth : Int
  maxHeight : Int
  maxScale : Quantity
  minScale : Quantity := .real 0.5
  maxLines : Int := 2
  face : Typeface := .simplex
  thickness : Int := 2

namespace Box

def style (box : Box) (scale : Quantity) : TextStyle := ⟨box.face, scale, box.thickness⟩

/-- The height of a line: a text above and below its baseline, and a gap growing with the scale. -/
def lineHeight (box : Box) (scale : Quantity) : Except ArithmeticFault Int := do
  return (box.style scale).textHeight + (box.style scale).textDepth + (← scale.eightfold)

/-- The lines at one scale. -/
def atScale (box : Box) (text : List Char) (scale : Quantity) : Except ArithmeticFault Fitted := do
  return ⟨wrap (box.style scale) box.maxWidth text, scale, ← box.lineHeight scale⟩

/-- Whether the lines are few and low enough. -/
def holds (box : Box) (fitted : Fitted) : Bool :=
  fitted.lines.length ≤ box.maxLines && fitted.lineHeight * fitted.lines.length ≤ box.maxHeight

/-- The scale to try after one that is too large. -/
def nextScale (box : Box) (scale : Quantity) : Except ArithmeticFault Quantity := do
  return (Quantity.real (← scale.scaled 0.9)).larger box.minScale

/-- The first scale from this one on that holds the text or is small enough to stop at. A scale that
    cannot shrink any more is the last. -/
def search (box : Box) (text : List Char) (scale : Quantity) : Except ArithmeticFault Fitted :=
  match box.atScale text scale with
  | .error fault => .error fault
  | .ok fitted =>
    if box.holds fitted || scale.atMost box.minScale then .ok fitted
    else
      match box.nextScale scale with
      | .error fault => .error fault
      | .ok next =>
        if _ : next.magnitude < scale.magnitude then search box text next
        else box.atScale text next
termination_by scale.magnitude
decreasing_by assumption

/-- The lines that remain of those that may be too many; a negative number counts from the end. -/
def visibleLines (box : Box) (lines : List (List Char)) : List (List Char) :=
  if 0 ≤ box.maxLines then lines.take box.maxLines.toNat
  else lines.take (lines.length - (-box.maxLines).toNat)

/-- The lines that are found, the last one cut short if some have to go. -/
def trim (box : Box) (fitted : Fitted) : Except PictureFault Fitted :=
  if fitted.lines.length ≤ box.maxLines then .ok fitted
  else
    match (box.visibleLines fitted.lines).getLast? with
    | none => .error .noLine
    | some last =>
      .ok { fitted with
        lines := (box.visibleLines fitted.lines).dropLast
          ++ [ellipsize (box.style fitted.scale) box.maxWidth last] }

/-- The lines of a text in the box. -/
def fit (box : Box) (text : List Char) : Except PictureFault Fitted :=
  match (box.style box.maxScale).fault? with
  | some fault => .error fault
  | none =>
    match box.search text box.maxScale with
    | .error fault => .error (.arithmetic fault)
    | .ok fitted => box.trim fitted

end Box

end DeskCalc
