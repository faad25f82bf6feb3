import DeskCalc.Picture.Fault

/-!
# Typefaces and the width of a text

Text is drawn with strokes at a scale, and its width is the sum of the widths of its bytes at that
scale, accumulated in doubles from left to right. Bytes other than the printable ones of ASCII take
the place of a question mark, so a character of several bytes takes several of them; a NUL ends the
text. `Pen` is the running sum, so that one character more costs one step more.

A length in pixels is a number of 32 bits; the smallest one stands for a length that is too large.
Nothing can be measured in a style whose scale has no double or whose thickness exceeds 32 bits.
-/

namespace DeskCalc

/-- The two typefaces in use. -/
inductive Typeface where
  | simplex
  | duplex
  deriving DecidableEq, Repr

namespace Typeface

/-- The number by which drawing knows the typeface. -/
def number : Typeface → Nat
  | simplex => 0
  | duplex => 2

/-- The widths of the bytes from 32 to 126. -/
def widths : Typeface → List Nat
  | simplex =>
    [16, 10, 16, 22, 20, 24, 26, 8, 14, 14, 16, 26, 10, 26, 10, 22, 20, 20, 20, 20, 20, 20, 20, 20,
     20, 20, 10, 10, 24, 26, 24, 18, 29, 18, 21, 21, 21, 19, 18, 21, 22, 8, 16, 21, 17, 24, 22, 22,
     21, 22, 21, 20, 16, 22, 18, 24, 20, 18, 20, 14, 22, 14, 22, 18, 12, 19, 19, 18, 19, 18, 12, 19,
     19, 8, 10, 17, 8, 30, 19, 19, 19, 19, 13, 17, 12, 19, 16, 22, 17, 16, 17, 14, 8, 14, 24]
  | duplex =>
    [16, 11, 18, 23, 19, 24, 25, 9, 14, 14, 16, 25, 11, 25, 11, 23, 20, 20, 20, 20, 20, 20, 20, 20,
     20, 20, 11, 11, 24, 25, 24, 19, 27, 20, 20, 21, 21, 19, 18, 21, 22, 9, 17, 21, 17, 24, 22, 22,
     20, 22, 20, 20, 17, 22, 20, 26, 20, 19, 20, 14, 22, 14, 22, 18, 12, 20, 20, 18, 20, 18, 14, 20,
     20, 9, 9, 19, 9, 31, 20, 19, 20, 20, 14, 17, 11, 20, 16, 24, 18, 16, 18, 15, 8, 15, 24]

/-- The width of a question mark, which stands for every byte without a shape. -/
def unknownWidth : Typeface → Nat
  | simplex => 18
  | duplex => 19

/-- The widths of the bytes of a character. -/
def byteWidths (face : Typeface) (c : Char) : List Nat :=
  if 32 ≤ c.toNat ∧ c.toNat ≤ 126 then
    [face.widths.getD (c.toNat - 32) face.unknownWidth]
  else List.replicate c.utf8Size face.unknownWidth

end Typeface

/-- How a text is drawn. -/
structure TextStyle where
  face : Typeface := .simplex
  scale : Quantity
  thickness : Int := 2

namespace TextStyle

/-- The scale as a double. -/
def factor (style : TextStyle) : Binary64 := style.scale.nearest

/-- Why nothing can be measured in a style, if so; the scale is looked at first. -/
def fault? (style : TextStyle) : Option PictureFault :=
  match style.scale.toBinary64 with
  | .error fault => some (.arithmetic fault)
  | .ok _ =>
    if -(twoPow 31 : Int) ≤ style.thickness && style.thickness < twoPow 31 then none
    else some .thickness

end TextStyle

/-- Where drawing a text has come to. -/
structure Pen where
  /-- The widths so far, at the scale. -/
  advance : Binary64 := 0
  /-- A NUL has come. -/
  ended : Bool := false

namespace Pen

/-- The pen behind one character more. -/
def put (style : TextStyle) (pen : Pen) (c : Char) : Pen :=
  if pen.ended || c == '\x00' then { pen with ended := true }
  else
    { pen with
      advance := (style.face.byteWidths c).foldl
        (fun sum (width : Nat) => sum + Binary64.ofInt width * style.factor) pen.advance }

/-- The pen behind some characters more. -/
def putAll (style : TextStyle) (pen : Pen) (text : List Char) : Pen := text.foldl (put style) pen

/-- The width in pixels of what the pen has drawn. -/
def width (style : TextStyle) (pen : Pen) : Int :=
  (pen.advance + Binary64.ofInt style.thickness).round32

end Pen

namespace TextStyle

/-- The width of a text in pixels. -/
def textWidth (style : TextStyle) (text : List Char) : Int :=
  (Pen.putAll style {} text).width style

/-- Half of one more than the thickness, toward zero. Behind the largest number of 32 bits comes the
    smallest. -/
def halfThickness (style : TextStyle) : Int :=
  let next := if style.thickness = twoPow 31 - 1 then -(twoPow 31 : Int) else style.thickness + 1
  next.tdiv 2

/-- The height of a text above its baseline. -/
def textHeight (style : TextStyle) : Int :=
  (21 * style.factor + Binary64.ofInt style.halfThickness).round32

/-- The depth of a text below its baseline. -/
def textDepth (style : TextStyle) : Int :=
  (9 * style.factor + Binary64.ofInt style.thickness * 0.5).round32

end TextStyle

end DeskCalc
