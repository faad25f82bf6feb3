import DeskCalc.Quantity

/-!
# What keeps a picture from being drawn

A text may be impossible to measure or to fit, and a canvas impossible to prepare. Every cause has a
message.
-/

namespace DeskCalc

/-- Why a picture cannot be drawn. -/
inductive PictureFault where
  | arithmetic (fault : ArithmeticFault)
  /-- The thickness of strokes does not fit 32 bits. -/
  | thickness
  /-- No line is allowed, so none can end in dots. -/
  | noLine
  /-- A side of the canvas does not fit 64 bits. -/
  | sideTooLong
  | negativeSide
  /-- The number of bytes does not fit 63 bits. -/
  | areaTooLarge
  /-- There is no memory for that many bytes, whose number is written as `size`. -/
  | outOfMemory (size : String) (width height : Int)
  /-- The background has neither one channel nor three. -/
  | channelCount (count : Nat) (width height : Int)
  /-- A channel of the background is no byte, and another one does not fit 64 bits. -/
  | channelRange (value : Int)
  /-- A channel of the background does not fit 64 bits. -/
  | channelTooLarge
  deriving DecidableEq, Repr

namespace PictureFault

/-- The three sides of a canvas: height, width and channels. -/
def shape (width height : Int) (separator : String) : String :=
  "(" ++ toString height ++ separator ++ toString width ++ separator ++ "3)"

def message : PictureFault → String
  | arithmetic fault => fault.message
  | thickness => "integer won't fit into a C int"
  | noLine => "list index out of range"
  | sideTooLong => "Maximum allowed dimension exceeded"
  | negativeSide => "negative dimensions are not allowed"
  | areaTooLarge =>
    "array is too big; `arr.size * arr.dtype.itemsize` is larger than the maximum possible size."
  | outOfMemory size width height =>
    "Unable to allocate " ++ size ++ " for an array with shape " ++ shape width height ", "
      ++ " and data type uint8"
  | channelCount count width height =>
    "could not broadcast input array from shape (" ++ toString count ++ ",) into shape "
      ++ shape width height ","
  | channelRange value => "Python integer " ++ toString value ++ " out of bounds for uint8"
  | channelTooLarge => "Python int too large to convert to C long"

end PictureFault

end DeskCalc
