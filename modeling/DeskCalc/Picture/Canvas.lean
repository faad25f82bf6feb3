import DeskCalc.Picture.Fault
import DeskCalc.Settings

/-!
# The canvas

A picture is drawn on a canvas of three bytes a pixel, which first takes the colour of the
background. A canvas cannot be prepared when a side is negative, when its bytes are too many to be
counted or to be held, or when the background is no colour. This file fixes

* `Canvas.sizeFault?`: what is wrong with a size;
* `Canvas.backgroundFault?`: what is wrong with a background, which shows only if there is a pixel;
* `Canvas.fault?`: both, the size first.
-/

namespace DeskCalc.Canvas

/-! ## 1. The size -/

/-- Whether a number fits 64 bits with a sign. -/
def fits64 (n : Int) : Bool := -(twoPow 63 : Int) ≤ n && n < twoPow 63

/-- What is wrong with the sides of a canvas that are still to come, `bytes` being the product of
    those before; a side of no length counts as one, so that it hides nothing. -/
def sidesFault? (bytes : Nat) : List Int → Option PictureFault
  | [] => none
  | side :: rest =>
    if side = 0 then sidesFault? bytes rest
    else if side < 0 then some .negativeSide
    else if twoPow 63 ≤ bytes * side.toNat then some .areaTooLarge
    else sidesFault? (bytes * side.toNat) rest

/-- The bytes that memory has room for. -/
def memory : Nat := twoPow 40

/-- `bytes / unit` in three significant digits at least, a point behind them if nothing follows. -/
def threeDigits (bytes unit : Nat) : String :=
  let hundredths := roundQuotient (100 * bytes) unit
  let tenths := roundQuotient (10 * bytes) unit
  let pad (n : Nat) := if n < 10 then "0" ++ toString n else toString n
  if hundredths < 1000 then toString (hundredths / 100) ++ "." ++ pad (hundredths % 100)
  else if tenths < 1000 then toString (tenths / 10) ++ "." ++ toString (tenths % 10)
  else toString (roundQuotient bytes unit) ++ "."

/-- A number of bytes in the largest unit of which there is at least one, the next one when they
    round to 1024. -/
def sizeText (bytes : Nat) : String :=
  let step := bytes.log2 / 10
  let step := if roundQuotient bytes (twoPow (10 * step)) = 1024 then step + 1 else step
  let unit := ["bytes", "KiB", "MiB", "GiB", "TiB", "PiB", "EiB"].getD step "EiB"
  (if step = 0 then toString bytes else threeDigits bytes (twoPow (10 * step))) ++ " " ++ unit

/-- What is wrong with a size. -/
def sizeFault? (width height : Int) : Option PictureFault :=
  let sides := [height, width, 3]
  let bytes := 3 * (height.toNat * width.toNat)
  if !sides.all fits64 then some .sideTooLong
  else
    match sidesFault? 1 sides with
    | some fault => some fault
    | none => if memory < bytes then some (.outOfMemory (sizeText bytes) width height) else none

/-! ## 2. The background -/

/-- Whether 64 bits hold a channel, with a sign or without. -/
def isChannel (n : Int) : Bool := -(twoPow 63 : Int) ≤ n && n < twoPow 64

/-- What is wrong with the channels of a background. As long as 64 bits hold all of them, only their
    last bytes count; otherwise the first one that is no byte is at fault. -/
def channelsFault? (channels : List Int) : Option PictureFault :=
  if channels.all isChannel then none
  else
    match channels.find? fun c => c < 0 || 255 < c with
    | none => none
    | some c => some (if fits64 c then .channelRange c else .channelTooLarge)

/-- What is wrong with a background for a canvas of a size. -/
def backgroundFault? (width height : Int) (background : Color) : Option PictureFault :=
  let channels := background.channels
  if channels.length ≠ 1 ∧ channels.length ≠ 3 then
    some (.channelCount channels.length width height)
  else if width = 0 ∨ height = 0 then none
  else channelsFault? channels

/-- Why a canvas cannot be prepared, if so. -/
def fault? (width height : Int) (background : Color) : Option PictureFault :=
  (sizeFault? width height).or (backgroundFault? width height background)

end DeskCalc.Canvas
