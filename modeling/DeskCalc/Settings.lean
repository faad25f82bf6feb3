import DeskCalc.Quantity

/-!
# Settings

What can be set about the window, its colours, the display and the spoken feedback, with the values
that hold unless something else is asked for. No window is smaller than the minimum.
-/

namespace DeskCalc

/-- A colour by its channels. -/
structure Color where
  channels : List Int
  deriving DecidableEq, Repr

/-- A colour by its blue, green and red parts. -/
def Color.bgr (blue green red : Int) : Color := ⟨[blue, green, red]⟩

structure Settings where
  windowTitle : String := "Simplistic Calculator"
  windowWidth : Int := 900
  windowHeight : Int := 600
  minWidth : Int := 600
  minHeight : Int := 500
  /-- The margin around the grid of buttons. -/
  padding : Int := 15
  backgroundColor : Color := .bgr 255 255 255
  textColor : Color := .bgr 0 0 0
  errorColor : Color := .bgr 54 67 244
  labelColor : Color := .bgr 80 80 80
  /-- The largest scale of the display's text; it shrinks until the text fits. -/
  displayScale : Quantity := .real 3.0
  displayMinScale : Quantity := .real 0.5
  displayMaxLines : Int := 2
  voiceEnabled : Bool := false
  voiceVolume : Quantity := .real 0.8
  voiceRate : Quantity := .whole 150
  voiceLanguage : String := "en"

namespace Settings

/-- The size of the window when a size is asked for: never below the minimum, and the set size where
    none is given. -/
def windowSize (s : Settings) (width height : Option Int) : Int × Int :=
  (max (width.getD s.windowWidth) s.minWidth, max (height.getD s.windowHeight) s.minHeight)

/-- Switches the voice on or off. -/
def toggleVoice (s : Settings) : Settings := { s with voiceEnabled := !s.voiceEnabled }

end Settings

end DeskCalc
