import DeskCalc.Picture.Panel
import DeskCalc.Speech.Announcer

/-!
# The application

The application joins the calculator's state, the panel and the announcer. A click or a key gives
one command, whose key is announced first and whose effect is announced if it changed the state. The
last picture is kept and drawn again only if the state, the size or the highlight asks for it. This
file fixes

* `App.handle`, `App.handleKey`, `App.handleMouse`: what commands, keys and clicks do;
* `App.syncWindow`: following the size of the window;
* `App.draw`: the picture to show.
-/

namespace DeskCalc

/-- A picture with its size. -/
structure Picture where
  width : Int
  height : Int
  strokes : List Stroke

structure App where
  settings : Settings
  state : State
  panel : Panel
  announcer : Announcer
  /-- The picture has to be drawn again. -/
  dirty : Bool := true
  /-- The last picture. -/
  picture : Option Picture := none

namespace App

/-! ## 1. Starting -/

/-- A new application, and the lines it prints. The voice is set up before the window. -/
def start (settings : Settings) (state : State) (startup : Startup) :
    Except ArithmeticFault (App × List String) := do
  let (announcer, settings, printed) := Announcer.start settings startup
  let (width, height) := settings.windowSize none none
  let panel ← Panel.create settings width height
  return ({ settings, state, panel, announcer }, printed)

/-! ## 2. Commands -/

/-- What is said for a request itself: a token or the clearing of the buffer. -/
def requestPhrase? (phrases : Phrases) : Request → Option String
  | .command (.append token _) => some (phrases.token token)
  | .command .clear => some phrases.cleared
  | _ => none

/-- What is said for a change of the state: its error, else its result if there is a new one. -/
def changePhrase? (phrases : Phrases) (previous current : State) : Option String :=
  if previous = current then none
  else if !current.error.isEmpty then some current.error
  else if previous.history.length < current.history.length then
    some (phrases.result current.buffer)
  else none

/-- What is said in a state for a request: first the request, then the change it brings. -/
def announcements (phrases : Phrases) (s : State) (request : Request) : List String :=
  (requestPhrase? phrases request).toList ++
    match s.obey request with
    | .ok state => (changePhrase? phrases s state).toList
    | .error _ => []

/-- Handles a request, with the fault if it is not a command. -/
def handle (app : App) (request : Request) : App × Option UnknownCommand :=
  let phrases := Announcer.phrases app.settings
  let heard :=
    { app with
      announcer := (announcements phrases app.state request).foldl
        (Announcer.speak app.settings) app.announcer }
  match app.state.obey request with
  | .ok state =>
    (if state = app.state then heard else { heard with state := state, dirty := true }, none)
  | .error fault => (heard, some fault)

/-- Handles a command. -/
def handleCommand (app : App) (command : Command) : App := (app.handle (.command command)).1

/-! ## 3. Keys and clicks -/

/-- What a key led to: whether the application goes on, and the lines printed. -/
structure KeyOutcome where
  app : App
  goesOn : Bool := true
  printed : List String := []

/-- Handles a key: escape and `q` end the application, `v` switches the voice. -/
def handleKey (app : App) (key : Int) : KeyOutcome :=
  if key = 27 ∨ key = 'q'.toNat then { app := app, goesOn := false }
  else if key = 'v'.toNat then
    let settings := app.settings.toggleVoice
    { app :=
        { app with settings := settings, announcer := app.announcer.speakVoiceOn settings }
      printed := ["🔊 Voice: " ++ if settings.voiceEnabled then "ON" else "OFF"] }
  else
    match Keypad.commandForKey key with
    | some command => { app := app.handleCommand command }
    | none => { app := app }

/-- The mouse event of the left button going down. -/
def leftButtonDown : Int := 1

/-- The number of pictures for which a click lights its button up. -/
def pressDuration : Int := 6

/-- Presses a button. -/
def pressButton (app : App) (button : Button) : App :=
  handleCommand
    { app with panel := app.panel.press button.area pressDuration, dirty := true } button.command

/-- Handles a mouse event: the left button presses what is under it. -/
def handleMouse (app : App) (event x y : Int) : App :=
  if event = leftButtonDown then
    match app.panel.button? x y with
    | some button => app.pressButton button
    | none => app
  else app

/-! ## 4. Window and picture -/

/-- Follows the size of the window, as far as there is one. A size that the panel cannot be fitted
    to asks for no new picture. -/
def syncWindow (app : App) (width height : Int) : App × Option ArithmeticFault :=
  if width ≤ 0 ∨ height ≤ 0 then (app, none)
  else
    let (width, height) := app.settings.windowSize (some width) (some height)
    if (width, height) = (app.panel.width, app.panel.height) then (app, none)
    else
      match app.panel.resize app.settings width height with
      | (panel, none) => ({ app with panel := panel, dirty := true }, none)
      | (panel, some fault) => ({ app with panel := panel }, some fault)

/-- Whether the last picture cannot be shown again. -/
def needsPicture (app : App) : Bool := app.dirty || app.picture.isNone || 0 < app.panel.timer

/-- The picture to show, whether it is new, and the application after it. -/
def draw (app : App) : Except PictureFault (Picture × Bool × App) :=
  match app.picture, app.needsPicture with
  | some picture, false => .ok (picture, false, app)
  | _, _ => do
    let (strokes, panel) ← app.panel.render app.settings app.state
    let picture : Picture := ⟨app.panel.width, app.panel.height, strokes⟩
    return (picture, true, { app with panel := panel, picture := some picture, dirty := false })

/-- Lets the announcer speak. -/
def speech (app : App) : App × Utterance :=
  let (announcer, utterance) := app.announcer.drain
  ({ app with announcer := announcer }, utterance)

end App

end DeskCalc
