import DeskCalc.App

/-!
# A session at the window

A session is the main loop: each pass follows the window's size, shows a picture, takes the mouse
events and the key that came, and looks whether the window is still there. What the window delivers
is a list of passes; when they run out, escape is pressed. This file fixes

* `Pass`: what the window delivers during one pass;
* `WindowEvent`: what the session asks of the window, in order;
* `Session.run`: the loop with its greeting and its farewell, and `Session.runMain`: the program,
  which reports what ended it early.
-/

namespace DeskCalc

/-- What can end a session early. -/
inductive SessionFault where
  | arithmetic (fault : ArithmeticFault)
  | picture (fault : PictureFault)
  /-- The user interrupts. -/
  | interrupted
  /-- The window is gone. -/
  | windowLost
  deriving DecidableEq, Repr

def SessionFault.message : SessionFault → String
  | arithmetic fault => fault.message
  | picture fault => fault.message
  | interrupted => "window lost"
  | windowLost => "window lost"

/-- A mouse event at a pixel. -/
structure MouseEvent where
  event : Int
  x : Int
  y : Int
  deriving DecidableEq, Repr

/-- What the window delivers during one pass of the loop. -/
structure Pass where
  /-- The size of the window; not positive if unknown. -/
  width : Int := 0
  height : Int := 0
  mouse : List MouseEvent := []
  /-- What goes wrong while waiting for a key. -/
  fault : Option SessionFault := none
  /-- The key pressed; `-1` for none. -/
  key : Int := -1
  /-- Whether the window is visible after the key. -/
  visible : Bool := true

/-- The pass in which escape is pressed. -/
def Pass.escape : Pass := { key := 27 }

/-- What a session asks of the window. -/
inductive WindowEvent where
  | opened (title : String)
  | sized (title : String) (width height : Int)
  | listening (title : String)
  /-- A picture is shown; the display's text and the highlight are those after it was drawn. -/
  | shown (isNew : Bool) (width height : Int) (display : String) (pressed : Option String)
      (timer : Int)
  | closed

/-- A running session with all that it has done so far. -/
structure Session where
  app : App
  running : Bool := true
  events : List WindowEvent := []
  printed : List String := []
  spoken : List String := []

namespace Session

/-- Notes what a stretch of speech left behind. -/
def hear (s : Session) (u : Utterance) : Session :=
  { s with printed := s.printed ++ u.printed, spoken := s.spoken ++ u.spoken }

/-- Lets the announcer speak. -/
def speech (s : Session) : Session :=
  let (app, utterance) := s.app.speech
  hear { s with app := app } utterance

/-! ## 1. Greeting -/

/-- A line across. -/
def rule : String := String.ofList (List.replicate 50 '=')

/-- What is printed when the window opens. -/
def greeting (settings : Settings) : List String :=
  ["", rule, String.ofList (Text.upper settings.windowTitle.toList), rule, "",
   "Click the buttons or type: 0-9 . ( ) + - * /",
   "Enter or '=': evaluate | Backspace: delete | c: clear",
   "v: toggle voice | ESC or 'q': quit"]
    ++ (if settings.voiceEnabled then ["", "🔊 Voice feedback: ON"] else [])
    ++ [rule, ""]

/-- Opens the window. -/
def openWindow (s : Session) : Session :=
  let title := s.app.settings.windowTitle
  { s with
    events := s.events ++
      [.opened title, .sized title s.app.panel.width s.app.panel.height, .listening title]
    printed := s.printed ++ greeting s.app.settings }

/-- Closes the window. -/
def closeWindow (s : Session) : Session :=
  { s with events := s.events ++ [.closed], printed := s.printed ++ ["", "OK Calculator closed"] }

/-! ## 2. One pass -/

/-- Shows a picture; whatever is queued is said just before. -/
def showPicture (s : Session) : Except PictureFault Session := do
  let (picture, isNew, app) ← s.app.draw
  let s := speech { s with app := app }
  return { s with
    events := s.events ++
      [.shown isNew picture.width picture.height s.app.state.display s.app.panel.pressed
        s.app.panel.timer] }

/-- Takes the mouse events. -/
def takeMouse (s : Session) (events : List MouseEvent) : Session :=
  { s with app := events.foldl (fun app e => app.handleMouse e.event e.x e.y) s.app }

/-- Takes a key, of which the lowest byte counts; `-1` is no key. -/
def takeKey (s : Session) (key : Int) : Session :=
  if key = -1 then s
  else
    let outcome := s.app.handleKey (key % 256)
    { s with
      app := outcome.app
      running := outcome.goesOn
      printed := s.printed ++ outcome.printed }

/-- One pass, with what ended it early. -/
def pass (s : Session) (p : Pass) : Session × Option SessionFault :=
  match s.app.syncWindow p.width p.height with
  | (app, some fault) => ({ s with app := app }, some (.arithmetic fault))
  | (app, none) =>
    match showPicture { s with app := app } with
    | .error fault => ({ s with app := app }, some (.picture fault))
    | .ok s =>
      let s := s.takeMouse p.mouse
      match p.fault with
      | some fault => (s, some fault)
      | none =>
        let s := s.takeKey p.key
        ({ s with running := s.running && p.visible }, none)

/-! ## 3. The loop -/

/-- Passes until one asks to stop or goes wrong. -/
def loop (s : Session) : List Pass → Session × Option SessionFault
  | [] => s.pass .escape
  | p :: rest =>
    match s.pass p with
    | (s, none) => if s.running then loop s rest else (s, none)
    | (s, some fault) => (s, some fault)

/-- One pass for each key typed, as far as the session goes on. -/
def typeKeys (s : Session) : List Char → Session × Option SessionFault
  | [] => (s, none)
  | c :: rest =>
    match s.pass { key := c.toNat } with
    | (s, none) => if s.running then typeKeys s rest else (s, none)
    | (s, some fault) => (s, some fault)

/-- A whole session of an application; the window stays open if it goes wrong. -/
def run (s : Session) (passes : List Pass) : Session × Option SessionFault :=
  match s.openWindow.loop passes with
  | (s, none) => (s.closeWindow, none)
  | (s, some fault) => (s, some fault)

/-- A new session, not yet running. -/
def start (settings : Settings) (state : State) (startup : Startup) :
    Except ArithmeticFault Session := do
  let (app, printed) ← App.start settings state startup
  return { app, printed }

/-- The line that reports what ended the program early. -/
def report : SessionFault → List String
  | .interrupted => ["", "Interrupted by user"]
  | fault => ["", "Error: " ++ fault.message]

/-- The program: a session with the settings as they are, and a report if it goes wrong. -/
def runMain (s : Session) (passes : List Pass) : Session :=
  match s.run passes with
  | (s, none) => s
  | (s, some fault) => { s with printed := s.printed ++ report fault }

end Session

end DeskCalc
