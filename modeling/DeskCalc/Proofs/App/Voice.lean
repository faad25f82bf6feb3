import DeskCalc.Proofs.App.Calls

/-!
# The voice goes unnoticed

Speech stands in the way of every command: a token is announced before it is handled, a result after
it. Whatever the synthesizer makes of this, nothing else shows it. This file fixes

* `App.Input`, `App.Answer`: what is asked of an application, its speech included, and what comes
  back;
* `App.View`: what there is to see of an application besides its voice;
* `App.muted`: the application without its voice, of which **`answer_muted`** and **`next_muted`**
  say that it answers and goes on as the application does;
* `App.watch`: a run as it is seen, and **`voice_unnoticed`**: the run of another voice is the same.
-/

namespace DeskCalc.App

/-! ## 1. What is seen of a run -/

/-- What is asked of an application: a call, or to let the announcer speak. -/
inductive Input where
  | call (call : Call)
  | speech

/-- What comes back. -/
inductive Answer where
  | done
  | key (goesOn : Bool)
  | request (fault : Option UnknownCommand)
  | window (fault : Option ArithmeticFault)
  /-- A picture and whether it is new, or why there is none. -/
  | picture (outcome : Except PictureFault (Picture × Bool))

def answer (app : App) : Input → Answer
  | .call (.key key) => .key (app.handleKey key).goesOn
  | .call (.mouse _ _ _) => .done
  | .call (.request request) => .request (app.handle request).2
  | .call (.window width height) => .window (app.syncWindow width height).2
  | .call .draw => .picture (app.draw.map fun (picture, isNew, _) => (picture, isNew))
  | .speech => .done

/-- The application after an input, whether it failed or not. -/
def next (app : App) : Input → App
  | .call call => app.take call
  | .speech => app.speech.1

/-- What there is to see of an application besides its voice. -/
structure View where
  state : State
  dirty : Bool
  panel : Panel
  picture : Option Picture

def view (app : App) : View := ⟨app.state, app.dirty, app.panel, app.picture⟩

/-- The answers to some inputs, each with what there is to see behind it. -/
def watch (app : App) : List Input → List (Answer × View)
  | [] => []
  | input :: rest => (app.answer input, (app.next input).view) :: (app.next input).watch rest

/-- The same from the start, which may fail. -/
def watchFromStart (settings : Settings) (state : State) (startup : Startup)
    (inputs : List Input) : Except ArithmeticFault (View × List (Answer × View)) :=
  (start settings state startup).map fun (app, _) => (app.view, app.watch inputs)

/-! ## 2. Without its voice -/

/-- The application without its voice. -/
def muted (app : App) : App := { app with settings := app.settings.look, announcer := {} }

/-- Two applications with the same look differ in the voice alone if their views are the same. -/
theorem muted_eq_of_view {app app' : App} (look : app.settings.look = app'.settings.look)
    (h : app.view = app'.view) : app.muted = app'.muted := by
  obtain ⟨settings, state, panel, announcer, dirty, picture⟩ := app
  cases h
  simp only [muted, look]

theorem view_eq_of_muted {app app' : App} (h : app.muted = app'.muted) : app.view = app'.view := by
  have hview : app.muted.view = app'.muted.view := congrArg view h
  exact hview

section Steps

variable (app : App)

theorem handle_muted (request : Request) :
    (app.muted.handle request).2 = (app.handle request).2 ∧
      (app.muted.handle request).1.muted = (app.handle request).1.muted := by
  unfold handle
  cases hobey : app.state.obey request with
  | error fault => simp only [muted, hobey, Settings.look, and_self]
  | ok state =>
    by_cases hsame : state = app.state
    · simp [muted, hobey, hsame, Settings.look]
    · simp [muted, hobey, hsame, Settings.look]

theorem handleKey_muted (key : Int) :
    (app.muted.handleKey key).goesOn = (app.handleKey key).goesOn ∧
      (app.muted.handleKey key).app.muted = (app.handleKey key).app.muted := by
  unfold handleKey
  split
  · exact ⟨rfl, rfl⟩
  · split
    · exact ⟨rfl, rfl⟩
    · split
      · exact ⟨rfl, (app.handle_muted _).2⟩
      · exact ⟨rfl, rfl⟩

theorem handleMouse_muted (event x y : Int) :
    (app.muted.handleMouse event x y).muted = (app.handleMouse event x y).muted := by
  unfold handleMouse
  split
  · have hbutton : app.muted.panel.button? x y = app.panel.button? x y := rfl
    rw [hbutton]
    split
    · exact (handle_muted { app with panel := app.panel.press _ pressDuration, dirty := true } _).2
    · rfl
  · rfl

theorem syncWindow_muted (width height : Int) :
    (app.muted.syncWindow width height).2 = (app.syncWindow width height).2 ∧
      (app.muted.syncWindow width height).1.muted = (app.syncWindow width height).1.muted := by
  unfold syncWindow
  split
  · exact ⟨rfl, rfl⟩
  · have hresize (w h : Int) :
        app.muted.panel.resize app.muted.settings w h = app.panel.resize app.settings w h :=
      Panel.resize_look app.settings app.panel w h
    have hsize : app.muted.settings.windowSize (some width) (some height) =
        app.settings.windowSize (some width) (some height) := rfl
    rw [hsize]
    obtain ⟨w, h⟩ := app.settings.windowSize (some width) (some height)
    have hpanel : app.muted.panel = app.panel := rfl
    dsimp only
    rw [hresize, hpanel]
    by_cases hsame : (w, h) = (app.panel.width, app.panel.height)
    · rw [if_pos hsame, if_pos hsame]
      exact ⟨rfl, rfl⟩
    · rw [if_neg hsame, if_neg hsame]
      obtain ⟨panel, fault⟩ := app.panel.resize app.settings w h
      cases fault <;> exact ⟨rfl, rfl⟩

/-- A picture is drawn without a voice as it is with one. -/
theorem draw_muted :
    app.muted.draw = app.draw.map fun (picture, isNew, after) => (picture, isNew, after.muted) := by
  have hrender : app.muted.panel.render app.muted.settings app.muted.state =
      app.panel.render app.settings app.state := Panel.render_look app.settings app.panel app.state
  have hneeds : app.muted.needsPicture = app.needsPicture := rfl
  have hpicture : app.muted.picture = app.picture := rfl
  unfold draw
  rw [hrender, hneeds, hpicture]
  split
  · rfl
  · cases app.panel.render app.settings app.state <;> rfl

theorem speech_muted : app.muted.speech.1.muted = app.speech.1.muted := rfl

/-- **Without its voice an application answers as with it.** -/
theorem answer_muted (input : Input) : app.muted.answer input = app.answer input := by
  cases input with
  | speech => rfl
  | call call =>
    cases call with
    | key key => exact congrArg Answer.key (app.handleKey_muted key).1
    | mouse event x y => rfl
    | request request => exact congrArg Answer.request (app.handle_muted request).1
    | window width height => exact congrArg Answer.window (app.syncWindow_muted width height).1
    | draw =>
      simp only [answer, draw_muted]
      cases app.draw <;> rfl

theorem take_muted (call : Call) : (app.muted.take call).muted = (app.take call).muted := by
  cases call with
  | key key => exact (app.handleKey_muted key).2
  | mouse event x y => exact app.handleMouse_muted event x y
  | request request => exact (app.handle_muted request).2
  | window width height => exact (app.syncWindow_muted width height).2
  | draw =>
    simp only [take, draw_muted]
    cases app.draw <;> rfl

/-- **Without its voice an application goes on as with it.** -/
theorem next_muted (input : Input) : (app.muted.next input).muted = (app.next input).muted := by
  cases input with
  | call call => exact app.take_muted call
  | speech => exact app.speech_muted

end Steps

/-! ## 3. Two voices -/

variable {app app' : App}

theorem answer_of_muted (h : app.muted = app'.muted) (input : Input) :
    app.answer input = app'.answer input := by
  rw [← answer_muted, h, answer_muted]

theorem next_of_muted (h : app.muted = app'.muted) (input : Input) :
    (app.next input).muted = (app'.next input).muted := by
  rw [← next_muted, h, next_muted]

/-- A run shows nothing of the voice. -/
theorem watch_of_muted (h : app.muted = app'.muted) (inputs : List Input) :
    app.watch inputs = app'.watch inputs := by
  induction inputs generalizing app app' with
  | nil => rfl
  | cons input rest ih =>
    have hnext := next_of_muted h input
    unfold watch
    rw [answer_of_muted h, view_eq_of_muted hnext, ih hnext]

/-- The start shows nothing of the voice. -/
theorem start_muted {settings settings' : Settings} (h : settings.look = settings'.look)
    (state : State) (startup startup' : Startup) :
    (start settings state startup).map (·.1.muted) =
      (start settings' state startup').map (·.1.muted) := by
  have hlook : (Announcer.start settings startup).2.1.look =
      (Announcer.start settings' startup').2.1.look := by
    rw [look_announcer_start, h, look_announcer_start]
  unfold start
  generalize Announcer.start settings startup = begun at hlook ⊢
  generalize Announcer.start settings' startup' = begun' at hlook ⊢
  obtain ⟨announcer, heard, printed⟩ := begun
  obtain ⟨announcer', heard', printed'⟩ := begun'
  have hsame : heard.look = heard'.look := hlook
  simp only [Settings.windowSize_eq_of_look hsame, Panel.create_eq_of_look hsame]
  cases Panel.create heard' _ _ with
  | error fault => rfl
  | ok panel => exact congrArg Except.ok (muted_eq_of_view hsame rfl)

/-- **The voice goes unnoticed**: two applications whose settings differ in the voice alone, each
    with a synthesizer of its own, show the same in all that they are asked. -/
theorem voice_unnoticed {settings settings' : Settings} (h : settings.look = settings'.look)
    (state : State) (startup startup' : Startup) (inputs : List Input) :
    watchFromStart settings state startup inputs =
      watchFromStart settings' state startup' inputs := by
  have hstart := start_muted h state startup startup'
  unfold watchFromStart
  cases hfirst : start settings state startup with
  | error fault =>
    cases hother : start settings' state startup' with
    | error fault' =>
      rw [hfirst, hother] at hstart
      exact congrArg Except.error (Except.error.inj hstart)
    | ok other =>
      rw [hfirst, hother] at hstart
      cases hstart
  | ok first =>
    cases hother : start settings' state startup' with
    | error fault' =>
      rw [hfirst, hother] at hstart
      cases hstart
    | ok other =>
      rw [hfirst, hother] at hstart
      have hmuted : first.1.muted = other.1.muted := Except.ok.inj hstart
      simp only [Except.map, view_eq_of_muted hmuted, watch_of_muted hmuted inputs]

/-- A Spanish voice that cannot say a seven, and no voice at all. -/
theorem mute_voice_unnoticed :
    let spoken : Settings :=
      { voiceEnabled := true, voiceRate := .real 0.5, voiceLanguage := "es" }
    let synthesizer : Synthesizer := { refuses := [.voice], mute := ["7"] }
    let inputs : List Input :=
      [.call (.key '7'.toNat), .speech, .call (.mouse leftButtonDown 30 580), .call .draw,
       .call (.key 'v'.toNat), .call (.window 1000 700), .call (.request (.unknown "up")), .speech,
       .call .draw]
    spoken.look = ({} : Settings).look ∧
      watchFromStart spoken {} (.found synthesizer) inputs =
        watchFromStart {} {} (.failed "no device") inputs := by
  intro spoken synthesizer inputs
  have hlook : spoken.look = ({} : Settings).look := rfl
  exact ⟨hlook, voice_unnoticed hlook {} (.found synthesizer) (.failed "no device") inputs⟩

end DeskCalc.App
