import DeskCalc.App
import DeskCalc.Proofs.Picture.Fitted
import Mathlib.Data.List.Induction

/-!
# What happens to the application

An application is sent keys, clicks and requests, follows its window and is asked for pictures, in
any order; some of these calls fail. This file fixes

* `App.Call`, `App.take`, `App.run`: the calls, and the application after one or many of them;
* `Effect`: what a call may do to the panel and to the picture, and **`effect`**: it does no more;
* `Steady`: what holds of the panel at all times.
-/

namespace DeskCalc.App

/-! ## 1. Calls -/

inductive Call where
  | key (key : Int)
  | mouse (event x y : Int)
  | request (request : Request)
  | window (width height : Int)
  | draw

/-- The application after a call, whether it failed or not. -/
def take (app : App) : Call → App
  | .key key => (app.handleKey key).app
  | .mouse event x y => app.handleMouse event x y
  | .request request => (app.handle request).1
  | .window width height => (app.syncWindow width height).1
  | .draw =>
    match app.draw with
    | .ok (_, _, after) => after
    | .error _ => app

def run (app : App) (calls : List Call) : App := calls.foldl take app

theorem run_append (app : App) (calls : List Call) (call : Call) :
    app.run (calls ++ [call]) = (app.run calls).take call :=
  List.foldl_append

/-- A picture is drawn anew, or the last one is shown again. -/
theorem draw_cases {app after : App} {picture : Picture} {isNew : Bool}
    (h : app.draw = .ok (picture, isNew, after)) :
    (isNew = true ∧ ∃ strokes,
      app.panel.render app.settings app.state = .ok (strokes, app.panel.tick) ∧
      picture = ⟨app.panel.width, app.panel.height, strokes⟩ ∧
      after = { app with panel := app.panel.tick, picture := some picture, dirty := false }) ∨
    (isNew = false ∧ app.picture = some picture ∧ app.dirty = false ∧ app.panel.timer ≤ 0 ∧
      after = app) := by
  unfold draw at h
  split at h
  · rename_i last hpicture hneeds
    cases h
    simp only [needsPicture, Bool.or_eq_false_iff, decide_eq_false_iff_not,
      Int.not_lt] at hneeds
    exact .inr ⟨rfl, hpicture, hneeds.1.1, hneeds.2, rfl⟩
  · simp only [do_eq_ok] at h
    obtain ⟨⟨strokes, panel⟩, hrender, hpicture⟩ := h
    cases hpicture
    obtain ⟨-, -, -, -, -, -, rfl⟩ := Panel.render_eq_ok.1 hrender
    exact .inl ⟨rfl, strokes, hrender, rfl, rfl⟩

/-! ## 2. What a call does -/

/-- Nothing has changed that a picture shows. -/
structure Untouched (app after : App) : Prop where
  look : after.settings.look = app.settings.look
  state : after.state = app.state
  panel : after.panel = app.panel
  picture : after.picture = app.picture
  dirty : after.dirty = app.dirty

theorem Untouched.of_eq {app after : App} (h : after = app) : Untouched app after := by
  subst h
  exact ⟨rfl, rfl, rfl, rfl, rfl⟩

/-- What a call may do to the panel and to the picture. -/
inductive Effect (app : App) (call : Call) : Prop where
  | untouched (same : Untouched app (app.take call))
  /-- The state has changed. -/
  | restated (dirty : (app.take call).dirty = true) (panel : (app.take call).panel = app.panel)
  | pressed (dirty : (app.take call).dirty = true) (b : Button) (isButton : b ∈ Keypad.buttons)
      (panel : (app.take call).panel = app.panel.press b.area pressDuration)
  | fitted (dirty : (app.take call).dirty = true) (width height : Int)
      (panel : app.panel.resize app.settings width height = ((app.take call).panel, none))
  /-- The window has taken a size that the panel cannot be fitted to. -/
  | unfitted (width height : Int) (fault : ArithmeticFault)
      (panel : app.panel.resize app.settings width height = ((app.take call).panel, some fault))
      (same : app.take call = { app with panel := (app.take call).panel })
      (failed : ∃ width height, call = .window width height ∧
        (app.syncWindow width height).2 = some fault)
  | drawn (picture : Picture) (isDraw : call = .draw)
      (new : app.draw = .ok (picture, true, app.take call))

theorem handle_cases (app : App) (request : Request) :
    Untouched app (app.handle request).1 ∨
      (app.handle request).1.dirty = true ∧ (app.handle request).1.panel = app.panel := by
  unfold handle
  split
  · split
    · exact .inl ⟨rfl, rfl, rfl, rfl, rfl⟩
    · exact .inr ⟨rfl, rfl⟩
  · exact .inl ⟨rfl, rfl, rfl, rfl, rfl⟩

theorem handleKey_cases (app : App) (key : Int) :
    Untouched app (app.handleKey key).app ∨
      ∃ command, (app.handleKey key).app = (app.handle (.command command)).1 := by
  unfold handleKey
  split
  · exact .inl ⟨rfl, rfl, rfl, rfl, rfl⟩
  · split
    · exact .inl ⟨rfl, rfl, rfl, rfl, rfl⟩
    · split
      · rename_i command hcommand
        exact .inr ⟨command, rfl⟩
      · exact .inl ⟨rfl, rfl, rfl, rfl, rfl⟩

theorem handleMouse_cases (app : App) (event x y : Int) :
    app.handleMouse event x y = app ∨
      ∃ b ∈ Keypad.buttons, app.handleMouse event x y = app.pressButton b := by
  unfold handleMouse
  split
  · split
    · rename_i b hb
      obtain ⟨area, -, hbutton⟩ := Option.bind_eq_some_iff.1 hb
      exact .inr ⟨b, List.mem_of_find?_eq_some hbutton, rfl⟩
    · exact .inl rfl
  · exact .inl rfl

theorem dirty_pressButton (app : App) (b : Button) : (app.pressButton b).dirty = true := by
  unfold pressButton handleCommand
  rcases handle_cases _ (.command b.command) with hsame | ⟨hdirty, -⟩
  · exact hsame.dirty
  · exact hdirty

theorem panel_pressButton (app : App) (b : Button) :
    (app.pressButton b).panel = app.panel.press b.area pressDuration := by
  unfold pressButton handleCommand
  rcases handle_cases _ (.command b.command) with hsame | ⟨-, hpanel⟩
  · exact hsame.panel
  · exact hpanel

theorem syncWindow_cases (app : App) (width height : Int) :
    app.syncWindow width height = (app, none) ∨
    (∃ w h panel, app.panel.resize app.settings w h = (panel, none) ∧
      app.syncWindow width height = ({ app with panel, dirty := true }, none)) ∨
    ∃ w h panel fault, app.panel.resize app.settings w h = (panel, some fault) ∧
      app.syncWindow width height = ({ app with panel }, some fault) := by
  unfold syncWindow
  split
  · exact .inl rfl
  · obtain ⟨w, h⟩ := app.settings.windowSize (some width) (some height)
    dsimp only
    split
    · exact .inl rfl
    · split
      · rename_i panel hpanel
        exact .inr (.inl ⟨w, h, panel, hpanel, rfl⟩)
      · rename_i panel fault hpanel
        exact .inr (.inr ⟨w, h, panel, fault, hpanel, rfl⟩)

/-- **A call does to the panel and the picture what it may do.** -/
theorem effect (app : App) (call : Call) : Effect app call := by
  cases call with
  | key key =>
    rcases app.handleKey_cases key with hsame | ⟨command, hcommand⟩
    · exact .untouched hsame
    · have htake : app.take (.key key) = (app.handle (.command command)).1 := hcommand
      rcases app.handle_cases (.command command) with hsame | ⟨hdirty, hpanel⟩
      · exact .untouched (htake ▸ hsame)
      · exact .restated (htake ▸ hdirty) (htake ▸ hpanel)
  | mouse event x y =>
    rcases app.handleMouse_cases event x y with hsame | ⟨b, hb, hpress⟩
    · exact .untouched (.of_eq hsame)
    · have htake : app.take (.mouse event x y) = app.pressButton b := hpress
      exact .pressed (htake ▸ dirty_pressButton app b) b hb (htake ▸ panel_pressButton app b)
  | request request =>
    rcases app.handle_cases request with hsame | ⟨hdirty, hpanel⟩
    · exact .untouched hsame
    · exact .restated hdirty hpanel
  | window width height =>
    have htake : app.take (.window width height) = (app.syncWindow width height).1 := rfl
    rcases app.syncWindow_cases width height with
      hsame | ⟨w, h, panel, hpanel, hsync⟩ | ⟨w, h, panel, fault, hpanel, hsync⟩
    · rw [hsame] at htake
      exact .untouched (.of_eq htake)
    · rw [hsync] at htake
      exact .fitted (by rw [htake]) w h (by rw [htake, hpanel])
    · have hfailed : (app.syncWindow width height).2 = some fault := by rw [hsync]
      rw [hsync] at htake
      exact .unfitted w h fault (by rw [htake, hpanel]) (by rw [htake])
        ⟨width, height, rfl, hfailed⟩
  | draw =>
    cases hdraw : app.draw with
    | error fault => exact .untouched (.of_eq (by simp only [take, hdraw]))
    | ok drawn =>
      obtain ⟨picture, isNew, after⟩ := drawn
      have htake : app.take .draw = after := by simp only [take, hdraw]
      rcases draw_cases hdraw with ⟨rfl, -⟩ | ⟨-, -, -, -, hsame⟩
      · exact .drawn picture rfl (htake ▸ hdraw)
      · exact .untouched (.of_eq (htake.trans hsame))

/-! ## 3. What holds at all times -/

theorem settings_handle (app : App) (request : Request) :
    (app.handle request).1.settings = app.settings := by
  unfold handle
  split
  · split <;> rfl
  · rfl

/-- The look of a picture is settled from the start. -/
theorem look_take (app : App) (call : Call) :
    (app.take call).settings.look = app.settings.look := by
  cases call with
  | key key =>
    show (app.handleKey key).app.settings.look = app.settings.look
    rcases app.handleKey_cases key with hsame | ⟨command, hcommand⟩
    · exact hsame.look
    · rw [hcommand, settings_handle]
  | mouse event x y =>
    show (app.handleMouse event x y).settings.look = app.settings.look
    rcases app.handleMouse_cases event x y with hsame | ⟨b, -, hpress⟩
    · rw [hsame]
    · rw [hpress, pressButton, handleCommand, settings_handle]
  | request request =>
    show (app.handle request).1.settings.look = app.settings.look
    rw [settings_handle]
  | window width height =>
    show (app.syncWindow width height).1.settings.look = app.settings.look
    rcases app.syncWindow_cases width height with
      hsame | ⟨w, h, panel, -, hsync⟩ | ⟨w, h, panel, fault, -, hsync⟩
    · rw [hsame]
    · rw [hsync]
    · rw [hsync]
  | draw =>
    cases hdraw : app.draw with
    | error fault => simp only [take, hdraw]
    | ok drawn =>
      obtain ⟨picture, isNew, after⟩ := drawn
      simp only [take, hdraw]
      rcases draw_cases hdraw with ⟨-, strokes, -, -, rfl⟩ | ⟨-, -, -, -, rfl⟩ <;> rfl

/-- The panel is as its size and its last click ask for. -/
structure Steady (app : App) : Prop where
  fitted : app.panel.Fitted app.settings.look
  timed : app.panel.Timed

theorem Steady.take {app : App} (h : Steady app) (call : Call) : Steady (app.take call) := by
  have hsteady (hfitted : (app.take call).panel.Fitted app.settings.look)
      (htimed : (app.take call).panel.Timed) : Steady (app.take call) :=
    ⟨look_take app call ▸ hfitted, htimed⟩
  have hresize (width height : Int) :
      (app.panel.resize app.settings width height).1.Fitted app.settings.look ∧
        (app.panel.resize app.settings width height).1.Timed := by
    rw [← Panel.resize_look]
    exact ⟨h.fitted.resize width height, h.timed.resize _ width height⟩
  cases effect app call with
  | untouched same => exact hsteady (same.panel ▸ h.fitted) (same.panel ▸ h.timed)
  | restated dirty panel => exact hsteady (panel ▸ h.fitted) (panel ▸ h.timed)
  | pressed dirty b isButton panel =>
    have htimed : (app.panel.press b.area pressDuration).Timed :=
      Panel.timed_press app.panel isButton (by decide)
    exact hsteady (panel ▸ h.fitted.press b.area pressDuration) (panel ▸ htimed)
  | fitted dirty width height panel =>
    have hpanel := hresize width height
    rw [panel] at hpanel
    exact hsteady hpanel.1 hpanel.2
  | unfitted width height fault panel same failed =>
    have hpanel := hresize width height
    rw [panel] at hpanel
    exact hsteady hpanel.1 hpanel.2
  | drawn picture isDraw new =>
    rcases draw_cases new with ⟨-, strokes, -, -, hafter⟩ | ⟨hkept, -⟩
    · rw [hafter]
      exact ⟨h.fitted.tick, h.timed.tick⟩
    · cases hkept

theorem look_announcer_start (settings : Settings) (startup : Startup) :
    (Announcer.start settings startup).2.1.look = settings.look := by
  unfold Announcer.start
  split
  · rfl
  · rfl
  · split <;> rfl

/-- What a new application is like. -/
structure Started (settings : Settings) (state : State) (first : App) : Prop where
  state : first.state = state
  look : first.settings.look = settings.look
  dirty : first.dirty = true
  panel : Panel.create first.settings (first.settings.windowSize none none).1
    (first.settings.windowSize none none).2 = .ok first.panel

theorem started {settings : Settings} {state : State} {startup : Startup} {first : App}
    {printed : List String} (h : start settings state startup = .ok (first, printed)) :
    Started settings state first := by
  unfold start at h
  have hlook := look_announcer_start settings startup
  obtain ⟨announcer, heard, lines⟩ := Announcer.start settings startup
  simp only [do_eq_ok] at h
  obtain ⟨panel, hpanel, hfirst⟩ := h
  cases hfirst
  exact ⟨rfl, hlook, rfl, hpanel⟩

theorem Started.steady {settings : Settings} {state : State} {first : App}
    (h : Started settings state first) : Steady first := by
  have hpanel := h.panel
  rw [← Panel.create_look] at hpanel
  exact ⟨Panel.fitted_create hpanel, Panel.timed_create hpanel⟩

theorem Steady.run {first : App} (h : Steady first) (calls : List Call) :
    Steady (first.run calls) := by
  induction calls using List.reverseRecOn with
  | nil => exact h
  | append_singleton calls call ih =>
    rw [run_append]
    exact ih.take call

theorem look_run (first : App) (calls : List Call) :
    (first.run calls).settings.look = first.settings.look := by
  induction calls using List.reverseRecOn with
  | nil => rfl
  | append_singleton calls call ih => rw [run_append, look_take, ih]

end DeskCalc.App
