import DeskCalc.Session
import DeskCalc.Proofs.App.Pictures
import DeskCalc.Proofs.App.Voice
import DeskCalc.Proofs.Calculator.Run
import DeskCalc.Proofs.Picture.Drawable

/-!
# One pass of a session

A pass has a window to follow, a picture to show, clicks and a key. What it asks for can be read off
it: the size of the window from then on, the commands in their order, and whether to stop. This file
fixes

* `Pass.size?`, `Pass.commands`, `Pass.stops`: what a pass asks for;
* `Picture.Depicts`: a picture of a state at a size of the window;
* `App.Stands`: the size and the state that an application has come to, with its lemmas for what a
  pass does one after another;
* **`Session.exists_pass`**: a pass whose window can be painted shows a picture of the state before
  it, and leaves the state that its commands lead to; `paintable_of_pass`: no other pass goes well.
-/

namespace DeskCalc

/-! ## 1. What a pass asks for -/

/-- The command of a mouse event: that of the button which the left button presses, if any. -/
def MouseEvent.command? (panel : Panel) (e : MouseEvent) : Option Command :=
  if e.event = App.leftButtonDown then (panel.button? e.x e.y).map (·.command) else none

namespace Pass

/-- The size that the window takes in the pass, if one is known. -/
def size? (settings : Settings) (p : Pass) : Option (Int × Int) :=
  if p.width ≤ 0 ∨ p.height ≤ 0 then none
  else some (settings.windowSize (some p.width) (some p.height))

/-- The size of the window in the pass, one size being that before it. -/
def sizeAfter (settings : Settings) (size : Int × Int) (p : Pass) : Int × Int :=
  (p.size? settings).getD size

/-- There is a canvas for the size that the window takes. -/
def Paintable (settings : Settings) (p : Pass) : Prop :=
  ∀ size ∈ p.size? settings, Canvas.sizeFault? size.1 size.2 = none

instance (settings : Settings) (p : Pass) : Decidable (p.Paintable settings) :=
  inferInstanceAs (Decidable (∀ size ∈ p.size? settings, _))

/-- The commands of the clicks, in a window of some size. -/
def clicks (settings : Settings) (size : Int × Int) (p : Pass) : List Command :=
  (Panel.create settings size.1 size.2).toOption.elim []
    fun panel => p.mouse.filterMap (MouseEvent.command? panel)

/-- The command of the key, of which the lowest byte counts. -/
def keyCommand? (p : Pass) : Option Command :=
  if p.key = -1 then none else Keypad.commandForKey (p.key % 256)

/-- The commands of the clicks and then of the key, in a window of some size. -/
def commands (settings : Settings) (size : Int × Int) (p : Pass) : List Command :=
  p.clicks settings size ++ p.keyCommand?.toList

/-- The key asks to stop: escape or `q`. -/
def quits (p : Pass) : Bool := p.key != -1 && (p.key % 256 == 27 || p.key % 256 == 'q'.toNat)

/-- The pass asks to stop: its key does, or the window is gone. -/
def stops (p : Pass) : Bool := p.quits || !p.visible

end Pass

/-! ## 2. What a picture shows -/

/-- The picture has the size, and all the texts that a new panel of this size draws of the state.
    The first of them are the lines that its box gives to the display's text. -/
structure Picture.Depicts (settings : Settings) (size : Int × Int) (state : State)
    (picture : Picture) : Prop where
  sized : (picture.width, picture.height) = size
  shown : ∃ fresh strokes fitted, Panel.create settings size.1 size.2 = .ok fresh ∧
    fresh.render settings state = .ok (strokes, fresh.tick) ∧
    texts picture.strokes = texts strokes ∧
    (Panel.displayBox settings (fresh.layout.rect "display")).fit state.display.toList =
      .ok fitted ∧
    fitted.lines.map String.ofList <+: (texts picture.strokes).filterMap Stroke.content?

/-- The lines of the display are those that its box gives to its text. -/
theorem Panel.exists_lines_of_drawDisplay {settings : Settings} {p : Panel} {s : State}
    {display : List Stroke} (h : p.drawDisplay settings s = .ok display) :
    ∃ fitted, (displayBox settings (p.layout.rect "display")).fit s.display.toList = .ok fitted ∧
      (texts display).filterMap Stroke.content? = fitted.lines.map String.ofList := by
  have htexts : texts display = display := List.filter_eq_self.2 (texts_drawDisplay h)
  unfold drawDisplay at h
  simp only [do_eq_ok] at h
  obtain ⟨fitted, hfitted, style, -, hdisplay⟩ := h
  cases hdisplay
  refine ⟨fitted, hfitted, ?_⟩
  have hlines : fitted.lines.zipIdx.map (fun line => String.ofList line.1) =
      (fitted.lines.zipIdx.map Prod.fst).map String.ofList := by
    simp only [List.map_map, Function.comp_def]
  rw [List.zipIdx_map_fst] at hlines
  rw [htexts, List.filterMap_map]
  simpa only [Function.comp_def, Stroke.content?, List.filterMap_eq_map'] using hlines

/-- A picture that is current depicts the state. -/
theorem App.Current.depicts {settings : Settings} {app : App} {fresh : Panel} {picture : Picture}
    (h : app.Current fresh picture) (look : app.settings.look = settings.look)
    (hfresh : Panel.create settings app.panel.width app.panel.height = .ok fresh) :
    picture.Depicts settings (app.panel.width, app.panel.height) app.state := by
  obtain ⟨strokes, spent, hrender, htexts⟩ := h.texts
  rw [Panel.render_eq_of_look look] at hrender
  obtain ⟨-, display, history, hdisplay, -, hstrokes, rfl⟩ := Panel.render_eq_ok.1 hrender
  obtain ⟨fitted, hfitted, hlines⟩ := Panel.exists_lines_of_drawDisplay hdisplay
  refine ⟨Prod.ext h.width h.height, fresh, strokes, fitted, hfresh, hrender, htexts, hfitted, ?_⟩
  rw [htexts, ← hstrokes, texts_append, texts_append, List.filterMap_append,
    List.filterMap_append, hlines, List.append_assoc]
  exact List.prefix_append _ _

/-! ## 3. What single steps do -/

theorem Pass.Paintable.sizeAfter {settings : Settings} {p : Pass} (h : p.Paintable settings)
    {size : Int × Int} (hcanvas : Canvas.sizeFault? size.1 size.2 = none) :
    Canvas.sizeFault? (p.sizeAfter settings size).1 (p.sizeAfter settings size).2 = none := by
  unfold Pass.sizeAfter
  cases hsize : p.size? settings with
  | none => exact hcanvas
  | some known => exact h known hsize

/-- A new panel can be made of every moderate size. -/
theorem Panel.exists_create {settings : Settings} (moderate : settings.Moderate)
    {width height : Int} (hwidth : Moderate width) (hheight : Moderate height) :
    ∃ fresh, create settings width height = .ok fresh := by
  obtain ⟨fresh, hfresh⟩ :=
    exists_resize_of_moderate (gridded_new width height) moderate hwidth hheight
  exact ⟨fresh, create_eq_ok.2 hfresh⟩

theorem Panel.size_eq_of_unlit {p p' : Panel} (h : p.unlit = p'.unlit) :
    (p.width, p.height) = (p'.width, p'.height) :=
  Prod.ext (congrArg Panel.width h :) (congrArg Panel.height h :)

namespace App

theorem state_handle (app : App) (command : Command) :
    (app.handle (.command command)).1.state = app.state.apply command := by
  unfold handle
  simp only [State.obey]
  split
  · rename_i hsame
    exact hsame.symm
  · rfl

theorem state_handleMouse (app : App) (e : MouseEvent) :
    (app.handleMouse e.event e.x e.y).state = app.state.run (e.command? app.panel).toList := by
  unfold handleMouse MouseEvent.command?
  split
  · cases hbutton : app.panel.button? e.x e.y with
    | none => rfl
    | some button => exact state_handle _ _
  · rfl

theorem unlit_handleMouse (app : App) (event x y : Int) :
    (app.handleMouse event x y).panel.unlit = app.panel.unlit := by
  rcases app.handleMouse_cases event x y with hsame | ⟨b, -, hpress⟩
  · rw [hsame]
  · rw [hpress, panel_pressButton, Panel.unlit_press]

theorem panel_handleKey (app : App) (key : Int) : (app.handleKey key).app.panel = app.panel := by
  rcases app.handleKey_cases key with hsame | ⟨command, hcommand⟩
  · exact hsame.panel
  · rw [hcommand]
    rcases app.handle_cases (.command command) with hsame | ⟨-, hpanel⟩
    · exact hsame.panel
    · exact hpanel

theorem state_handleKey (app : App) (key : Int) :
    (app.handleKey key).app.state = app.state.run (Keypad.commandForKey key).toList := by
  have hquit : Keypad.commandForKey 27 = none ∧ Keypad.commandForKey 'q'.toNat = none ∧
      Keypad.commandForKey 'v'.toNat = none := by decide
  unfold handleKey
  split
  · rename_i hkey
    rcases hkey with rfl | rfl
    · rw [hquit.1]
      rfl
    · rw [hquit.2.1]
      rfl
  · split
    · rename_i hkey
      rw [hkey, hquit.2.2]
      rfl
    · cases Keypad.commandForKey key with
      | some command => exact app.state_handle command
      | none => rfl

theorem goesOn_handleKey (app : App) (key : Int) :
    (app.handleKey key).goesOn = !(key == 27 || key == 'q'.toNat) := by
  unfold handleKey
  by_cases hquit : key = 27 ∨ key = 'q'.toNat
  · have hasked : (key == 27 || key == 'q'.toNat) = true := by simpa using hquit
    rw [if_pos hquit, hasked]
    rfl
  · have hasked : (key == 27 || key == 'q'.toNat) = false := by simpa using hquit
    rw [if_neg hquit, hasked]
    split
    · rfl
    · split <;> rfl

/-- Following the window without a fault brings its size. -/
theorem size_syncWindow {app after : App} {width height : Int}
    (h : app.syncWindow width height = (after, none)) :
    after.state = app.state ∧ (after.panel.width, after.panel.height) =
      if width ≤ 0 ∨ height ≤ 0 then (app.panel.width, app.panel.height)
      else app.settings.windowSize (some width) (some height) := by
  unfold syncWindow at h
  split at h
  · cases h
    exact ⟨rfl, by rw [if_pos ‹_›]⟩
  · rename_i hknown
    rw [if_neg hknown]
    dsimp only at h
    split at h
    · rename_i hsame
      cases h
      exact ⟨rfl, hsame.symm⟩
    · have hfit := Panel.fit_resize app.settings app.panel
        (app.settings.windowSize (some width) (some height)).1
        (app.settings.windowSize (some width) (some height)).2
      split at h
      · rename_i panel hpanel
        cases h
        rw [hpanel] at hfit
        cases hfit with
        | fitted layout hlayout => exact ⟨rfl, Settings.windowSize_windowSize _ _ _⟩
      · cases h

theorem exists_draw {app : App} {strokes : List Stroke} {spent : Panel}
    (h : app.panel.render app.settings app.state = .ok (strokes, spent)) :
    ∃ picture isNew after, app.draw = .ok (picture, isNew, after) := by
  unfold draw
  split
  · exact ⟨_, _, _, rfl⟩
  · rw [h]
    exact ⟨_, _, _, rfl⟩

/-- A picture leaves all but the highlight. -/
theorem unlit_draw {app after : App} {picture : Picture} {isNew : Bool}
    (h : app.draw = .ok (picture, isNew, after)) :
    after.state = app.state ∧ after.panel.unlit = app.panel.unlit := by
  rcases draw_cases h with ⟨-, strokes, -, -, rfl⟩ | ⟨-, -, -, -, rfl⟩
  · exact ⟨rfl, Panel.unlit_tick app.panel⟩
  · exact ⟨rfl, rfl⟩

/-! ## 4. The size and the state that an application has come to -/

/-- Calls have led to the application from the first one, as far as one can see. -/
def Reached (first app : App) : Prop := ∃ calls, app.muted = (first.run calls).muted

theorem Reached.take {first app : App} (h : Reached first app) (call : Call) :
    Reached first (app.take call) := by
  obtain ⟨calls, hmuted⟩ := h
  refine ⟨calls ++ [call], ?_⟩
  rw [run_append, ← take_muted, hmuted, take_muted]

section Run

variable {settings : Settings} {state₀ state : State} {first app : App} {size : Int × Int}

theorem Reached.look (start : Started settings state₀ first) (h : Reached first app) :
    app.settings.look = settings.look := by
  obtain ⟨calls, hmuted⟩ := h
  have hlook : app.muted.settings = (first.run calls).muted.settings := congrArg _ hmuted
  exact hlook.trans ((look_run first calls).trans start.look)

theorem steady_muted : Steady app.muted ↔ Steady app :=
  ⟨fun h => ⟨h.fitted, h.timed⟩, fun h => ⟨h.fitted, h.timed⟩⟩

theorem Reached.steady (start : Started settings state₀ first) (h : Reached first app) :
    Steady app := by
  obtain ⟨calls, hmuted⟩ := h
  rw [← steady_muted, hmuted, steady_muted]
  exact start.steady.run calls

theorem Reached.unlit (start : Started settings state₀ first) (h : Reached first app)
    {fresh : Panel} (hfresh : Panel.create settings app.panel.width app.panel.height = .ok fresh) :
    fresh = app.panel.unlit := by
  rw [← Panel.create_look, ← h.look start] at hfresh
  exact ((h.steady start).fitted.eq_of_create hfresh).2

/-- A picture that is drawn depicts the state, at the size of the panel. -/
theorem Reached.depicts (start : Started settings state₀ first) (h : Reached first app)
    {fresh : Panel} (hfresh : Panel.create settings app.panel.width app.panel.height = .ok fresh)
    {picture : Picture} {isNew : Bool} {after : App}
    (hdraw : app.draw = .ok (picture, isNew, after)) :
    picture.Depicts settings (app.panel.width, app.panel.height) app.state := by
  obtain ⟨calls, hmuted⟩ := h
  obtain ⟨hstate, -, hpanel, -⟩ := View.mk.inj (view_eq_of_muted hmuted)
  have hlook : (first.run calls).settings.look = settings.look :=
    (look_run first calls).trans start.look
  have hdrawn := (first.run calls).draw_muted
  rw [← hmuted, draw_muted, hdraw] at hdrawn
  obtain ⟨⟨picture, isNew, after⟩, hfirst, hsame⟩ := map_eq_ok.1 hdrawn.symm
  simp only [Prod.mk.injEq] at hsame
  obtain ⟨rfl, rfl, -⟩ := hsame
  rw [hpanel] at hfresh ⊢
  rw [hstate]
  have hcurrent := current_draw start hfirst ((Panel.create_eq_of_look hlook _ _).trans hfresh)
  exact hcurrent.depicts hlook hfresh

/-- The application was reached from the first one, and has come to the state and to the size, of
    which there is a canvas. -/
structure Stands (settings : Settings) (first : App) (size : Int × Int) (state : State)
    (app : App) : Prop where
  reached : Reached first app
  sized : (app.panel.width, app.panel.height) = size
  canvas : Canvas.sizeFault? size.1 size.2 = none
  state : app.state = state

namespace Stands

section Steps

variable (start : Started settings state₀ first) (h : Stands settings first size state app)

include start h

/-- Every size that there is a canvas for is followed. -/
theorem exists_syncWindow (moderate : settings.Moderate) {p : Pass}
    (hpaintable : p.Paintable settings) :
    ∃ after, app.syncWindow p.width p.height = (after, none) ∧
      Stands settings first (p.sizeAfter settings size) state after := by
  have hlook := h.reached.look start
  have hreached := h.reached.take (.window p.width p.height)
  have hmargin : Moderate app.settings.look.padding := by
    rw [hlook]
    exact moderate.padding
  have hfollowed : (app.syncWindow p.width p.height).2 = none := by
    refine syncWindow_eq_none (h.reached.steady start).fitted.grid hmargin ?_
    intro hknown
    rw [Settings.windowSize_eq_of_look hlook]
    exact Canvas.moderate_of_sizeFault? (hpaintable _ (if_neg hknown))
  rcases hafter : app.syncWindow p.width p.height with ⟨after, fault⟩
  rw [hafter] at hfollowed
  obtain rfl : fault = none := hfollowed
  obtain ⟨hstate, hsize⟩ := size_syncWindow hafter
  refine ⟨after, rfl, ?_, ?_, hpaintable.sizeAfter h.canvas, hstate.trans h.state⟩
  · rwa [take, hafter] at hreached
  · rw [hsize, h.sized, Pass.sizeAfter, Pass.size?]
    split
    · rfl
    · exact Settings.windowSize_eq_of_look hlook _ _

/-- A picture can be drawn, and it depicts the state. -/
theorem exists_draw (moderate : settings.Moderate) (drawable : settings.Drawable) :
    ∃ picture isNew after, app.draw = .ok (picture, isNew, after) ∧
      picture.Depicts settings size state ∧ Stands settings first size state after := by
  obtain ⟨hreached, rfl, hcanvas, rfl⟩ := h
  obtain ⟨hwide, hhigh⟩ := Canvas.moderate_of_sizeFault? hcanvas
  obtain ⟨fresh, hfresh⟩ := Panel.exists_create moderate hwide hhigh
  obtain ⟨strokes, hrender⟩ := Panel.exists_render drawable app.state hcanvas
  rw [← Panel.render_eq_of_look (hreached.look start)] at hrender
  obtain ⟨picture, isNew, after, hdraw⟩ := App.exists_draw hrender
  have hafter := hreached.take .draw
  simp only [take, hdraw] at hafter
  obtain ⟨hstate, hunlit⟩ := unlit_draw hdraw
  exact ⟨picture, isNew, after, hdraw, hreached.depicts start hfresh hdraw, hafter,
    Panel.size_eq_of_unlit hunlit, hcanvas, hstate⟩

theorem takeMouse {fresh : Panel} (hfresh : Panel.create settings size.1 size.2 = .ok fresh)
    (events : List MouseEvent) :
    Stands settings first size (state.run (events.filterMap (MouseEvent.command? fresh)))
      (events.foldl (fun app e => app.handleMouse e.event e.x e.y) app) := by
  induction events generalizing app state with
  | nil => exact h
  | cons e rest ih =>
    have hnext : Stands settings first size (state.run (e.command? fresh).toList)
        (app.handleMouse e.event e.x e.y) := by
      obtain ⟨hreached, rfl, hcanvas, rfl⟩ := h
      rw [hreached.unlit start hfresh]
      exact ⟨hreached.take (.mouse e.event e.x e.y),
        Panel.size_eq_of_unlit (app.unlit_handleMouse e.event e.x e.y), hcanvas,
        app.state_handleMouse e⟩
    have hcommands : (e :: rest).filterMap (MouseEvent.command? fresh) =
        (e.command? fresh).toList ++ rest.filterMap (MouseEvent.command? fresh) := by
      cases hcommand : e.command? fresh <;> simp [hcommand]
    rw [hcommands, State.run_append]
    exact ih hnext

end Steps

theorem handleKey (h : Stands settings first size state app) (key : Int) :
    Stands settings first size (state.run (Keypad.commandForKey key).toList)
      (app.handleKey key).app := by
  obtain ⟨hreached, rfl, hcanvas, rfl⟩ := h
  refine ⟨hreached.take (.key key), ?_, hcanvas, app.state_handleKey key⟩
  rw [panel_handleKey]

theorem speech (h : Stands settings first size state app) :
    Stands settings first size state app.speech.1 :=
  ⟨h.reached, h.sized, h.canvas, h.state⟩

end Stands

end Run

end App

/-! ## 5. A pass -/

namespace Session

/-- In the pass the session shows the picture, and asks the window for just that. -/
def Shows (s : Session) (p : Pass) (picture : Picture) (event : WindowEvent) : Prop :=
  ∃ app isNew after, s.app.syncWindow p.width p.height = (app, none) ∧
    app.draw = .ok (picture, isNew, after) ∧
    event = .shown isNew picture.width picture.height after.state.display after.panel.pressed
      after.panel.timer

theorem exists_showPicture {s : Session} {picture : Picture} {isNew : Bool} {after : App}
    (h : s.app.draw = .ok (picture, isNew, after)) :
    ∃ next, s.showPicture = .ok next ∧ next.app = after.speech.1 ∧ next.running = s.running ∧
      next.events = s.events ++
        [.shown isNew picture.width picture.height after.state.display after.panel.pressed
          after.panel.timer] :=
  ⟨_, do_eq_ok.2 ⟨_, h, rfl⟩, rfl, rfl, rfl⟩

theorem running_takeKey {s : Session} (h : s.running = true) (p : Pass) :
    (s.takeKey p.key).running = !p.quits := by
  unfold takeKey Pass.quits
  by_cases hkey : p.key = -1
  · rw [if_pos hkey, hkey, h]
    rfl
  · rw [if_neg hkey]
    simp only [App.goesOn_handleKey, bne_iff_ne.2 hkey, Bool.true_and]

theorem stands_takeKey {settings : Settings} {first : App} {size : Int × Int} {state : State}
    {s : Session} (h : App.Stands settings first size state s.app) (p : Pass) :
    App.Stands settings first size (state.run p.keyCommand?.toList) (s.takeKey p.key).app := by
  unfold takeKey Pass.keyCommand?
  split
  · exact h
  · exact h.handleKey _

/-- What a pass does that goes well, at a size and in a state of the application: it shows a picture
    of the state at the size that it brings, and then takes its commands. -/
structure Passed (settings : Settings) (first : App) (size : Int × Int) (state : State)
    (s : Session) (p : Pass) (after : Session) (picture : Picture) (event : WindowEvent) :
    Prop where
  passes : s.pass p = (after, none)
  shows : s.Shows p picture event
  depicts : picture.Depicts settings (p.sizeAfter settings size) state
  events : after.events = s.events ++ [event]
  running : s.running = true → after.running = !p.stops
  stands : App.Stands settings first (p.sizeAfter settings size)
    (state.run (p.commands settings (p.sizeAfter settings size))) after.app

/-- **A pass goes well** if nothing goes wrong while it waits for a key and its window can be
    painted. -/
theorem exists_pass {settings : Settings} {state₀ state : State} {first : App} {size : Int × Int}
    (start : App.Started settings state₀ first) (moderate : settings.Moderate)
    (drawable : settings.Drawable) {s : Session} (h : App.Stands settings first size state s.app)
    {p : Pass} (hfault : p.fault = none) (hpaintable : p.Paintable settings) :
    ∃ after picture event, Passed settings first size state s p after picture event := by
  obtain ⟨app, hsync, hsized⟩ := h.exists_syncWindow start moderate hpaintable
  obtain ⟨hwide, hhigh⟩ := Canvas.moderate_of_sizeFault? hsized.canvas
  obtain ⟨fresh, hfresh⟩ := Panel.exists_create moderate hwide hhigh
  obtain ⟨picture, isNew, drawn, hdraw, hdepicts, hdrawn⟩ :=
    hsized.exists_draw start moderate drawable
  obtain ⟨shown, hshown, happ, hrunning, hevents⟩ :=
    exists_showPicture (s := { s with app := app }) hdraw
  have hclicked : App.Stands settings first (p.sizeAfter settings size)
      (state.run (p.clicks settings (p.sizeAfter settings size)))
      (shown.takeMouse p.mouse).app := by
    rw [Pass.clicks, hfresh]
    refine App.Stands.takeMouse start ?_ hfresh p.mouse
    rw [happ]
    exact hdrawn.speech
  have hkeyed := stands_takeKey hclicked p
  rw [← State.run_append] at hkeyed
  have hevent : ((shown.takeMouse p.mouse).takeKey p.key).events = shown.events := by
    unfold takeKey
    split <;> rfl
  have hpass : s.pass p = ({ (shown.takeMouse p.mouse).takeKey p.key with
      running := ((shown.takeMouse p.mouse).takeKey p.key).running && p.visible }, none) := by
    simp only [pass, hsync, hshown, hfault]
  refine ⟨_, picture, _, hpass, ⟨app, isNew, drawn, hsync, hdraw, rfl⟩, hdepicts,
    hevent.trans hevents, fun hon => ?_, hkeyed⟩
  have hgoing : (shown.takeMouse p.mouse).running = true := hrunning.trans hon
  rw [running_takeKey hgoing, Pass.stops, Bool.not_or, Bool.not_not]

/-- **Only a window that can be painted lets a pass go well.** -/
theorem paintable_of_pass {settings : Settings} {state₀ state : State} {first : App}
    {size : Int × Int} (start : App.Started settings state₀ first) {s after : Session}
    (h : App.Stands settings first size state s.app) {p : Pass}
    (hpass : s.pass p = (after, none)) : p.Paintable settings := by
  intro known hknown
  unfold pass at hpass
  split at hpass
  · cases hpass
  · rename_i app hsync
    split at hpass
    · cases hpass
    · rename_i shown hshown
      obtain ⟨⟨picture, isNew, drawn⟩, hdraw, -⟩ := do_eq_ok.1 hshown
      have hsized : (app.panel.width, app.panel.height) = known := by
        unfold Pass.size? at hknown
        split at hknown
        · cases hknown
        · rename_i hpositive
          obtain ⟨-, hsize⟩ := App.size_syncWindow hsync
          rw [hsize, if_neg hpositive, Settings.windowSize_eq_of_look (h.reached.look start)]
          exact Option.some.inj hknown
      subst hsized
      rcases App.draw_cases hdraw with ⟨-, strokes, hrender, -⟩ | ⟨-, -, hclean, -⟩
      · obtain ⟨hcanvas, -⟩ := Panel.render_eq_ok.1 hrender
        exact (Option.or_eq_none_iff.1 hcanvas).1
      · -- The picture is kept, so the window has the size that it had before.
        rcases s.app.syncWindow_cases p.width p.height with
          hsame | ⟨wide, high, panel, -, hfitted⟩ | ⟨wide, high, panel, fault, -, hrefused⟩
        · rw [hsame] at hsync
          cases hsync
          exact h.sized ▸ h.canvas
        · rw [hfitted] at hsync
          cases hsync
          cases hclean
        · rw [hrefused] at hsync
          cases hsync

end Session

end DeskCalc
