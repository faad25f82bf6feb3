import DeskCalc.Picture.Panel
import DeskCalc.Proofs.Outcome
import Mathlib.Data.List.Nodup
import Mathlib.Tactic.Simps.Basic

/-!
# What a picture shows

Of the settings a picture shows the look and not the voice; of the panel, the layout and the button
lit up. This file fixes

* `Settings.look`: what a picture shows of the settings;
* `texts`: the texts of a picture, which are the same for all panels that are fitted alike;
* `ShowsPressed`: a button's label on its dark colour, and **`showsPressed_iff`**: a new picture
  shows as pressed just the button that is lit up;
* `Panel.Timed`: a button is lit up as long as the timer runs.
-/

namespace DeskCalc

/-! ## 1. The look -/

/-- The settings without those of the voice. -/
@[simps]
def Settings.look (s : Settings) : Settings where
  windowTitle := s.windowTitle
  windowWidth := s.windowWidth
  windowHeight := s.windowHeight
  minWidth := s.minWidth
  minHeight := s.minHeight
  padding := s.padding
  backgroundColor := s.backgroundColor
  textColor := s.textColor
  errorColor := s.errorColor
  labelColor := s.labelColor
  displayScale := s.displayScale
  displayMinScale := s.displayMinScale
  displayMaxLines := s.displayMaxLines

theorem Settings.windowSize_look (s : Settings) (width height : Option Int) :
    s.look.windowSize width height = s.windowSize width height := rfl

theorem Settings.windowSize_eq_of_look {settings settings' : Settings}
    (h : settings.look = settings'.look) (width height : Option Int) :
    settings.windowSize width height = settings'.windowSize width height := by
  rw [← windowSize_look, h, windowSize_look]

namespace Panel

theorem drawDisplay_look (settings : Settings) (p : Panel) (s : State) :
    p.drawDisplay settings.look s = p.drawDisplay settings s := by
  unfold drawDisplay displayBox
  simp

theorem drawEntries_look (settings : Settings) (r : Rect) (baseline : Int)
    (entries : List String) :
    drawEntries settings.look r baseline entries = drawEntries settings r baseline entries := by
  induction entries generalizing baseline with
  | nil => rfl
  | cons entry rest ih =>
    unfold drawEntries
    simp [ih]

theorem drawHistory_look (settings : Settings) (p : Panel) (s : State) :
    p.drawHistory settings.look s = p.drawHistory settings s := by
  unfold drawHistory
  simp [drawEntries_look]

theorem drawButtons_look (settings : Settings) (p : Panel) :
    p.drawButtons settings.look = p.drawButtons settings := by
  unfold drawButtons drawButton
  simp

theorem render_look (settings : Settings) (p : Panel) (s : State) :
    p.render settings.look s = p.render settings s := by
  unfold render
  simp [drawDisplay_look, drawHistory_look, drawButtons_look]

theorem render_eq_of_look {settings settings' : Settings} (h : settings.look = settings'.look)
    (p : Panel) (s : State) : p.render settings s = p.render settings' s := by
  rw [← render_look, h, render_look]

theorem resize_look (settings : Settings) (p : Panel) (width height : Int) :
    p.resize settings.look width height = p.resize settings width height := by
  unfold resize
  rw [Settings.windowSize_look, Settings.look_padding]

theorem create_look (settings : Settings) (width height : Int) :
    create settings.look width height = create settings width height := by
  unfold create
  rw [resize_look]

theorem create_eq_of_look {settings settings' : Settings} (h : settings.look = settings'.look)
    (width height : Int) : create settings width height = create settings' width height := by
  rw [← create_look, h, create_look]

/-! ## 2. The texts -/

theorem render_eq_ok {settings : Settings} {p p' : Panel} {s : State} {strokes : List Stroke} :
    p.render settings s = .ok (strokes, p') ↔
      Canvas.fault? p.width p.height settings.backgroundColor = none ∧
      ∃ display history, p.drawDisplay settings s = .ok display ∧
        p.drawHistory settings s = .ok history ∧
        display ++ p.drawButtons settings ++ history = strokes ∧ p.tick = p' := by
  unfold render
  cases hfault : Canvas.fault? p.width p.height settings.backgroundColor with
  | some fault => simp
  | none =>
    simp only [do_eq_ok, pure, Except.pure, Except.ok.injEq, Prod.mk.injEq, true_and]
    constructor
    · rintro ⟨display, hdisplay, history, hhistory, hstrokes, htick⟩
      exact ⟨display, history, hdisplay, hhistory, hstrokes, htick⟩
    · rintro ⟨display, history, hdisplay, hhistory, hstrokes, htick⟩
      exact ⟨display, hdisplay, history, hhistory, hstrokes, htick⟩

/-- The panel with no button lit up. -/
def unlit (p : Panel) : Panel := { p with pressed := none, timer := 0 }

@[simp] theorem unlit_tick (p : Panel) : p.tick.unlit = p.unlit := by
  unfold tick
  split <;> rfl

@[simp] theorem unlit_press (p : Panel) (area : String) (duration : Int) :
    (p.press area duration).unlit = p.unlit := rfl

end Panel

/-- The texts among some strokes, with where and how they stand. -/
def texts (strokes : List Stroke) : List Stroke := strokes.filter (·.content?.isSome)

theorem texts_append (strokes more : List Stroke) :
    texts (strokes ++ more) = texts strokes ++ texts more := List.filter_append _ _

namespace Panel

theorem texts_drawButton_unlit (settings : Settings) (p : Panel) (b : Button) :
    texts (p.unlit.drawButton settings b) = texts (p.drawButton settings b) := by
  by_cases hpressed : p.pressed = some b.area
  · cases hstyle : b.style <;>
      simp [drawButton, texts, unlit, hpressed, hstyle, Stroke.content?]
  · simp [drawButton, texts, unlit, hpressed, Stroke.content?]

theorem texts_drawButtons_unlit (settings : Settings) (p : Panel) :
    texts (p.unlit.drawButtons settings) = texts (p.drawButtons settings) := by
  unfold drawButtons
  generalize Keypad.buttons = buttons
  induction buttons with
  | nil => rfl
  | cons b rest ih =>
    simp only [List.flatMap_cons, texts_append, ih, texts_drawButton_unlit]

/-- The button lit up changes no text. -/
theorem exists_render_unlit {settings : Settings} {p p' : Panel} {s : State}
    {strokes : List Stroke} (h : p.render settings s = .ok (strokes, p')) :
    ∃ plain, p.unlit.render settings s = .ok (plain, p.unlit) ∧ texts plain = texts strokes := by
  obtain ⟨hcanvas, display, history, hdisplay, hhistory, rfl, -⟩ := render_eq_ok.1 h
  refine ⟨display ++ p.unlit.drawButtons settings ++ history, ?_, ?_⟩
  · exact render_eq_ok.2 ⟨hcanvas, display, history, hdisplay, hhistory, rfl, rfl⟩
  · simp only [texts_append, texts_drawButtons_unlit]

end Panel

/-! ## 3. The highlight -/

/-- The labels that stand right on a filled box, with the colour of the box. -/
def filled : List Stroke → List (Color × String)
  | [] => []
  | .box _ _ _ _ color thickness :: .text content .. :: rest =>
    if thickness = -1 then (color, content) :: filled rest else filled rest
  | _ :: rest => filled rest

/-- A button is drawn as pressed: its label stands on its dark colour. -/
def ShowsPressed (strokes : List Stroke) (b : Button) : Prop :=
  (Panel.darken b.color, b.label) ∈ filled strokes

instance (strokes : List Stroke) (b : Button) : Decidable (ShowsPressed strokes b) :=
  inferInstanceAs (Decidable (_ ∈ filled strokes))

theorem filled_append_of_texts {strokes : List Stroke}
    (h : ∀ stroke ∈ strokes, stroke.content?.isSome) (rest : List Stroke) :
    filled (strokes ++ rest) = filled rest := by
  induction strokes with
  | nil => rfl
  | cons stroke others ih =>
    obtain ⟨hfirst, hothers⟩ := List.forall_mem_cons.1 h
    cases stroke with
    | text content x y style color => exact ih hothers
    | box | line | blend => cases hfirst

namespace Panel

/-- What a button adds to the filled labels. -/
def fill (p : Panel) (b : Button) : List (Color × String) :=
  if p.pressed = some b.area then [(darken b.color, b.label)]
  else if b.style = .elevated then [(b.color, b.label)]
  else []

theorem filled_drawButton_append (settings : Settings) (p : Panel) (b : Button)
    (rest : List Stroke) :
    filled (p.drawButton settings b ++ rest) = p.fill b ++ filled rest := by
  by_cases hpressed : p.pressed = some b.area
  · simp [drawButton, fill, hpressed, filled]
  · cases hstyle : b.style <;> simp [drawButton, fill, hpressed, hstyle, filled]

theorem filled_drawButtons_append (settings : Settings) (p : Panel) (rest : List Stroke) :
    filled (p.drawButtons settings ++ rest) = Keypad.buttons.flatMap p.fill ++ filled rest := by
  unfold drawButtons
  generalize Keypad.buttons = buttons
  induction buttons with
  | nil => rfl
  | cons b others ih =>
    simp only [List.flatMap_cons, List.append_assoc, filled_drawButton_append, ih]

theorem texts_drawDisplay {settings : Settings} {p : Panel} {s : State} {display : List Stroke}
    (h : p.drawDisplay settings s = .ok display) :
    ∀ stroke ∈ display, stroke.content?.isSome := by
  unfold drawDisplay at h
  simp only [do_eq_ok] at h
  obtain ⟨fitted, -, style, -, hdisplay⟩ := h
  cases hdisplay
  intro stroke hstroke
  obtain ⟨line, -, rfl⟩ := List.mem_map.1 hstroke
  rfl

theorem texts_drawEntries {settings : Settings} {r : Rect} {baseline : Int}
    {entries : List String} {strokes : List Stroke}
    (h : drawEntries settings r baseline entries = .ok strokes) :
    ∀ stroke ∈ strokes, stroke.content?.isSome := by
  induction entries generalizing baseline strokes with
  | nil =>
    cases h
    exact fun stroke hstroke => nomatch hstroke
  | cons entry rest ih =>
    unfold drawEntries at h
    split at h
    · cases h
      exact fun stroke hstroke => nomatch hstroke
    · simp only [do_eq_ok] at h
      obtain ⟨fitted, -, others, hothers, hstrokes⟩ := h
      cases hstrokes
      exact List.forall_mem_cons.2 ⟨rfl, ih hothers⟩

theorem filled_drawHistory {settings : Settings} {p : Panel} {s : State} {history : List Stroke}
    (h : p.drawHistory settings s = .ok history) : filled history = [] := by
  unfold drawHistory at h
  simp only [do_eq_ok] at h
  obtain ⟨entries, hentries, hhistory⟩ := h
  cases hhistory
  have hnone := filled_append_of_texts (texts_drawEntries hentries) []
  rw [List.append_nil] at hnone
  exact hnone

theorem filled_render {settings : Settings} {p p' : Panel} {s : State} {strokes : List Stroke}
    (h : p.render settings s = .ok (strokes, p')) :
    filled strokes = Keypad.buttons.flatMap p.fill := by
  obtain ⟨-, display, history, hdisplay, hhistory, rfl, -⟩ := render_eq_ok.1 h
  rw [List.append_assoc, filled_append_of_texts (texts_drawDisplay hdisplay),
    filled_drawButtons_append, filled_drawHistory hhistory, List.append_nil]

theorem darken_ne : ∀ b ∈ Keypad.buttons, darken b.color ≠ b.color := by decide +kernel

theorem nodup_labels : (Keypad.buttons.map (·.label)).Nodup := by decide +kernel

/-- **A new picture shows as pressed just the button that is lit up.** -/
theorem showsPressed_iff {settings : Settings} {p p' : Panel} {s : State}
    {strokes : List Stroke} (h : p.render settings s = .ok (strokes, p')) {b : Button}
    (hb : b ∈ Keypad.buttons) : ShowsPressed strokes b ↔ p.pressed = some b.area := by
  unfold ShowsPressed
  rw [filled_render h, List.mem_flatMap]
  constructor
  · rintro ⟨other, hother, hfill⟩
    have hsame : b.label = other.label → b = other :=
      List.inj_on_of_nodup_map nodup_labels hb hother
    unfold fill at hfill
    split at hfill
    · rename_i hpressed
      rw [hsame (Prod.mk.inj (List.mem_singleton.1 hfill)).2]
      exact hpressed
    · split at hfill
      · obtain ⟨hcolor, hlabel⟩ := Prod.mk.inj (List.mem_singleton.1 hfill)
        rw [← hsame hlabel] at hcolor
        exact absurd hcolor (darken_ne b hb)
      · cases hfill
  · intro hpressed
    exact ⟨b, hb, by simp [fill, hpressed]⟩

/-! ## 4. The timer -/

/-- A button is lit up as long as the timer runs. -/
def Timed (p : Panel) : Prop :=
  (p.timer = 0 ∧ p.pressed = none) ∨
    (0 < p.timer ∧ ∃ b ∈ Keypad.buttons, p.pressed = some b.area)

theorem Timed.tick {p : Panel} (h : p.Timed) : p.tick.Timed := by
  unfold Panel.tick
  split
  · rename_i hpositive
    by_cases hone : p.timer = 1
    · exact .inl ⟨by simp [hone], by simp [hone]⟩
    · rcases h with ⟨hzero, -⟩ | ⟨-, hlit⟩
      · omega
      · have hmore : 0 < p.timer - 1 := by omega
        exact .inr ⟨hmore, by simpa [hone] using hlit⟩
  · exact h

theorem timed_press (p : Panel) {b : Button} (hb : b ∈ Keypad.buttons) {duration : Int}
    (hduration : 0 < duration) : (p.press b.area duration).Timed :=
  .inr ⟨hduration, b, hb, rfl⟩

/-- The button lit up goes out with the last picture of its time. -/
theorem Timed.of_tick_zero {p : Panel} (h : p.Timed) (hzero : p.tick.timer = 0) :
    p.pressed = none ∨ p.timer = 1 := by
  rcases h with ⟨-, hnone⟩ | ⟨hpositive, -⟩
  · exact .inl hnone
  · rw [Panel.tick, if_pos hpositive] at hzero
    simp only at hzero
    exact .inr (by omega)

end Panel

end DeskCalc
