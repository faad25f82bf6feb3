import DeskCalc.Proofs.App.Pictures

/-!
# The button that lights up

A click lights its button up for six pictures. The picture with which this time ends still shows the
button as pressed, and afterwards no picture is drawn on account of the highlight: the last one is
shown again until something else asks for a new one. This file fixes

* `shown_when_kept`: what a picture that is shown again shows as pressed;
* **`highlight_follows_when_drawn`**: a new picture shows as pressed just the button that is lit up,
  and an old one what was lit up when it was drawn;
* `highlight_outlives_click`: a button shown as pressed after its time.
-/

namespace DeskCalc.App

section Run

variable {settings : Settings} {state : State} {first : App}

/-- A picture is shown again when no button is lit up. It was drawn either with none lit up, or with
    one whose time ended with it. -/
theorem shown_when_kept (start : Started settings state first) {calls : List Call}
    {picture : Picture} {after : App}
    (hdraw : (first.run calls).draw = .ok (picture, false, after)) :
    (first.run calls).panel.pressed = none ∧
      ∃ before since spent, calls = before ++ .draw :: since ∧
        (first.run before).draw = .ok (picture, true, spent) ∧
        ((first.run before).panel.pressed = none ∨ (first.run before).panel.timer = 1) := by
  rcases draw_cases hdraw with ⟨hnew, -⟩ | ⟨-, hpicture, hclean, htimer, -⟩
  · cases hnew
  · obtain ⟨before, since, hcalls, hkept⟩ := exists_kept start hclean hpicture
    obtain ⟨spent, hdrawn⟩ := hkept.drawn
    obtain ⟨hzero, hnone⟩ : (first.run calls).panel.timer = 0 ∧
        (first.run calls).panel.pressed = none := by
      rcases (start.steady.run calls).timed with hout | ⟨hpositive, -⟩
      · exact hout
      · omega
    have htick : (first.run before).panel.tick.timer = 0 := hkept.timer.symm.trans hzero
    exact ⟨hnone, before, since, spent, hcalls, hdrawn,
      (start.steady.run before).timed.of_tick_zero htick⟩

end Run

theorem showsPressed_draw {app after : App} {picture : Picture}
    (hdraw : app.draw = .ok (picture, true, after)) {b : Button} (hb : b ∈ Keypad.buttons) :
    ShowsPressed picture.strokes b ↔ app.panel.pressed = some b.area := by
  rcases draw_cases hdraw with ⟨-, strokes, hrender, rfl, -⟩ | ⟨hkept, -⟩
  · exact Panel.showsPressed_iff hrender hb
  · cases hkept

/-- **The highlight follows when a picture is drawn.** A new picture shows as pressed just the
    button that is lit up. A picture is shown again only when no button is lit up; it shows what was
    lit up when it was drawn, which is no button at all or the one whose time ended with this
    picture. -/
theorem highlight_follows_when_drawn {settings : Settings} {state : State} {startup : Startup}
    {first : App} {printed : List String}
    (hstart : start settings state startup = .ok (first, printed)) {calls : List Call}
    {picture : Picture} {isNew : Bool} {after : App}
    (hdraw : (first.run calls).draw = .ok (picture, isNew, after)) :
    (isNew = true → ∀ b ∈ Keypad.buttons,
      ShowsPressed picture.strokes b ↔ (first.run calls).panel.pressed = some b.area) ∧
    (isNew = false → (first.run calls).panel.pressed = none ∧
      ∃ before since, calls = before ++ .draw :: since ∧
        (∃ spent, (first.run before).draw = .ok (picture, true, spent)) ∧
        ((first.run before).panel.pressed = none ∨ (first.run before).panel.timer = 1) ∧
        ∀ b ∈ Keypad.buttons,
          ShowsPressed picture.strokes b ↔ (first.run before).panel.pressed = some b.area) := by
  refine ⟨fun hnew b hb => ?_, fun hkept => ?_⟩
  · subst hnew
    exact showsPressed_draw hdraw hb
  · subst hkept
    obtain ⟨hnone, before, since, spent, hcalls, hdrawn, hlast⟩ :=
      shown_when_kept (started hstart) hdraw
    exact ⟨hnone, before, since, hcalls, ⟨spent, hdrawn⟩, hlast,
      fun b hb => showsPressed_draw hdrawn hb⟩

/-- The button of the digit seven. -/
def seven : Button := Keypad.appending "seven" "7" Keypad.green

theorem seven_mem_buttons : seven ∈ Keypad.buttons := by decide

/-- After a click on the seven, the next picture shows it as pressed, and no other button. -/
theorem seven_lit_up :
    ∃ first printed picture after, start {} {} .absent = .ok (first, printed) ∧
      (first.run [.mouse leftButtonDown 90 250]).draw = .ok (picture, true, after) ∧
      ∀ b ∈ Keypad.buttons, ShowsPressed picture.strokes b ↔ b.area = "seven" := by
  have hcheck : check (start {} {} .absent) [.mouse leftButtonDown 90 250] (fun app _ isNew =>
      isNew && app.panel.pressed == some "seven") = true := by
    unfold start Panel.create
    rw [Layout.calculator_eq]
    decide +kernel
  obtain ⟨first, printed, picture, isNew, after, hstart, hdraw, hgood⟩ := exists_of_check hcheck
  obtain ⟨hnew, hpressed⟩ : isNew = true ∧
      (first.run [.mouse leftButtonDown 90 250]).panel.pressed = some "seven" := by
    simpa using hgood
  subst hnew
  have hshows := (highlight_follows_when_drawn hstart hdraw).1 rfl
  refine ⟨first, printed, picture, after, hstart, hdraw, fun b hb => ?_⟩
  rw [hshows b hb, hpressed, Option.some.injEq, eq_comm]

/-- Six pictures after a click, and for as long as nothing else is called, the button is shown as
    pressed although none is lit up. -/
theorem highlight_outlives_click :
    ¬∀ (settings : Settings) (state : State) (startup : Startup) (first : App)
      (printed : List String) (calls : List Call) (picture : Picture) (isNew : Bool) (after : App),
      start settings state startup = .ok (first, printed) →
      (first.run calls).draw = .ok (picture, isNew, after) →
      ∀ b ∈ Keypad.buttons,
        ShowsPressed picture.strokes b ↔ (first.run calls).panel.pressed = some b.area := by
  intro h
  let calls : List Call := .mouse leftButtonDown 90 250 :: List.replicate 6 .draw
  have hcheck : check (start {} {} .absent) calls (fun app picture _ =>
      ShowsPressed picture.strokes seven && app.panel.pressed.isNone) = true := by
    unfold start Panel.create
    rw [Layout.calculator_eq]
    decide +kernel
  obtain ⟨first, printed, picture, isNew, after, hstart, hdraw, hgood⟩ := exists_of_check hcheck
  obtain ⟨hshown, hnone⟩ : ShowsPressed picture.strokes seven ∧
      (first.run calls).panel.pressed = none := by simpa using hgood
  have hpressed := (h {} {} .absent first printed calls picture isNew after hstart hdraw seven
    seven_mem_buttons).1 hshown
  rw [hnone] at hpressed
  cases hpressed

end DeskCalc.App
