import DeskCalc.Proofs.App.Hearing
import DeskCalc.Proofs.App.Highlight
import DeskCalc.Proofs.Picture.Placed

/-!
# Buttons under the mouse and on the keyboard

Every button can be clicked at any pixel of its area, wherever the window puts it, and typed with a
key of its own. Both ways send the same command, so that nothing tells them apart but the panel. This
file fixes

* `Button.keys`: the keys that match a button;
* `App.Move`, `App.Means`: what a user does, and the inputs that do it;
* `App.Plays`: a run of inputs that makes some moves, with what is observed of each, whatever happens
  to the window in between;
* **`App.plays_alike`**: all runs that make the same moves are observed alike.
-/

namespace DeskCalc

/-! ## 1. Keys -/

/-- The keys that match a button: its label, but `c` for clearing, backspace and delete. -/
def Button.keys (b : Button) : List Int :=
  match b.command with
  | .clear => ['c'.toNat]
  | .backspace => [8, 127]
  | _ => b.label.toList.map fun c => (c.toNat : Int)

/-- **The keys that match a button give its command**, and none of them switches the voice. -/
theorem Keypad.commandForKey_keys : ∀ b ∈ buttons, ∀ key ∈ b.keys,
    commandForKey key = some b.command ∧ key ≠ 'v'.toNat := by decide +kernel

namespace App

/-! ## 2. Moves -/

/-- What a user does: pressing a button in one way or another, or something else. -/
inductive Move where
  | press (b : Button)
  | other (input : Input)

def Input.isMouse : Input → Bool
  | .call (.mouse _ _ _) => true
  | _ => false

/-- Whether an input is one of the window's: a new size, or a picture. -/
def Input.isWindow : Input → Bool
  | .call (.window _ _) => true
  | .call .draw => true
  | _ => false

/-- The inputs that do what a user does. A button is clicked at a pixel of its area, where it is now,
    or typed with a key that matches it. -/
inductive Means (app : App) : Move → Input → Prop where
  | clicked {b : Button} {x y : Int} (isButton : b ∈ Keypad.buttons)
    (inside : (app.panel.layout.rect b.area).holds x y = true) :
    Means app (.press b) (.call (.mouse leftButtonDown x y))
  | typed {b : Button} {key : Int} (isButton : b ∈ Keypad.buttons) (matching : key ∈ b.keys) :
    Means app (.press b) (.call (.key key))
  | same {input : Input} (noMouse : input.isMouse = false) : Means app (.other input) input

/-- Inputs that make some moves, with what is observed of these; in between anything may happen to the
    window. -/
inductive Plays : App → List Move → List Input → List Observation → Prop where
  | done {app : App} : Plays app [] [] []
  | meanwhile {app : App} {moves : List Move} {input : Input} {inputs : List Input}
    {shown : List Observation} (isWindow : input.isWindow = true)
    (rest : Plays (app.next input) moves inputs shown) : Plays app moves (input :: inputs) shown
  | move {app : App} {move : Move} {moves : List Move} {input : Input} {inputs : List Input}
    {shown : List Observation} (means : Means app move input)
    (rest : Plays (app.next input) moves inputs shown) :
    Plays app (move :: moves) (input :: inputs) (app.observe input :: shown)

/-- The plainest input that does what a user does: a button's command itself. -/
def Move.input : Move → Input
  | .press b => .call (.request (.command b.command))
  | .other input => input

/-! ## 3. One move -/

section Move

variable {app app' : App} {input : Input}

theorem Means.request?_eq (placed : app.panel.Placed) {b : Button}
    (h : Means app (.press b) input) :
    ∃ call, input = .call call ∧ app.request? call = some (.command b.command) ∧
      call.switchesVoice = false := by
  cases h with
  | @clicked _ x y isButton inside =>
    refine ⟨_, rfl, ?_, rfl⟩
    rw [request?, if_pos rfl, placed.button?_of_holds isButton inside]
    rfl
  | @typed _ key isButton matching =>
    obtain ⟨hcommand, hvoice⟩ := Keypad.commandForKey_keys b isButton key matching
    refine ⟨_, rfl, ?_, by simpa [Call.switchesVoice] using hvoice⟩
    rw [request?, hcommand]
    rfl

/-- Whatever the panels are, an input without the mouse is observed alike. -/
theorem observe_of_noMouse (hcore : app.core = app'.core) (noMouse : input.isMouse = false) :
    app.observe input = app'.observe input ∧ (app.next input).core = (app'.next input).core := by
  cases input with
  | speech => exact observe_speech hcore
  | call call =>
    refine observe_call hcore ?_ rfl
    cases call with
    | mouse event x y => cases noMouse
    | key | request | window | draw => rfl

/-- **A move is observed as its plainest input is**, in whatever way it is made. -/
theorem Means.observe_eq (placed : app.panel.Placed) (hcore : app.core = app'.core) {move : Move}
    (h : Means app move input) :
    app.observe input = app'.observe move.input ∧
      (app.next input).core = (app'.next move.input).core := by
  cases move with
  | press b =>
    obtain ⟨call, rfl, hrequest, hvoice⟩ := h.request?_eq placed
    exact observe_call hcore hrequest hvoice
  | other other =>
    cases h with
    | same noMouse => exact observe_of_noMouse hcore noMouse

theorem core_next_of_isWindow (app : App) (h : input.isWindow = true) :
    (app.next input).core = app.core := by
  cases input with
  | speech => cases h
  | call call =>
    cases call with
    | window width height => exact core_take_silent rfl rfl
    | draw => exact core_take_silent rfl rfl
    | key | mouse | request => cases h

/-- The panel stays placed. -/
theorem placed_next (h : app.panel.Placed) (input : Input) : (app.next input).panel.Placed := by
  cases input with
  | speech => exact h
  | call call =>
    show (app.take call).panel.Placed
    cases effect app call with
    | untouched same => exact same.panel ▸ h
    | restated dirty panel => exact panel ▸ h
    | pressed dirty b isButton panel =>
      rw [panel]
      exact h.of_unlit (Panel.unlit_press _ _ _)
    | fitted dirty width height panel =>
      have hplaced := h.resize app.settings width height
      rwa [panel] at hplaced
    | unfitted width height fault panel same failed =>
      have hplaced := h.resize app.settings width height
      rwa [panel] at hplaced
    | drawn picture isDraw new =>
      rcases draw_cases new with ⟨-, strokes, -, -, hafter⟩ | ⟨hkept, -⟩
      · rw [hafter]
        exact h.of_unlit (Panel.unlit_tick _)
      · cases hkept

end Move

/-! ## 4. Runs of moves -/

/-- A run is observed as the plainest inputs are that make its moves. -/
theorem Plays.shown_eq {app app' : App} {moves : List Move} {inputs : List Input}
    {shown : List Observation} (h : Plays app moves inputs shown) (placed : app.panel.Placed)
    (hcore : app.core = app'.core) : shown = app'.observeAll (moves.map Move.input) := by
  -- on the run; of the other application only what speech depends on is known
  induction h generalizing app' with
  | done => rfl
  | meanwhile isWindow rest ih =>
    exact ih (placed_next placed _) ((core_next_of_isWindow _ isWindow).trans hcore)
  | move means rest ih =>
    obtain ⟨hobserve, hnext⟩ := means.observe_eq placed hcore
    rw [List.map_cons, observeAll, hobserve, ih (placed_next placed _) hnext]

/-- **All runs that make the same moves are observed alike**: the states, what is handed to the
    announcer and what is said do not tell a click from a key, wherever the window has put the buttons
    in the meantime. They are those of the commands themselves. -/
theorem plays_alike {settings : Settings} {state : State} {startup : Startup} {first : App}
    {printed : List String} (hstart : start settings state startup = .ok (first, printed))
    {moves : List Move} {inputs inputs' : List Input} {shown shown' : List Observation}
    (h : Plays first moves inputs shown) (h' : Plays first moves inputs' shown') :
    shown = shown' ∧ shown = first.observeAll (moves.map Move.input) := by
  have placed : first.panel.Placed := Panel.placed_create (started hstart).panel
  have hshown := h.shown_eq placed rfl
  exact ⟨hshown.trans (h'.shown_eq placed rfl).symm, hshown⟩

/-- The button that evaluates. -/
def equals : Button := ⟨"equals", "=", .evaluate, Keypad.blue, .elevated⟩

/-- A seven and the evaluation of it, once clicked in a window that grows in between, and once typed;
    either way both are heard. -/
theorem seven_clicked_or_typed :
    let moves : List Move := [.press seven, .press equals, .other .speech]
    let clicks : List Input :=
      [.call (.mouse leftButtonDown 15 205), .call (.window 1000 700),
        .call (.mouse leftButtonDown 499 684), .speech]
    let keys : List Input :=
      [.call (.key '7'.toNat), .call (.key '='.toNat), .call .draw, .speech]
    ∃ first printed shown shown',
      start { voiceEnabled := true } {} (.found {}) = .ok (first, printed) ∧
      Plays first moves clicks shown ∧ Plays first moves keys shown' ∧ shown = shown' ∧
      shown.map (·.uttered.spoken) = [[], [], ["7", "equals 7"]] := by
  intro moves clicks keys
  have hcheck : (start { voiceEnabled := true } {} (.found {})).toOption.any (fun begun =>
      (begun.1.panel.layout.rect "seven").holds 15 205 &&
      ((begun.1.run [.mouse leftButtonDown 15 205, .window 1000 700]).panel.layout.rect
        "equals").holds 499 684 &&
      (begun.1.observeAll (moves.map Move.input)).map (·.uttered.spoken) ==
        [[], [], ["7", "equals 7"]]) = true := by
    unfold start Panel.create
    rw [Layout.calculator_eq]
    decide +kernel
  obtain ⟨⟨first, printed⟩, hfirst, hgood⟩ := (Option.any_eq_true _ _).1 hcheck
  simp only [Bool.and_eq_true, beq_iff_eq] at hgood
  obtain ⟨⟨hseven, hequals⟩, hspoken⟩ := hgood
  have hstart := eq_ok_of_toOption hfirst
  have hclicks : Plays first moves clicks _ :=
    .move (.clicked seven_mem_buttons hseven) <| .meanwhile rfl <|
      .move (.clicked (by decide) hequals) <| .move (.same rfl) .done
  have hkeys : Plays first moves keys _ :=
    .move (.typed seven_mem_buttons (by decide)) <| .move (.typed (by decide) (by decide)) <|
      .meanwhile rfl <| .move (.same rfl) .done
  obtain ⟨halike, hshown⟩ := plays_alike hstart hclicks hkeys
  exact ⟨first, printed, _, _, hstart, hclicks, hkeys, halike, hshown ▸ hspoken⟩

end App

end DeskCalc
