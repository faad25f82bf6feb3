import DeskCalc.Proofs.App.Voice

/-!
# What the announcer hears of a call

A call comes to the announcer in two ways: through the request that it leads to, or as the key that
switches the voice. All other calls are silent. This file fixes

* `App.request?`: the request that a call leads to;
* `App.told`: the texts that a call hands to the announcer;
* `Hears`: what a call does to the settings, the state and the announcer, and **`hears`**: it does
  just this;
* `Core`: what speech depends on, and **`core_take`**: of two applications alike in it, calls that
  lead to the same request make such two again;
* `observe`, `observeAll`: the states, the texts handed over and what is said in a run.
-/

namespace DeskCalc

/-- The state after a request; one that is not a command leaves it as it is. -/
def State.obeyed (s : State) (request : Request) : State :=
  match s.obey request with
  | .ok state => state
  | .error _ => s

namespace App

/-! ## 1. What is handed to the announcer -/

/-- The request that a call leads to. -/
def request? (app : App) : Call → Option Request
  | .key key => (Keypad.commandForKey key).map .command
  | .mouse event x y =>
    if event = leftButtonDown then (app.panel.button? x y).map fun b => .command b.command else none
  | .request request => some request
  | .window _ _ => none
  | .draw => none

/-- Whether a call is the key that switches the voice. -/
def Call.switchesVoice : Call → Bool
  | .key code => code == 'v'.toNat
  | _ => false

/-- The texts that a call hands to the announcer. -/
def told (app : App) (call : Call) : List String :=
  match app.request? call with
  | some request => announcements (Announcer.phrases app.settings) app.state request
  | none => if call.switchesVoice then [(Announcer.phrases app.settings).voiceOn] else []

/-- What a call does to the settings, the state and the announcer. -/
structure Hears (app : App) (call : Call) (after : App) : Prop where
  settings : after.settings = if call.switchesVoice then app.settings.toggleVoice else app.settings
  state : after.state = ((app.request? call).map app.state.obeyed).getD app.state
  announcer : after.announcer =
    (app.told call).foldl (Announcer.speak after.settings) app.announcer

theorem commandForKey_voiceKey : Keypad.commandForKey 'v'.toNat = none := by decide

theorem commandForKey_quit {key : Int} (h : key = 27 ∨ key = 'q'.toNat) :
    Keypad.commandForKey key = none := by
  rcases h with rfl | rfl <;> decide

variable {app app' after after' : App} {call call' : Call}

/-- A request is announced and obeyed, and nothing else happens. -/
theorem handle_heard (app : App) (request : Request) :
    (app.handle request).1.settings = app.settings ∧
      (app.handle request).1.state = app.state.obeyed request ∧
      (app.handle request).1.announcer =
        (announcements (Announcer.phrases app.settings) app.state request).foldl
          (Announcer.speak app.settings) app.announcer := by
  unfold handle State.obeyed
  cases app.state.obey request with
  | error fault => exact ⟨rfl, rfl, rfl⟩
  | ok state =>
    by_cases hsame : state = app.state
    · simp [hsame]
    · simp [hsame]

theorem Hears.of_handle {request : Request} (hrequest : app.request? call = some request)
    (hvoice : call.switchesVoice = false) (hsettings : after.settings = app.settings)
    (hstate : after.state = app.state.obeyed request)
    (hannouncer : after.announcer =
      (announcements (Announcer.phrases app.settings) app.state request).foldl
        (Announcer.speak app.settings) app.announcer) : Hears app call after where
  settings := by rw [hvoice, hsettings]; rfl
  state := by rw [hrequest, hstate]; rfl
  announcer := by
    unfold told
    rw [hrequest, hsettings, hannouncer]

theorem Hears.of_silent (hrequest : app.request? call = none)
    (hvoice : call.switchesVoice = false) (hsettings : after.settings = app.settings)
    (hstate : after.state = app.state) (hannouncer : after.announcer = app.announcer) :
    Hears app call after where
  settings := by rw [hvoice, hsettings]; rfl
  state := by rw [hrequest, hstate]; rfl
  announcer := by
    unfold told
    rw [hrequest, hvoice, hannouncer]
    rfl

theorem hears_handleKey (app : App) (key : Int) : Hears app (.key key) (app.handleKey key).app := by
  unfold handleKey
  split
  · rename_i hquit
    have hrequest : app.request? (.key key) = none := by
      rw [request?, commandForKey_quit hquit]
      rfl
    have hvoice : (Call.key key).switchesVoice = false := by
      rcases hquit with rfl | rfl <;> decide
    exact .of_silent hrequest hvoice rfl rfl rfl
  · split
    · rename_i hkey
      subst hkey
      exact {
        settings := rfl
        state := by rw [request?, commandForKey_voiceKey]; rfl
        announcer := by
          unfold told
          rw [request?, commandForKey_voiceKey]
          rfl }
    · rename_i hkey
      have hvoice : (Call.key key).switchesVoice = false := by simpa [Call.switchesVoice] using hkey
      split
      · rename_i command hcommand
        have hrequest : app.request? (.key key) = some (.command command) := by
          rw [request?, hcommand]
          rfl
        obtain ⟨hsettings, hstate, hannouncer⟩ := app.handle_heard (.command command)
        exact .of_handle hrequest hvoice hsettings hstate hannouncer
      · rename_i hnone
        have hrequest : app.request? (.key key) = none := by
          rw [request?, hnone]
          rfl
        exact .of_silent hrequest hvoice rfl rfl rfl

theorem hears_handleMouse (app : App) (event x y : Int) :
    Hears app (.mouse event x y) (app.handleMouse event x y) := by
  unfold handleMouse
  split
  · rename_i hleft
    split
    · rename_i b hbutton
      have hrequest : app.request? (.mouse event x y) = some (.command b.command) := by
        rw [request?, if_pos hleft, hbutton]
        rfl
      obtain ⟨hsettings, hstate, hannouncer⟩ :=
        handle_heard { app with panel := app.panel.press b.area pressDuration, dirty := true }
          (.command b.command)
      exact .of_handle hrequest rfl hsettings hstate hannouncer
    · rename_i hnone
      have hrequest : app.request? (.mouse event x y) = none := by
        rw [request?, if_pos hleft, hnone]
        rfl
      exact .of_silent hrequest rfl rfl rfl rfl
  · rename_i hother
    have hrequest : app.request? (.mouse event x y) = none := by rw [request?, if_neg hother]
    exact .of_silent hrequest rfl rfl rfl rfl

/-- **A call does to the settings, the state and the announcer just this.** -/
theorem hears (app : App) (call : Call) : Hears app call (app.take call) := by
  cases call with
  | key key => exact app.hears_handleKey key
  | mouse event x y => exact app.hears_handleMouse event x y
  | request request =>
    obtain ⟨hsettings, hstate, hannouncer⟩ := app.handle_heard request
    exact .of_handle rfl rfl hsettings hstate hannouncer
  | window width height =>
    show Hears app (.window width height) (app.syncWindow width height).1
    rcases app.syncWindow_cases width height with
      hsame | ⟨w, h, panel, -, hsync⟩ | ⟨w, h, panel, fault, -, hsync⟩
    · rw [hsame]
      exact .of_silent rfl rfl rfl rfl rfl
    · rw [hsync]
      exact .of_silent rfl rfl rfl rfl rfl
    · rw [hsync]
      exact .of_silent rfl rfl rfl rfl rfl
  | draw =>
    cases hdraw : app.draw with
    | error fault =>
      have htake : app.take .draw = app := by simp only [take, hdraw]
      rw [htake]
      exact .of_silent rfl rfl rfl rfl rfl
    | ok drawn =>
      obtain ⟨picture, isNew, after⟩ := drawn
      have htake : app.take .draw = after := by simp only [take, hdraw]
      rw [htake]
      rcases draw_cases hdraw with ⟨-, strokes, -, -, rfl⟩ | ⟨-, -, -, -, rfl⟩
      · exact .of_silent rfl rfl rfl rfl rfl
      · exact .of_silent rfl rfl rfl rfl rfl

/-! ## 2. What speech depends on -/

/-- What speech depends on. -/
structure Core where
  settings : Settings
  state : State
  announcer : Announcer

def core (app : App) : Core := ⟨app.settings, app.state, app.announcer⟩

theorem core_eq_of_hears (h : Hears app call after)
    (h' : Hears app' call' after') (hcore : app.core = app'.core)
    (hrequest : app.request? call = app'.request? call')
    (hvoice : call.switchesVoice = call'.switchesVoice) :
    after.core = after'.core ∧ app.told call = app'.told call' := by
  obtain ⟨settings, state, panel, announcer, dirty, picture⟩ := app
  obtain ⟨settings', state', panel', announcer', dirty', picture'⟩ := app'
  cases hcore
  have htold : told ⟨settings, state, panel, announcer, dirty, picture⟩ call =
      told ⟨settings, state, panel', announcer, dirty', picture'⟩ call' := by
    unfold told
    rw [hrequest, hvoice]
  have hsettings : after.settings = after'.settings := by rw [h.settings, h'.settings, hvoice]
  refine ⟨?_, htold⟩
  unfold core
  rw [h.announcer, h'.announcer, h.state, h'.state, hsettings, hrequest, htold]

/-- **Of two applications alike in what speech depends on, calls that lead to the same request make
    such two again**, and hand the same texts to the announcer. -/
theorem core_take (hcore : app.core = app'.core)
    (hrequest : app.request? call = app'.request? call')
    (hvoice : call.switchesVoice = call'.switchesVoice) :
    (app.take call).core = (app'.take call').core ∧ app.told call = app'.told call' :=
  core_eq_of_hears (app.hears call) (app'.hears call') hcore hrequest hvoice

/-- A call that leads to no request and does not switch the voice is silent. -/
theorem core_take_silent (hrequest : app.request? call = none)
    (hvoice : call.switchesVoice = false) : (app.take call).core = app.core := by
  obtain ⟨hsettings, hstate, hannouncer⟩ := app.hears call
  unfold told at hannouncer
  rw [hrequest, hvoice] at *
  unfold core
  rw [hsettings, hstate, hannouncer]
  rfl

/-! ## 3. What is observed -/

/-- What is observed of an input: the state behind it, the texts handed to the announcer and what is
    said. -/
structure Observation where
  state : State
  told : List String
  uttered : Utterance

def observe (app : App) : Input → Observation
  | .call call => ⟨(app.take call).state, app.told call, {}⟩
  | .speech => ⟨app.state, [], app.speech.2⟩

/-- What is observed of inputs in a row. -/
def observeAll (app : App) : List Input → List Observation
  | [] => []
  | input :: rest => app.observe input :: (app.next input).observeAll rest

/-- Calls that come to the same for the announcer are observed alike. -/
theorem observe_call (hcore : app.core = app'.core)
    (hrequest : app.request? call = app'.request? call')
    (hvoice : call.switchesVoice = call'.switchesVoice) :
    app.observe (.call call) = app'.observe (.call call') ∧
      (app.next (.call call)).core = (app'.next (.call call')).core := by
  obtain ⟨hnext, htold⟩ := core_take hcore hrequest hvoice
  refine ⟨?_, hnext⟩
  have hstate : (app.take call).state = (app'.take call').state := congrArg Core.state hnext
  simp only [observe, hstate, htold]

theorem observe_speech (hcore : app.core = app'.core) :
    app.observe .speech = app'.observe .speech ∧
      (app.next .speech).core = (app'.next .speech).core := by
  obtain ⟨settings, state, panel, announcer, dirty, picture⟩ := app
  obtain ⟨settings', state', panel', announcer', dirty', picture'⟩ := app'
  cases hcore
  exact ⟨rfl, rfl⟩

end App

end DeskCalc
