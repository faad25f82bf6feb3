import DeskCalc.Proofs.App.Hearing
import DeskCalc.Proofs.Calculator.History

/-!
# What is announced

Two speak for a command: before it is sent, its token or the clearing of the buffer is announced, and
after it, what has changed. As long as an error stands alone, the second adds nothing to the first but
the outcome of an evaluation, and this once. This file fixes

* `State.ErrorAlone`: an error stands alone, which every command keeps;
* `State.outcome`: what an evaluation comes to, a finite number or a message;
* `State.said`: what is to be said for a command, and `announcements_eq_said`: it is announced;
* **`App.announced_eq_said`**: what is announced for commands in a row, each error once.
-/

namespace DeskCalc

namespace State

/-! ## 1. Errors that stand alone -/

/-- An error leaves no buffer, and ends the composing. -/
def ErrorAlone (s : State) : Prop := s.error ≠ "" → s.buffer = "" ∧ s.mode = .result

theorem backspace_of_empty {s : State} (h : s.buffer = "") : s.backspace = s := by
  obtain ⟨buffer, history, mode, error⟩ := s
  cases h
  rfl

theorem clear_of_empty {s : State} (h : s.buffer = "") : s.clear = s := by
  obtain ⟨buffer, history, mode, error⟩ := s
  cases h
  rfl

theorem error_append (s : State) (token : String) (continuesResult : Bool) :
    (s.append token continuesResult).error = "" := by
  unfold append
  split <;> rfl

/-- Every command keeps an error alone. -/
theorem ErrorAlone.apply {s : State} (h : s.ErrorAlone) (command : Command) :
    (s.apply command).ErrorAlone := by
  cases command with
  | append token continuesResult =>
    exact fun herror => absurd (s.error_append token continuesResult) herror
  | backspace =>
    intro herror
    obtain ⟨hbuffer, hmode⟩ := h herror
    show s.backspace.buffer = "" ∧ s.mode = .result
    rw [backspace_of_empty hbuffer]
    exact ⟨hbuffer, hmode⟩
  | clear => exact fun herror => ⟨rfl, (h herror).2⟩
  | evaluate =>
    rcases s.evaluate_cases with ⟨v, -, -, hs⟩ | ⟨message, -, hs⟩
    · intro herror
      exact absurd (congrArg State.error hs) herror
    · intro _
      show s.evaluate.buffer = "" ∧ s.evaluate.mode = .result
      rw [hs]
      exact ⟨rfl, rfl⟩

/-- A state in which an evaluation has failed is the one that failing again with the same message
    leads to. -/
theorem ErrorAlone.eq_fail {s : State} (h : s.ErrorAlone) (herror : s.error ≠ "") :
    s = s.fail s.error := by
  obtain ⟨hbuffer, hmode⟩ := h herror
  obtain ⟨buffer, history, mode, error⟩ := s
  cases hbuffer
  cases hmode
  rfl

/-! ## 2. What is to be said -/

/-- What evaluating the buffer comes to: a finite number, or the message that says why not. -/
def outcome (s : State) : Except String Binary64 :=
  match Expression.evaluate s.buffer with
  | .error fault => .error fault.message
  | .ok (.infinite _) => .error "Result is Infinite"
  | .ok .nan => .error "Result is Not a Number"
  | .ok value => .ok value

/-- **A state after an evaluation is told by its outcome.** -/
theorem outcome_cases (s : State) :
    (∃ v, s.outcome = .ok v ∧ v.isFinite = true ∧ s.evaluate = s.succeed v.plain) ∨
      ∃ message, s.outcome = .error message ∧ message ≠ "" ∧ s.evaluate = s.fail message := by
  unfold outcome evaluate
  cases Expression.evaluate s.buffer with
  | error fault => exact .inr ⟨fault.message, rfl, fault.message_ne_empty, rfl⟩
  | ok v =>
    cases v with
    | nan => exact .inr ⟨"Result is Not a Number", rfl, by decide, rfl⟩
    | infinite negative => exact .inr ⟨"Result is Infinite", rfl, by decide, rfl⟩
    | finite negative units representable => exact .inl ⟨_, rfl, rfl, rfl⟩

/-- What is to be said for a command: its token, that the buffer was cleared, or the outcome of an
    evaluation, unless it is the error that the state shows already. -/
def said (phrases : Phrases) (s : State) : Command → List String
  | .append token _ => [phrases.token token]
  | .clear => [phrases.cleared]
  | .backspace => []
  | .evaluate =>
    match s.outcome with
    | .ok v => [phrases.result v.plain]
    | .error message => if s = s.fail message then [] else [message]

/-- What is to be said for commands in a row. -/
def saidAll (phrases : Phrases) (s : State) : List Command → List String
  | [] => []
  | command :: rest => s.said phrases command ++ (s.apply command).saidAll phrases rest

/-- For a command that leaves an error as it is, the error is not said. -/
theorem said_of_error_kept (phrases : Phrases) {s : State} (h : s.ErrorAlone) {command : Command}
    (herror : s.error ≠ "") (hkept : (s.apply command).error = s.error) :
    s.said phrases command = if command = .clear then [phrases.cleared] else [] := by
  cases command with
  | append token continuesResult =>
    exact absurd (hkept.symm.trans (s.error_append token continuesResult)) herror
  | backspace => rfl
  | clear => rfl
  | evaluate =>
    replace hkept : s.evaluate.error = s.error := hkept
    rcases s.outcome_cases with ⟨v, -, -, hs⟩ | ⟨message, houtcome, -, hs⟩
    · rw [hs] at hkept
      exact absurd hkept.symm herror
    · rw [hs] at hkept
      obtain rfl : message = s.error := hkept
      simp only [said, houtcome, if_pos (h.eq_fail herror), reduceCtorEq, if_false]

end State

/-! ## 3. What is announced -/

namespace App

theorem changePhrase?_self (phrases : Phrases) (s : State) : changePhrase? phrases s s = none :=
  if_pos rfl

/-- A change that brings neither an error nor a result goes unannounced. -/
theorem changePhrase?_of_quiet (phrases : Phrases) {previous current : State}
    (herror : current.error = "") (hhistory : current.history = previous.history) :
    changePhrase? phrases previous current = none := by
  unfold changePhrase?
  rw [herror, hhistory]
  simp

theorem changePhrase?_fail (phrases : Phrases) (s : State) {message : String}
    (h : message ≠ "") :
    changePhrase? phrases s (s.fail message) =
      if s = s.fail message then none else some message := by
  have hshown : (!(s.fail message).error.isEmpty) = true := by simp [State.fail, h]
  unfold changePhrase?
  rw [if_pos hshown]
  rfl

theorem changePhrase?_succeed (phrases : Phrases) (s : State) (result : String) :
    changePhrase? phrases s (s.succeed result) = some (phrases.result result) := by
  have hgrows : s.history.length < (s.succeed result).history.length := Nat.lt_succ_self _
  have hchanged : s ≠ s.succeed result := by
    intro hsame
    rw [← hsame] at hgrows
    exact Nat.lt_irrefl _ hgrows
  unfold changePhrase?
  rw [if_neg hchanged, if_pos hgrows]
  rfl

/-- **What is announced for a command is what is to be said for it.** -/
theorem announcements_eq_said (phrases : Phrases) {s : State} (h : s.ErrorAlone)
    (command : Command) : announcements phrases s (.command command) = s.said phrases command := by
  -- behind a command that keeps the log, the listener is silent unless an error stands
  have hquiet {after : State} (hkeeps : after = s ∨ after.error = "" ∧ after.history = s.history) :
      changePhrase? phrases s after = none := by
    rcases hkeeps with rfl | ⟨herror, hhistory⟩
    · exact changePhrase?_self phrases _
    · exact changePhrase?_of_quiet phrases herror hhistory
  show (requestPhrase? phrases (.command command)).toList ++
    (changePhrase? phrases s (s.apply command)).toList = _
  cases command with
  | append token continuesResult =>
    have hnone := hquiet (.inr ⟨s.error_append token continuesResult,
      s.history_append token continuesResult⟩)
    rw [State.apply, hnone]
    rfl
  | backspace =>
    have hnone : changePhrase? phrases s s.backspace = none := by
      by_cases herror : s.error = ""
      · exact hquiet (.inr ⟨herror, rfl⟩)
      · exact hquiet (.inl (State.backspace_of_empty (h herror).1))
    rw [State.apply, hnone]
    rfl
  | clear =>
    have hnone : changePhrase? phrases s s.clear = none := by
      by_cases herror : s.error = ""
      · exact hquiet (.inr ⟨herror, rfl⟩)
      · exact hquiet (.inl (State.clear_of_empty (h herror).1))
    rw [State.apply, hnone]
    rfl
  | evaluate =>
    rw [State.apply, State.said]
    rcases s.outcome_cases with ⟨v, houtcome, -, hs⟩ | ⟨message, houtcome, hmessage, hs⟩
    · rw [hs, houtcome, changePhrase?_succeed]
      rfl
    · rw [hs, houtcome, changePhrase?_fail phrases s hmessage]
      dsimp only
      split <;> rfl

/-! ## 4. Commands in a row -/

/-- The application after commands in a row. -/
def handleCommands (app : App) (commands : List Command) : App := commands.foldl handleCommand app

/-- The texts handed to the announcer for commands in a row. -/
def announced (app : App) : List Command → List String
  | [] => []
  | command :: rest =>
    announcements (Announcer.phrases app.settings) app.state (.command command) ++
      (app.handleCommand command).announced rest

theorem handleCommand_heard (app : App) (command : Command) :
    (app.handleCommand command).settings = app.settings ∧
      (app.handleCommand command).state = app.state.apply command ∧
      (app.handleCommand command).announcer =
        (announcements (Announcer.phrases app.settings) app.state (.command command)).foldl
          (Announcer.speak app.settings) app.announcer :=
  app.handle_heard (.command command)

/-- The announcer is handed what is announced, and nothing else happens to it. -/
theorem handleCommands_heard (app : App) (commands : List Command) :
    (app.handleCommands commands).settings = app.settings ∧
      (app.handleCommands commands).state = app.state.run commands ∧
      (app.handleCommands commands).announcer =
        (app.announced commands).foldl (Announcer.speak app.settings) app.announcer := by
  induction commands generalizing app with
  | nil => exact ⟨rfl, rfl, rfl⟩
  | cons command rest ih =>
    obtain ⟨hsettings, hstate, hannouncer⟩ := app.handleCommand_heard command
    obtain ⟨hsettings', hstate', hannouncer'⟩ := ih (app.handleCommand command)
    rw [hsettings] at hsettings' hannouncer'
    rw [hstate] at hstate'
    rw [hannouncer] at hannouncer'
    refine ⟨hsettings', hstate', ?_⟩
    rw [announced, List.foldl_append]
    exact hannouncer'

theorem announced_eq_saidAll (app : App) (h : app.state.ErrorAlone) (commands : List Command) :
    app.announced commands = app.state.saidAll (Announcer.phrases app.settings) commands := by
  induction commands generalizing app with
  | nil => rfl
  | cons command rest ih =>
    obtain ⟨hsettings, hstate, -⟩ := app.handleCommand_heard command
    have halone : (app.handleCommand command).state.ErrorAlone := by
      rw [hstate]
      exact h.apply command
    rw [announced, State.saidAll, announcements_eq_said _ h, ih _ halone, hsettings, hstate]

/-- **For commands in a row just what is to be said is announced, in order**: the announcer is handed
    these texts and no others, and a command that leaves an error as it is does not announce it. -/
theorem announced_eq_said {app : App}
    (h : app.state.error ≠ "" → app.state.buffer = "" ∧ app.state.mode = .result)
    (commands : List Command) :
    app.announced commands = app.state.saidAll (Announcer.phrases app.settings) commands ∧
      (app.handleCommands commands).state = app.state.run commands ∧
      (app.handleCommands commands).announcer =
        (app.announced commands).foldl (Announcer.speak app.settings) app.announcer ∧
      ∀ before command after, commands = before ++ command :: after →
        (app.state.run before).error ≠ "" →
        ((app.state.run before).apply command).error = (app.state.run before).error →
        (app.state.run before).said (Announcer.phrases app.settings) command =
          if command = .clear then [(Announcer.phrases app.settings).cleared] else [] := by
  obtain ⟨-, hstate, hannouncer⟩ := app.handleCommands_heard commands
  refine ⟨announced_eq_saidAll app h commands, hstate, hannouncer, ?_⟩
  intro before command after _ herror hkept
  have halone : (app.state.run before).ErrorAlone :=
    State.run_invariant (fun _ command hs => hs.apply command) h before
  exact State.said_of_error_kept _ halone herror hkept

/-- In Spanish a result and two errors, each said once, although the second is asked for again. -/
theorem spanish_errors_said_once :
    let app : App :=
      { settings := { voiceLanguage := "es" }
        state := {}
        panel := { width := 0, height := 0, layout := Layout.calculator }
        announcer := {} }
    app.announced [.append "2" false, .append "." false, .append "5" false, .evaluate,
        .append "/" true, .append "0" false, .evaluate, .clear, .backspace, .evaluate, .evaluate] =
      ["2", "coma", "5", "igual a 2 coma 5", "dividido", "0", "Result is Infinite", "borrado",
        "Empty expression"] := by
  intro app
  have halone : app.state.error ≠ "" → app.state.buffer = "" ∧ app.state.mode = .result :=
    fun herror => absurd rfl herror
  rw [(announced_eq_said halone _).1]
  decide +kernel

end App

end DeskCalc
