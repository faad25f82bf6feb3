import DeskCalc.Calculator.State

/-!
# Runs of commands

A run is one command after another, each applied to the state that the one before it left. This file
fixes

* `State.run`: the state after a list of commands;
* `run_append`: a run falls apart at every place;
* `run_invariant`: what every command keeps, every run keeps.
-/

namespace DeskCalc

namespace State

/-- The state after some commands. -/
def run (s : State) (commands : List Command) : State := commands.foldl State.apply s

theorem run_append (s : State) (commands more : List Command) :
    s.run (commands ++ more) = (s.run commands).run more :=
  List.foldl_append

theorem run_invariant {holds : State → Prop}
    (keeps : ∀ s command, holds s → holds (s.apply command)) {s : State} (h : holds s)
    (commands : List Command) : holds (s.run commands) := by
  induction commands generalizing s with
  | nil => exact h
  | cons command rest ih => exact ih (keeps s command h)

end State

end DeskCalc
