import DeskCalc.Calculator.Result
import DeskCalc.Expression.Reading
import DeskCalc.Text.Cluster

/-!
# The calculator as a state machine

A state is the text being composed or the last result, the log of what was evaluated, newest first,
and an error. In result mode a fresh token starts a new text, unless it asks to go on with the
result. This file fixes

* `State` and `Command`;
* `State.apply`: the one transition function; it never fails, an expression without a value becomes
  an error of the new state;
* `Request`: what a caller may send, of which only the commands are known.
-/

namespace DeskCalc

/-- Whether the text is being composed or shows a final value. -/
inductive Mode where
  | input
  | result
  deriving DecidableEq, Repr

structure State where
  /-- The expression being composed, or the last result. -/
  buffer : String := "0"
  /-- What was evaluated, as `expression = result`, the newest first. -/
  history : List String := []
  mode : Mode := .result
  /-- The message of the last evaluation if it failed, else empty. -/
  error : String := ""
  deriving DecidableEq, Repr

inductive Command where
  | append (token : String) (continuesResult : Bool)
  | backspace
  | clear
  | evaluate
  deriving DecidableEq, Repr

namespace State

/-- What the display shows: the error if there is one, else the buffer. -/
def display (s : State) : String := if s.error.isEmpty then s.buffer else s.error

/-- Adds a token. In result mode the buffer stays in front of it only if the token continues the
    result. -/
def append (s : State) (token : String) (continuesResult : Bool) : State :=
  match s.mode with
  | .result =>
    { s with
      buffer := (if continuesResult then s.buffer else "") ++ token
      mode := .input
      error := "" }
  | .input => { s with buffer := s.buffer ++ token, error := "" }

/-- Removes the last cluster of the buffer. -/
def backspace (s : State) : State :=
  { s with buffer := String.ofList (Text.dropLastCluster s.buffer.toList) }

/-- Empties the buffer and nothing else. -/
def clear (s : State) : State := { s with buffer := "" }

/-- Shows an error in place of a result. -/
def fail (s : State) (message : String) : State :=
  { s with error := message, buffer := "", mode := .result }

/-- Shows a result and logs it. -/
def succeed (s : State) (result : String) : State where
  buffer := result
  history := (s.buffer ++ " = " ++ result) :: s.history
  mode := .result
  error := ""

/-- Evaluates the buffer. Only a finite value is a result. -/
def evaluate (s : State) : State :=
  match Expression.evaluate s.buffer with
  | .error fault => s.fail fault.message
  | .ok (.infinite _) => s.fail "Result is Infinite"
  | .ok .nan => s.fail "Result is Not a Number"
  | .ok value => s.succeed value.plain

/-- The state after a command. -/
def apply (s : State) : Command → State
  | .append token continuesResult => s.append token continuesResult
  | .backspace => s.backspace
  | .clear => s.clear
  | .evaluate => s.evaluate

end State

/-- What a caller may send: a command, or a text that is none. -/
inductive Request where
  | command (command : Command)
  | unknown (text : String)
  deriving DecidableEq, Repr

/-- The request is not a command. -/
structure UnknownCommand where
  text : String
  deriving DecidableEq, Repr

/-- The message about a request that is not a command. -/
def UnknownCommand.message (fault : UnknownCommand) : String :=
  "Unknown calculator command: " ++ String.ofList (Text.quoted fault.text.toList)

/-- The state after a request. -/
def State.obey (s : State) : Request → Except UnknownCommand State
  | .command command => .ok (s.apply command)
  | .unknown text => .error ⟨text⟩

end DeskCalc
