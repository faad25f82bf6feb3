import DeskCalc.Calculator.State

/-!
# Subscriptions

An engine holds the state and tells its listeners of every change, in the order in which they
subscribed. A listener that is being told may act on the engine itself: send requests, subscribe
listeners and cancel subscriptions, all of it before the next listener hears of the first change. A
request that is not a command ends everything in progress.

What a listener does is data: one list of actions for each of its first calls. This file fixes

* `Action`, `Listener`, `Notice` and `Engine`;
* `Engine.send`: one request, with `react` standing for what listeners do when told, and
  `Engine.answer`: what it gives back;
* `Engine.perform`: actions performed to the end, at a depth that no reply can exceed.
-/

namespace DeskCalc

/-- What a caller or a listener does to an engine. -/
inductive Action where
  | send (request : Request)
  /-- Subscribes a listener; `replies` are what it does in its first calls, and count only if the
      name is new. -/
  | subscribe (listener : String) (replies : List (List Action))
  /-- Cancels by the handle of the listener's subscription of this number, counted from zero. -/
  | cancel (listener : String) (number : Nat)
  deriving Inhabited

/-- A listener with what it will do in its next calls. -/
structure Listener where
  name : String
  replies : List (List Action)

/-- One call of a listener. -/
structure Notice where
  listener : String
  previous : State
  current : State
  deriving DecidableEq, Repr

structure Engine where
  state : State := {}
  /-- The listeners' names, once for each active subscription, in the order of subscription. -/
  active : List String := []
  /-- Every listener that ever subscribed. -/
  listeners : List Listener := []
  /-- The requests so far, in the order in which they were begun. -/
  requests : List Request := []
  /-- The calls so far, the oldest first. -/
  notices : List Notice := []
  /-- What the requests gave back that have ended so far without a fault, in the order in which they
      ended. -/
  answers : List State := []

namespace Engine

/-- The engine after some actions, and what ended them early, if anything did. -/
abbrev Outcome := Engine × Option UnknownCommand

/-- Does one thing after another until one ends early. -/
def sequence {α : Type} (step : Engine → α → Outcome) : Engine → List α → Outcome
  | e, [] => (e, none)
  | e, a :: rest =>
    match step e a with
    | (e', none) => sequence step e' rest
    | (e', some fault) => (e', some fault)

/-- What every step keeps holds at the end, also at an early one. It may speak of the things that are
    still to be done. -/
theorem sequence_invariant {α : Type} {step : Engine → α → Outcome}
    (holds : Engine → List α → Prop)
    (keeps : ∀ e a rest, holds e (a :: rest) → holds (step e a).1 rest)
    (stops : ∀ e rest, holds e rest → holds e []) {e : Engine} {xs : List α} (h : holds e xs) :
    holds (sequence step e xs).1 [] := by
  induction xs generalizing e with
  | nil => exact h
  | cons a rest ih =>
    have ha := keeps e a rest h
    unfold sequence
    split
    · rename_i e' he'
      rw [he'] at ha
      exact ih ha
    · rename_i e' fault he'
      rw [he'] at ha
      exact stops e' rest ha

/-- Steps that agree as long as something holds, which they keep, lead to the same end. -/
theorem sequence_congr {α : Type} {step step' : Engine → α → Outcome}
    (holds : Engine → List α → Prop)
    (agree : ∀ e a rest, holds e (a :: rest) → step e a = step' e a)
    (keeps : ∀ e a rest, holds e (a :: rest) → holds (step e a).1 rest) {e : Engine} {xs : List α}
    (h : holds e xs) : sequence step e xs = sequence step' e xs := by
  induction xs generalizing e with
  | nil => rfl
  | cons a rest ih =>
    have ha := keeps e a rest h
    unfold sequence
    rw [← agree e a rest h]
    split
    · rename_i e' he'
      rw [he'] at ha
      exact ih ha
    · rfl

/-- Takes the next reply of a listener out of the engine. -/
def takeReply (name : String) : List Listener → List Action × List Listener
  | [] => ([], [])
  | listener :: others =>
    if listener.name = name then
      match listener.replies with
      | [] => ([], listener :: others)
      | reply :: later => (reply, ⟨name, later⟩ :: others)
    else
      let (reply, others) := takeReply name others
      (reply, listener :: others)

/-- Tells one listener that the state was `previous`. It is told the state as it is now, which an
    earlier listener may have changed again. -/
def tell (react : Engine → List Action → Outcome) (previous : State) (e : Engine)
    (name : String) : Outcome :=
  let (reply, listeners) := takeReply name e.listeners
  react { e with
    listeners := listeners
    notices := e.notices ++ [⟨name, previous, e.state⟩] } reply

/-- Ends a request. It gives back the state as it is now, which listeners may have changed again. -/
def answer : Outcome → Outcome
  | (e, none) => ({ e with answers := e.answers ++ [e.state] }, none)
  | (e, some fault) => (e, some fault)

/-- Sends a request. The listeners subscribed at that moment are told if it changed the state. -/
def send (react : Engine → List Action → Outcome) (e : Engine) (request : Request) : Outcome :=
  let begun := { e with requests := e.requests ++ [request] }
  match e.state.obey request with
  | .error fault => (begun, some fault)
  | .ok state =>
    answer
      (if state = e.state then (begun, none)
      else sequence (tell react e.state) { begun with state := state } e.active)

/-- A command that changes nothing is one of which nobody is told. -/
theorem send_command (react : Engine → List Action → Outcome) (e : Engine) (command : Command) :
    send react e (.command command) =
      answer (sequence (tell react e.state)
        { e with
          state := e.state.apply command
          requests := e.requests ++ [.command command] }
        (if e.state.apply command = e.state then [] else e.active)) := by
  by_cases hsame : e.state.apply command = e.state
  · simp only [send, State.obey, hsame, ↓reduceIte, sequence]
  · simp only [send, State.obey, hsame, ↓reduceIte]

/-- Adds a subscription. -/
def subscribe (e : Engine) (name : String) (replies : List (List Action)) : Engine :=
  { e with
    active := e.active ++ [name]
    listeners :=
      if e.listeners.any (·.name == name) then e.listeners
      else e.listeners ++ [⟨name, replies⟩] }

/-- Cancels by a handle, any number of times. The subscriptions of one listener are not told apart:
    whichever handle it is, the earliest active one ends, if there is one. -/
def cancel (e : Engine) (name : String) (_number : Nat) : Engine :=
  { e with active := e.active.erase name }

/-- Performs one action. -/
def act (react : Engine → List Action → Outcome) (e : Engine) : Action → Outcome
  | .send request => send react e request
  | .subscribe name replies => (e.subscribe name replies, none)
  | .cancel name number => (e.cancel name number, none)

/-- Performs actions with replies nested at most `depth` deep. -/
def performWithin : (depth : Nat) → Engine → List Action → Outcome
  | 0, e, _ => (e, none)
  | depth + 1, e, actions => sequence (act (performWithin depth)) e actions

end Engine

mutual

/-- The number of replies that an action brings along. -/
def Action.replyCount : Action → Nat
  | .send _ => 0
  | .subscribe _ replies => repliesCount replies
  | .cancel _ _ => 0

/-- The number of replies in a list of actions. -/
def actionsReplyCount : List Action → Nat
  | [] => 0
  | action :: rest => action.replyCount + actionsReplyCount rest

/-- The number of replies in a list of replies, those they bring along included. -/
def repliesCount : List (List Action) → Nat
  | [] => 0
  | reply :: rest => actionsReplyCount reply + 1 + repliesCount rest

end

namespace Engine

/-- The number of replies the listeners still have to give. -/
def pendingReplies (e : Engine) : Nat := repliesCount (e.listeners.flatMap (·.replies))

/-- Performs actions to the end. Every nested level uses up a reply, so there are never more levels
    than replies. -/
def perform (e : Engine) (actions : List Action) : Outcome :=
  performWithin (e.pendingReplies + actionsReplyCount actions + 2) e actions

end Engine

end DeskCalc
