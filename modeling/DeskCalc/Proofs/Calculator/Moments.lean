import DeskCalc.Calculator.Engine
import DeskCalc.Proofs.Calculator.Run

/-!
# An engine among clients

Seen from the engine, its callers and its listeners are clients that may do anything at any moment:
send requests, subscribe, cancel, return, or let a fault escape. A listener does so in the middle of
a telling, and so tellings stand inside one another. Here a client is not a script: nothing is said
about what it does next. This file fixes

* `Moment`: the state, the subscriptions and the tellings in progress, with whose turn it is;
* `Step`: what can happen at a moment, and `Run`: what can happen in the long run;
* **`Run.state_eq`**: the state is what the commands sent so far make of the first one, in the order
  in which they were sent;
* `Course`: what can happen in the course of one telling;
* **`Run.told`**: a listener is told of a change, and of what listeners have made of it since.
-/

namespace DeskCalc

/-- A change that listeners are being told of. -/
structure Telling where
  /-- The state before the change. -/
  previous : State
  /-- The listeners that do not know yet, in the order in which they will be told. -/
  waiting : List String

/-- Who goes on. The client is the listener that was told last in the innermost telling; where nothing
    is being told, it is the caller. -/
inductive Turn where
  | client
  | engine
  deriving DecidableEq

structure Moment where
  state : State
  active : List String
  /-- The tellings in progress, the innermost first. -/
  tellings : List Telling
  turn : Turn

inductive Event where
  | sent (request : Request)
  | told (notice : Notice)
  /-- A request ends, and its sender gets the state. -/
  | answered (answer : State)
  | subscribed (listener : String)
  | cancelled (listener : String)
  /-- A listener has done what it does. -/
  | returned
  /-- A listener lets a fault escape, which ends the telling. -/
  | escaped

namespace Event

/-- The request that is sent. -/
def request? : Event → Option Request
  | sent request => some request
  | _ => none

/-- The command that is sent. A request that is none does not count. -/
def command? : Event → Option Command
  | sent (.command command) => some command
  | _ => none

def notice? : Event → Option Notice
  | told notice => some notice
  | _ => none

def answer? : Event → Option State
  | answered answer => some answer
  | _ => none

/-- The commands sent in the course of some events, the first one first. -/
def commands (events : List Event) : List Command := events.filterMap command?

end Event

/-! ## 1. Steps and runs -/

/-- What can happen at a moment. The fault of an unknown request goes to the client, who may let it
    escape or not. -/
inductive Step : Moment → Event → Moment → Prop where
  | refuse {s : State} {active : List String} {tellings : List Telling} (text : String) :
      Step ⟨s, active, tellings, .client⟩ (.sent (.unknown text)) ⟨s, active, tellings, .client⟩
  | send {s : State} {active : List String} {tellings : List Telling} (command : Command) :
      Step ⟨s, active, tellings, .client⟩ (.sent (.command command))
        ⟨s.apply command, active,
          ⟨s, if s.apply command = s then [] else active⟩ :: tellings, .engine⟩
  | tell {s previous : State} {active waiting : List String} {tellings : List Telling}
      (listener : String) :
      Step ⟨s, active, ⟨previous, listener :: waiting⟩ :: tellings, .engine⟩
        (.told ⟨listener, previous, s⟩)
        ⟨s, active, ⟨previous, waiting⟩ :: tellings, .client⟩
  | answer {s previous : State} {active : List String} {tellings : List Telling} :
      Step ⟨s, active, ⟨previous, []⟩ :: tellings, .engine⟩ (.answered s)
        ⟨s, active, tellings, .client⟩
  | subscribe {s : State} {active : List String} {tellings : List Telling} (listener : String) :
      Step ⟨s, active, tellings, .client⟩ (.subscribed listener)
        ⟨s, active ++ [listener], tellings, .client⟩
  | cancel {s : State} {active : List String} {tellings : List Telling} (listener : String) :
      Step ⟨s, active, tellings, .client⟩ (.cancelled listener)
        ⟨s, active.erase listener, tellings, .client⟩
  | giveBack {s : State} {active : List String} {telling : Telling} {tellings : List Telling} :
      Step ⟨s, active, telling :: tellings, .client⟩ .returned
        ⟨s, active, telling :: tellings, .engine⟩
  | escape {s : State} {active : List String} {telling : Telling} {tellings : List Telling} :
      Step ⟨s, active, telling :: tellings, .client⟩ .escaped ⟨s, active, tellings, .client⟩

/-- What can happen from a moment on. -/
inductive Run (first : Moment) : List Event → Moment → Prop where
  | start : Run first [] first
  | step {events : List Event} {m m' : Moment} {event : Event} (run : Run first events m)
      (next : Step m event m') : Run first (events ++ [event]) m'

theorem Step.run {m m' : Moment} {event : Event} (h : Step m event m') : Run m [event] m' :=
  .step .start h

theorem Run.append {m m' m'' : Moment} {events more : List Event} (h : Run m events m')
    (h' : Run m' more m'') : Run m (events ++ more) m'' := by
  induction h' with
  | start =>
    rw [List.append_nil]
    exact h
  | step run next ih =>
    rw [← List.append_assoc]
    exact .step ih next

/-- The last event of a run is a step from where the others lead. -/
theorem Run.exists_step {first m' : Moment} {events : List Event} {event : Event}
    (h : Run first (events ++ [event]) m') : ∃ m, Run first events m ∧ Step m event m' := by
  generalize hall : events ++ [event] = all at h
  cases h with
  | start => exact absurd hall (List.append_ne_nil_of_right_ne_nil _ (List.cons_ne_nil _ _))
  | step run next =>
    obtain ⟨rfl, hlast⟩ := List.append_inj' hall rfl
    cases hlast
    exact ⟨_, run, next⟩

/-- A run goes through the moment behind its first events. -/
theorem Run.exists_of_append {first m' : Moment} {events more : List Event}
    (h : Run first (events ++ more) m') : ∃ m, Run first events m := by
  induction more generalizing events with
  | nil =>
    rw [List.append_nil] at h
    exact ⟨m', h⟩
  | cons event more ih =>
    rw [List.append_cons] at h
    obtain ⟨m, hm⟩ := ih h
    obtain ⟨m₀, hm₀, -⟩ := hm.exists_step
    exact ⟨m₀, hm₀⟩

/-! ## 2. The state -/

namespace Event

theorem commands_append (events more : List Event) :
    commands (events ++ more) = commands events ++ commands more :=
  List.filterMap_append

theorem commands_cons_sent (command : Command) (events : List Event) :
    commands (.sent (.command command) :: events) = command :: commands events := by
  rfl

end Event

theorem Step.state_eq {m m' : Moment} {event : Event} (h : Step m event m') :
    m'.state = m.state.run (Event.commands [event]) := by
  cases h <;> rfl

/-- **No command is lost.** -/
theorem Run.state_eq {first m : Moment} {events : List Event} (h : Run first events m) :
    m.state = first.state.run (Event.commands events) := by
  induction h with
  | start => rfl
  | step run next ih => rw [next.state_eq, ih, Event.commands_append, State.run_append]

/-- Who is answered gets the state. -/
theorem Step.answer_eq {m m' : Moment} {answer : State} (h : Step m (.answered answer) m') :
    answer = m'.state := by
  cases h
  rfl

/-! ## 3. What listeners are told -/

/-- What can happen in the course of one telling, which stands inside the outer ones. -/
inductive Course (previous : State) (outer : List Telling) (first : Moment) :
    List Event → Moment → Prop where
  | start {waiting : List String} (h : first.tellings = ⟨previous, waiting⟩ :: outer) :
      Course previous outer first [] first
  | step {events : List Event} {m m' : Moment} {event : Event} {inner : List Telling}
      {waiting : List String} (course : Course previous outer first events m)
      (next : Step m event m') (h : m'.tellings = inner ++ ⟨previous, waiting⟩ :: outer) :
      Course previous outer first (events ++ [event]) m'

/-- A telling was opened in the course of some events by a command, which changed the state if any
    listener is left to be told; what has happened since happened in the course of the telling. -/
def Opened (first : Moment) (events : List Event) (m : Moment) (telling : Telling)
    (outer : List Telling) : Prop :=
  ∃ before command since opening opened,
    events = before ++ .sent (.command command) :: since ∧ Run first before opening ∧
    opening.state = telling.previous ∧ opening.tellings = outer ∧
    Step opening (.sent (.command command)) opened ∧
    Course telling.previous outer opened since m ∧
    (telling.waiting ≠ [] → telling.previous.apply command ≠ telling.previous)

/-- Where a telling in progress comes from: it was in progress before the step, with no fewer
    listeners left, or the step opened it. -/
theorem Step.telling_cases {m m' : Moment} {event : Event} (h : Step m event m')
    {inner outer : List Telling} {telling : Telling}
    (htellings : m'.tellings = inner ++ telling :: outer) :
    (∃ inner₀ telling₀, m.tellings = inner₀ ++ telling₀ :: outer ∧
      telling₀.previous = telling.previous ∧
      (telling.waiting ≠ [] → telling₀.waiting ≠ [])) ∨
    ∃ command, event = .sent (.command command) ∧ inner = [] ∧ m.tellings = outer ∧
      m.state = telling.previous ∧
      (telling.waiting ≠ [] → telling.previous.apply command ≠ telling.previous) := by
  cases h with
  | refuse text => exact .inl ⟨inner, telling, htellings, rfl, id⟩
  | send command =>
    cases inner with
    | nil =>
      cases htellings
      exact .inr ⟨command, rfl, rfl, rfl, rfl, fun hwaiting hsame => hwaiting (if_pos hsame)⟩
    | cons newest inner => exact .inl ⟨inner, telling, (List.cons.inj htellings).2, rfl, id⟩
  | @tell s previous active waiting tellings listener =>
    cases inner with
    | nil =>
      cases htellings
      exact .inl ⟨[], _, rfl, rfl, fun _ => List.cons_ne_nil _ _⟩
    | cons newest inner =>
      have htellings : tellings = inner ++ telling :: outer := (List.cons.inj htellings).2
      exact .inl ⟨⟨previous, listener :: waiting⟩ :: inner, telling, congrArg _ htellings, rfl, id⟩
  | answer => exact .inl ⟨_ :: inner, telling, congrArg _ htellings, rfl, id⟩
  | subscribe listener => exact .inl ⟨inner, telling, htellings, rfl, id⟩
  | cancel listener => exact .inl ⟨inner, telling, htellings, rfl, id⟩
  | giveBack => exact .inl ⟨inner, telling, htellings, rfl, id⟩
  | escape => exact .inl ⟨_ :: inner, telling, congrArg _ htellings, rfl, id⟩

theorem Run.opened {first m : Moment} {events : List Event} (h : Run first events m)
    (hfirst : first.tellings = []) {inner outer : List Telling} {telling : Telling}
    (htellings : m.tellings = inner ++ telling :: outer) :
    Opened first events m telling outer := by
  induction h generalizing inner telling with
  | start =>
    rw [hfirst] at htellings
    exact absurd htellings.symm (List.append_ne_nil_of_right_ne_nil _ (List.cons_ne_nil _ _))
  | @step events m m' event run next ih =>
    rcases next.telling_cases htellings with ⟨inner₀, telling₀, hm, hprevious, hwaiting⟩ |
      ⟨command, rfl, rfl, hm, hprevious, hchange⟩
    · obtain ⟨before, command, since, opening, opened, rfl, hrun, hstate, houter, hopen, hcourse,
        hchange⟩ := ih hm
      rw [hprevious] at hstate hcourse hchange
      refine ⟨before, command, since ++ [event], opening, opened, ?_, hrun, hstate, houter, hopen,
        hcourse.step next htellings, fun hleft => hchange (hwaiting hleft)⟩
      rw [List.append_assoc, List.cons_append]
    · exact ⟨events, command, [], m, m', rfl, run, hprevious, hm, next, .start htellings, hchange⟩

/-- **Every call tells of a change.** The state before it is one that a command has changed, and the
    present state is what the commands sent since, in the course of the telling, have made of the
    changed one. -/
theorem Run.told {first m : Moment} {events : List Event} {notice : Notice}
    (h : Run first (events ++ [.told notice]) m) (hfirst : first.tellings = []) :
    ∃ before command since opening opened now,
      events = before ++ .sent (.command command) :: since ∧ Run first before opening ∧
      Step opening (.sent (.command command)) opened ∧
      Course notice.previous opening.tellings opened since now ∧ Step now (.told notice) m ∧
      notice.previous = opening.state ∧
      notice.previous.apply command ≠ notice.previous ∧
      notice.current = (notice.previous.apply command).run (Event.commands since) := by
  obtain ⟨now, hrun, htell⟩ := h.exists_step
  have hnow := hrun.state_eq
  cases htell with
  | tell listener =>
    obtain ⟨before, command, since, opening, opened, hevents, hbefore, hstate, houter, hopen, hcourse,
      hchange⟩ := hrun.opened hfirst (List.nil_append _).symm
    subst houter
    refine ⟨before, command, since, opening, opened, _, hevents, hbefore, hopen, hcourse,
      .tell listener, hstate.symm, hchange (List.cons_ne_nil _ _), ?_⟩
    simp only at hnow hstate
    rw [hnow, hevents, Event.commands_append, Event.commands_cons_sent, State.run_append,
      ← hbefore.state_eq, hstate]
    rfl

end DeskCalc
