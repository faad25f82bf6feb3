import Mathlib.Data.List.Induction
import Mathlib.Data.List.Nodup
import DeskCalc.Proofs.Calculator.Run
import DeskCalc.Proofs.Calculator.Subscriptions

/-!
# What listeners hear who only listen

A listener that does nothing when told hears of every change of the state from its subscription to
its cancellation, and of nothing else. Its calls are therefore a log of the state: each begins with
the state in which the one before it ended. This file fixes

* `State.changes`: the changes that commands make, and `State.Linked`: changes that lead from one
  state to another;
* `Engine.steps`: actions at the top level, where a fault ends its own action only;
* `Stepped`: what one action does where nobody acts when told, and `stepped`: it does just this;
* `calls_steps`: what a listener hears in the course of some actions;
* **`hears_every_change`**: the calls of a listener are the changes made while it is subscribed.
-/

namespace DeskCalc

/-! ## 1. Changes -/

namespace State

/-- The changes that some commands make, each as the state before it and the state after it. -/
def changes (s : State) : List Command → List (State × State)
  | [] => []
  | command :: rest =>
    (if s.apply command = s then [] else [(s, s.apply command)]) ++ (s.apply command).changes rest

theorem changes_append (s : State) (commands more : List Command) :
    s.changes (commands ++ more) = s.changes commands ++ (s.run commands).changes more := by
  induction commands generalizing s with
  | nil => rfl
  | cons command rest ih =>
    simp only [List.cons_append, changes, ih, List.append_assoc]
    rfl

/-- Each change begins where the one before it ended, the first in one state and the last ending in
    another; if there is none, the two are the same. -/
def Linked (last : State) : State → List (State × State) → Prop
  | s, [] => s = last
  | s, (previous, current) :: rest => previous = s ∧ Linked last current rest

theorem linked_changes (s : State) (commands : List Command) :
    Linked (s.run commands) s (s.changes commands) := by
  induction commands generalizing s with
  | nil => rfl
  | cons command rest ih =>
    unfold changes
    split
    · rename_i hsame
      have hrest := ih s
      simpa only [run, List.foldl_cons, hsame, List.nil_append] using hrest
    · exact ⟨rfl, ih (s.apply command)⟩

end State

/-! ## 2. Listeners that do nothing when told -/

/-- The listener neither acts on the engine nor fails when it is told. -/
def Listener.Quiet (listener : Listener) : Prop := ∀ reply ∈ listener.replies, reply = []

namespace Action

/-- The action brings along no listener but quiet ones. -/
def Quiet : Action → Prop
  | .subscribe listener replies => Listener.Quiet ⟨listener, replies⟩
  | _ => True

/-- The command that is sent. A request that is none does not count. -/
def command? : Action → Option Command
  | .send (.command command) => some command
  | _ => none

/-- The listener that is subscribed. -/
def subscriber? : Action → Option String
  | .subscribe listener _ => some listener
  | _ => none

/-- The listener of which a subscription is cancelled. -/
def cancelled? : Action → Option String
  | .cancel listener _ => some listener
  | _ => none

/-- The active subscriptions after the action. -/
def changeActive (active : List String) : Action → List String
  | .send _ => active
  | .subscribe listener _ => active ++ [listener]
  | .cancel listener _ => active.erase listener

end Action

namespace Engine

/-- Nobody acts when told. -/
def Quiet (e : Engine) : Prop := ∀ listener ∈ e.listeners, listener.Quiet

theorem quiet_first (s : State) : ({ state := s } : Engine).Quiet :=
  fun _ hlistener => nomatch hlistener

theorem takeReply_of_quiet {listeners : List Listener} (h : ∀ l ∈ listeners, l.Quiet)
    (name : String) :
    (takeReply name listeners).1 = [] ∧ ∀ l ∈ (takeReply name listeners).2, l.Quiet := by
  induction listeners with
  | nil => exact ⟨rfl, h⟩
  | cons listener others ih =>
    obtain ⟨hfirst, hothers⟩ := List.forall_mem_cons.1 h
    unfold takeReply
    split
    · split
      · exact ⟨rfl, h⟩
      · rename_i reply later hreplies
        unfold Listener.Quiet at hfirst
        rw [hreplies, List.forall_mem_cons] at hfirst
        exact ⟨hfirst.1, List.forall_mem_cons.2 ⟨hfirst.2, hothers⟩⟩
    · obtain ⟨hreply, hleft⟩ := ih hothers
      exact ⟨hreply, List.forall_mem_cons.2 ⟨hfirst, hleft⟩⟩

/-- Quiet listeners are told one after another, and nothing else happens. -/
theorem tellAll_of_quiet {e : Engine} (h : e.Quiet) (previous : State) (names : List String) :
    ∃ listeners, (∀ l ∈ listeners, l.Quiet) ∧
      sequence (tell perform previous) e names =
        ({ e with
            listeners := listeners
            notices := e.notices ++ names.map (⟨·, previous, e.state⟩) }, none) := by
  induction names generalizing e with
  | nil => exact ⟨e.listeners, h, by simp [sequence]⟩
  | cons name rest ih =>
    obtain ⟨hreply, hleft⟩ := takeReply_of_quiet h name
    have htell : tell perform previous e name =
        ({ e with
            listeners := (takeReply name e.listeners).2
            notices := e.notices ++ [⟨name, previous, e.state⟩] }, none) := by
      simp only [tell, hreply, perform_nil]
    obtain ⟨listeners, hquiet, hrest⟩ := ih (e := { e with
      listeners := (takeReply name e.listeners).2
      notices := e.notices ++ [⟨name, previous, e.state⟩] }) hleft
    refine ⟨listeners, hquiet, ?_⟩
    simp only [sequence, htell, hrest, List.map_cons, List.append_assoc, List.singleton_append]

/-! ## 3. One action after another -/

/-- The engine after an action, whether it failed or not. -/
def step (e : Engine) (action : Action) : Engine := (e.perform [action]).1

/-- The engine after some actions at the top level. A fault ends the action in which it occurs, and
    the next one goes on. -/
def steps (e : Engine) (actions : List Action) : Engine := actions.foldl step e

theorem steps_append (e : Engine) (actions more : List Action) :
    e.steps (actions ++ more) = (e.steps actions).steps more :=
  List.foldl_append

/-- What an action does where nobody acts when told: every change that it makes is told to all active
    listeners, one after another. -/
structure Stepped (e : Engine) (action : Action) (e' : Engine) : Prop where
  quiet : e'.Quiet
  state : e'.state = e.state.run action.command?.toList
  active : e'.active = action.changeActive e.active
  notices : e'.notices = e.notices ++
    (e.state.changes action.command?.toList).flatMap fun (previous, current) =>
      e.active.map (⟨·, previous, current⟩)

theorem stepped {e : Engine} (h : e.Quiet) {action : Action} (hquiet : action.Quiet) :
    Stepped e action (e.step action) := by
  have hnothing : e.notices = e.notices ++ [] := (List.append_nil _).symm
  unfold step
  rw [perform_singleton]
  cases action with
  | cancel name number => exact ⟨h, rfl, rfl, hnothing⟩
  | subscribe name replies =>
    refine ⟨?_, rfl, rfl, hnothing⟩
    unfold Quiet act subscribe
    simp only
    split
    · exact h
    · exact List.forall_mem_append.2 ⟨h, List.forall_mem_singleton.2 hquiet⟩
  | send request =>
    cases request with
    | unknown text => exact ⟨h, rfl, rfl, hnothing⟩
    | command command =>
      have hbegun : Quiet { e with
          state := e.state.apply command
          requests := e.requests ++ [.command command] } := h
      obtain ⟨listeners, hleft, htold⟩ := tellAll_of_quiet hbegun e.state
        (if e.state.apply command = e.state then [] else e.active)
      simp only [act, send_command, htold, answer]
      refine ⟨hleft, rfl, rfl, ?_⟩
      by_cases hsame : e.state.apply command = e.state
      · simp [Action.command?, State.changes, hsame]
      · simp [Action.command?, State.changes, hsame]

/-- The commands among some actions. -/
def commands (actions : List Action) : List Command := actions.filterMap Action.command?

/-- The listeners that some actions subscribe, in order. -/
def subscribers (actions : List Action) : List String := actions.filterMap Action.subscriber?

/-- The listeners of which some actions cancel a subscription. -/
def cancelled (actions : List Action) : List String := actions.filterMap Action.cancelled?

theorem commands_cons (action : Action) (actions : List Action) :
    commands (action :: actions) = action.command?.toList ++ commands actions := by
  cases h : action.command? <;> simp [commands, h]

theorem commands_append (actions more : List Action) :
    commands (actions ++ more) = commands actions ++ commands more :=
  List.filterMap_append

theorem quiet_steps {e : Engine} (h : e.Quiet) {actions : List Action}
    (hquiet : ∀ action ∈ actions, action.Quiet) : (e.steps actions).Quiet := by
  induction actions generalizing e with
  | nil => exact h
  | cons action rest ih =>
    obtain ⟨hfirst, hrest⟩ := List.forall_mem_cons.1 hquiet
    exact ih (stepped h hfirst).quiet hrest

theorem state_steps {e : Engine} (h : e.Quiet) {actions : List Action}
    (hquiet : ∀ action ∈ actions, action.Quiet) :
    (e.steps actions).state = e.state.run (commands actions) := by
  induction actions generalizing e with
  | nil => rfl
  | cons action rest ih =>
    obtain ⟨hfirst, hrest⟩ := List.forall_mem_cons.1 hquiet
    have hstep := stepped h hfirst
    rw [commands_cons, State.run_append, ← hstep.state]
    exact ih hstep.quiet hrest

/-! ## 4. The calls of one listener -/

/-- The calls of a listener so far, each as the two states that it was told. -/
def calls (e : Engine) (listener : String) : List (State × State) :=
  (e.notices.filter (·.listener = listener)).map fun notice => (notice.previous, notice.current)

/-- In one action a listener hears of every change, once for each of its subscriptions. -/
theorem Stepped.calls {e e' : Engine} {action : Action} (h : Stepped e action e')
    (listener : String) :
    e'.calls listener = e.calls listener ++
      (e.state.changes action.command?.toList).flatMap
        (List.replicate (e.active.count listener)) := by
  have htold (previous current : State) :
      ((e.active.map (⟨·, previous, current⟩ : String → Notice)).filter
        (·.listener = listener)).map (fun notice => (notice.previous, notice.current)) =
      List.replicate (e.active.count listener) (previous, current) := by
    generalize e.active = active
    induction active with
    | nil => rfl
    | cons name rest ih =>
      by_cases hname : name = listener
      · simp only [List.map_cons, hname, decide_true, List.filter_cons_of_pos, ih,
          List.count_cons_self, List.replicate_succ]
      · simp only [List.map_cons, hname, decide_false, List.filter_cons_of_neg, ih,
          List.count_cons_of_ne hname, Bool.false_eq_true, not_false_eq_true]
  unfold Engine.calls
  rw [h.notices, List.filter_append, List.map_append]
  congr 1
  rw [List.filter_flatMap, List.map_flatMap]
  exact congrArg (List.flatMap · _) (funext fun change => htold change.1 change.2)

/-- An action keeps the number of a listener's subscriptions, unless it subscribes the listener or
    cancels one that is left. -/
theorem count_changeActive {active : List String} {action : Action} {listener : String}
    (hsubscribe : action.subscriber? ≠ some listener)
    (hcancel : listener ∈ active → action.cancelled? ≠ some listener) :
    (action.changeActive active).count listener = active.count listener := by
  cases action with
  | send request => rfl
  | subscribe name replies =>
    have hname : name ≠ listener := fun hsame => hsubscribe (congrArg some hsame)
    simp [Action.changeActive, List.count_cons_of_ne hname]
  | cancel name number =>
    by_cases hname : name = listener
    · subst hname
      have habsent : name ∉ active := fun hactive => hcancel hactive rfl
      simp only [Action.changeActive, List.erase_of_not_mem habsent]
    · exact List.count_erase_of_ne (Ne.symm hname)

/-- As long as a listener neither subscribes nor cancels, it hears of every change, once for each of
    its subscriptions. Without a subscription it may cancel, too. -/
theorem calls_steps {e : Engine} (h : e.Quiet) {actions : List Action}
    (hquiet : ∀ action ∈ actions, action.Quiet) {listener : String}
    (hsubscribe : listener ∉ subscribers actions)
    (hcancel : listener ∈ e.active → listener ∉ cancelled actions) :
    (e.steps actions).active.count listener = e.active.count listener ∧
    (e.steps actions).calls listener = e.calls listener ++
      (e.state.changes (commands actions)).flatMap
        (List.replicate (e.active.count listener)) := by
  induction actions generalizing e with
  | nil => exact ⟨rfl, (List.append_nil _).symm⟩
  | cons action rest ih =>
    simp only [subscribers, cancelled, List.mem_filterMap, List.exists_mem_cons_iff, not_or]
      at hsubscribe hcancel
    obtain ⟨hfirst, hrest⟩ := List.forall_mem_cons.1 hquiet
    have hstep := stepped h hfirst
    have hcount : (e.step action).active.count listener = e.active.count listener := by
      rw [hstep.active]
      exact count_changeActive hsubscribe.1 fun hactive => (hcancel hactive).1
    have hactive (hmem : listener ∈ (e.step action).active) : listener ∈ e.active := by
      rw [← List.count_pos_iff] at hmem ⊢
      rwa [← hcount]
    obtain ⟨hlast, hcalls⟩ := ih hstep.quiet hrest
      (fun hmem => hsubscribe.2 (List.mem_filterMap.1 hmem))
      (fun hmem hlater => (hcancel (hactive hmem)).2 (List.mem_filterMap.1 hlater))
    refine ⟨hlast.trans hcount, hcalls.trans ?_⟩
    rw [hstep.calls, hcount, hstep.state, commands_cons, State.changes_append, List.flatMap_append,
      List.append_assoc]

/-! ## 5. Which listeners are active -/

/-- The listener has been subscribed and not cancelled since. -/
def Subscribed (actions : List Action) (listener : String) : Prop :=
  ∃ before replies since, actions = before ++ .subscribe listener replies :: since ∧
    listener ∉ cancelled since

theorem cancelled_append (actions more : List Action) :
    cancelled (actions ++ more) = cancelled actions ++ cancelled more :=
  List.filterMap_append

theorem subscribers_append (actions more : List Action) :
    subscribers (actions ++ more) = subscribers actions ++ subscribers more :=
  List.filterMap_append

theorem subscribed_concat {actions : List Action} {action : Action} {listener : String} :
    Subscribed (actions ++ [action]) listener ↔
      action.subscriber? = some listener ∨
        Subscribed actions listener ∧ action.cancelled? ≠ some listener := by
  constructor
  · rintro ⟨before, replies, since, hall, hkept⟩
    rcases List.eq_nil_or_concat since with rfl | ⟨since, last, rfl⟩
    · obtain ⟨-, hlast⟩ := List.append_inj' hall rfl
      cases hlast
      exact .inl rfl
    · rw [List.concat_eq_append, ← List.cons_append, ← List.append_assoc] at hall
      obtain ⟨rfl, hlast⟩ := List.append_inj' hall rfl
      cases hlast
      rw [List.concat_eq_append, cancelled_append, List.mem_append, not_or] at hkept
      refine .inr ⟨⟨before, replies, since, rfl, hkept.1⟩, fun hcancel => hkept.2 ?_⟩
      simp [cancelled, hcancel]
  · rintro (hsubscribe | ⟨⟨before, replies, since, rfl, hkept⟩, hcancel⟩)
    · cases action <;> cases hsubscribe
      exact ⟨actions, _, [], rfl, List.not_mem_nil⟩
    · refine ⟨before, replies, since ++ [action], ?_, ?_⟩
      · rw [List.append_assoc, List.cons_append]
      · rw [cancelled_append, List.mem_append, not_or]
        exact ⟨hkept, by simpa [cancelled] using hcancel⟩

/-- Where no listener subscribes twice, the active ones are those that have not been cancelled since
    they were subscribed, in the order in which they were. -/
theorem active_steps (s : State) {actions : List Action}
    (hquiet : ∀ action ∈ actions, action.Quiet) (once : (subscribers actions).Nodup) :
    (({ state := s } : Engine).steps actions).active.Sublist (subscribers actions) ∧
      ∀ listener, listener ∈ (({ state := s } : Engine).steps actions).active ↔
        Subscribed actions listener := by
  induction actions using List.reverseRecOn with
  | nil =>
    refine ⟨List.Sublist.refl _, fun listener => ⟨(fun hactive => nomatch hactive), ?_⟩⟩
    rintro ⟨before, replies, since, hall, -⟩
    exact absurd hall.symm (List.append_ne_nil_of_right_ne_nil _ (List.cons_ne_nil _ _))
  | append_singleton actions action ih =>
    obtain ⟨hfront, hlast⟩ := List.forall_mem_append.1 hquiet
    rw [subscribers_append] at once ⊢
    obtain ⟨hsublist, hactive⟩ := ih hfront once.of_append_left
    have hstep := stepped (quiet_steps (quiet_first s) hfront)
      (List.forall_mem_singleton.1 hlast)
    rw [steps_append]
    show (step _ action).active.Sublist _ ∧ ∀ listener, listener ∈ (step _ action).active ↔ _
    rw [hstep.active]
    simp only [subscribed_concat, ← hactive]
    have hnodup := once.of_append_left.sublist hsublist
    cases action with
    | send request =>
      refine ⟨hsublist.trans (List.sublist_append_left _ _), fun listener => ?_⟩
      simp [Action.changeActive, Action.subscriber?, Action.cancelled?]
    | subscribe name replies =>
      refine ⟨hsublist.append (List.Sublist.refl [name]), fun listener => ?_⟩
      simp [Action.changeActive, Action.subscriber?, Action.cancelled?, or_comm, eq_comm]
    | cancel name number =>
      refine ⟨(List.erase_sublist.trans hsublist).trans (List.sublist_append_left _ _),
        fun listener => ?_⟩
      simp [Action.changeActive, Action.subscriber?, Action.cancelled?, hnodup.mem_erase_iff,
        and_comm, eq_comm]

/-! ## 6. The log of a listener -/

section Log

variable (s : State) {actions : List Action}

/-- Before its subscription a listener is not called. -/
theorem calls_before {before : List Action} (hquiet : ∀ action ∈ before, action.Quiet)
    {listener : String} (h : listener ∉ subscribers before) :
    (({ state := s } : Engine).steps before).calls listener = [] ∧
      (({ state := s } : Engine).steps before).active.count listener = 0 := by
  obtain ⟨hcount, hcalls⟩ :=
    calls_steps (quiet_first s) hquiet h (fun hactive => nomatch hactive)
  exact ⟨hcalls.trans (by simp [calls]), hcount⟩

/-- While it is subscribed, a listener is called for every change. -/
theorem calls_while_subscribed {before window : List Action} {listener : String}
    {replies : List (List Action)}
    (hquiet : ∀ action ∈ before ++ .subscribe listener replies :: window, action.Quiet)
    (once : (subscribers (before ++ .subscribe listener replies :: window)).Nodup)
    (hcancel : listener ∉ cancelled window) :
    (({ state := s } : Engine).steps
        (before ++ .subscribe listener replies :: window)).calls listener =
      (({ state := s } : Engine).steps before).state.changes (commands window) := by
  obtain ⟨hbefore, hrest⟩ := List.forall_mem_append.1 hquiet
  obtain ⟨hsubscribe, hwindow⟩ := List.forall_mem_cons.1 hrest
  have hstep := stepped (quiet_steps (quiet_first s) hbefore) hsubscribe
  rw [subscribers_append] at once
  obtain ⟨hearlier, hlater⟩ : listener ∉ subscribers before ∧ listener ∉ subscribers window := by
    have hnew := (List.nodup_middle.1 once).notMem
    rwa [List.mem_append, not_or] at hnew
  obtain ⟨hcalls, hcount⟩ := calls_before s hbefore hearlier
  obtain ⟨-, htold⟩ := calls_steps hstep.quiet hwindow hlater (fun _ => hcancel)
  have hone : ((({ state := s } : Engine).steps before).step
      (.subscribe listener replies)).active.count listener = 1 := by
    rw [hstep.active]
    simp [Action.changeActive, hcount]
  rw [steps_append]
  show ((step _ (.subscribe listener replies)).steps window).calls listener = _
  have hsingle : List.replicate 1 = fun change : State × State => [change] := rfl
  rw [htold, hone, hstep.calls, hcalls, hstep.state, hsingle, List.flatMap_singleton']
  rfl

theorem state_while_subscribed {before window : List Action} {listener : String}
    {replies : List (List Action)}
    (hquiet : ∀ action ∈ before ++ .subscribe listener replies :: window, action.Quiet) :
    (({ state := s } : Engine).steps (before ++ .subscribe listener replies :: window)).state =
      (({ state := s } : Engine).steps before).state.run (commands window) := by
  have hbefore := (List.forall_mem_append.1 hquiet).1
  rw [state_steps (quiet_first s) hquiet, state_steps (quiet_first s) hbefore, ← State.run_append,
    ← commands_append]
  simp only [commands_append, commands_cons, Action.command?, Option.toList_none, List.nil_append]

/-- After its cancellation a listener is not called any more. -/
theorem calls_after_cancel {before rest : List Action} {listener : String} {number : Nat}
    (hquiet : ∀ action ∈ before ++ .cancel listener number :: rest, action.Quiet)
    (once : (subscribers (before ++ .cancel listener number :: rest)).Nodup)
    (hsubscribed : listener ∈ subscribers before) :
    (({ state := s } : Engine).steps (before ++ .cancel listener number :: rest)).calls listener =
      (({ state := s } : Engine).steps before).calls listener := by
  obtain ⟨hbefore, hcancelled⟩ := List.forall_mem_append.1 hquiet
  obtain ⟨hcancel, hrest⟩ := List.forall_mem_cons.1 hcancelled
  have hstep := stepped (quiet_steps (quiet_first s) hbefore) hcancel
  rw [subscribers_append] at once
  have hlater : listener ∉ subscribers rest := fun hagain =>
    List.disjoint_of_nodup_append once hsubscribed hagain
  have hnodup := once.of_append_left.sublist (active_steps s hbefore once.of_append_left).1
  have hgone : listener ∉ ((({ state := s } : Engine).steps before).step
      (.cancel listener number)).active := by
    rw [hstep.active]
    exact hnodup.not_mem_erase
  obtain ⟨-, htold⟩ :=
    calls_steps hstep.quiet hrest hlater (fun hactive => absurd hactive hgone)
  rw [steps_append]
  show ((step _ (.cancel listener number)).steps rest).calls listener = _
  rw [htold, List.count_eq_zero.2 hgone, hstep.calls]
  simp [Action.command?, State.changes]

/-- **Whoever only listens hears of every change.** From its subscription on, and until it cancels, a
    listener's calls are the changes that the commands since its subscription have made, and so they
    lead from the state at its subscription to the present one; after its cancellation it is not
    called any more. Of each change all active listeners are told once, in the order of their
    subscription. -/
theorem hears_every_change (quiet : ∀ action ∈ actions, action.Quiet)
    (once : (subscribers actions).Nodup) :
    let first : Engine := { state := s }
    (∀ before listener replies window,
      before ++ .subscribe listener replies :: window <+: actions →
      listener ∉ cancelled window →
      let subscribed := first.steps before
      let now := first.steps (before ++ .subscribe listener replies :: window)
      now.calls listener = subscribed.state.changes (commands window) ∧
      State.Linked now.state subscribed.state (now.calls listener)) ∧
    (∀ before listener number rest,
      before ++ .cancel listener number :: rest <+: actions → listener ∈ subscribers before →
      (first.steps (before ++ .cancel listener number :: rest)).calls listener =
        (first.steps before).calls listener) ∧
    ∀ before command, before ++ [.send (.command command)] <+: actions →
      let e := first.steps before
      (e.step (.send (.command command))).notices = e.notices ++
        (if e.state.apply command = e.state then []
        else e.active.map (⟨·, e.state, e.state.apply command⟩)) ∧
      e.active.Nodup ∧ e.active.Sublist (subscribers before) ∧
      ∀ listener, listener ∈ e.active ↔ Subscribed before listener := by
  intro first
  have hquiet {part : List Action} (hpart : part <+: actions) : ∀ action ∈ part, action.Quiet :=
    fun action haction => quiet action (hpart.subset haction)
  have honce {part : List Action} (hpart : part <+: actions) : (subscribers part).Nodup := by
    obtain ⟨rest, rfl⟩ := hpart
    rw [subscribers_append] at once
    exact once.of_append_left
  refine ⟨?_, ?_, ?_⟩
  · intro before listener replies window hpart hkept subscribed now
    have hcalls := calls_while_subscribed s (hquiet hpart) (honce hpart) hkept
    have hstate := state_while_subscribed s (hquiet hpart)
    refine ⟨hcalls, ?_⟩
    show State.Linked now.state subscribed.state (now.calls listener)
    rw [hcalls, hstate]
    exact State.linked_changes _ _
  · intro before listener number rest hpart hsubscribed
    exact calls_after_cancel s (hquiet hpart) (honce hpart) hsubscribed
  · intro before command hpart e
    have hfront := (List.prefix_append _ _).trans hpart
    obtain ⟨hsublist, hactive⟩ := active_steps s (hquiet hfront) (honce hfront)
    have hcommand : (Action.send (.command command)).Quiet := trivial
    have hstep := stepped (quiet_steps (quiet_first s) (hquiet hfront)) hcommand
    refine ⟨?_, (honce hfront).sublist hsublist, hsublist, hactive⟩
    rw [hstep.notices]
    by_cases hsame : e.state.apply command = e.state
    · simp [Action.command?, State.changes, e, first, hsame]
    · simp [Action.command?, State.changes, e, first, hsame]

end Log

/-- Of two listeners, one is there from the start and leaves early, the other one comes late; an
    unknown request and a command that changes nothing are among what is sent. -/
theorem two_listeners_hear_their_changes :
    let early : List Action :=
      [.send (.command (.append "5" false)), .send (.unknown "?"), .subscribe "b" [[]],
        .send (.command .clear), .send (.command .clear)]
    let late : List Action := [.send (.command (.append "1" false))]
    let actions : List Action := .subscribe "a" [] :: early ++ .cancel "a" 0 :: late
    let five : State := ⟨"5", [], .input, ""⟩
    let empty : State := ⟨"", [], .input, ""⟩
    let e := ({} : Engine).steps actions
    e.calls "a" = [({}, five), (five, empty)] ∧
      e.calls "b" = [(five, empty), (empty, ⟨"1", [], .input, ""⟩)] := by
  intro early late actions five empty e
  have hquiet : ∀ action ∈ actions, action.Quiet := by
    simp [actions, early, late, Action.Quiet, Listener.Quiet]
  have honce : (subscribers actions).Nodup := by decide
  obtain ⟨hchanges, hafter, -⟩ := hears_every_change {} hquiet honce
  obtain ⟨ha, -⟩ := hchanges [] "a" [] early ⟨.cancel "a" 0 :: late, rfl⟩ (by decide)
  obtain ⟨hb, -⟩ := hchanges (.subscribe "a" [] :: early.take 2) "b" [[]]
    (early.drop 3 ++ .cancel "a" 0 :: late) ⟨[], rfl⟩ (by decide)
  refine ⟨?_, ?_⟩
  · have hlast := hafter (.subscribe "a" [] :: early) "a" 0 late ⟨[], rfl⟩ (by decide)
    refine (hlast.trans ha).trans ?_
    decide +kernel
  · refine hb.trans ?_
    decide +kernel

end Engine

end DeskCalc
