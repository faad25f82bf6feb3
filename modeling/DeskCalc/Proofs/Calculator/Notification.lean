import DeskCalc.Proofs.Calculator.Depth
import DeskCalc.Proofs.Calculator.Moments

/-!
# Scripted clients

`Engine.perform` lets callers and listeners act by script. All that happens in it are steps of an
engine among clients, and the engine's records say which, so the laws of `Run` hold of it at every
moment. This file fixes

* `Recorded`: the records of an engine grow by what some events say;
* `Leads`: a run from one situation to another, and its records;
* `leads_perform`: performing is such a run;
* `begun`: the actions that are begun before one ends early, and `Lawful.exists_sent`: what they
  send is recorded;
* **`commands_applied_in_order`**: no command is lost, however deep listeners send them, and who is
  answered gets the present state;
* **`told_change_or_undone`**: a listener is told of a change, which may have been undone by then.
-/

namespace DeskCalc

/-- The command, if the request is one. -/
def Request.command? : Request → Option Command
  | .command sent => some sent
  | .unknown _ => none

/-- The request that an action sends, if it sends one. -/
def Action.request? : Action → Option Request
  | send request => some request
  | subscribe _ _ => none
  | cancel _ _ => none

theorem Event.commands_eq (events : List Event) :
    Event.commands events = (events.filterMap Event.request?).filterMap Request.command? := by
  rw [Event.commands, List.filterMap_filterMap]
  congr 1
  funext event
  rcases event with request | _ | _ | _ | _ | _ | _
  · cases request <;> rfl
  all_goals rfl

namespace Engine

/-! ## 1. Records -/

/-- The records of an engine grow by what some events say. -/
structure Recorded (e : Engine) (events : List Event) (e' : Engine) : Prop where
  requests : e'.requests = e.requests ++ events.filterMap Event.request?
  notices : e'.notices = e.notices ++ events.filterMap Event.notice?
  answers : e'.answers = e.answers ++ events.filterMap Event.answer?

theorem Recorded.refl (e : Engine) : Recorded e [] e where
  requests := (List.append_nil _).symm
  notices := (List.append_nil _).symm
  answers := (List.append_nil _).symm

theorem Recorded.append {e e' e'' : Engine} {events more : List Event}
    (h : Recorded e events e') (h' : Recorded e' more e'') :
    Recorded e (events ++ more) e'' where
  requests := by rw [h'.requests, h.requests, List.append_assoc, List.filterMap_append]
  notices := by rw [h'.notices, h.notices, List.append_assoc, List.filterMap_append]
  answers := by rw [h'.answers, h.answers, List.append_assoc, List.filterMap_append]

/-- An engine with the tellings in progress. -/
structure Situation where
  engine : Engine
  tellings : List Telling
  turn : Turn

def Situation.moment (s : Situation) : Moment :=
  ⟨s.engine.state, s.engine.active, s.tellings, s.turn⟩

/-- An engine of which nobody is told anything. -/
def moment (e : Engine) : Moment := Situation.moment ⟨e, [], .client⟩

/-- Some run leads from one situation to the other, and the engine has recorded it. -/
def Leads (s s' : Situation) : Prop :=
  ∃ events, Run s.moment events s'.moment ∧ Recorded s.engine events s'.engine

theorem Leads.refl (s : Situation) : Leads s s := ⟨[], .start, .refl _⟩

theorem Leads.trans {s s' s'' : Situation} (h : Leads s s') (h' : Leads s' s'') : Leads s s'' := by
  obtain ⟨events, hrun, hrecorded⟩ := h
  obtain ⟨more, hrun', hrecorded'⟩ := h'
  exact ⟨events ++ more, hrun.append hrun', hrecorded.append hrecorded'⟩

/-- The state is what the requests recorded since have made of the earlier one. -/
theorem Leads.state_eq {s s' : Situation} (h : Leads s s') {sent : List Request}
    (hsent : s'.engine.requests = s.engine.requests ++ sent) :
    s'.engine.state = s.engine.state.run (sent.filterMap Request.command?) := by
  obtain ⟨events, hrun, hrecorded⟩ := h
  have hsame : sent = events.filterMap Event.request? :=
    List.append_cancel_left (hsent.symm.trans hrecorded.requests)
  rw [hsame, ← Event.commands_eq]
  exact hrun.state_eq

theorem Leads.of_step {s s' : Situation} {event : Event} (h : Step s.moment event s'.moment)
    (hrecorded : Recorded s.engine [event] s'.engine) : Leads s s' :=
  ⟨[event], h.run, hrecorded⟩

/-- A step that no record tells of. -/
theorem Leads.of_silent_step {s s' : Situation} {event : Event}
    (h : Step s.moment event s'.moment)
    (hevent : event.request? = none ∧ event.notice? = none ∧ event.answer? = none)
    (hsame : s'.engine.requests = s.engine.requests ∧ s'.engine.notices = s.engine.notices ∧
      s'.engine.answers = s.engine.answers) : Leads s s' := by
  obtain ⟨hrequest, hnotice, hanswer⟩ := hevent
  obtain ⟨hrequests, hnotices, hanswers⟩ := hsame
  refine .of_step h ⟨?_, ?_, ?_⟩
  · simp [hrequest, hrequests]
  · simp [hnotice, hnotices]
  · simp [hanswer, hanswers]

/-! ## 2. Performing -/

/-- Who acts for listeners does so by steps. -/
def Lawful (react : Engine → List Action → Outcome) : Prop :=
  ∀ e actions tellings, Leads ⟨e, tellings, .client⟩ ⟨(react e actions).1, tellings, .client⟩

section Lawful

variable {react : Engine → List Action → Outcome}

theorem Lawful.tell (h : Lawful react) (previous : State) (e : Engine) (name : String)
    (waiting : List String) (tellings : List Telling) :
    Leads ⟨e, ⟨previous, name :: waiting⟩ :: tellings, .engine⟩
      ⟨(tell react previous e name).1, ⟨previous, waiting⟩ :: tellings, .client⟩ := by
  have htold : Leads ⟨e, ⟨previous, name :: waiting⟩ :: tellings, .engine⟩
      ⟨{ e with
          listeners := (takeReply name e.listeners).2
          notices := e.notices ++ [⟨name, previous, e.state⟩] },
        ⟨previous, waiting⟩ :: tellings, .client⟩ :=
    .of_step (.tell name) ⟨(List.append_nil _).symm, rfl, (List.append_nil _).symm⟩
  exact htold.trans (h _ _ _)

/-- All listeners are told, or one of them lets a fault escape. -/
theorem Lawful.answer_tellAll (h : Lawful react) (previous : State) (e : Engine)
    (names : List String) (tellings : List Telling) :
    Leads ⟨e, ⟨previous, names⟩ :: tellings, .engine⟩
      ⟨(answer (sequence (Engine.tell react previous) e names)).1, tellings, .client⟩ := by
  induction names generalizing e with
  | nil => exact .of_step .answer ⟨(List.append_nil _).symm, (List.append_nil _).symm, rfl⟩
  | cons name rest ih =>
    have htold := h.tell previous e name rest tellings
    unfold sequence
    split
    · rename_i e' he'
      rw [he'] at htold
      refine htold.trans (Leads.trans ?_ (ih e'))
      exact .of_silent_step .giveBack ⟨rfl, rfl, rfl⟩ ⟨rfl, rfl, rfl⟩
    · rename_i e' fault he'
      rw [he'] at htold
      refine htold.trans ?_
      exact .of_silent_step .escape ⟨rfl, rfl, rfl⟩ ⟨rfl, rfl, rfl⟩

theorem Lawful.send (h : Lawful react) (e : Engine) (request : Request)
    (tellings : List Telling) :
    Leads ⟨e, tellings, .client⟩ ⟨(send react e request).1, tellings, .client⟩ := by
  cases request with
  | unknown text =>
    exact .of_step (.refuse text) ⟨rfl, (List.append_nil _).symm, (List.append_nil _).symm⟩
  | command command =>
    rw [send_command]
    refine Leads.trans ?_ (h.answer_tellAll _ _ _ _)
    exact .of_step (.send command) ⟨rfl, (List.append_nil _).symm, (List.append_nil _).symm⟩

theorem Lawful.act (h : Lawful react) (e : Engine) (action : Action) (tellings : List Telling) :
    Leads ⟨e, tellings, .client⟩ ⟨(act react e action).1, tellings, .client⟩ := by
  cases action with
  | send request => exact h.send e request tellings
  | subscribe name replies =>
    exact .of_silent_step (.subscribe name) ⟨rfl, rfl, rfl⟩ ⟨rfl, rfl, rfl⟩
  | cancel name number => exact .of_silent_step (.cancel name) ⟨rfl, rfl, rfl⟩ ⟨rfl, rfl, rfl⟩

theorem Lawful.sequence_act (h : Lawful react) : Lawful (sequence (Engine.act react)) :=
  fun e _ tellings =>
    sequence_invariant (fun e' _ => Leads ⟨e, tellings, .client⟩ ⟨e', tellings, .client⟩)
      (fun e' action _ he' => he'.trans (h.act e' action tellings)) (fun _ _ he' => he') (.refl _)

end Lawful

theorem lawful_performWithin (depth : Nat) : Lawful (performWithin depth) := by
  induction depth with
  | zero => exact fun e actions tellings => .refl _
  | succ depth ih => exact ih.sequence_act

theorem lawful_perform : Lawful perform :=
  fun e actions => lawful_performWithin _ e actions

/-- **Performing is a run, and all of it is recorded.** -/
theorem leads_perform (e : Engine) (actions : List Action) :
    Leads ⟨e, [], .client⟩ ⟨(e.perform actions).1, [], .client⟩ :=
  lawful_perform e actions []

/-! ## 3. What is begun -/

/-- The things that are begun, up to and including the first that ends early. -/
def begun {α : Type} (step : Engine → α → Outcome) : Engine → List α → List α
  | _, [] => []
  | e, a :: rest =>
    a :: match step e a with
      | (e', none) => begun step e' rest
      | (_, some _) => []

theorem begun_cons {α : Type} {step : Engine → α → Outcome} {e e' : Engine} {a : α}
    (h : step e a = (e', none)) (rest : List α) :
    begun step e (a :: rest) = a :: begun step e' rest := by
  simp only [begun, h]

theorem begun_cons_of_fault {α : Type} {step : Engine → α → Outcome} {e e' : Engine} {a : α}
    {fault : UnknownCommand} (h : step e a = (e', some fault)) (rest : List α) :
    begun step e (a :: rest) = [a] := by
  simp only [begun, h]

theorem begun_prefix {α : Type} (step : Engine → α → Outcome) (e : Engine) (xs : List α) :
    begun step e xs <+: xs := by
  induction xs generalizing e with
  | nil => exact List.prefix_rfl
  | cons a rest ih =>
    rw [begun, List.cons_prefix_cons]
    refine ⟨rfl, ?_⟩
    split
    · exact ih _
    · exact List.nil_prefix

/-- If nothing ends early, all is begun. -/
theorem begun_eq {α : Type} {step : Engine → α → Outcome} {e : Engine} {xs : List α}
    (h : (sequence step e xs).2 = none) : begun step e xs = xs := by
  induction xs generalizing e with
  | nil => rfl
  | cons a rest ih =>
    unfold sequence at h
    split at h
    · rename_i e' he'
      rw [begun_cons he', ih h]
    · cases h

section Lawful

variable {react : Engine → List Action → Outcome}

/-- A request is recorded before all that listeners send about it. -/
theorem Lawful.exists_requests_send (h : Lawful react) (e : Engine) (request : Request) :
    ∃ more, (Engine.send react e request).1.requests = e.requests ++ request :: more := by
  cases request with
  | unknown text => exact ⟨[], rfl⟩
  | command command =>
    rw [send_command]
    obtain ⟨events, -, hrecorded⟩ := h.answer_tellAll e.state
      { e with
        state := e.state.apply command
        requests := e.requests ++ [.command command] }
      (if e.state.apply command = e.state then [] else e.active) []
    exact ⟨_, hrecorded.requests.trans (List.append_cons _ _ _).symm⟩

theorem Lawful.exists_requests_act (h : Lawful react) (e : Engine) (action : Action) :
    ∃ sent, (Engine.act react e action).1.requests = e.requests ++ sent ∧
      action.request?.toList.Sublist sent := by
  cases action with
  | send request =>
    obtain ⟨more, hmore⟩ := h.exists_requests_send e request
    exact ⟨_, hmore, (List.nil_sublist more).cons_cons request⟩
  | subscribe name replies => exact ⟨[], (List.append_nil _).symm, List.Sublist.refl _⟩
  | cancel name number => exact ⟨[], (List.append_nil _).symm, List.Sublist.refl _⟩

/-- **What begun actions send is recorded**, in their order. Between them stands what listeners have
    sent. -/
theorem Lawful.exists_sent (h : Lawful react) (e : Engine) (actions : List Action) :
    ∃ sent, (sequence (Engine.act react) e actions).1.requests = e.requests ++ sent ∧
      ((begun (Engine.act react) e actions).filterMap Action.request?).Sublist sent := by
  induction actions generalizing e with
  | nil => exact ⟨[], (List.append_nil _).symm, List.Sublist.refl _⟩
  | cons action rest ih =>
    obtain ⟨sent, hsent, hown⟩ := h.exists_requests_act e action
    have hcons (others : List Action) : (action :: others).filterMap Action.request? =
        action.request?.toList ++ others.filterMap Action.request? := by
      cases action <;> rfl
    unfold sequence
    split
    · rename_i e' he'
      rw [he'] at hsent
      obtain ⟨later, hlater, hrest⟩ := ih e'
      rw [begun_cons he', hcons]
      refine ⟨sent ++ later, ?_, hown.append hrest⟩
      rw [hlater, hsent, List.append_assoc]
    · rename_i e' fault he'
      rw [he'] at hsent
      rw [begun_cons_of_fault he', hcons, List.filterMap_nil, List.append_nil]
      exact ⟨sent, hsent, hown⟩

end Lawful

/-! ## 4. No command is lost -/

/-- **No command is lost.** At every moment the state is what all commands sent so far, by callers and
    by listeners, make of the first one, in the order in which they were sent, and whoever is
    answered gets that state. Performing goes through such moments only, as deep as the replies go:
    the requests that it records are those of the actions begun, with what listeners send between
    them, and the state is what their commands have made of the earlier one. -/
theorem commands_applied_in_order (e : Engine) :
    (∀ events m, Run e.moment events m →
      m.state = e.state.run (Event.commands events) ∧
      ∀ before answer, events = before ++ [.answered answer] → answer = m.state) ∧
    ∀ actions, e.perform actions = sequence (act perform) e actions ∧
      (∃ events, Run e.moment events (e.perform actions).1.moment ∧
        Recorded e events (e.perform actions).1) ∧
      begun (act perform) e actions <+: actions ∧
      ((e.perform actions).2 = none → begun (act perform) e actions = actions) ∧
      ∃ sent, (e.perform actions).1.requests = e.requests ++ sent ∧
        (e.perform actions).1.state = e.state.run (sent.filterMap Request.command?) ∧
        ((begun (act perform) e actions).filterMap Action.request?).Sublist sent := by
  refine ⟨fun events m hrun => ⟨hrun.state_eq, ?_⟩, fun actions => ?_⟩
  · rintro before answer rfl
    obtain ⟨m₀, -, hstep⟩ := hrun.exists_step
    exact hstep.answer_eq
  · have hequation := perform_eq_sequence e actions
    obtain ⟨sent, hsent, hbegun⟩ := lawful_perform.exists_sent e actions
    rw [← hequation] at hsent
    refine ⟨hequation, leads_perform e actions, begun_prefix _ e actions,
      fun hnone => begun_eq (hequation ▸ hnone), sent, hsent,
      (leads_perform e actions).state_eq hsent, hbegun⟩

/-- A listener sends a command while it is told of another one. The outer sender, too, gets the state
    that both commands have made. -/
theorem outer_sender_gets_inner_change :
    let e : Engine := { active := ["a"] }
    let s := e.state.apply (.append "1" false)
    let s' := s.apply (.append "9" false)
    let before : List Event := [.sent (.command (.append "1" false)), .told ⟨"a", {}, s⟩,
      .sent (.command (.append "9" false)), .told ⟨"a", s, s'⟩, .returned, .answered s', .returned]
    Run e.moment (before ++ [.answered s']) ⟨s', ["a"], [], .client⟩ ∧
      s' = ({} : State).run [.append "1" false, .append "9" false] ∧ s'.buffer = "19" := by
  intro e s s' before
  have houter : Run e.moment [.sent (.command (.append "1" false)), .told ⟨"a", {}, s⟩]
      ⟨s, ["a"], [⟨{}, []⟩], .client⟩ := by
    have hsent : Run e.moment [.sent (.command (.append "1" false))]
        ⟨s, ["a"], [⟨{}, ["a"]⟩], .engine⟩ := (Step.send (.append "1" false)).run
    exact hsent.step (.tell "a")
  have hinner : Run ⟨s, ["a"], [⟨{}, []⟩], .client⟩
      [.sent (.command (.append "9" false)), .told ⟨"a", s, s'⟩]
      ⟨s', ["a"], [⟨s, []⟩, ⟨{}, []⟩], .client⟩ := by
    have hsent : Run ⟨s, ["a"], [⟨{}, []⟩], .client⟩ [.sent (.command (.append "9" false))]
        ⟨s', ["a"], [⟨s, ["a"]⟩, ⟨{}, []⟩], .engine⟩ := (Step.send (.append "9" false)).run
    exact hsent.step (.tell "a")
  have hrun : Run e.moment (before ++ [.answered s']) ⟨s', ["a"], [], .client⟩ :=
    ((((houter.append hinner).step .giveBack).step .answer).step .giveBack).step .answer
  have hall := (commands_applied_in_order e).1 _ _ hrun
  exact ⟨hrun, (hall.2 before s' rfl).trans hall.1, by decide +kernel⟩

/-! ## 5. What listeners are told -/

/-- The calls that performing records are made in runs. -/
theorem exists_run_of_mem_notices {e : Engine} {actions : List Action} {notice : Notice}
    (h : notice ∈ (e.perform actions).1.notices) :
    notice ∈ e.notices ∨ ∃ events m, Run e.moment (events ++ [.told notice]) m := by
  obtain ⟨all, hrun, hrecorded⟩ := leads_perform e actions
  have hnotices := hrecorded.notices
  simp only at hnotices
  rw [hnotices, List.mem_append] at h
  rcases h with hold | hnew
  · exact .inl hold
  · right
    obtain ⟨event, hevent, hnotice⟩ := List.mem_filterMap.1 hnew
    have htold : event = .told notice := by
      cases event <;> cases hnotice
      rfl
    subst htold
    obtain ⟨events, since, rfl⟩ := List.append_of_mem hevent
    rw [List.append_cons] at hrun
    obtain ⟨m, hm⟩ := hrun.exists_of_append
    exact ⟨events, m, hm⟩

/-- **A listener is told of a change, which may have been undone by then.** The state before it is one
    that a command has changed, and the present one is what the commands sent since, in the course
    of the telling, have made of the changed one; if there are none, the two are different.
    Performing makes such calls only. -/
theorem told_change_or_undone (e : Engine) :
    (∀ events notice m, Run e.moment (events ++ [.told notice]) m →
      ∃ before command since opening opened now,
        events = before ++ .sent (.command command) :: since ∧
        Run e.moment before opening ∧ Step opening (.sent (.command command)) opened ∧
        Course notice.previous opening.tellings opened since now ∧ Step now (.told notice) m ∧
        notice.previous = opening.state ∧ notice.previous.apply command ≠ notice.previous ∧
        notice.current = (notice.previous.apply command).run (Event.commands since) ∧
        (Event.commands since = [] → notice.current ≠ notice.previous)) ∧
    ∀ actions, ∀ notice ∈ (e.perform actions).1.notices,
      notice ∈ e.notices ∨ ∃ events m, Run e.moment (events ++ [.told notice]) m := by
  refine ⟨fun events notice m hrun => ?_, fun _ _ => exists_run_of_mem_notices⟩
  obtain ⟨before, command, since, opening, opened, now, hevents, hbefore, hopen, hcourse, htell,
    hprevious, hchange, hcurrent⟩ := hrun.told rfl
  refine ⟨before, command, since, opening, opened, now, hevents, hbefore, hopen, hcourse, htell,
    hprevious, hchange, hcurrent, fun hnone => ?_⟩
  rw [hcurrent, hnone]
  exact hchange

/-- Whoever is told first is told of a change. -/
theorem first_listener_told_change :
    let s := ({} : State).apply (.append "1" false)
    Run ({ active := ["a"] } : Engine).moment
      ([.sent (.command (.append "1" false))] ++ [.told ⟨"a", {}, s⟩])
      ⟨s, ["a"], [⟨{}, []⟩], .client⟩ ∧ s ≠ {} := by
  intro s
  have hsent : Run ({ active := ["a"] } : Engine).moment [.sent (.command (.append "1" false))]
      ⟨s, ["a"], [⟨{}, ["a"]⟩], .engine⟩ := (Step.send (.append "1" false)).run
  have htold := hsent.step (.tell "a")
  obtain ⟨before, command, since, opening, opened, now, hevents, -, -, -, -, -, -, -, hne⟩ :=
    (told_change_or_undone { active := ["a"] }).1 _ ⟨"a", {}, s⟩ _ htold
  have hsince : since = [] := by
    cases before with
    | nil => exact (List.cons.inj hevents).2.symm
    | cons event before => simp at hevents
  exact ⟨htold, hne (congrArg Event.commands hsince)⟩

/-- One listener undoes the change that the other one is about to be told of. -/
theorem told_without_change :
    ¬∀ actions, ∀ notice ∈ (({} : Engine).perform actions).1.notices,
      notice.current ≠ notice.previous := by
  intro h
  have hb : (⟨"b", ⟨"5", [], .input, ""⟩, ⟨"5", [], .input, ""⟩⟩ : Notice) ∈
      (({} : Engine).perform [.send (.command (.append "5" false)),
        .subscribe "a" [[.send (.command .backspace)]], .subscribe "b" [],
        .send (.command (.append "1" false))]).1.notices := by
    decide +kernel
  exact h _ _ hb rfl

end Engine

end DeskCalc
