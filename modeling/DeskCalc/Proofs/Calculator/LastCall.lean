import DeskCalc.Proofs.Calculator.Notification

/-!
# The last call of a listener

When listeners send commands while they are told of others, the calls of one listener need not come
in the order of the changes: after an inner telling the outer one goes on. Still nobody is left with
an old state. Every change opens a telling of all active listeners, each of which is told the state
as it is by then, and as long as no listener lets a fault escape, every telling comes to its end.
This file fixes

* `lastCall`: the last call of a listener, and `known`: the state that it was told then;
* `UpToDate`: the listener knows the present state, or it will be told, and `Run.upToDate`: so it is
  at all moments, whatever listeners do;
* `Attentive`: who acts for listeners leaves the listener with the present state, and
  `attentive_performWithin`: scripted clients do;
* **`last_call_current`**: when nothing is being told any more, the last call of a listener has told
  it the present state.
-/

namespace DeskCalc

/-! ## 1. The last call -/

/-- The last call of a listener among some calls. -/
def lastCall (listener : String) (notices : List Notice) : Option Notice :=
  (notices.filter (·.listener = listener)).getLast?

/-- What a listener knows of the state after some calls, if it knew a first state before. -/
def known (listener : String) (first : State) (notices : List Notice) : State :=
  (lastCall listener notices).elim first (·.current)

theorem known_append (listener : String) (first : State) (notices more : List Notice) :
    known listener first (notices ++ more) =
      known listener (known listener first notices) more := by
  unfold known lastCall
  rw [List.filter_append, List.getLast?_append]
  cases (more.filter (·.listener = listener)).getLast? <;> rfl

theorem known_told (first : State) (notice : Notice) :
    known notice.listener first [notice] = notice.current := by
  simp [known, lastCall]

theorem known_other {listener : String} (first : State) {notice : Notice}
    (h : notice.listener ≠ listener) : known listener first [notice] = first := by
  simp [known, lastCall, h]

/-! ## 2. Clients that may do anything -/

section Run

variable {listener : String} {first m m' : Moment} {events : List Event} {event : Event}

/-- The listener is active, and it knows the present state unless a telling in progress has yet to
    tell it. -/
def UpToDate (listener : String) (s : State) (m : Moment) : Prop :=
  listener ∈ m.active ∧
    (s = m.state ∨ ∃ telling ∈ m.tellings, listener ∈ telling.waiting)

theorem UpToDate.step {s : State} (h : UpToDate listener s m) (next : Step m event m')
    (hescape : event ≠ .escaped) (hcancel : event ≠ .cancelled listener) :
    UpToDate listener (known listener s (Event.notice? event).toList) m' := by
  obtain ⟨hactive, hknown⟩ := h
  cases next with
  | refuse text => exact ⟨hactive, hknown⟩
  | @send state active tellings command =>
    refine ⟨hactive, ?_⟩
    by_cases hsame : state.apply command = state
    · simp only [hsame, ↓reduceIte]
      exact hknown.imp_right fun ⟨telling, hmem, hwaits⟩ =>
        ⟨telling, List.mem_cons_of_mem _ hmem, hwaits⟩
    · -- The change is one that the listener will be told of.
      simp only [hsame, ↓reduceIte]
      exact .inr ⟨_, List.mem_cons_self, hactive⟩
  | @tell state previous active waiting tellings name =>
    by_cases hname : name = listener
    · subst hname
      exact ⟨hactive, .inl (known_told s _)⟩
    · refine ⟨hactive, ?_⟩
      show known listener s [⟨name, previous, state⟩] = state ∨ _
      rw [known_other s hname]
      refine hknown.imp_right ?_
      rintro ⟨telling, hmem, hwaits⟩
      rcases List.mem_cons.1 hmem with rfl | hmem
      · rcases List.mem_cons.1 hwaits with hsame | hwaits
        · exact absurd hsame.symm hname
        · exact ⟨_, List.mem_cons_self, hwaits⟩
      · exact ⟨telling, List.mem_cons_of_mem _ hmem, hwaits⟩
  | answer =>
    refine ⟨hactive, hknown.imp_right ?_⟩
    rintro ⟨telling, hmem, hwaits⟩
    rcases List.mem_cons.1 hmem with rfl | hmem
    · cases hwaits
    · exact ⟨telling, hmem, hwaits⟩
  | subscribe name => exact ⟨List.mem_append_left _ hactive, hknown⟩
  | cancel name =>
    have hother : listener ≠ name := fun hsame => hcancel (hsame ▸ rfl)
    exact ⟨(List.mem_erase_of_ne hother).2 hactive, hknown⟩
  | giveBack => exact ⟨hactive, hknown⟩
  | escape => exact absurd rfl hescape

/-- **The listener knows the present state or will be told**, as long as no fault escapes and nobody
    cancels it. -/
theorem Run.upToDate (h : Run first events m) (hactive : listener ∈ first.active)
    (hescape : .escaped ∉ events) (hcancel : .cancelled listener ∉ events) :
    UpToDate listener (known listener first.state (events.filterMap Event.notice?)) m := by
  induction h with
  | start => exact ⟨hactive, .inl rfl⟩
  | @step events m m' event run next ih =>
    rw [List.mem_append, not_or, List.mem_singleton] at hescape hcancel
    have hstep := (ih hescape.1 hcancel.1).step next (Ne.symm hescape.2) (Ne.symm hcancel.2)
    have hlast : [event].filterMap Event.notice? = (Event.notice? event).toList := by
      cases hnotice : Event.notice? event <;> simp [hnotice]
    rwa [List.filterMap_append, known_append, hlast]

end Run

/-! ## 3. What scripts cancel -/

mutual

/-- The listeners of which an action cancels a subscription, those in the replies that it brings
    along included. -/
def Action.cancels : Action → List String
  | .send _ => []
  | .subscribe _ replies => repliesCancels replies
  | .cancel listener _ => [listener]

/-- The listeners of which some actions cancel a subscription. -/
def actionsCancels : List Action → List String
  | [] => []
  | action :: rest => action.cancels ++ actionsCancels rest

/-- The listeners of which some replies cancel a subscription. -/
def repliesCancels : List (List Action) → List String
  | [] => []
  | reply :: rest => actionsCancels reply ++ repliesCancels rest

end

theorem repliesCancels_append (replies more : List (List Action)) :
    repliesCancels (replies ++ more) = repliesCancels replies ++ repliesCancels more := by
  induction replies with
  | nil => rfl
  | cons reply rest ih => rw [List.cons_append, repliesCancels, repliesCancels, ih,
      List.append_assoc]

namespace Engine

/-- The listeners of which a subscription is cancelled in a reply still to be given. -/
def pendingCancels (e : Engine) : List String := repliesCancels (e.listeners.flatMap (·.replies))

/-- A reply cancels what was to be cancelled before, and so do the replies left. -/
theorem takeReply_cancels {listener : String} {listeners : List Listener}
    (h : listener ∉ repliesCancels (listeners.flatMap (·.replies))) (name : String) :
    listener ∉ actionsCancels (takeReply name listeners).1 ∧
      listener ∉ repliesCancels ((takeReply name listeners).2.flatMap (·.replies)) := by
  induction listeners with
  | nil => exact ⟨List.not_mem_nil, h⟩
  | cons other others ih =>
    have hboth := h
    rw [List.flatMap_cons, repliesCancels_append, List.mem_append, not_or] at hboth
    unfold takeReply
    split
    · split
      · exact ⟨List.not_mem_nil, h⟩
      · rename_i reply later hreplies
        rw [hreplies, repliesCancels, List.mem_append, not_or] at hboth
        rw [List.flatMap_cons, repliesCancels_append, List.mem_append, not_or]
        exact ⟨hboth.1.1, hboth.1.2, hboth.2⟩
    · obtain ⟨hreply, hleft⟩ := ih hboth.2
      rw [List.flatMap_cons, repliesCancels_append, List.mem_append, not_or]
      exact ⟨hreply, hboth.1, hleft⟩

/-! ## 4. Scripted clients -/

section Attentive

variable {listener : String} {react : Engine → List Action → Outcome}

theorem sequence_cons_eq_none {α : Type} {step : Engine → α → Outcome} {e e' : Engine} {a : α}
    {rest : List α} (h : sequence step e (a :: rest) = (e', none)) :
    ∃ between, step e a = (between, none) ∧ sequence step between rest = (e', none) := by
  unfold sequence at h
  split at h
  · rename_i between hstep
    exact ⟨between, hstep, h⟩
  · cases h

/-- The listener is active, and nothing that is to be done cancels it. -/
structure Attached (listener : String) (e : Engine) (actions : List Action) : Prop where
  active : listener ∈ e.active
  pending : listener ∉ e.pendingCancels
  actions : listener ∉ actionsCancels actions

/-- Who knew the state before knows it now, by the calls that were made in between. -/
def Informed (listener : String) (e e' : Engine) : Prop :=
  ∃ notices, e'.notices = e.notices ++ notices ∧ known listener e.state notices = e'.state

/-- The calls that were made in between tell the present state, whatever was known before. -/
def Told (listener : String) (e e' : Engine) : Prop :=
  ∃ notices, e'.notices = e.notices ++ notices ∧ ∀ s, known listener s notices = e'.state

theorem Informed.refl (e : Engine) : Informed listener e e := ⟨[], (List.append_nil _).symm, rfl⟩

theorem Told.informed {e e' : Engine} (h : Told listener e e') : Informed listener e e' := by
  obtain ⟨notices, hnotices, htold⟩ := h
  exact ⟨notices, hnotices, htold e.state⟩

theorem Informed.trans {e e' e'' : Engine} (h : Informed listener e e')
    (h' : Informed listener e' e'') : Informed listener e e'' := by
  obtain ⟨notices, hnotices, hknown⟩ := h
  obtain ⟨more, hmore, hknown'⟩ := h'
  refine ⟨notices ++ more, ?_, ?_⟩
  · rw [hmore, hnotices, List.append_assoc]
  · rw [known_append, hknown, hknown']

theorem Told.trans {e e' e'' : Engine} (h : Told listener e e')
    (h' : Informed listener e' e'') : Told listener e e'' := by
  obtain ⟨notices, hnotices, hknown⟩ := h
  obtain ⟨more, hmore, hknown'⟩ := h'
  refine ⟨notices ++ more, ?_, fun s => ?_⟩
  · rw [hmore, hnotices, List.append_assoc]
  · rw [known_append, hknown, hknown']

theorem Informed.told {e e' e'' : Engine} (h : Informed listener e e')
    (h' : Told listener e' e'') : Told listener e e'' := by
  obtain ⟨notices, hnotices, -⟩ := h
  obtain ⟨more, hmore, hknown⟩ := h'
  refine ⟨notices ++ more, ?_, fun s => ?_⟩
  · rw [hmore, hnotices, List.append_assoc]
  · rw [known_append, hknown]

/-- Who acts for listeners leaves an attached listener attached and with the present state, unless a
    fault ends it. -/
def Attentive (listener : String) (react : Engine → List Action → Outcome) : Prop :=
  ∀ e actions e', Attached listener e actions → react e actions = (e', none) →
    Attached listener e' [] ∧ Informed listener e e'

theorem Attentive.tell (h : Attentive listener react) {previous : State} {e e' : Engine}
    {name : String} (hattached : Attached listener e [])
    (htell : Engine.tell react previous e name = (e', none)) :
    Attached listener e' [] ∧ Informed listener e e' ∧ (name = listener → Told listener e e') := by
  obtain ⟨hreply, hleft⟩ := takeReply_cancels hattached.pending name
  generalize hcalled : ({ e with
    listeners := (takeReply name e.listeners).2
    notices := e.notices ++ [⟨name, previous, e.state⟩] } : Engine) = called
  have hreact : react called (takeReply name e.listeners).1 = (e', none) := by
    rw [← hcalled]
    exact htell
  have hbegun : Attached listener called (takeReply name e.listeners).1 := by
    subst hcalled
    exact ⟨hattached.active, hleft, hreply⟩
  have hnotices : called.notices = e.notices ++ [⟨name, previous, e.state⟩] := by rw [← hcalled]
  have hstate : called.state = e.state := by rw [← hcalled]
  obtain ⟨hstays, hinformed⟩ := h called _ e' hbegun hreact
  by_cases hname : name = listener
  · subst hname
    have htold : Told name e called := ⟨_, hnotices, fun s => (known_told s _).trans hstate.symm⟩
    have htold' := htold.trans hinformed
    exact ⟨hstays, htold'.informed, fun _ => htold'⟩
  · have hknows : Informed listener e called :=
      ⟨_, hnotices, (known_other e.state hname).trans hstate.symm⟩
    exact ⟨hstays, hknows.trans hinformed, fun hsame => absurd hsame hname⟩

theorem Attentive.tellAll (h : Attentive listener react) {previous : State} {e e' : Engine}
    {names : List String} (hattached : Attached listener e [])
    (htell : sequence (Engine.tell react previous) e names = (e', none)) :
    Attached listener e' [] ∧ Informed listener e e' ∧ (listener ∈ names → Told listener e e') := by
  induction names generalizing e with
  | nil =>
    cases htell
    exact ⟨hattached, .refl _, fun hmem => nomatch hmem⟩
  | cons name rest ih =>
    obtain ⟨between, hfirst, hrest⟩ := sequence_cons_eq_none htell
    obtain ⟨hstays, hinformed, htold⟩ := h.tell hattached hfirst
    obtain ⟨hends, hinformed', htold'⟩ := ih hstays hrest
    refine ⟨hends, hinformed.trans hinformed', fun hmem => ?_⟩
    rcases List.mem_cons.1 hmem with hsame | hlater
    · exact (htold hsame.symm).trans hinformed'
    · exact hinformed.told (htold' hlater)

theorem answer_eq_none {outcome : Outcome} {e' : Engine} (h : answer outcome = (e', none)) :
    ∃ e, outcome = (e, none) ∧ e' = { e with answers := e.answers ++ [e.state] } := by
  obtain ⟨e, _ | fault⟩ := outcome
  · cases h
    exact ⟨e, rfl, rfl⟩
  · cases h

theorem Attentive.send (h : Attentive listener react) {e e' : Engine} {request : Request}
    (hattached : Attached listener e []) (hsend : Engine.send react e request = (e', none)) :
    Attached listener e' [] ∧ Informed listener e e' := by
  cases request with
  | unknown text => cases hsend
  | command command =>
    rw [send_command] at hsend
    obtain ⟨told, htell, rfl⟩ := answer_eq_none hsend
    have hbegun : Attached listener { e with
        state := e.state.apply command
        requests := e.requests ++ [.command command] } [] :=
      ⟨hattached.active, hattached.pending, hattached.actions⟩
    obtain ⟨hends, hinformed, htold⟩ := h.tellAll hbegun htell
    refine ⟨⟨hends.active, hends.pending, hends.actions⟩, ?_⟩
    by_cases hsame : e.state.apply command = e.state
    · obtain ⟨notices, hnotices, hknown⟩ := hinformed
      refine ⟨notices, hnotices, ?_⟩
      simpa only [hsame] using hknown
    · rw [if_neg hsame] at htold
      obtain ⟨notices, hnotices, hknown⟩ := htold hattached.active
      exact ⟨notices, hnotices, hknown e.state⟩

theorem Attentive.act (h : Attentive listener react) {e e' : Engine} {action : Action}
    {rest : List Action} (hattached : Attached listener e (action :: rest))
    (hact : Engine.act react e action = (e', none)) :
    Attached listener e' rest ∧ Informed listener e e' := by
  obtain ⟨hactive, hpending, hactions⟩ := hattached
  rw [actionsCancels, List.mem_append, not_or] at hactions
  cases action with
  | send request =>
    obtain ⟨hends, hinformed⟩ := h.send ⟨hactive, hpending, List.not_mem_nil⟩ hact
    exact ⟨⟨hends.active, hends.pending, hactions.2⟩, hinformed⟩
  | subscribe name replies =>
    cases hact
    refine ⟨⟨List.mem_append_left _ hactive, ?_, hactions.2⟩, .refl e⟩
    unfold pendingCancels subscribe
    simp only
    split
    · exact hpending
    · rw [List.flatMap_append, repliesCancels_append, List.mem_append, not_or]
      refine ⟨hpending, ?_⟩
      simpa [Action.cancels] using hactions.1
  | cancel name number =>
    cases hact
    have hother : listener ≠ name := by simpa [Action.cancels] using hactions.1
    exact ⟨⟨(List.mem_erase_of_ne hother).2 hactive, hpending, hactions.2⟩, .refl e⟩

theorem Attentive.sequence_act (h : Attentive listener react) :
    Attentive listener (sequence (Engine.act react)) := by
  intro e actions
  induction actions generalizing e with
  | nil =>
    rintro e' hattached hdone
    cases hdone
    exact ⟨hattached, .refl e⟩
  | cons action rest ih =>
    intro e' hattached hall
    obtain ⟨between, hfirst, hrest⟩ := sequence_cons_eq_none hall
    obtain ⟨hstays, hinformed⟩ := h.act hattached hfirst
    obtain ⟨hends, hinformed'⟩ := ih between e' hstays hrest
    exact ⟨hends, hinformed.trans hinformed'⟩

theorem attentive_performWithin (depth : Nat) : Attentive listener (performWithin depth) := by
  induction depth with
  | zero =>
    intro e actions e' hattached hdone
    cases hdone
    exact ⟨⟨hattached.active, hattached.pending, List.not_mem_nil⟩, .refl e⟩
  | succ depth ih => exact ih.sequence_act

end Attentive

/-! ## 5. The present state -/

/-- **The last call of a listener has told it the present state.** So it is whenever nothing is being
    told any more, whatever listeners have done when told, if the listener was active at first, was
    not cancelled, and no fault has escaped from a listener; where the listener was not called at
    all, the state is the first one. Performing that comes to its end without a fault leaves every
    listener with the present state that is active at first and that no script cancels. -/
theorem last_call_current {e : Engine} {listener : String} (active : listener ∈ e.active) :
    (∀ events m, Run e.moment events m → m.tellings = [] →
      .escaped ∉ events → .cancelled listener ∉ events →
      (∀ notice, lastCall listener (events.filterMap Event.notice?) = some notice →
        notice.current = m.state) ∧
      (lastCall listener (events.filterMap Event.notice?) = none → e.state = m.state)) ∧
    ∀ actions e', e.perform actions = (e', none) →
      listener ∉ e.pendingCancels → listener ∉ actionsCancels actions →
      ∃ notices, e'.notices = e.notices ++ notices ∧
        (∀ notice, lastCall listener notices = some notice → notice.current = e'.state) ∧
        (lastCall listener notices = none → e.state = e'.state) := by
  have hread {notices : List Notice} {s : State}
      (hknown : known listener e.state notices = s) :
      (∀ notice, lastCall listener notices = some notice → notice.current = s) ∧
        (lastCall listener notices = none → e.state = s) := by
    unfold known at hknown
    refine ⟨fun notice hlast => ?_, fun hnone => ?_⟩
    · rwa [hlast] at hknown
    · rwa [hnone] at hknown
  refine ⟨fun events m hrun hout hescape hcancel => ?_,
    fun actions e' hperform hpending hactions => ?_⟩
  · obtain ⟨-, hknown | ⟨telling, htelling, -⟩⟩ := hrun.upToDate active hescape hcancel
    · exact hread hknown
    · rw [hout] at htelling
      cases htelling
  · obtain ⟨-, notices, hnotices, hknown⟩ :=
      attentive_performWithin _ e actions e' ⟨active, hpending, hactions⟩ hperform
    exact ⟨notices, hnotices, hread hknown⟩

/-- Of two listeners, the first one sends a further command when it is told of the first change. The
    second one hears of the further change first, and of the first one last; both end with the
    present state. -/
theorem outer_change_told_last :
    let one : State := ⟨"1", [], .input, ""⟩
    let both : State := ⟨"19", [], .input, ""⟩
    let e : Engine :=
      { active := ["a", "b"], listeners := [⟨"a", [[.send (.command (.append "9" false))]]⟩] }
    let e' := (e.perform [.send (.command (.append "1" false))]).1
    e'.notices.filter (·.listener = "b") = [⟨"b", one, both⟩, ⟨"b", {}, both⟩] ∧
      e'.state = both := by
  intro one both e e'
  have hcalls : e'.notices =
      [⟨"a", {}, one⟩, ⟨"a", one, both⟩, ⟨"b", one, both⟩, ⟨"b", {}, both⟩] := by decide +kernel
  have hperform : e.perform [.send (.command (.append "1" false))] = (e', none) :=
    Prod.ext rfl (by decide +kernel)
  have hactive : "b" ∈ e.active := by decide
  obtain ⟨notices, hnotices, hlast, -⟩ :=
    (last_call_current hactive).2 _ e' hperform (by decide) (by decide)
  have hall : notices = e'.notices := hnotices.symm
  rw [hall, hcalls] at hlast
  refine ⟨?_, (hlast ⟨"b", {}, both⟩ rfl).symm⟩
  rw [hcalls]
  rfl

end Engine

end DeskCalc
