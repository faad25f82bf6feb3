import DeskCalc.Calculator.Engine

/-!
# No reply is cut off

Performing stops at a depth that it is given. The depth that `Engine.perform` takes is never reached:
a listener acts only by giving a reply, a reply is given once, and the replies that listeners bring
along when they are subscribed are counted with the action that does it. So performing is the same
as one action after another, each telling listeners whose replies are performed to the end as well.
This file fixes

* `Frugal`: who acts for listeners leaves no more replies than there were;
* `performWithin_eq`: two depths with room for all replies give the same outcome;
* **`perform_eq_sequence`**: the equation of `Engine.perform`, in which no depth appears.
-/

namespace DeskCalc

theorem repliesCount_append (replies more : List (List Action)) :
    repliesCount (replies ++ more) = repliesCount replies + repliesCount more := by
  induction replies with
  | nil => simp [repliesCount]
  | cons reply rest ih =>
    rw [List.cons_append, repliesCount, repliesCount, ih]
    omega

namespace Engine

/-! ## 1. Replies are used up -/

/-- Either the listener has no reply to give, or one reply less is left. -/
theorem takeReply_cases (name : String) (listeners : List Listener) :
    takeReply name listeners = ([], listeners) ∨
      repliesCount ((takeReply name listeners).2.flatMap (·.replies)) +
        actionsReplyCount (takeReply name listeners).1 + 1 =
      repliesCount (listeners.flatMap (·.replies)) := by
  induction listeners with
  | nil => exact .inl rfl
  | cons listener others ih =>
    by_cases hname : listener.name = name
    · cases hreplies : listener.replies with
      | nil =>
        left
        simp [takeReply, hname, hreplies]
      | cons reply later =>
        right
        simp only [takeReply, if_pos hname, hreplies, List.flatMap_cons, repliesCount_append,
          List.cons_append, repliesCount]
        omega
    · rcases ih with hnone | hless
      · left
        simp [takeReply, hname, hnone]
      · right
        simp only [takeReply, if_neg hname, List.flatMap_cons, repliesCount_append]
        omega

/-- Who acts for listeners leaves no more replies than there were, those in the actions included. -/
def Frugal (react : Engine → List Action → Outcome) : Prop :=
  ∀ e actions, (react e actions).1.pendingReplies ≤ e.pendingReplies + actionsReplyCount actions

theorem pendingReplies_answer (outcome : Outcome) :
    (answer outcome).1.pendingReplies = outcome.1.pendingReplies := by
  obtain ⟨e, _ | fault⟩ := outcome
  · rfl
  · rfl

theorem pendingReplies_subscribe_le (e : Engine) (name : String) (replies : List (List Action)) :
    (e.subscribe name replies).pendingReplies ≤ e.pendingReplies + repliesCount replies := by
  unfold pendingReplies subscribe
  split
  · exact Nat.le_add_right _ _
  · simp [repliesCount_append]

section Frugal

variable {react : Engine → List Action → Outcome}

theorem Frugal.tell_le (h : Frugal react) (previous : State) (e : Engine) (name : String) :
    (tell react previous e name).1.pendingReplies ≤ e.pendingReplies := by
  refine Nat.le_trans (h _ _) ?_
  show repliesCount ((takeReply name e.listeners).2.flatMap (·.replies)) +
    actionsReplyCount (takeReply name e.listeners).1 ≤ e.pendingReplies
  rcases takeReply_cases name e.listeners with hnone | hless
  · rw [hnone]
    exact Nat.le_refl _
  · exact Nat.le_trans (Nat.le_succ _) (Nat.le_of_eq hless)

theorem Frugal.send_le (h : Frugal react) (e : Engine) (request : Request) :
    (send react e request).1.pendingReplies ≤ e.pendingReplies := by
  cases request with
  | unknown text => exact Nat.le_refl _
  | command command =>
    rw [send_command, pendingReplies_answer]
    exact sequence_invariant (fun e' _ => e'.pendingReplies ≤ e.pendingReplies)
      (fun e' name _ he' => Nat.le_trans (h.tell_le e.state e' name) he') (fun _ _ he' => he')
      (Nat.le_refl _)

theorem Frugal.act_le (h : Frugal react) (e : Engine) (action : Action) :
    (act react e action).1.pendingReplies ≤ e.pendingReplies + action.replyCount := by
  cases action with
  | send request => exact h.send_le e request
  | subscribe name replies => exact pendingReplies_subscribe_le e name replies
  | cancel name number => exact Nat.le_refl _

theorem Frugal.sequence_act (h : Frugal react) : Frugal (sequence (act react)) := by
  intro e actions
  refine sequence_invariant (fun e' rest =>
    e'.pendingReplies + actionsReplyCount rest ≤ e.pendingReplies + actionsReplyCount actions)
    ?_ ?_ (Nat.le_refl _)
  · intro e' action rest he'
    have haction := h.act_le e' action
    rw [actionsReplyCount] at he'
    omega
  · intro e' rest he'
    exact Nat.le_trans (Nat.le_add_right _ _) he'

end Frugal

theorem frugal_performWithin (depth : Nat) : Frugal (performWithin depth) := by
  induction depth with
  | zero => exact fun e actions => Nat.le_add_right _ _
  | succ depth ih => exact ih.sequence_act

/-! ## 2. Depths with room for all replies -/

/-- Two ways of acting for listeners that agree as long as few replies are left. -/
structure AgreeBelow (bound : Nat) (react react' : Engine → List Action → Outcome) : Prop where
  frugal : Frugal react
  nothing : ∀ e, react e [] = react' e []
  few : ∀ e actions, e.pendingReplies + actionsReplyCount actions < bound →
    react e actions = react' e actions

section Agree

variable {bound : Nat} {react react' : Engine → List Action → Outcome}

theorem AgreeBelow.tell_eq (h : AgreeBelow bound react react') (previous : State) {e : Engine}
    (he : e.pendingReplies ≤ bound) (name : String) :
    tell react previous e name = tell react' previous e name := by
  show react _ (takeReply name e.listeners).1 = react' _ (takeReply name e.listeners).1
  rcases takeReply_cases name e.listeners with hnone | hless
  · rw [hnone]
    exact h.nothing _
  · refine h.few _ _ ?_
    show repliesCount ((takeReply name e.listeners).2.flatMap (·.replies)) +
      actionsReplyCount (takeReply name e.listeners).1 < bound
    exact Nat.lt_of_lt_of_le (Nat.lt_of_succ_le (Nat.le_of_eq hless)) he

theorem AgreeBelow.send_eq (h : AgreeBelow bound react react') {e : Engine}
    (he : e.pendingReplies ≤ bound) (request : Request) :
    send react e request = send react' e request := by
  cases request with
  | unknown text => rfl
  | command command =>
    rw [send_command, send_command]
    refine congrArg answer (sequence_congr (fun e' _ => e'.pendingReplies ≤ bound) ?_ ?_ he)
    · exact fun e' name _ he' => h.tell_eq e.state he' name
    · exact fun e' name _ he' => Nat.le_trans (h.frugal.tell_le e.state e' name) he'

theorem AgreeBelow.act_eq (h : AgreeBelow bound react react') {e : Engine}
    (he : e.pendingReplies ≤ bound) (action : Action) :
    act react e action = act react' e action := by
  cases action with
  | send request => exact h.send_eq he request
  | subscribe name replies => rfl
  | cancel name number => rfl

theorem AgreeBelow.sequence_eq (h : AgreeBelow bound react react') (e : Engine)
    (actions : List Action) (he : e.pendingReplies + actionsReplyCount actions ≤ bound) :
    sequence (act react) e actions = sequence (act react') e actions := by
  refine sequence_congr (fun e' rest => e'.pendingReplies + actionsReplyCount rest ≤ bound)
    ?_ ?_ he
  · intro e' action rest he'
    exact h.act_eq (Nat.le_trans (Nat.le_add_right _ _) he') action
  · intro e' action rest he'
    have haction := h.frugal.act_le e' action
    rw [actionsReplyCount] at he'
    omega

end Agree

theorem performWithin_nil (depth : Nat) (e : Engine) : performWithin depth e [] = (e, none) := by
  cases depth with
  | zero => rfl
  | succ depth => rfl

/-- **Depths with room for all replies give the same outcome.** -/
theorem performWithin_eq {depth depth' : Nat} {e : Engine} {actions : List Action}
    (h : e.pendingReplies + actionsReplyCount actions < depth)
    (h' : e.pendingReplies + actionsReplyCount actions < depth') :
    performWithin depth e actions = performWithin depth' e actions := by
  induction depth generalizing depth' e actions with
  | zero => exact absurd h (Nat.not_lt_zero _)
  | succ depth ih =>
    cases depth' with
    | zero => exact absurd h' (Nat.not_lt_zero _)
    | succ depth' =>
      have hagree : AgreeBelow (e.pendingReplies + actionsReplyCount actions)
          (performWithin depth) (performWithin depth') :=
        ⟨frugal_performWithin depth,
          fun e => by rw [performWithin_nil, performWithin_nil],
          fun e actions hfew => ih (by omega) (by omega)⟩
      exact hagree.sequence_eq e actions (Nat.le_refl _)

/-- **Performing is one action after another**, and what listeners do about each is performed in the
    same way. -/
theorem perform_eq_sequence (e : Engine) (actions : List Action) :
    e.perform actions = sequence (act perform) e actions := by
  have hagree : AgreeBelow (e.pendingReplies + actionsReplyCount actions)
      (performWithin (e.pendingReplies + actionsReplyCount actions + 1)) perform :=
    ⟨frugal_performWithin _,
      fun e => (performWithin_nil _ e).trans (performWithin_nil _ e).symm,
      fun e actions hfew => performWithin_eq (by omega) (by omega)⟩
  exact hagree.sequence_eq e actions (Nat.le_refl _)

end Engine

end DeskCalc
