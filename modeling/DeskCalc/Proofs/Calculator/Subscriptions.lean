import Mathlib.Data.List.Induction
import Mathlib.Data.List.Nodup
import DeskCalc.Proofs.Calculator.Depth

/-!
# Which subscriptions stay active

Every subscription comes with a handle by which it is to be cancelled. Cancelling, however, looks
for the listener alone and ends its earliest active subscription, whichever handle was used. As long
as every handle is used in turn this is the handle's own subscription; otherwise an older one ends
in its place, and a handle used twice ends two. This file fixes

* `Subscription.Call`: what subscribes and cancels, `made`: the subscriptions it makes, and `live`:
  those whose own handle has not been used;
* `Tally`: how many subscriptions of a listener there were and how many have ended;
* `active_after`: the latest subscriptions of a listener remain, whatever handles were used;
* **`earliest_ends_own_in_turn`**: which subscriptions remain, when they are the live ones, and that
  they are told of a change in the order in which they were made;
* `other_subscription_ends`: a handle that ends two subscriptions.
-/

namespace DeskCalc

structure Subscription where
  listener : String
  /-- The number of earlier subscriptions of the listener. -/
  number : Nat
  deriving DecidableEq

namespace Subscription

/-! ## 1. Subscribing and cancelling -/

/-- A call that subscribes a listener, or one that cancels by the handle of a subscription. -/
inductive Call where
  | subscribe (listener : String)
  | cancel (handle : Subscription)
  deriving DecidableEq

/-- The call as an action on an engine, for listeners that give certain replies when told. -/
def Call.action (replies : String → List (List Action)) : Call → Action
  | subscribe listener => .subscribe listener (replies listener)
  | cancel handle => .cancel handle.listener handle.number

/-- The subscriptions so far, and the one that a call adds. -/
def record (made : List Subscription) : Call → List Subscription
  | .subscribe listener => made ++ [⟨listener, (made.map (·.listener)).count listener⟩]
  | .cancel _ => made

/-- The subscriptions that some calls make, in the order in which they are made. -/
def made (calls : List Call) : List Subscription := calls.foldl record []

/-- The subscriptions whose own handle has not been used. -/
def live (calls : List Call) : List Subscription :=
  (made calls).filter fun s => .cancel s ∉ calls

/-- Something holds of every use of a handle and the calls before it. -/
def AtEachCancel (holds : List Call → Subscription → Prop) (calls : List Call) : Prop :=
  ∀ before handle, before ++ [.cancel handle] <+: calls → holds before handle

/-- A handle is used after its subscription was made. -/
def Valid : List Call → Prop := AtEachCancel fun before handle => handle ∈ made before

/-- A handle is used when its subscription is the first live one of the listener, or when none is
    left. -/
def InTurn : List Call → Prop :=
  AtEachCancel fun before handle =>
    ∀ first, (live before).find? (·.listener == handle.listener) = some first → first = handle

namespace AtEachCancel

variable {holds : List Call → Subscription → Prop} {calls : List Call}

theorem nil : AtEachCancel holds [] := fun _ _ hearlier =>
  absurd (List.prefix_nil.1 hearlier) (List.append_ne_nil_of_right_ne_nil _ (List.cons_ne_nil _ _))

theorem of_append {more : List Call} (h : AtEachCancel holds (calls ++ more)) :
    AtEachCancel holds calls :=
  fun before handle hearlier => h before handle (hearlier.trans (List.prefix_append _ _))

theorem subscribe (h : AtEachCancel holds calls) (name : String) :
    AtEachCancel holds (calls ++ [.subscribe name]) := by
  intro before handle hearlier
  rcases List.prefix_concat_iff.1 hearlier with hwhole | hearlier
  · cases (List.append_inj' hwhole rfl).2
  · exact h before handle hearlier

theorem cancel (h : AtEachCancel holds calls) {handle : Subscription}
    (hhandle : holds calls handle) : AtEachCancel holds (calls ++ [.cancel handle]) := by
  intro before other hearlier
  rcases List.prefix_concat_iff.1 hearlier with hwhole | hearlier
  · obtain ⟨rfl, hsame⟩ := List.append_inj' hwhole rfl
    cases hsame
    exact hhandle
  · exact h before other hearlier

end AtEachCancel

theorem made_append (calls : List Call) (call : Call) :
    made (calls ++ [call]) = record (made calls) call :=
  List.foldl_append

/-- The subscriptions of a listener are numbered without a gap. -/
theorem mem_made (calls : List Call) (listener : String) (number : Nat) :
    ⟨listener, number⟩ ∈ made calls ↔
      number < ((made calls).map (·.listener)).count listener := by
  induction calls using List.reverseRecOn with
  | nil => simp [made]
  | append_singleton calls call ih =>
    rw [made_append]
    cases call with
    | cancel handle => exact ih
    | subscribe name =>
      by_cases hname : name = listener
      · subst hname
        simp [record, ih]
        omega
      · simp [record, ih, Ne.symm hname, List.count_cons_of_ne hname]

theorem count_made (calls : List Call) (listener : String) :
    ((made calls).map (·.listener)).count listener = calls.count (.subscribe listener) := by
  induction calls using List.reverseRecOn with
  | nil => rfl
  | append_singleton calls call ih =>
    rw [made_append]
    cases call with
    | cancel handle => simpa [record, List.count_cons] using ih
    | subscribe name => simp [record, ih, List.count_cons]

theorem pairwise_made (calls : List Call) :
    (made calls).Pairwise fun s s' => s.listener = s'.listener → s.number < s'.number := by
  induction calls using List.reverseRecOn with
  | nil => exact List.Pairwise.nil
  | append_singleton calls call ih =>
    rw [made_append]
    cases call with
    | cancel handle => exact ih
    | subscribe name =>
      refine List.pairwise_append.2 ⟨ih, List.pairwise_singleton _ _, ?_⟩
      intro s hs s' hs' hname
      rw [List.mem_singleton] at hs'
      subst hs'
      have hname : s.listener = name := hname
      subst hname
      exact (mem_made calls s.listener s.number).1 hs

theorem nodup_made (calls : List Call) : (made calls).Nodup :=
  (pairwise_made calls).imp fun hless hsame => by
    subst hsame
    exact Nat.lt_irrefl _ (hless rfl)

/-! ## 2. The latest subscriptions remain -/

/-- How many subscriptions of one listener were made, and how many have ended. -/
structure Tally where
  made : Nat := 0
  ended : Nat := 0

/-- Counts one call. Whichever handle cancels, one subscription more has ended, if one is left. -/
def Tally.count (listener : String) (t : Tally) : Call → Tally
  | .subscribe name => ⟨t.made + if name = listener then 1 else 0, t.ended⟩
  | .cancel handle =>
    ⟨t.made, if handle.listener = listener then min (t.ended + 1) t.made else t.ended⟩

def tally (listener : String) (calls : List Call) : Tally := calls.foldl (Tally.count listener) {}

/-- The subscriptions left when the earliest ones of each listener have ended. -/
def latest (calls : List Call) : List Subscription :=
  (made calls).filter fun s => (tally s.listener calls).ended ≤ s.number

theorem tally_append (listener : String) (calls : List Call) (call : Call) :
    tally listener (calls ++ [call]) = (tally listener calls).count listener call :=
  List.foldl_append

theorem made_tally (listener : String) (calls : List Call) :
    (tally listener calls).made = ((made calls).map (·.listener)).count listener := by
  induction calls using List.reverseRecOn with
  | nil => rfl
  | append_singleton calls call ih =>
    rw [made_append, tally_append]
    cases call with
    | cancel handle => exact ih
    | subscribe name => simp [Tally.count, record, ih, List.count_cons, beq_iff_eq]

theorem ended_tally_le (listener : String) (calls : List Call) :
    (tally listener calls).ended ≤ (tally listener calls).made := by
  induction calls using List.reverseRecOn with
  | nil => exact Nat.le_refl _
  | append_singleton calls call ih =>
    rw [tally_append]
    cases call with
    | subscribe name => exact Nat.le_trans ih (Nat.le_add_right _ _)
    | cancel handle =>
      simp only [Tally.count]
      split
      · exact Nat.min_le_right _ _
      · exact ih

theorem latest_subscribe (calls : List Call) (name : String) :
    latest (calls ++ [.subscribe name]) =
      latest calls ++ [⟨name, ((made calls).map (·.listener)).count name⟩] := by
  have hleft := ended_tally_le name calls
  rw [made_tally] at hleft
  simp only [latest, made_append, record, tally_append, Tally.count, List.filter_append]
  rw [List.filter_cons_of_pos (by simpa using hleft), List.filter_nil]

/-- Removing the first thing of a kind is removing this thing. -/
theorem eraseP_eq_filter {subscriptions : List Subscription} (h : subscriptions.Nodup)
    {p : Subscription → Bool} {first : Subscription}
    (hfirst : subscriptions.find? p = some first) :
    subscriptions.eraseP p = subscriptions.filter (· ≠ first) := by
  obtain ⟨hp, front, back, rfl, hfront⟩ := List.find?_eq_some_iff_append.1 hfirst
  have hnot : first ∉ front ++ back := (List.nodup_middle.1 h).notMem
  rw [List.mem_append, not_or] at hnot
  have hkept (part : List Subscription) (hpart : first ∉ part) :
      part.filter (fun s => decide (s ≠ first)) = part :=
    List.filter_eq_self.2 fun s hs => decide_eq_true fun hsame => hpart (hsame ▸ hs)
  rw [List.eraseP_append_right _ fun s hs => by simpa using hfront s hs,
    List.eraseP_cons_of_pos hp, List.filter_append, List.filter_cons_of_neg (by simp),
    hkept _ hnot.1, hkept _ hnot.2]

/-- The first subscription of a listener that is left is the one behind those that have ended. -/
theorem find?_latest {calls : List Call} {name : String} {first : Subscription}
    (h : (latest calls).find? (·.listener == name) = some first) :
    first = ⟨name, (tally name calls).ended⟩ := by
  obtain ⟨hname, front, back, hsplit, hfront⟩ := List.find?_eq_some_iff_append.1 h
  obtain ⟨listener, number⟩ := first
  obtain rfl : listener = name := by simpa using hname
  have hmem : ⟨listener, number⟩ ∈ latest calls := by
    rw [hsplit]
    simp
  obtain ⟨hmade, hended⟩ := List.mem_filter.1 hmem
  have hended : (tally listener calls).ended ≤ number := by simpa using hended
  have hearliest : ⟨listener, (tally listener calls).ended⟩ ∈ latest calls := by
    refine List.mem_filter.2 ⟨?_, by simp⟩
    rw [mem_made] at hmade ⊢
    exact Nat.lt_of_le_of_lt hended hmade
  have hpairwise :=
    (pairwise_made calls).filter fun s => (tally s.listener calls).ended ≤ s.number
  rw [← latest, hsplit] at hpairwise
  rw [hsplit, List.mem_append, List.mem_cons] at hearliest
  -- The earliest one is left, so it stands at the first place, as the places go by the numbers.
  rcases hearliest with hin | hsame | hin
  · exact absurd (hfront _ hin) (by simp)
  · exact hsame.symm
  · have hless := (List.pairwise_cons.1 (List.pairwise_append.1 hpairwise).2.1).1 _ hin rfl
    exact absurd hless (Nat.not_lt.2 hended)

/-- Cancelling ends the earliest of the listener's subscriptions that are left. -/
theorem latest_cancel (calls : List Call) (handle : Subscription) :
    latest (calls ++ [.cancel handle]) =
      (latest calls).eraseP (·.listener == handle.listener) := by
  have hfilter : latest (calls ++ [.cancel handle]) =
      (latest calls).filter
        (· ≠ ⟨handle.listener, (tally handle.listener calls).ended⟩) := by
    unfold latest
    rw [List.filter_filter, made_append]
    refine List.filter_congr fun s hs => ?_
    obtain ⟨listener, number⟩ := s
    have hnumber := (mem_made calls listener number).1 hs
    rw [← made_tally] at hnumber
    rw [tally_append, ← Bool.decide_and, decide_eq_decide]
    simp only [Tally.count, ne_eq, Subscription.mk.injEq]
    by_cases hname : handle.listener = listener
    · subst hname
      rw [if_pos rfl]
      simp only [true_and]
      omega
    · rw [if_neg hname]
      simp [Ne.symm hname]
  rw [hfilter]
  cases hfind : (latest calls).find? (·.listener == handle.listener) with
  | some first =>
    have hnodup : (latest calls).Nodup := (nodup_made calls).filter _
    rw [eraseP_eq_filter hnodup hfind, find?_latest hfind]
  | none =>
    rw [List.find?_eq_none] at hfind
    rw [List.eraseP_of_forall_not hfind]
    refine List.filter_eq_self.2 fun s hs => decide_eq_true fun hsame => hfind s hs ?_
    simp [hsame]

/-! ## 3. Handles used in turn -/

theorem handle_mem_made {calls : List Call} (h : Valid calls) {handle : Subscription}
    (hused : .cancel handle ∈ calls) : handle ∈ made calls := by
  induction calls using List.reverseRecOn with
  | nil => cases hused
  | append_singleton calls call ih =>
    rw [made_append]
    cases call with
    | cancel other =>
      rcases List.mem_append.1 hused with hbefore | hlast
      · exact ih h.of_append hbefore
      · obtain rfl : handle = other := by simpa using hlast
        exact h calls handle List.prefix_rfl
    | subscribe name =>
      have hbefore : .cancel handle ∈ calls := by simpa using hused
      exact List.mem_append_left _ (ih h.of_append hbefore)

/-- The only subscription of a listener is always in turn. -/
theorem inTurn_of_subscribed_once {calls : List Call} (h : Valid calls)
    (honce : ∀ listener, calls.count (.subscribe listener) ≤ 1) : InTurn calls := by
  intro before handle hearlier first hfind
  have hname : first.listener = handle.listener := by simpa using List.find?_some hfind
  have hfirst := (mem_made before first.listener first.number).1
    (List.mem_filter.1 (List.mem_of_find?_eq_some hfind)).1
  have hhandle := (mem_made before handle.listener handle.number).1 (h before handle hearlier)
  have hcount : ((made before).map (·.listener)).count handle.listener ≤ 1 := by
    rw [count_made]
    refine Nat.le_trans ?_ (honce handle.listener)
    exact ((List.prefix_append _ _).trans hearlier).sublist.count_le _
  obtain ⟨listener, number⟩ := first
  obtain rfl : listener = handle.listener := hname
  have hnumber : number = handle.number := by
    simp only at hfirst
    omega
  rw [hnumber]

theorem live_subscribe {calls : List Call} (h : Valid calls) (name : String) :
    live (calls ++ [.subscribe name]) =
      live calls ++ [⟨name, ((made calls).map (·.listener)).count name⟩] := by
  have hnew : .cancel ⟨name, ((made calls).map (·.listener)).count name⟩ ∉ calls := by
    intro hused
    exact Nat.lt_irrefl _ ((mem_made calls _ _).1 (handle_mem_made h hused))
  simp [live, made_append, record, hnew]

theorem live_cancel (calls : List Call) (handle : Subscription) :
    live (calls ++ [.cancel handle]) = (live calls).filter (· ≠ handle) := by
  simp only [live, made_append, record, List.filter_filter, List.mem_append, List.mem_singleton,
    Call.cancel.injEq, not_or, ← Bool.decide_and]
  refine List.filter_congr fun s _ => ?_
  rw [decide_eq_decide]
  exact and_comm

/-- Removing a listener's name for the first time is removing its first subscription. -/
theorem erase_map_listener (subscriptions : List Subscription) (name : String) :
    (subscriptions.map (·.listener)).erase name =
      (subscriptions.eraseP (·.listener == name)).map (·.listener) := by
  have hname : (fun other => name == other) ∘ Subscription.listener = (·.listener == name) :=
    funext fun s => Bool.beq_comm
  rw [List.erase_eq_eraseP, List.eraseP_map, hname]

theorem nodup_live (calls : List Call) : (live calls).Nodup := (nodup_made calls).filter _

end Subscription

/-! ## 4. Listeners that only listen -/

namespace Engine

open Subscription

/-- No listener does anything when told. -/
def Passive (e : Engine) : Prop := ∀ listener ∈ e.listeners, listener.replies = []

theorem takeReply_of_passive {e : Engine} (h : e.Passive) (name : String) :
    takeReply name e.listeners = ([], e.listeners) := by
  unfold Passive at h
  generalize e.listeners = listeners at h
  induction listeners with
  | nil => rfl
  | cons listener others ih =>
    obtain ⟨hfirst, hothers⟩ := List.forall_mem_cons.1 h
    unfold takeReply
    split
    · rw [hfirst]
    · rw [ih hothers]

theorem perform_nil (e : Engine) : e.perform [] = (e, none) := by
  rw [perform_eq_sequence]
  rfl

theorem tell_of_passive {e : Engine} (h : e.Passive) (previous : State) (name : String) :
    tell perform previous e name =
      ({ e with notices := e.notices ++ [⟨name, previous, e.state⟩] }, none) := by
  simp only [tell, takeReply_of_passive h, perform_nil]

/-- Listeners that only listen are told one after another. -/
theorem tellAll_of_passive {e : Engine} (h : e.Passive) (previous : State) (names : List String) :
    sequence (tell perform previous) e names =
      ({ e with notices := e.notices ++ names.map (⟨·, previous, e.state⟩) }, none) := by
  induction names generalizing e with
  | nil => simp [sequence]
  | cons name rest ih =>
    unfold sequence
    rw [tell_of_passive h]
    refine (ih (e := { e with notices := e.notices ++ [⟨name, previous, e.state⟩] }) h).trans ?_
    simp

theorem perform_singleton (e : Engine) (action : Action) :
    e.perform [action] = act perform e action := by
  rw [perform_eq_sequence]
  unfold sequence
  split
  · rename_i e' he'
    exact he'.symm
  · rename_i e' fault he'
    exact he'.symm

theorem notices_send_of_passive {e : Engine} (h : e.Passive) (command : Command) :
    (e.perform [.send (.command command)]).1.notices =
      e.notices ++ (if e.state.apply command = e.state then [] else e.active).map
        (⟨·, e.state, e.state.apply command⟩) := by
  have hbegun : Passive { e with
      state := e.state.apply command
      requests := e.requests ++ [.command command] } := h
  simp only [perform_singleton, act, send_command, tellAll_of_passive hbegun]
  rfl

/-! ## 5. What remains -/

section After

variable (replies : String → List (List Action))

/-- The engine after one call. -/
def change (e : Engine) : Call → Engine
  | .subscribe listener => e.subscribe listener (replies listener)
  | .cancel handle => e.cancel handle.listener handle.number

theorem perform_calls (e : Engine) (calls : List Call) :
    e.perform (calls.map (Call.action replies)) = (calls.foldl (change replies) e, none) := by
  rw [perform_eq_sequence]
  induction calls generalizing e with
  | nil => rfl
  | cons call rest ih => cases call <;> exact ih _

/-- The engine after some calls. -/
def after (s : State) (calls : List Call) : Engine :=
  (({ state := s } : Engine).perform (calls.map (Call.action replies))).1

theorem after_append (s : State) (calls : List Call) (call : Call) :
    after replies s (calls ++ [call]) = change replies (after replies s calls) call := by
  simp only [after, perform_calls, List.foldl_append, List.foldl_cons, List.foldl_nil]

theorem passive_after (hreplies : ∀ listener, replies listener = []) (s : State)
    (calls : List Call) : (after replies s calls).Passive := by
  induction calls using List.reverseRecOn with
  | nil => exact fun listener hlistener => nomatch hlistener
  | append_singleton calls call ih =>
    rw [after_append]
    cases call with
    | cancel handle => exact ih
    | subscribe name =>
      unfold Passive change subscribe
      simp only
      split
      · exact ih
      · exact List.forall_mem_append.2 ⟨ih, by simp [hreplies]⟩

theorem state_after (s : State) (calls : List Call) : (after replies s calls).state = s := by
  induction calls using List.reverseRecOn with
  | nil => rfl
  | append_singleton calls call ih =>
    rw [after_append]
    cases call <;> exact ih

theorem notices_after (s : State) (calls : List Call) : (after replies s calls).notices = [] := by
  induction calls using List.reverseRecOn with
  | nil => rfl
  | append_singleton calls call ih =>
    rw [after_append]
    cases call <;> exact ih

/-- **The latest subscriptions of a listener remain**, whichever handles were used. -/
theorem active_after (s : State) (calls : List Call) :
    (after replies s calls).active = (latest calls).map (·.listener) := by
  induction calls using List.reverseRecOn with
  | nil => rfl
  | append_singleton calls call ih =>
    rw [after_append]
    cases call with
    | subscribe name =>
      rw [latest_subscribe, List.map_append, ← ih]
      rfl
    | cancel handle =>
      rw [latest_cancel, ← erase_map_listener, ← ih]
      rfl

/-- Handles used in turn end their own subscriptions. -/
theorem active_after_in_turn (s : State) {calls : List Call} (h : Valid calls)
    (hturn : InTurn calls) :
    (after replies s calls).active = (live calls).map (·.listener) := by
  induction calls using List.reverseRecOn with
  | nil => rfl
  | append_singleton calls call ih =>
    have ih := ih h.of_append hturn.of_append
    rw [after_append]
    cases call with
    | subscribe name =>
      rw [live_subscribe h.of_append, List.map_append, ← ih]
      rfl
    | cancel handle =>
      show (after replies s calls).active.erase handle.listener = _
      rw [live_cancel, ih, erase_map_listener]
      cases hfind : (live calls).find? (·.listener == handle.listener) with
      | some first =>
        have hown : first = handle := hturn calls handle List.prefix_rfl first hfind
        rw [eraseP_eq_filter (nodup_live calls) hfind, hown]
      | none =>
        rw [List.find?_eq_none] at hfind
        rw [List.eraseP_of_forall_not hfind, List.filter_eq_self.2]
        exact fun s hs => decide_eq_true fun hsame => hfind s hs (by simp [hsame])

/-- Handles used once each end as many subscriptions of a listener as they should. -/
theorem active_after_used_once (s : State) {calls : List Call} (h : Valid calls)
    (honce : ∀ handle, calls.count (.cancel handle) ≤ 1) :
    (after replies s calls).active.Perm ((live calls).map (·.listener)) := by
  induction calls using List.reverseRecOn with
  | nil => exact .refl _
  | append_singleton calls call ih =>
    have ih := ih h.of_append fun handle =>
      Nat.le_trans (by simp [List.count_append]) (honce handle)
    rw [after_append]
    cases call with
    | subscribe name =>
      rw [live_subscribe h.of_append, List.map_append]
      exact ih.append_right [name]
    | cancel handle =>
      have hmade : handle ∈ made calls := h calls handle List.prefix_rfl
      have hunused : .cancel handle ∉ calls := by
        have hcount := honce handle
        rw [List.count_append, List.count_singleton_self] at hcount
        exact List.count_eq_zero.1 (by omega)
      have hlive : handle ∈ live calls := List.mem_filter.2 ⟨hmade, decide_eq_true hunused⟩
      have herase : (live calls).filter (· ≠ handle) = (live calls).erase handle := by
        rw [(nodup_live calls).erase_eq_filter]
        exact List.filter_congr fun s _ => by by_cases hs : s = handle <;> simp [hs]
      rw [live_cancel, herase]
      -- What ends need not be the handle's own subscription, but it is one of the same listener.
      have hperm := (ih.trans ((List.perm_cons_erase hlive).map _)).erase handle.listener
      rwa [List.map_cons, List.erase_cons_head] at hperm

/-- **A handle ends the earliest subscription of its listener**, and so the latest ones remain, in
    the order in which they were made. Handles used in turn leave just the subscriptions whose own
    handle has not been used, and handles are in turn where no listener subscribes twice. Handles
    used once each leave as many subscriptions of every listener. Those that remain are told of a
    change one after another, in their order. -/
theorem earliest_ends_own_in_turn (s : State) {calls : List Call} (valid : Valid calls) :
    let e := after replies s calls
    e.active = (latest calls).map (·.listener) ∧
    (InTurn calls → e.active = (live calls).map (·.listener)) ∧
    ((∀ listener, calls.count (.subscribe listener) ≤ 1) → InTurn calls) ∧
    ((∀ handle, calls.count (.cancel handle) ≤ 1) →
      e.active.Perm ((live calls).map (·.listener))) ∧
    ∀ command, s.apply command ≠ s →
      e.perform [.send (.command command)] =
        answer (sequence (tell perform s)
          { e with state := s.apply command, requests := e.requests ++ [.command command] }
          e.active) ∧
      ((∀ listener, replies listener = []) →
        (e.perform [.send (.command command)]).1.notices =
          e.active.map (⟨·, s, s.apply command⟩)) := by
  intro e
  have hstate : e.state = s := state_after replies s calls
  refine ⟨active_after replies s calls, active_after_in_turn replies s valid,
    inTurn_of_subscribed_once valid, active_after_used_once replies s valid,
    fun command hchange => ⟨?_, fun hreplies => ?_⟩⟩
  · simp only [perform_singleton, act, send_command, hstate, if_neg hchange]
  · rw [notices_send_of_passive (passive_after replies hreplies s calls), hstate, if_neg hchange]
    rw [notices_after]
    rfl

end After

/-- A listener that has subscribed twice, with another one in between, cancels its first
    subscription. -/
theorem first_of_two_cancelled :
    let calls : List Call :=
      [.subscribe "a", .subscribe "b", .subscribe "a", .cancel ⟨"a", 0⟩]
    (after (fun _ => []) {} calls).active = ["b", "a"] ∧
    ((after (fun _ => []) {} calls).perform [.send (.command .clear)]).1.notices =
      [⟨"b", {}, { buffer := "" }⟩, ⟨"a", {}, { buffer := "" }⟩] := by
  intro calls
  have hmade : (⟨"a", 0⟩ : Subscription) ∈
      made [.subscribe "a", .subscribe "b", .subscribe "a"] := by decide
  have hfirst : (live [.subscribe "a", .subscribe "b", .subscribe "a"]).find?
      (·.listener == "a") = some ⟨"a", 0⟩ := by decide
  have hvalid : Valid calls :=
    (((AtEachCancel.nil.subscribe "a").subscribe "b").subscribe "a").cancel hmade
  have hturn : InTurn calls :=
    (((AtEachCancel.nil.subscribe "a").subscribe "b").subscribe "a").cancel fun first hfind =>
      Option.some.inj (hfind.symm.trans hfirst)
  obtain ⟨-, hlive, -, -, htold⟩ := earliest_ends_own_in_turn (fun _ => []) {} hvalid
  have hactive : (after (fun _ => []) {} calls).active = ["b", "a"] :=
    (hlive hturn).trans (by decide)
  refine ⟨hactive, ?_⟩
  rw [(htold .clear (by decide)).2 fun _ => rfl, hactive]
  rfl

/-- The handle of one subscription, used twice, ends another one as well. -/
theorem other_subscription_ends :
    ¬∀ replies (s : State) (calls : List Call), Valid calls →
      (after replies s calls).active = (live calls).map (·.listener) := by
  intro h
  have hmade : (⟨"a", 0⟩ : Subscription) ∈ made [.subscribe "a", .subscribe "a"] := by decide
  let calls : List Call := [.subscribe "a", .subscribe "a", .cancel ⟨"a", 0⟩, .cancel ⟨"a", 0⟩]
  have hvalid : Valid calls :=
    (((AtEachCancel.nil.subscribe "a").subscribe "a").cancel hmade).cancel hmade
  have hlive : (live calls).map (·.listener) = ["a"] := by decide
  have hactive := h (fun _ => []) {} calls hvalid
  rw [hlive, active_after] at hactive
  exact absurd hactive (by decide)

end Engine

end DeskCalc
