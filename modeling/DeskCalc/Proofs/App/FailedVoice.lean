import Mathlib.Data.Nat.Bits
import DeskCalc.Proofs.App.Hearing

/-!
# Voices that could not be set up

An application whose voice could not be set up starts with the voice off. The key that switches it
does not ask why it is off: without a synthesizer nothing comes of this, but one that refused a
property is still there, and speaks. This file fixes

* `Startup.Fails`: no synthesizer was found, or it refused a property;
* `App.heardAll`: the texts handed over in a run while the voice is on and there is a synthesizer;
* `spoken_queue_sublist`: nothing else is said or queued;
* **`failed_voice_off_until_switched`**: after a failed start the voice is on while the key was pressed
  an odd number of times, and silent until then, or for good if there is no synthesizer;
* `refused_voice_speaks`: after a refusal it need not stay silent.
-/

namespace DeskCalc

/-- No synthesizer was found, or the one that was refused a property. -/
inductive Startup.Fails (settings : Settings) : Startup → Prop where
  | failed (message : String) : Fails settings (.failed message)
  | refused {s : Synthesizer} {message : String} (h : (s.setUp settings).2 = .error message) :
    Fails settings (.found s)

/-! ## 1. The announcer -/

namespace Announcer

theorem voiceEnabled_start_of_fails {settings : Settings} {startup : Startup}
    (h : startup.Fails settings) : (start settings startup).2.1.voiceEnabled = false := by
  cases h with
  | failed message => rfl
  | @refused s message hrefused =>
    unfold start
    dsimp only
    split
    · rename_i hready
      rw [hready] at hrefused
      cases hrefused
    · rfl

/-- A worker is alive just while something is to be said. -/
def Busy (a : Announcer) : Prop := a.speaking = true ↔ a.queue ≠ []

theorem busy_start (settings : Settings) (startup : Startup) :
    (start settings startup).1.Busy := by
  obtain ⟨hqueue, hspeaking⟩ := start_idle settings startup
  simp [Busy, hqueue, hspeaking]

theorem busy_accept (a : Announcer) (text : String) : (a.accept text).Busy := by
  have hlength : (a.accept text).queue.length ≠ 0 := by
    simp only [accept, List.length_drop, List.length_append, List.length_singleton, capacity]
    omega
  simp only [Busy, ne_eq, ← List.length_eq_zero_iff, hlength, not_false_iff, iff_true]
  rfl

theorem Busy.speak {a : Announcer} (h : a.Busy) (settings : Settings) (text : String) :
    (a.speak settings text).Busy := by
  unfold Announcer.speak
  split
  · exact a.busy_accept text
  · exact h

theorem Busy.drain {a : Announcer} (h : a.Busy) : a.drain.1.Busy := by
  unfold Announcer.drain
  split
  · split
    · simp [Busy, finish]
    · exact h
  · exact h

theorem synthesizer_speak (settings : Settings) (a : Announcer) (text : String) :
    (a.speak settings text).synthesizer = a.synthesizer := by
  unfold speak
  split <;> rfl

theorem synthesizer_drain (a : Announcer) : a.drain.1.synthesizer = a.synthesizer := by
  unfold drain
  split
  · split <;> simp [finish, *]
  · rfl

theorem queue_accept_sublist (a : Announcer) (text : String) :
    (a.accept text).queue.Sublist (a.queue ++ [text]) :=
  List.drop_sublist _ _

section Texts

variable (settings : Settings) (a : Announcer) (texts : List String)

theorem synthesizer_foldl_speak :
    (texts.foldl (Announcer.speak settings) a).synthesizer = a.synthesizer := by
  induction texts generalizing a with
  | nil => rfl
  | cons text rest ih => rw [List.foldl_cons, ih, synthesizer_speak]

theorem Busy.foldl_speak {a : Announcer} (h : a.Busy) :
    (texts.foldl (Announcer.speak settings) a).Busy := by
  induction texts generalizing a with
  | nil => exact h
  | cons text rest ih => exact ih (h.speak settings text)

/-- Texts join the queue only while the voice is on and there is a synthesizer. -/
theorem queue_foldl_speak_sublist :
    (texts.foldl (Announcer.speak settings) a).queue.Sublist
      (a.queue ++ if settings.voiceEnabled && a.synthesizer.isSome then texts else []) := by
  induction texts generalizing a with
  | nil => simp
  | cons text rest ih =>
    have hrest := ih (a.speak settings text)
    rw [synthesizer_speak] at hrest
    by_cases hheard : (settings.voiceEnabled && a.synthesizer.isSome) = true
    · rw [if_pos hheard] at hrest ⊢
      rw [speak_heard text (by simpa using hheard)] at hrest
      have hjoined := (a.queue_accept_sublist text).append_right rest
      rw [List.append_assoc, List.singleton_append] at hjoined
      rw [List.foldl_cons, speak_heard text (by simpa using hheard)]
      exact hrest.trans hjoined
    · rw [if_neg hheard] at hrest ⊢
      have hsame : a.speak settings text = a := by
        unfold speak
        rw [if_neg hheard]
      rw [List.foldl_cons, hsame]
      rwa [hsame] at hrest

end Texts

theorem spoken_sayAll_sublist (s : Synthesizer) (texts : List String) :
    (sayAll s texts).spoken.Sublist texts := by
  induction texts with
  | nil => exact .slnil
  | cons text rest ih =>
    have hsaid : (say s text).spoken.Sublist [text] := by
      unfold say
      split
      · exact List.nil_sublist _
      · exact List.Sublist.refl _
    exact hsaid.append ih

/-- What is said comes from the queue. -/
theorem spoken_drain_sublist (a : Announcer) :
    (a.drain.2.spoken ++ a.drain.1.queue).Sublist a.queue := by
  unfold drain
  split
  · split
    · dsimp only [finish]
      rw [List.append_nil]
      exact spoken_sayAll_sublist _ _
    · exact List.Sublist.refl _
  · exact List.Sublist.refl _

end Announcer

namespace App

/-- An application starts with the announcer and the settings that the announcer's start leaves. -/
theorem start_heard {settings : Settings} {state : State} {startup : Startup} {first : App}
    {printed : List String} (h : start settings state startup = .ok (first, printed)) :
    first.announcer = (Announcer.start settings startup).1 ∧
      first.settings = (Announcer.start settings startup).2.1 := by
  unfold start at h
  generalize Announcer.start settings startup = begun at h ⊢
  obtain ⟨announcer, heard, lines⟩ := begun
  simp only [do_eq_ok] at h
  obtain ⟨panel, -, hfirst⟩ := h
  cases hfirst
  exact ⟨rfl, rfl⟩

/-! ## 2. One input -/

/-- Whether an input is the key that switches the voice. -/
def Input.switchesVoice : Input → Bool
  | .call c => c.switchesVoice
  | .speech => false

/-- The texts that an input hands over to an announcer that takes them: the voice is on and there is a
    synthesizer. -/
def heard (app : App) (input : Input) : List String :=
  if (app.next input).settings.voiceEnabled && app.announcer.synthesizer.isSome then
    (app.observe input).told
  else []

section Step

variable (app : App) (input : Input)

theorem voiceEnabled_next :
    (app.next input).settings.voiceEnabled =
      (app.settings.voiceEnabled ^^ input.switchesVoice) := by
  cases input with
  | speech => simp [next, speech, Input.switchesVoice]
  | call call =>
    rw [next, (app.hears call).settings, Input.switchesVoice]
    cases call.switchesVoice with
    | true => simp [Settings.toggleVoice]
    | false => simp

theorem synthesizer_next :
    (app.next input).announcer.synthesizer = app.announcer.synthesizer := by
  cases input with
  | speech => exact app.announcer.synthesizer_drain
  | call call =>
    rw [next, (app.hears call).announcer]
    exact Announcer.synthesizer_foldl_speak _ _ _

theorem busy_next (h : app.announcer.Busy) : (app.next input).announcer.Busy := by
  cases input with
  | speech => exact h.drain
  | call call =>
    rw [next, (app.hears call).announcer]
    exact h.foldl_speak _ _

/-- What an input has said or queued was queued before, or is heard of the input. -/
theorem spoken_queue_next :
    ((app.observe input).uttered.spoken ++ (app.next input).announcer.queue).Sublist
      (app.announcer.queue ++ app.heard input) := by
  cases input with
  | speech => exact app.announcer.spoken_drain_sublist.trans (List.sublist_append_left _ _)
  | call call =>
    have hqueue := Announcer.queue_foldl_speak_sublist (app.take call).settings app.announcer
      (app.told call)
    rw [← (app.hears call).announcer] at hqueue
    exact hqueue

end Step

/-! ## 3. Runs -/

/-- The application after inputs in a row. -/
def nextAll (app : App) (inputs : List Input) : App := inputs.foldl next app

/-- The texts said in a run. -/
def spoken (app : App) (inputs : List Input) : List String :=
  (app.observeAll inputs).flatMap (·.uttered.spoken)

/-- The texts handed over in a run while the voice is on and there is a synthesizer. -/
def heardAll (app : App) : List Input → List String
  | [] => []
  | input :: rest => app.heard input ++ (app.next input).heardAll rest

section Run

variable {app : App} {inputs : List Input}

/-- The voice changes sides with every press of its key. -/
theorem voiceEnabled_nextAll (app : App) (inputs : List Input) :
    (app.nextAll inputs).settings.voiceEnabled =
      (app.settings.voiceEnabled ^^ (inputs.countP (·.switchesVoice)).bodd) := by
  induction inputs generalizing app with
  | nil => exact (Bool.xor_false _).symm
  | cons input rest ih =>
    have hrest := ih (app.next input)
    rw [voiceEnabled_next] at hrest
    cases hswitches : input.switchesVoice with
    | true =>
      rw [List.countP_cons_of_pos hswitches, Nat.bodd_succ]
      rw [hswitches] at hrest
      exact hrest.trans (by simp)
    | false =>
      rw [List.countP_cons_of_neg (by simp [hswitches])]
      rw [hswitches, Bool.xor_false] at hrest
      exact hrest

theorem busy_nextAll (h : app.announcer.Busy) (inputs : List Input) :
    (app.nextAll inputs).announcer.Busy := by
  induction inputs generalizing app with
  | nil => exact h
  | cons input rest ih => exact ih (app.busy_next input h)

/-- **What is said or queued in a run was queued before it or is heard in it**, in this order. -/
theorem spoken_queue_sublist (app : App) (inputs : List Input) :
    (app.spoken inputs ++ (app.nextAll inputs).announcer.queue).Sublist
      (app.announcer.queue ++ app.heardAll inputs) := by
  induction inputs generalizing app with
  | nil =>
    rw [heardAll, List.append_nil]
    exact List.Sublist.refl _
  | cons input rest ih =>
    -- what the first input leaves in the queue, the others find there
    have hstep := (app.spoken_queue_next input).append_right ((app.next input).heardAll rest)
    have hrest := (ih (app.next input)).append_left (app.observe input).uttered.spoken
    rw [List.append_assoc, List.append_assoc] at hstep
    rw [← List.append_assoc] at hrest
    exact hrest.trans hstep

/-- Without a synthesizer nothing is heard. -/
theorem heardAll_of_none (h : app.announcer.synthesizer = none) : app.heardAll inputs = [] := by
  induction inputs generalizing app with
  | nil => rfl
  | cons input rest ih =>
    have hnone : app.heard input = [] := by simp [heard, h]
    rw [heardAll, hnone, ih (by rw [synthesizer_next, h]), List.append_nil]

/-- While the voice is off and nobody switches it, nothing is heard. -/
theorem heardAll_of_off (h : app.settings.voiceEnabled = false)
    (hkeys : ∀ input ∈ inputs, input.switchesVoice = false) : app.heardAll inputs = [] := by
  induction inputs generalizing app with
  | nil => rfl
  | cons input rest ih =>
    obtain ⟨hkey, hrest⟩ := List.forall_mem_cons.1 hkeys
    have hoff : (app.next input).settings.voiceEnabled = false := by
      rw [voiceEnabled_next, h, hkey]
      rfl
    have hnone : app.heard input = [] := by simp [heard, hoff]
    rw [heardAll, hnone, ih hoff hrest, List.append_nil]

end Run

/-- **After a failed start the voice is on while its key was pressed an odd number of times.** What is
    said or queued was handed over while it was on, to a synthesizer that is there although it refused
    a property; as long as the key was not pressed, or if there is no synthesizer, nothing is. -/
theorem failed_voice_off_until_switched {settings : Settings} {state : State} {startup : Startup}
    {first : App} {printed : List String} (hfails : startup.Fails settings)
    (hstart : start settings state startup = .ok (first, printed)) (inputs : List Input) :
    ((first.nextAll inputs).settings.voiceEnabled = true ↔
      inputs.countP (·.switchesVoice) % 2 = 1) ∧
    (first.spoken inputs ++ (first.nextAll inputs).announcer.queue).Sublist
      (first.heardAll inputs) ∧
    ((∀ input ∈ inputs, input.switchesVoice = false) ∨ (∃ message, startup = .failed message) →
      first.spoken inputs = [] ∧ (first.nextAll inputs).announcer.queue = [] ∧
        (first.nextAll inputs).announcer.speaking = false) := by
  obtain ⟨hannouncer, hsettings⟩ := start_heard hstart
  have hoff : first.settings.voiceEnabled = false := by
    rw [hsettings]
    exact Announcer.voiceEnabled_start_of_fails hfails
  have hbusy : first.announcer.Busy := by
    rw [hannouncer]
    exact Announcer.busy_start settings startup
  have hsaid := first.spoken_queue_sublist inputs
  rw [hannouncer, (Announcer.start_idle settings startup).1, List.nil_append] at hsaid
  refine ⟨?_, hsaid, fun hsilent => ?_⟩
  · rw [voiceEnabled_nextAll, hoff, Bool.false_xor, Nat.mod_two_of_bodd]
    cases (inputs.countP (·.switchesVoice)).bodd <;> decide
  · have hnothing : first.heardAll inputs = [] := by
      rcases hsilent with hkeys | ⟨message, rfl⟩
      · exact heardAll_of_off hoff hkeys
      · exact heardAll_of_none (by rw [hannouncer]; rfl)
    rw [hnothing, List.sublist_nil, List.append_eq_nil_iff] at hsaid
    obtain ⟨hspoken, hqueue⟩ := hsaid
    have hidle : (first.nextAll inputs).announcer.speaking = true ↔
        (first.nextAll inputs).announcer.queue ≠ [] := busy_nextAll hbusy inputs
    refine ⟨hspoken, hqueue, ?_⟩
    rw [← Bool.not_eq_true, hidle, not_not]
    exact hqueue

/-- A synthesizer that refuses the rate is silent on a seven, and the voice is on after three presses
    of its key. -/
theorem refused_voice_silent_at_first :
    let seven : List Input := [.call (.key '7'.toNat), .speech]
    ∃ first printed, start {} {} (.found { refuses := [.rate] }) = .ok (first, printed) ∧
      first.spoken seven = [] ∧ (first.nextAll seven).announcer.queue = [] ∧
      (first.nextAll (List.replicate 3 (.call (.key 'v'.toNat)))).settings.voiceEnabled = true := by
  intro seven
  have hcheck : (start {} {} (.found { refuses := [.rate] })).toOption.isSome = true := by
    unfold start Panel.create
    rw [Layout.calculator_eq]
    decide +kernel
  obtain ⟨⟨first, printed⟩, hfirst⟩ := Option.isSome_iff_exists.1 hcheck
  have hstart := eq_ok_of_toOption hfirst
  have hrefused : (Synthesizer.setUp {} { refuses := [.rate] }).2 = .error "cannot set rate" := by
    decide
  have hfails : Startup.Fails {} (.found { refuses := [.rate] }) := .refused hrefused
  obtain ⟨-, -, hsilent⟩ := failed_voice_off_until_switched hfails hstart seven
  obtain ⟨hspoken, hqueue, -⟩ := hsilent (.inl (by decide))
  obtain ⟨hon, -, -⟩ := failed_voice_off_until_switched hfails hstart
    (List.replicate 3 (.call (.key 'v'.toNat)))
  exact ⟨first, printed, hstart, hspoken, hqueue, hon.2 (by decide)⟩

/-- A synthesizer that refused the volume speaks once the key that switches the voice was pressed. -/
theorem refused_voice_speaks :
    ¬∀ (settings : Settings) (state : State) (startup : Startup) (first : App)
      (printed : List String) (inputs : List Input), startup.Fails settings →
      start settings state startup = .ok (first, printed) →
      (first.nextAll inputs).settings.voiceEnabled = false ∧
        (first.nextAll inputs).announcer.queue = [] ∧ first.spoken inputs = [] := by
  intro h
  let startup : Startup := .found { refuses := [.volume] }
  let inputs : List Input := [.call (.key 'v'.toNat), .call (.key '7'.toNat), .speech]
  have hcheck : (start {} {} startup).toOption.any (fun begun =>
      (begun.1.nextAll inputs).settings.voiceEnabled &&
        begun.1.spoken inputs == ["voice on", "7"]) = true := by
    unfold start Panel.create
    rw [Layout.calculator_eq]
    decide +kernel
  obtain ⟨⟨first, printed⟩, hfirst, hgood⟩ := (Option.any_eq_true _ _).1 hcheck
  simp only [Bool.and_eq_true, beq_iff_eq] at hgood
  have hrefused : (Synthesizer.setUp {} { refuses := [.volume] }).2 =
      .error "cannot set volume" := by
    decide
  have hfails : startup.Fails {} := .refused hrefused
  obtain ⟨-, -, hsilent⟩ :=
    h {} {} startup first printed inputs hfails (eq_ok_of_toOption hfirst)
  rw [hgood.2] at hsilent
  cases hsilent

end App

end DeskCalc
