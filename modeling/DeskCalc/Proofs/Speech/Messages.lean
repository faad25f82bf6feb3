import DeskCalc.Proofs.Speech.Interleaving
import Mathlib.Data.List.Nodup
import Mathlib.Data.List.Range

/-!
# What becomes of a message

A message that somebody asks to have said is refused, or it joins the queue. From there the worker
takes it and hands it to the synthesizer, unless five later ones push it out first. This file fixes

* `accepted`, `refused`, `taken`, `handed`: the messages that a run is about, in order;
* `Ledger`: how they are related at every moment;
* `dropped_iff_pushedOut`: a message is dropped just when the fifth later one finds it pending;
* `Run.drained`: left alone, the worker says everything and ends, as `Announcer.drain` has it;
* **`one_worker_says_all_but_pushed_out`**: the whole of what the queue promises.
-/

namespace DeskCalc.Speech

/-! ## 1. The messages of a run -/

/-- The messages that joined the queue. -/
def accepted (events : List Event) : List Message :=
  events.filterMap fun
    | .accepted message => some message
    | _ => none

/-- The messages that did not join the queue, as the voice was off or there was no synthesizer. -/
def refused (events : List Event) : List Message :=
  events.filterMap fun
    | .refused message => some message
    | _ => none

/-- The messages that a worker took out of the queue. -/
def taken (events : List Event) : List Message :=
  events.filterMap fun
    | .taken message => some message
    | _ => none

/-- The messages handed to the synthesizer, whether it then failed or not. -/
def handed (events : List Event) : List Message :=
  events.filterMap fun
    | .handed message _ => some message
    | _ => none

/-- The message in a worker's hands. -/
def Worker.held : Worker → List Message
  | .looking => []
  | .holding message => [message]

/-- How the messages of a run from the start and its last moment belong together. -/
structure Ledger (events : List Event) (m : Moment) : Prop where
  numbered : ((accepted events ++ refused events).map (·.number)).Perm (List.range m.asked)
  waiting : ∃ gone, accepted events = gone ++ m.pending ∧ (taken events).Sublist gone
  said : taken events = handed events ++ m.workers.flatMap Worker.held

theorem keepLatest_suffix (messages : List Message) :
    ∃ gone, messages = gone ++ keepLatest messages :=
  ⟨_, (List.take_append_drop _ messages).symm⟩

section Step

variable {events : List Event} {m m' : Moment} {event : Event}

/-- Whoever asks gets a new number. -/
theorem Ledger.numbered_step (h : Ledger events m) (next : Step m event m') :
    ((accepted (events ++ [event]) ++ refused (events ++ [event])).map (·.number)).Perm
      (List.range m'.asked) := by
  cases next with
  | accept settings text heard =>
    have hperm := (h.numbered.cons m.asked).trans (List.perm_append_singleton _ _).symm
    rw [← List.range_succ] at hperm
    refine List.Perm.trans ?_ hperm
    simp only [accepted, refused, List.filterMap_append, List.filterMap_cons,
      List.filterMap_nil, List.append_nil, List.map_append, List.map_cons, List.append_assoc,
      List.singleton_append]
    exact List.perm_middle
  | refuse settings text unheard =>
    have hperm := h.numbered.append_right [m.asked]
    rw [← List.range_succ] at hperm
    simpa [accepted, refused] using hperm
  | take | hand | finish => simpa [accepted, refused] using h.numbered

/-- What is no longer pending was there before all that is. -/
theorem Ledger.waiting_step (h : Ledger events m) (next : Step m event m') :
    ∃ gone, accepted (events ++ [event]) = gone ++ m'.pending ∧
      (taken (events ++ [event])).Sublist gone := by
  obtain ⟨gone, hgone, htaken⟩ := h.waiting
  cases next with
  | accept settings text heard =>
    obtain ⟨pushed, hpushed⟩ := keepLatest_suffix (m.pending ++ [⟨m.asked, text⟩])
    refine ⟨gone ++ pushed, ?_, ?_⟩
    · rw [List.append_assoc, ← hpushed, ← List.append_assoc, ← hgone]
      simp [accepted]
    · have hsame : taken (events ++ [.accepted ⟨m.asked, text⟩]) = taken events := by
        simp [taken]
      rw [hsame]
      exact htaken.trans (List.sublist_append_left _ _)
  | @take before behind message rest announcer hworkers hnext hpending =>
    rw [hpending] at hgone
    have hlater : taken (events ++ [.taken message]) = taken events ++ [message] := by
      simp [taken]
    refine ⟨gone ++ [message], by simpa [accepted] using hgone, ?_⟩
    rw [hlater]
    exact htaken.append (List.Sublist.refl _)
  | refuse | hand | finish =>
    exact ⟨gone, by simpa [accepted] using hgone, by simpa [taken] using htaken⟩

/-- What was taken is handed over or still held. -/
theorem Ledger.said_step (h : Ledger events m) (hsound : Sound m) (next : Step m event m') :
    taken (events ++ [event]) =
      handed (events ++ [event]) ++ m'.workers.flatMap Worker.held := by
  have hsaid := h.said
  cases next with
  | accept settings text heard =>
    simp only [taken, handed] at hsaid ⊢
    split <;> simpa [Worker.held] using hsaid
  | refuse settings text unheard => simpa [taken, handed] using hsaid
  | take before behind hworkers hnext hpending =>
    obtain ⟨rfl, rfl, -⟩ := hsound.only hworkers
    rw [hworkers] at hsaid
    simpa [taken, handed, Worker.held] using hsaid
  | hand before behind succeeds hworkers =>
    obtain ⟨rfl, rfl, -⟩ := hsound.only hworkers
    rw [hworkers] at hsaid
    simpa [taken, handed, Worker.held] using hsaid
  | finish before behind hworkers hnext =>
    obtain ⟨rfl, rfl, -⟩ := hsound.only hworkers
    rw [hworkers] at hsaid
    simpa [taken, handed, Worker.held] using hsaid

theorem Ledger.step (h : Ledger events m) (hsound : Sound m) (next : Step m event m') :
    Ledger (events ++ [event]) m' :=
  ⟨h.numbered_step next, h.waiting_step next, h.said_step hsound next⟩

end Step

theorem Run.ledger {settings : Settings} {startup : Startup} {events : List Event} {m : Moment}
    (h : Run (opening settings startup) events m) : Ledger events m := by
  induction h with
  | start => exact ⟨.refl _, ⟨[], rfl, .refl _⟩, rfl⟩
  | step run next ih => exact ih.step (run.sound (sound_opening settings startup)) next

theorem Ledger.nodup_accepted {events : List Event} {m : Moment} (h : Ledger events m) :
    (accepted events).Nodup :=
  (List.nodup_append.1 (h.numbered.nodup_iff.2 List.nodup_range).of_map).1

theorem Ledger.not_accepted {events : List Event} {m : Moment} (h : Ledger events m)
    {message : Message} (hrefused : message ∈ refused events) : message ∉ accepted events :=
  fun haccepted =>
    (List.nodup_append.1 (h.numbered.nodup_iff.2 List.nodup_range).of_map).2.2
      message haccepted message hrefused rfl

theorem Ledger.mem_taken {events : List Event} {m : Moment} (h : Ledger events m)
    (message : Message) :
    message ∈ taken events ↔
      message ∈ handed events ∨ ∃ worker ∈ m.workers, message ∈ worker.held := by
  rw [h.said, List.mem_append, List.mem_flatMap]

/-! ## 2. Dropped messages -/

/-- The message joined the queue, but it is there no more, and no worker has it or has handed it to
    the synthesizer. -/
structure Dropped (events : List Event) (m : Moment) (message : Message) : Prop where
  joined : message ∈ accepted events
  gone : message ∉ m.pending
  free : ∀ worker ∈ m.workers, message ∉ worker.held
  unsaid : message ∉ handed events

/-- The run comes to a moment `m₀` at which the message is pending and four later ones have joined
    the queue, and there a fifth one joins. -/
def PushedOut (first : Moment) (events : List Event) (m : Moment) (message : Message) : Prop :=
  ∃ before fifth since m₀ m₁, events = before ++ .accepted fifth :: since ∧
    Run first before m₀ ∧ Step m₀ (.accepted fifth) m₁ ∧ Run m₁ since m ∧
    message ∈ m₀.pending ∧
    ∃ earlier later, accepted before = earlier ++ message :: later ∧ later.length = 4

theorem keepLatest_concat (pending : List Message) (new : Message) :
    keepLatest (pending ++ [new]) =
      pending.drop (pending.length + 1 - Announcer.capacity) ++ [new] := by
  unfold keepLatest
  rw [List.length_append, List.length_singleton, List.drop_append_of_le_length]
  simp only [Announcer.capacity]
  omega

/-- What is pushed out is the oldest of five. -/
theorem oldest_of_notMem_keepLatest {pending : List Message}
    (hshort : pending.length ≤ Announcer.capacity) {message new : Message}
    (hpending : message ∈ pending) (hgone : message ∉ keepLatest (pending ++ [new])) :
    ∃ later, pending = message :: later ∧ later.length = 4 := by
  rw [keepLatest_concat, List.mem_append, not_or] at hgone
  cases pending with
  | nil => cases hpending
  | cons oldest later =>
    simp only [List.length_cons, Announcer.capacity] at hshort hgone
    obtain hless | hfour := Nat.lt_or_ge later.length 4
    · have hall : later.length + 1 + 1 - 5 = 0 := by omega
      rw [hall] at hgone
      exact absurd hpending hgone.1
    · have hone : later.length + 1 + 1 - 5 = 1 := by omega
      rw [hone] at hgone
      rcases List.mem_cons.1 hpending with rfl | hlater
      · exact ⟨later, rfl, by omega⟩
      · exact absurd hlater hgone.1

/-- What is pending later on, or is taken, was pending at first or has joined since. -/
theorem Step.mem_of_mem {m m' : Moment} {event : Event} (next : Step m event m')
    {message : Message} (h : message ∈ m'.pending ∨ message ∈ taken [event]) :
    message ∈ m.pending ∨ message ∈ accepted [event] := by
  cases next with
  | accept settings text heard =>
    rcases h with hpending | htaken
    · have hin := List.mem_of_mem_drop hpending
      simpa [accepted] using hin
    · cases htaken
  | take before behind hworkers hnext hpending =>
    rw [hpending]
    simpa [taken, accepted, or_comm] using h
  | refuse | hand | finish => simpa [taken, accepted] using h

theorem Run.mem_of_mem {first m : Moment} {events : List Event} (run : Run first events m)
    {message : Message} (h : message ∈ m.pending ∨ message ∈ taken events) :
    message ∈ first.pending ∨ message ∈ accepted events := by
  induction run with
  | start => exact h
  | @step events m m' event run next ih =>
    have htaken : taken (events ++ [event]) = taken events ++ taken [event] :=
      List.filterMap_append
    have haccepted : accepted (events ++ [event]) = accepted events ++ accepted [event] :=
      List.filterMap_append
    rw [htaken, List.mem_append, or_left_comm] at h
    rw [haccepted, List.mem_append, ← or_assoc]
    rcases h with hbefore | hnow
    · exact .inl (ih (.inr hbefore))
    · rcases next.mem_of_mem hnow with hpending | hjoined
      · exact .inl (ih (.inl hpending))
      · exact .inr hjoined

theorem Step.pending_of_accepted {m m' : Moment} {message : Message}
    (next : Step m (.accepted message) m') :
    m'.pending = keepLatest (m.pending ++ [message]) := by
  cases next
  rfl

section FromTheStart

variable {settings : Settings} {startup : Startup} {events : List Event} {m : Moment}

theorem Run.pushedOut (run : Run (opening settings startup) events m) {message : Message}
    (hjoined : message ∈ accepted events) (hgone : message ∉ m.pending)
    (htaken : message ∉ taken events) :
    PushedOut (opening settings startup) events m message := by
  induction run with
  | start => cases hjoined
  | @step events m m' event run next ih =>
    have hearlier (hjoined : message ∈ accepted events) (hgone : message ∉ m.pending)
        (htaken : message ∉ taken events) :
        PushedOut (opening settings startup) (events ++ [event]) m' message := by
      obtain ⟨before, fifth, since, m₀, m₁, rfl, hbefore, hfifth, hsince, hpending⟩ :=
        ih hjoined hgone htaken
      exact ⟨before, fifth, since ++ [event], m₀, m₁, by simp, hbefore, hfifth,
        .step hsince next, hpending⟩
    have hsound := run.sound (sound_opening settings startup)
    cases next with
    | accept settings text heard =>
      have hnew : message ≠ ⟨m.asked, text⟩ := by
        rintro rfl
        exact hgone (by simp [keepLatest_concat])
      have hbefore : message ∈ accepted events := by
        simpa [accepted, hnew] using hjoined
      -- Either this is the fifth message that joins behind it, or it was gone before.
      by_cases hpending : message ∈ m.pending
      · obtain ⟨later, hlater, hfour⟩ := oldest_of_notMem_keepLatest hsound.short hpending hgone
        obtain ⟨earlier, hearlier, -⟩ := run.ledger.waiting
        rw [hlater] at hearlier
        exact ⟨events, _, [], m, _, rfl, run, .accept settings text heard, .start, hpending,
          earlier, later, hearlier, hfour⟩
      · exact hearlier hbefore hpending (by simpa [taken] using htaken)
    | @take before behind first rest announcer hworkers hnext hpending =>
      have hnot : message ∉ taken events ∧ message ≠ first := by simpa [taken] using htaken
      refine hearlier (by simpa [accepted] using hjoined) ?_ hnot.1
      rw [hpending, List.mem_cons, not_or]
      exact ⟨hnot.2, hgone⟩
    | refuse | hand | finish =>
      exact hearlier (by simpa [accepted] using hjoined) hgone (by simpa [taken] using htaken)

theorem PushedOut.dropped {message : Message}
    (h : PushedOut (opening settings startup) events m message) : Dropped events m message := by
  obtain ⟨before, fifth, since, m₀, m₁, rfl, hbefore, hfifth, hsince, hpending, earlier, later,
    haccepted, hfour⟩ := h
  have hledger := ((hbefore.step hfifth).append hsince).ledger
  rw [List.append_assoc, List.singleton_append] at hledger
  have hjoined : accepted (before ++ .accepted fifth :: since) =
      earlier ++ message :: (later ++ fifth :: accepted since) := by
    simp only [accepted] at haccepted ⊢
    simp [haccepted]
  have hnodup := hledger.nodup_accepted
  rw [hjoined, List.nodup_middle, List.nodup_cons] at hnodup
  obtain ⟨hearlier, hlater, hother, hnew⟩ : message ∉ earlier ∧ message ∉ later ∧
      message ≠ fifth ∧ message ∉ accepted since := by
    simpa [not_or] using hnodup.1
  -- When the fifth joined, the message was the oldest of five.
  obtain ⟨gone, hgone, htaken⟩ := hbefore.ledger.waiting
  obtain ⟨front, behind, hsplit⟩ := List.append_of_mem hpending
  rw [haccepted, hsplit, ← List.append_assoc,
    List.append_cons_inj_of_notMem hearlier hlater] at hgone
  obtain ⟨rfl, -, rfl⟩ := hgone
  have hshort := (hbefore.sound (sound_opening settings startup)).short
  have hfront : front = [] := by
    rw [← List.length_eq_zero_iff]
    simp only [hsplit, List.length_append, List.length_cons, Announcer.capacity] at hshort
    omega
  have hleft : m₁.pending = later ++ [fifth] := by
    rw [hfifth.pending_of_accepted, hsplit, hfront, List.nil_append, keepLatest_concat,
      List.length_cons, hfour]
    rfl
  have hsince : message ∉ m.pending ∧ message ∉ taken since := by
    rw [← not_or]
    intro hin
    rcases hsince.mem_of_mem hin with hin | hin
    · rw [hleft] at hin
      exact absurd hin (by simp [hlater, hother])
    · exact hnew hin
  have hnever : message ∉ taken (before ++ .accepted fifth :: since) := by
    have hparts : taken (before ++ .accepted fifth :: since) = taken before ++ taken since := by
      simp [taken]
    rw [hparts, List.mem_append, not_or]
    exact ⟨fun hin => hearlier (List.mem_append_left _ (htaken.subset hin)), hsince.2⟩
  rw [hledger.mem_taken, not_or] at hnever
  refine ⟨by simp [hjoined], hsince.1, fun worker hworker hheld => ?_, hnever.1⟩
  exact hnever.2 ⟨worker, hworker, hheld⟩

theorem dropped_iff_pushedOut (run : Run (opening settings startup) events m)
    {message : Message} :
    Dropped events m message ↔ PushedOut (opening settings startup) events m message := by
  constructor
  · intro h
    refine run.pushedOut h.joined h.gone ?_
    rw [run.ledger.mem_taken, not_or]
    exact ⟨h.unsaid, fun ⟨worker, hworker, hheld⟩ => h.free worker hworker hheld⟩
  · exact PushedOut.dropped

end FromTheStart

/-! ## 3. The worker left alone -/

/-- The texts that the synthesizer said. -/
def spoken (events : List Event) : List String :=
  events.filterMap fun
    | .handed message true => some message.text
    | _ => none

/-- Takes the messages one by one and hands them to the synthesizer. -/
def workOff (s : Synthesizer) (messages : List Message) : List Event :=
  messages.flatMap fun message =>
    [.taken message, .handed message (!s.mute.contains message.text)]

theorem run_workOff (s : Synthesizer) (a : Announcer) (pending : List Message) (asked : Nat) :
    Run ⟨{ a with queue := pending.map (·.text) }, pending, [.looking], asked⟩ (workOff s pending)
      ⟨{ a with queue := [] }, [], [.looking], asked⟩ := by
  induction pending with
  | nil => exact .start
  | cons message rest ih =>
    have htake : Step ⟨{ a with queue := (message :: rest).map (·.text) }, message :: rest,
        [.looking], asked⟩ (.taken message)
        ⟨{ a with queue := rest.map (·.text) }, rest, [.holding message], asked⟩ :=
      .take [] [] rfl rfl rfl
    have hhand : Step ⟨{ a with queue := rest.map (·.text) }, rest, [.holding message], asked⟩
        (.handed message (!s.mute.contains message.text))
        ⟨{ a with queue := rest.map (·.text) }, rest, [.looking], asked⟩ :=
      .hand [] [] _ rfl
    exact ((Run.start.step htake).step hhand).append ih

theorem spoken_workOff (s : Synthesizer) (messages : List Message) :
    spoken (workOff s messages) = (Announcer.sayAll s (messages.map (·.text))).spoken := by
  induction messages with
  | nil => rfl
  | cons message rest ih =>
    simp only [spoken, workOff, Announcer.sayAll, Announcer.say, List.flatMap_cons,
      List.map_cons, List.filterMap_append] at ih ⊢
    rw [ih]
    cases s.mute.contains message.text <;> rfl

/-- **Left alone, the worker says everything and ends**, as `Announcer.drain` has it. -/
theorem Run.drained {first m : Moment} {events : List Event} (run : Run first events m)
    (hfirst : Sound first) {s : Synthesizer} (hsynthesizer : m.announcer.synthesizer = some s)
    (hworkers : m.workers = [.looking]) :
    Run m (workOff s m.pending ++ [.finished]) ⟨m.announcer.drain.1, [], [], m.asked⟩ ∧
      spoken (workOff s m.pending) = m.announcer.drain.2.spoken := by
  have hsound := run.sound hfirst
  have hsplit : m.workers = [] ++ .looking :: [] := hworkers
  have hspeaking : m.announcer.speaking = true := (hsound.only hsplit).2.2
  have hdrain : m.announcer.drain =
      (Announcer.finish { m.announcer with queue := [] },
        Announcer.sayAll s m.announcer.queue) := by
    simp [Announcer.drain, hsynthesizer, hspeaking]
  rw [hdrain]
  refine ⟨?_, ?_⟩
  · have hstart : m =
        ⟨{ m.announcer with queue := m.pending.map (·.text) }, m.pending, [.looking], m.asked⟩ := by
      rw [← hsound.queue, ← hworkers]
    have hwork := run_workOff s m.announcer m.pending m.asked
    rw [← hstart] at hwork
    exact hwork.step (.finish [] [] rfl rfl)
  · rw [spoken_workOff, hsound.queue]

/-! ## 4. What the queue promises -/

theorem Run.idle_of_finished {first m : Moment} {events : List Event} (run : Run first events m)
    {before : List Event} (hlast : events = before ++ [.finished]) :
    m.announcer.queue = [] ∧ m.announcer.speaking = false := by
  cases run with
  | start => exact absurd hlast.symm (by simp)
  | step run next =>
    obtain ⟨-, hevent⟩ := List.append_inj' hlast rfl
    cases hevent
    cases next with
    | finish before behind hworkers hnext =>
      have hqueue := Announcer.next?_eq_none.1 hnext
      exact ⟨hqueue, rfl⟩

/-- **One worker says, in order, everything that is not pushed out.** However the speakers and the
    worker follow one another, and whatever the synthesizer fails to say: the queue holds at most
    five texts; there is at most one worker, the flag is set just while there is one, and there is
    one while anything is in the queue. The messages handed to the synthesizer are messages
    accepted, each once and in their order. A message is dropped just when the fifth later one finds
    it pending. A message refused is never handed over. When a worker ends, nothing is left. -/
theorem one_worker_says_all_but_pushed_out (settings : Settings) (startup : Startup)
    {events : List Event} {m : Moment} (run : Run (opening settings startup) events m) :
    (m.announcer.queue = m.pending.map (·.text) ∧ m.announcer.queue.length ≤ 5) ∧
    m.workers.length ≤ 1 ∧
    (m.announcer.speaking = true ↔ m.workers.length = 1) ∧
    (m.announcer.queue ≠ [] → m.announcer.speaking = true) ∧
    ((handed events).Sublist (accepted events) ∧ (handed events).Nodup) ∧
    (∀ message, Dropped events m message ↔
      PushedOut (opening settings startup) events m message) ∧
    (∀ message ∈ refused events, message ∉ handed events) ∧
    ∀ before, events = before ++ [.finished] →
      m.announcer.queue = [] ∧ m.announcer.speaking = false := by
  have hsound := run.sound (sound_opening settings startup)
  have hledger := run.ledger
  have hhanded : (handed events).Sublist (accepted events) := by
    obtain ⟨gone, hgone, htaken⟩ := hledger.waiting
    have hfirst : (handed events).Sublist (taken events) := by
      rw [hledger.said]
      exact List.sublist_append_left _ _
    rw [hgone]
    exact (hfirst.trans htaken).trans (List.sublist_append_left _ _)
  refine ⟨⟨hsound.queue, ?_⟩, ?_, ?_, ?_, ⟨hhanded, hhanded.nodup hledger.nodup_accepted⟩,
    fun message => dropped_iff_pushedOut run, ?_, fun before => run.idle_of_finished⟩
  · rw [hsound.queue, List.length_map]
    exact hsound.short
  · rcases hsound.manned with ⟨-, worker, halive⟩ | ⟨-, halive, -⟩ <;> simp [halive]
  · rcases hsound.manned with ⟨hspeaking, worker, halive⟩ | ⟨hspeaking, halive, -⟩ <;>
      simp [hspeaking, halive]
  · intro hqueue
    rcases hsound.manned with ⟨hspeaking, -⟩ | ⟨-, -, hnone⟩
    · exact hspeaking
    · exact absurd (by rw [hsound.queue, hnone]; rfl) hqueue
  · exact fun message hrefused hin => hledger.not_accepted hrefused (hhanded.subset hin)

/-- The first of six messages is pushed out, the second cannot be said, and one that comes when the
    voice is off is refused. -/
theorem first_of_six_pushed_out :
    let events : List Event :=
      [.accepted ⟨0, "a"⟩, .accepted ⟨1, "b"⟩, .accepted ⟨2, "c"⟩, .accepted ⟨3, "d"⟩,
        .accepted ⟨4, "e"⟩, .accepted ⟨5, "f"⟩, .taken ⟨1, "b"⟩, .handed ⟨1, "b"⟩ false,
        .refused ⟨6, "g"⟩]
    ∃ m, Run (opening {} (.found { mute := ["b"] })) events m ∧
      Dropped events m ⟨0, "a"⟩ ∧ ⟨6, "g"⟩ ∉ handed events ∧
      m.announcer.speaking = true ∧ m.pending.length = 4 := by
  intro events
  let ready : Synthesizer :=
    { mute := ["b"], volume := some (.real 0.8), rate := some (.whole 150) }
  let busy (pending : List Message) (worker : Worker) (asked : Nat) : Moment :=
    ⟨⟨some ready, pending.map (·.text), true⟩, pending, [worker], asked⟩
  let on : Settings := { voiceEnabled := true }
  let first := opening {} (.found { mute := ["b"] })
  have hfive : Run first (events.take 5)
      (busy [⟨0, "a"⟩, ⟨1, "b"⟩, ⟨2, "c"⟩, ⟨3, "d"⟩, ⟨4, "e"⟩] .looking 5) := by
    have h₁ : Run first [.accepted ⟨0, "a"⟩] (busy [⟨0, "a"⟩] .looking 1) :=
      (@Run.start first).step (.accept on "a" ⟨rfl, rfl⟩)
    have h₂ : Run first _ (busy [⟨0, "a"⟩, ⟨1, "b"⟩] .looking 2) :=
      h₁.step (.accept on "b" ⟨rfl, rfl⟩)
    have h₃ : Run first _ (busy [⟨0, "a"⟩, ⟨1, "b"⟩, ⟨2, "c"⟩] .looking 3) :=
      h₂.step (.accept on "c" ⟨rfl, rfl⟩)
    have h₄ : Run first _ (busy [⟨0, "a"⟩, ⟨1, "b"⟩, ⟨2, "c"⟩, ⟨3, "d"⟩] .looking 4) :=
      h₃.step (.accept on "d" ⟨rfl, rfl⟩)
    exact h₄.step (.accept on "e" ⟨rfl, rfl⟩)
  have hsixth : Step (busy [⟨0, "a"⟩, ⟨1, "b"⟩, ⟨2, "c"⟩, ⟨3, "d"⟩, ⟨4, "e"⟩] .looking 5)
      (.accepted ⟨5, "f"⟩)
      (busy [⟨1, "b"⟩, ⟨2, "c"⟩, ⟨3, "d"⟩, ⟨4, "e"⟩, ⟨5, "f"⟩] .looking 6) :=
    .accept on "f" ⟨rfl, rfl⟩
  have hsince : Run (busy [⟨1, "b"⟩, ⟨2, "c"⟩, ⟨3, "d"⟩, ⟨4, "e"⟩, ⟨5, "f"⟩] .looking 6)
      (events.drop 6) (busy [⟨2, "c"⟩, ⟨3, "d"⟩, ⟨4, "e"⟩, ⟨5, "f"⟩] .looking 7) := by
    have htake : Step (busy [⟨1, "b"⟩, ⟨2, "c"⟩, ⟨3, "d"⟩, ⟨4, "e"⟩, ⟨5, "f"⟩] .looking 6)
        (.taken ⟨1, "b"⟩)
        (busy [⟨2, "c"⟩, ⟨3, "d"⟩, ⟨4, "e"⟩, ⟨5, "f"⟩] (.holding ⟨1, "b"⟩) 6) :=
      .take [] [] rfl rfl rfl
    have hhand : Step (busy [⟨2, "c"⟩, ⟨3, "d"⟩, ⟨4, "e"⟩, ⟨5, "f"⟩] (.holding ⟨1, "b"⟩) 6)
        (.handed ⟨1, "b"⟩ false) (busy [⟨2, "c"⟩, ⟨3, "d"⟩, ⟨4, "e"⟩, ⟨5, "f"⟩] .looking 6) :=
      .hand [] [] false rfl
    exact ((Run.start.step htake).step hhand).step (.refuse {} "g" (.inl rfl))
  have hrun := (hfive.step hsixth).append hsince
  obtain ⟨-, -, hspeaking, -, -, hdropped, hrefused, -⟩ :=
    one_worker_says_all_but_pushed_out {} (.found { mute := ["b"] }) hrun
  refine ⟨_, hrun, (hdropped _).2 ?_, hrefused _ (by decide), hspeaking.2 rfl, rfl⟩
  exact ⟨events.take 5, ⟨5, "f"⟩, events.drop 6, _, _, rfl, hfive, hsixth, hsince,
    List.mem_cons_self, [], [⟨1, "b"⟩, ⟨2, "c"⟩, ⟨3, "d"⟩, ⟨4, "e"⟩], rfl, rfl⟩

end DeskCalc.Speech
