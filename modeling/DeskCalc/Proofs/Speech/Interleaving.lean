import DeskCalc.Speech.Announcer

/-!
# Speakers and the worker at the same time

Whoever has something to say puts it into the queue at any time, while a worker takes the texts out
and says them. Only the three atomic steps of the announcer keep them apart: a text joins the queue,
the worker takes the oldest one, the worker finds the queue empty and ends. Between these steps
anything may happen, in any order, and saying a text may fail. This file fixes

* `Moment`: the announcer, the workers alive, and the messages whose texts are in the queue;
* `Step`: what can happen at a moment, and `Run`: what can happen in the long run;
* `Sound`: what every step keeps;
* **`Run.sound`**: there is one worker as long as there is anything to say, and never more than one.
-/

namespace DeskCalc.Speech

/-- What somebody asked to have said, numbered over all who asked. -/
structure Message where
  number : Nat
  text : String
  deriving DecidableEq

/-- Where a worker stands between its atomic steps. -/
inductive Worker where
  /-- It is going to look at the queue. -/
  | looking
  /-- It has taken a message and is going to say it. -/
  | holding (message : Message)
  deriving DecidableEq

structure Moment where
  announcer : Announcer
  /-- The messages whose texts are in the queue, the oldest first. -/
  pending : List Message := []
  /-- The workers that have been called to life and have not ended. -/
  workers : List Worker := []
  /-- How often somebody has asked so far. -/
  asked : Nat := 0

inductive Event where
  | accepted (message : Message)
  | refused (message : Message)
  | taken (message : Message)
  /-- A message is handed to the synthesizer, which says it or fails. -/
  | handed (message : Message) (succeeds : Bool)
  | finished
  deriving DecidableEq

/-! ## 1. Steps and runs -/

/-- The latest messages, as many as the queue holds. -/
def keepLatest (messages : List Message) : List Message :=
  messages.drop (messages.length - Announcer.capacity)

/-- What can happen at a moment. Every call of `speak` reads the settings as they are then.

    A worker is called to life in the step that finds none. The thread may well begin later, but it
    does nothing before it looks at the queue, and until then all other calls find the flag set. -/
inductive Step : Moment → Event → Moment → Prop where
  | accept {m : Moment} (settings : Settings) (text : String)
      (heard : settings.voiceEnabled = true ∧ m.announcer.synthesizer.isSome = true) :
      Step m (.accepted ⟨m.asked, text⟩)
        { announcer := m.announcer.speak settings text
          pending := keepLatest (m.pending ++ [⟨m.asked, text⟩])
          workers := if m.announcer.speaking then m.workers else .looking :: m.workers
          asked := m.asked + 1 }
  | refuse {m : Moment} (settings : Settings) (text : String)
      (unheard : settings.voiceEnabled = false ∨ m.announcer.synthesizer = none) :
      Step m (.refused ⟨m.asked, text⟩)
        { m with announcer := m.announcer.speak settings text, asked := m.asked + 1 }
  | take {m : Moment} (before behind : List Worker) {message : Message} {rest : List Message}
      {announcer : Announcer} (hworkers : m.workers = before ++ .looking :: behind)
      (hnext : m.announcer.next? = some (message.text, announcer))
      (hpending : m.pending = message :: rest) :
      Step m (.taken message)
        { m with
          announcer := announcer
          pending := rest
          workers := before ++ .holding message :: behind }
  | hand {m : Moment} (before behind : List Worker) {message : Message} (succeeds : Bool)
      (hworkers : m.workers = before ++ .holding message :: behind) :
      Step m (.handed message succeeds) { m with workers := before ++ .looking :: behind }
  | finish {m : Moment} (before behind : List Worker)
      (hworkers : m.workers = before ++ .looking :: behind) (hnext : m.announcer.next? = none) :
      Step m .finished
        { m with announcer := m.announcer.finish, workers := before ++ behind }

/-- What can happen from a moment on. -/
inductive Run (first : Moment) : List Event → Moment → Prop where
  | start : Run first [] first
  | step {events : List Event} {m m' : Moment} {event : Event} (run : Run first events m)
      (next : Step m event m') : Run first (events ++ [event]) m'

theorem Run.append {m m' m'' : Moment} {events more : List Event} (h : Run m events m')
    (h' : Run m' more m'') : Run m (events ++ more) m'' := by
  induction h' with
  | start =>
    rw [List.append_nil]
    exact h
  | step run next ih =>
    rw [← List.append_assoc]
    exact .step ih next

/-- A new announcer, before anybody has asked for anything. -/
def opening (settings : Settings) (startup : Startup) : Moment :=
  { announcer := (Announcer.start settings startup).1 }

/-! ## 2. What every step keeps -/

/-- Either one worker is alive, or none is and there is nothing to say. -/
def Manned (m : Moment) : Prop :=
  (m.announcer.speaking = true ∧ ∃ worker, m.workers = [worker]) ∨
    (m.announcer.speaking = false ∧ m.workers = [] ∧ m.pending = [])

structure Sound (m : Moment) : Prop where
  queue : m.announcer.queue = m.pending.map (·.text)
  short : m.pending.length ≤ Announcer.capacity
  manned : Manned m

theorem length_keepLatest_le (messages : List Message) :
    (keepLatest messages).length ≤ Announcer.capacity := by
  simp only [keepLatest, List.length_drop]
  omega

/-- Whoever is a worker is the only one. -/
theorem Sound.only {m : Moment} (h : Sound m) {before behind : List Worker} {worker : Worker}
    (hworkers : m.workers = before ++ worker :: behind) :
    before = [] ∧ behind = [] ∧ m.announcer.speaking = true := by
  rcases h.manned with ⟨hspeaking, other, halive⟩ | ⟨-, halive, -⟩
  · rw [halive, List.singleton_eq_append_iff] at hworkers
    rcases hworkers with ⟨rfl, hrest⟩ | ⟨rfl, hrest⟩
    · exact ⟨rfl, (List.cons.inj hrest).2, hspeaking⟩
    · cases hrest
  · rw [halive] at hworkers
    exact absurd hworkers.symm (List.append_ne_nil_of_right_ne_nil _ (List.cons_ne_nil _ _))

theorem Sound.step {m m' : Moment} {event : Event} (h : Sound m) (next : Step m event m') :
    Sound m' := by
  cases next with
  | accept settings text heard =>
    rw [Announcer.speak_heard text heard]
    refine ⟨?_, length_keepLatest_le _, .inl ⟨rfl, ?_⟩⟩
    · simp [Announcer.accept, keepLatest, h.queue]
    · rcases h.manned with ⟨hspeaking, worker, halive⟩ | ⟨hspeaking, halive, -⟩
      · exact ⟨worker, by simp [hspeaking, halive]⟩
      · exact ⟨.looking, by simp [hspeaking, halive]⟩
  | refuse settings text unheard =>
    rw [Announcer.speak_unheard text unheard]
    exact ⟨h.queue, h.short, h.manned⟩
  | @take before behind message rest announcer hworkers hnext hpending =>
    obtain ⟨rfl, rfl, hspeaking⟩ := h.only hworkers
    obtain ⟨others, hqueue, rfl⟩ := Announcer.next?_eq_some.1 hnext
    have hlabelled := h.queue
    have hshort := h.short
    rw [hpending, hqueue, List.map_cons] at hlabelled
    rw [hpending, List.length_cons] at hshort
    exact ⟨(List.cons.inj hlabelled).2, Nat.le_of_succ_le hshort,
      .inl ⟨hspeaking, .holding message, rfl⟩⟩
  | hand before behind succeeds hworkers =>
    obtain ⟨rfl, rfl, hspeaking⟩ := h.only hworkers
    exact ⟨h.queue, h.short, .inl ⟨hspeaking, .looking, rfl⟩⟩
  | finish before behind hworkers hnext =>
    obtain ⟨rfl, rfl, -⟩ := h.only hworkers
    have hpending : m.pending = [] := by
      have hlabelled := h.queue
      rw [Announcer.next?_eq_none.1 hnext] at hlabelled
      exact List.map_eq_nil_iff.1 hlabelled.symm
    exact ⟨h.queue, h.short, .inr ⟨rfl, rfl, hpending⟩⟩

theorem sound_opening (settings : Settings) (startup : Startup) :
    Sound (opening settings startup) := by
  obtain ⟨hqueue, hspeaking⟩ := Announcer.start_idle settings startup
  exact ⟨hqueue, Nat.zero_le _, .inr ⟨hspeaking, rfl, rfl⟩⟩

/-- **One worker as long as there is anything to say**, and never more than one. -/
theorem Run.sound {first m : Moment} {events : List Event} (h : Run first events m)
    (hfirst : Sound first) : Sound m := by
  induction h with
  | start => exact hfirst
  | step run next ih => exact ih.step next

end DeskCalc.Speech
