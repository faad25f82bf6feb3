import DeskCalc.Speech.Phrases
import DeskCalc.Speech.Synthesizer

/-!
# The announcer

The announcer queues what is to be said, at most five texts, and a worker says them one by one. The
queue and the flag that says whether a worker is alive change only in three atomic steps:

* `accept`: a text joins the queue, pushing out the oldest if it is full, and calls a worker to life
  if there is none;
* `next?`: the worker takes the oldest text;
* `finish`: the worker finds the queue empty and ends.

`drain` lets the worker run to its end.
-/

namespace DeskCalc

structure Announcer where
  synthesizer : Option Synthesizer := none
  /-- What is still to be said, the oldest first. -/
  queue : List String := []
  /-- A worker is alive. -/
  speaking : Bool := false

/-- What a stretch of speech leaves behind: the texts said, and the lines printed. -/
structure Utterance where
  spoken : List String := []
  printed : List String := []
  deriving DecidableEq, Repr

namespace Announcer

/-- The number of texts that the queue holds. -/
def capacity : Nat := 5

/-! ## 1. Starting -/

/-- The announcer on what was found, whether the voice may stay enabled, and the lines printed. A
    synthesizer that refused a property is kept, but the voice is switched off. -/
def start (settings : Settings) : Startup → Announcer × Settings × List String
  | .failed message =>
    ({}, { settings with voiceEnabled := false },
      ["⚠ Warning: voice engine unavailable: " ++ message])
  | .absent => ({}, settings, ["✓ Voice engine initialized"])
  | .found synthesizer =>
    match synthesizer.setUp settings with
    | (ready, .ok report) =>
      ({ synthesizer := some ready }, settings, [report, "✓ Voice engine initialized"])
    | (left, .error message) =>
      ({ synthesizer := some left }, { settings with voiceEnabled := false },
        ["⚠ Warning: voice engine unavailable: " ++ message])

theorem start_idle (settings : Settings) (startup : Startup) :
    (start settings startup).1.queue = [] ∧ (start settings startup).1.speaking = false := by
  unfold start
  split
  · exact ⟨rfl, rfl⟩
  · exact ⟨rfl, rfl⟩
  · split <;> exact ⟨rfl, rfl⟩

/-! ## 2. The atomic steps -/

/-- A text joins the queue. -/
def accept (a : Announcer) (text : String) : Announcer :=
  let queue := a.queue ++ [text]
  { a with queue := queue.drop (queue.length - capacity), speaking := true }

/-- The oldest text, and the announcer without it. -/
def next? (a : Announcer) : Option (String × Announcer) :=
  match a.queue with
  | [] => none
  | text :: rest => some (text, { a with queue := rest })

theorem next?_eq_some {a a' : Announcer} {text : String} :
    a.next? = some (text, a') ↔ ∃ rest, a.queue = text :: rest ∧ a' = { a with queue := rest } := by
  unfold next?
  split
  · rename_i hqueue
    simp [hqueue]
  · rename_i first rest hqueue
    simp only [hqueue, Option.some.injEq, Prod.mk.injEq, List.cons.injEq]
    constructor
    · rintro ⟨rfl, rfl⟩
      exact ⟨rest, ⟨rfl, rfl⟩, rfl⟩
    · rintro ⟨_, ⟨rfl, rfl⟩, rfl⟩
      exact ⟨rfl, rfl⟩

theorem next?_eq_none {a : Announcer} : a.next? = none ↔ a.queue = [] := by
  unfold next?
  split
  · simp [*]
  · simp [*]

/-- The worker ends. -/
def finish (a : Announcer) : Announcer := { a with speaking := false }

/-! ## 3. Speaking -/

/-- Asks for a text to be said; nothing comes of it while the voice is off or there is no
    synthesizer. -/
def speak (settings : Settings) (a : Announcer) (text : String) : Announcer :=
  if settings.voiceEnabled && a.synthesizer.isSome then a.accept text else a

theorem speak_heard {settings : Settings} {a : Announcer} (text : String)
    (h : settings.voiceEnabled = true ∧ a.synthesizer.isSome = true) :
    a.speak settings text = a.accept text := by
  simp [speak, h]

theorem speak_unheard {settings : Settings} {a : Announcer} (text : String)
    (h : settings.voiceEnabled = false ∨ a.synthesizer = none) : a.speak settings text = a := by
  rcases h with hsettings | hnone
  · simp [speak, hsettings]
  · simp [speak, hnone]

/-- What saying one text leaves behind. -/
def say (s : Synthesizer) (text : String) : Utterance :=
  if s.mute.contains text then { printed := ["⚠ Error playing voice: cannot say " ++ text] }
  else { spoken := [text] }

/-- What saying some texts in order leaves behind. -/
def sayAll (s : Synthesizer) (texts : List String) : Utterance where
  spoken := texts.flatMap fun text => (say s text).spoken
  printed := texts.flatMap fun text => (say s text).printed

/-- Lets the worker, if there is one, say everything and end. -/
def drain (a : Announcer) : Announcer × Utterance :=
  match a.synthesizer with
  | some s => if a.speaking then (finish { a with queue := [] }, sayAll s a.queue) else (a, {})
  | none => (a, {})

/-! ## 4. What is announced -/

/-- The phrases of the language that is set. -/
def phrases (settings : Settings) : Phrases := Phrases.of settings.voiceLanguage

def speakToken (settings : Settings) (a : Announcer) (token : String) : Announcer :=
  a.speak settings ((phrases settings).token token)

def speakResult (settings : Settings) (a : Announcer) (result : String) : Announcer :=
  a.speak settings ((phrases settings).result result)

def speakError (settings : Settings) (a : Announcer) (message : String) : Announcer :=
  a.speak settings message

def speakClear (settings : Settings) (a : Announcer) : Announcer :=
  a.speak settings (phrases settings).cleared

def speakVoiceOn (settings : Settings) (a : Announcer) : Announcer :=
  a.speak settings (phrases settings).voiceOn

end Announcer

end DeskCalc
