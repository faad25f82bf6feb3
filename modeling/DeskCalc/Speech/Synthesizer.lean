import DeskCalc.Settings
import DeskCalc.Text.Case

/-!
# Speech synthesizers

What is known of a speech synthesizer: the voices it offers, the properties it refuses to set and
the texts it fails to say. Setting it up sets the volume and the rate, and the first voice that
speaks the language, if there is one; the first refusal ends the set-up and leaves what was set.
-/

namespace DeskCalc

/-- A voice of a synthesizer. -/
structure Voice where
  identifier : String
  name : String
  /-- The languages it says it speaks. -/
  languages : List String := []
  deriving DecidableEq, Repr

/-- What can be set on a synthesizer. -/
inductive Property where
  | volume
  | rate
  | voice
  deriving DecidableEq, Repr

def Property.name : Property → String
  | volume => "volume"
  | rate => "rate"
  | voice => "voice"

structure Synthesizer where
  voices : List Voice := []
  refuses : List Property := []
  /-- The texts it fails to say. -/
  mute : List String := []
  volume : Option Quantity := none
  rate : Option Quantity := none
  voice : Option String := none

/-- What asking for a synthesizer gives. -/
inductive Startup where
  | failed (message : String)
  | absent
  | found (synthesizer : Synthesizer)

namespace Voice

/-- Whether a voice speaks a language: one of its languages mentions it, or its identifier does in
    front of a dash, letters of either case being the same. -/
def speaks (v : Voice) (language : String) : Bool :=
  let sought := Text.lower language.toList
  v.languages.any (fun l => Text.occursIn sought (Text.lower l.toList))
    || Text.occursIn (sought ++ ['-']) (Text.lower v.identifier.toList)

end Voice

namespace Synthesizer

/-- The message of a refused property. -/
def refusal (property : Property) : String := "cannot set " ++ property.name

/-- The line that reports the choice of a voice. -/
def voiceReport (settings : Settings) : Option Voice → String
  | some voice => "✓ Voice: " ++ voice.name
  | none =>
    "⚠ No '" ++ String.ofList (Text.lower settings.voiceLanguage.toList)
      ++ "' voice found. Using default voice."

/-- Chooses a voice. The result is the synthesizer, and the line to print or the refusal. -/
def chooseVoice (settings : Settings) (s : Synthesizer) : Synthesizer × Except String String :=
  match s.voices.find? (·.speaks settings.voiceLanguage) with
  | none => (s, .ok (voiceReport settings none))
  | some voice =>
    if s.refuses.contains .voice then (s, .error (refusal .voice))
    else ({ s with voice := some voice.identifier }, .ok (voiceReport settings (some voice)))

/-- Sets the synthesizer up: volume, rate, voice. -/
def setUp (settings : Settings) (s : Synthesizer) : Synthesizer × Except String String :=
  if s.refuses.contains .volume then (s, .error (refusal .volume))
  else
    let s := { s with volume := some settings.voiceVolume }
    if s.refuses.contains .rate then (s, .error (refusal .rate))
    else chooseVoice settings { s with rate := some settings.voiceRate }

end Synthesizer

end DeskCalc
