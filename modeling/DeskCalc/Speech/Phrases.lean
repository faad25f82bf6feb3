/-!
# Phrases

What is said for a key, a result and a cleared buffer, in English and Spanish.
-/

namespace DeskCalc

structure Phrases where
  /-- What is said for the tokens that are not said as they are. -/
  tokens : List (String × String)
  /-- What is said before a result. -/
  equals : String
  /-- What is said for the point within a result. -/
  point : String
  cleared : String
  voiceOn : String

namespace Phrases

def english : Phrases where
  tokens := [("+", "plus"), ("-", "minus"), ("*", "times"), ("/", "divided by"), ("(", "open"),
    (")", "close"), (".", "point")]
  equals := "equals "
  point := " point "
  cleared := "cleared"
  voiceOn := "voice on"

def spanish : Phrases where
  tokens := [("+", "más"), ("-", "menos"), ("*", "por"), ("/", "dividido"),
    ("(", "abre paréntesis"), (")", "cierra paréntesis"), (".", "coma")]
  equals := "igual a "
  point := " coma "
  cleared := "borrado"
  voiceOn := "voz activada"

/-- The phrases of a language; English for a language without phrases. -/
def of (language : String) : Phrases := if language = "es" then spanish else english

/-- What is said for a token. -/
def token (p : Phrases) (token : String) : String := (p.tokens.lookup token).getD token

/-- What is said for a result. -/
def result (p : Phrases) (result : String) : String :=
  p.equals ++ String.ofList (result.toList.flatMap fun c => if c = '.' then p.point.toList else [c])

end Phrases

end DeskCalc
