import DeskCalc.Session

/-!
# The program

The terminal takes the place of the window: every character typed is a key, and the display's text
is printed whenever there is a new picture. The program ends with escape, `q` or the end of the
input.
-/

namespace DeskCalc.Terminal

/-- Prints what a session has done since an earlier moment. -/
def report (before after : Session) : IO Unit := do
  for line in after.printed.drop before.printed.length do
    IO.println line
  for event in after.events.drop before.events.length do
    match event with
    | .shown true _ _ display _ _ => IO.println ("  " ++ display)
    | _ => pure ()

/-- Reads lines of keys until the session ends. -/
partial def interact (input : IO.FS.Stream) (session : Session) : IO Unit := do
  let line ← input.getLine
  let keys := if line.isEmpty then [Char.ofNat 27] else line.toList
  match session.typeKeys keys with
  | (after, some fault) =>
    report session { after with printed := after.printed ++ Session.report fault }
  | (after, none) =>
    if after.running then
      report session after
      interact input after
    else report session after.closeWindow

end DeskCalc.Terminal

open DeskCalc in
/-- Opens a session without a synthesizer and hands it the standard input. -/
def main : IO Unit := do
  match Session.start {} {} .absent with
  | .error fault => IO.println ("Error: " ++ fault.message)
  | .ok session =>
    Terminal.report { session with printed := [] } session.openWindow
    Terminal.interact (← IO.getStdin) session.openWindow
