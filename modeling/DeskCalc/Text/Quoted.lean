import DeskCalc.Text.Blank
import DeskCalc.Text.PrintTable

/-!
# Quoted text

A text between quotes with everything escaped that cannot be read off the page. Single quotes are
used unless the text holds a single quote and no double quote; the quote in use and the backslash
take a backslash, and a character without a printed form is written by its code in two, four or
eight hexadecimal digits.
-/

namespace DeskCalc.Text

/-- A number in exactly `width` hexadecimal digits. -/
def hexadecimal : (width : Nat) → Nat → List Char
  | 0, _ => []
  | width + 1, n => hexadecimal width (n / 16) ++ [Nat.digitChar (n % 16)]

/-- A character by its code. -/
def escapeCode (c : Char) : List Char :=
  if c.toNat < 0x100 then '\\' :: 'x' :: hexadecimal 2 c.toNat
  else if c.toNat < 0x10000 then '\\' :: 'u' :: hexadecimal 4 c.toNat
  else '\\' :: 'U' :: hexadecimal 8 c.toNat

/-- A character as it stands between quotes. -/
def escapeChar (quote c : Char) : List Char :=
  if c = quote ∨ c = '\\' then ['\\', c]
  else if c = '\t' then ['\\', 't']
  else if c = '\n' then ['\\', 'n']
  else if c = '\r' then ['\\', 'r']
  else if inRanges PrintTable.unprintable c then escapeCode c
  else [c]

/-- The quote that encloses a text. -/
def enclosingQuote (text : List Char) : Char :=
  if text.contains '\'' && !text.contains '"' then '"' else '\''

/-- The text between quotes. -/
def quoted (text : List Char) : List Char :=
  let quote := enclosingQuote text
  quote :: text.flatMap (escapeChar quote) ++ [quote]

end DeskCalc.Text
