/-!
# Blanks, words and lines

The characters that separate words and lines, and the cutting of a text at such characters.
`Text.words` is never empty inside: it drops the empty pieces between neighbouring separators.
-/

namespace DeskCalc.Text

/-- Whether one of the ranges, both ends included, holds the character. -/
def inRanges (ranges : List (Nat × Nat)) (c : Char) : Bool :=
  ranges.any fun (first, last) => first ≤ c.toNat && c.toNat ≤ last

/-- The blank characters: tab to carriage return, the four separators of the control range, and
    the spaces and separators of the wider alphabet. -/
def blankRanges : List (Nat × Nat) :=
  [(0x09, 0x0D), (0x1C, 0x20), (0x85, 0x85), (0xA0, 0xA0), (0x1680, 0x1680), (0x2000, 0x200A),
   (0x2028, 0x2029), (0x202F, 0x202F), (0x205F, 0x205F), (0x3000, 0x3000)]

def isBlank (c : Char) : Bool := inRanges blankRanges c

/-- The characters that end a line. The unit separator `U+001F` is blank and ends none. -/
def lineBreakRanges : List (Nat × Nat) :=
  [(0x0A, 0x0D), (0x1C, 0x1E), (0x85, 0x85), (0x2028, 0x2029)]

def isLineBreak (c : Char) : Bool := inRanges lineBreakRanges c

/-- The pieces between the characters of a class, empty ones included: always one more than there
    are such characters. -/
def pieces (cut : Char → Bool) : List Char → List (List Char)
  | [] => [[]]
  | c :: rest =>
    if cut c then [] :: pieces cut rest
    else match pieces cut rest with
      | [] => [[c]]
      | first :: others => (c :: first) :: others

theorem pieces_ne_nil (cut : Char → Bool) (text : List Char) : pieces cut text ≠ [] := by
  cases text with
  | nil => simp [pieces]
  | cons c rest =>
    unfold pieces
    split
    · simp
    · split <;> simp

/-- Cutting at no character leaves the text whole. -/
theorem pieces_eq_singleton {cut : Char → Bool} {text : List Char}
    (h : ∀ c ∈ text, cut c = false) : pieces cut text = [text] := by
  induction text with
  | nil => rfl
  | cons c rest ih =>
    simp [pieces, h c, ih fun d hd => h d (List.mem_cons_of_mem c hd)]

/-- **A text is cut at a character of the class.** -/
theorem pieces_append_cut {cut : Char → Bool} {c : Char} (h : cut c = true) (xs ys : List Char) :
    pieces cut (xs ++ c :: ys) = pieces cut xs ++ pieces cut ys := by
  induction xs with
  | nil => simp [pieces, h]
  | cons x xs ih =>
    obtain ⟨first, others, hp⟩ := List.exists_cons_of_ne_nil (pieces_ne_nil cut xs)
    by_cases hx : cut x = true
    · simp [pieces, hx, ih]
    · simp [pieces, hx, ih, hp]

/-- The words of a text: its longest runs without a blank. -/
def words (text : List Char) : List (List Char) := (pieces isBlank text).filter (!·.isEmpty)

/-- The lines of a text. A carriage return and the line feed behind it leave an empty line between
    them. -/
def lines (text : List Char) : List (List Char) := pieces isLineBreak text

/-- Whether `part` stands somewhere in the text. -/
def occursIn (part : List Char) : List Char → Bool
  | [] => part.isEmpty
  | c :: rest => part.isPrefixOf (c :: rest) || occursIn part rest

end DeskCalc.Text
