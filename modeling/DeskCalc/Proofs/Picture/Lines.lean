import Mathlib.Data.List.Infix
import DeskCalc.Picture.Fitting

/-!
# Lines that keep a width

A text is broken as late as the width allows, and a line that is cut short for the dots loses as
little as possible. This file fixes

* `Keeps`: no beginning of a line is too wide, its first character apart, and **`wrap_keeps`**: every
  line of a text keeps the width;
* `CutShort`: the longest beginning of a line that leaves room for the dots, and
  **`exists_cutShort`**: it is what stands before them;
* **`exists_trim_eq`**: the lines that remain spell the text, or a part of it and dots.
-/

namespace DeskCalc

section

variable (style : TextStyle) (maxWidth : Int)

/-! ## 1. Breaking -/

theorem Pen.putAll_concat (pen : Pen) (text : List Char) (c : Char) :
    pen.putAll style (text ++ [c]) = (pen.putAll style text).put style c := by
  simp [putAll]

theorem Pen.putAll_append (pen : Pen) (text more : List Char) :
    pen.putAll style (text ++ more) = (pen.putAll style text).putAll style more :=
  List.foldl_append

/-- No beginning of the line is too wide, its first character apart. -/
def Keeps (line : List Char) : Prop :=
  ∀ front, front <+: line → 2 ≤ front.length → style.textWidth front ≤ maxWidth

instance (line : List Char) : Decidable (Keeps style maxWidth line) :=
  decidable_of_iff (∀ front ∈ line.inits, 2 ≤ front.length → style.textWidth front ≤ maxWidth)
    ⟨fun h front hfront => h front ((List.mem_inits front line).2 hfront),
      fun h front hfront => h front ((List.mem_inits front line).1 hfront)⟩

variable {style maxWidth}

theorem keeps_singleton (c : Char) : Keeps style maxWidth [c] := by
  intro front hfront hlong
  have hlength := hfront.length_le
  rw [List.length_singleton] at hlength
  omega

theorem Keeps.concat {line : List Char} {c : Char} (h : Keeps style maxWidth line)
    (hwidth : style.textWidth (line ++ [c]) ≤ maxWidth) : Keeps style maxWidth (line ++ [c]) := by
  intro front hfront hlong
  rcases List.prefix_concat_iff.1 hfront with rfl | hfront
  · exact hwidth
  · exact h front hfront hlong

theorem Keeps.mono {line : List Char} {wider : Int} (h : Keeps style maxWidth line)
    (hwider : maxWidth ≤ wider) : Keeps style wider line := fun front hfront hlong =>
  Int.le_trans (h front hfront hlong) hwider

/-- The whole line keeps the width, unless it is at most one character. -/
theorem Keeps.textWidth_le {line : List Char} (h : Keeps style maxWidth line)
    (hlong : 2 ≤ line.length) : style.textWidth line ≤ maxWidth :=
  h line List.prefix_rfl hlong

/-- The running line, whose beginning is drawn, and the lines behind it keep the width. -/
theorem continueLine_keeps {begun : List Char} (h : Keeps style maxWidth begun)
    (text : List Char) :
    Keeps style maxWidth
        (begun ++ (continueLine style maxWidth (Pen.putAll style {} begun) text).1) ∧
      ∀ line ∈ (continueLine style maxWidth (Pen.putAll style {} begun) text).2,
        line ≠ [] ∧ Keeps style maxWidth line := by
  induction text generalizing begun with
  | nil => simpa [continueLine] using h
  | cons c rest ih =>
    unfold continueLine
    split
    · obtain ⟨hown, hothers⟩ := ih (keeps_singleton c)
      refine ⟨by simpa using h, fun line hline => ?_⟩
      rcases List.mem_cons.1 hline with rfl | hline
      · exact ⟨List.cons_ne_nil _ _, hown⟩
      · exact hothers line hline
    · rename_i hwidth
      rw [← Pen.putAll_concat] at hwidth ⊢
      have hmore := ih (h.concat (Int.not_lt.1 hwidth))
      rwa [List.append_assoc] at hmore

/-- **Every line of a text keeps the width.** -/
theorem wrap_keeps {text line : List Char} (h : line ∈ wrap style maxWidth text) :
    Keeps style maxWidth line := by
  cases text with
  | nil =>
    obtain rfl := List.mem_singleton.1 h
    intro front hfront hlong
    simp [List.prefix_nil.1 hfront] at hlong
  | cons c rest =>
    have hfirst : Keeps style maxWidth [c] := keeps_singleton c
    obtain ⟨hown, hothers⟩ := continueLine_keeps hfirst rest
    rcases List.mem_cons.1 h with rfl | hline
    · exact hown
    · exact (hothers line hline).2

theorem wrap_nil : wrap style maxWidth [] = [[]] := rfl

/-- The running line takes the whole rest if this keeps the width. -/
theorem continueLine_eq_of_keeps {begun text : List Char} (hbegun : begun ≠ [])
    (h : Keeps style maxWidth (begun ++ text)) :
    continueLine style maxWidth (Pen.putAll style {} begun) text = (text, []) := by
  induction text generalizing begun with
  | nil => rfl
  | cons c rest ih =>
    have hlong : 2 ≤ (begun ++ [c]).length := by
      have hsome := List.length_pos_iff.2 hbegun
      rw [List.length_append, List.length_singleton]
      omega
    have hnext := h (begun ++ [c]) (by simp) hlong
    rw [TextStyle.textWidth, Pen.putAll_concat] at hnext
    rw [List.append_cons] at h
    have hrest := ih (by simp) h
    rw [Pen.putAll_concat] at hrest
    rw [continueLine, if_neg (Int.not_lt.2 hnext), hrest]

/-- **A text that keeps the width is one line.** -/
theorem wrap_eq_of_keeps {text : List Char} (h : Keeps style maxWidth text) :
    wrap style maxWidth text = [text] := by
  cases text with
  | nil => rfl
  | cons c rest =>
    have hrest : continueLine style maxWidth (Pen.put style {} c) rest = (rest, []) :=
      continueLine_eq_of_keeps (List.cons_ne_nil c []) h
    rw [wrap, hrest]

/-- Only the empty text has an empty line. -/
theorem ne_nil_of_mem_wrap {text line : List Char} (htext : text ≠ [])
    (h : line ∈ wrap style maxWidth text) : line ≠ [] := by
  cases text with
  | nil => exact absurd rfl htext
  | cons c rest =>
    have hfirst : Keeps style maxWidth [c] := keeps_singleton c
    obtain ⟨-, hothers⟩ := continueLine_keeps hfirst rest
    rcases List.mem_cons.1 h with rfl | hline
    · exact List.cons_ne_nil _ _
    · exact (hothers line hline).1

theorem wrap_ne_nil (text : List Char) : wrap style maxWidth text ≠ [] := by
  cases text <;> exact List.cons_ne_nil _ _

/-- A line is not too wide, unless it is a single character or the empty text. -/
theorem textWidth_le_of_mem_wrap {text line : List Char} (h : line ∈ wrap style maxWidth text) :
    style.textWidth line ≤ maxWidth ∨ line.length = 1 ∨ (line = [] ∧ text = []) := by
  rcases Nat.lt_or_ge line.length 2 with hshort | hlong
  · right
    rcases line with _ | ⟨c, rest⟩
    · refine .inr ⟨rfl, Classical.byContradiction fun htext => ?_⟩
      exact ne_nil_of_mem_wrap htext h rfl
    · simp only [List.length_cons] at hshort ⊢
      omega
  · exact .inl ((wrap_keeps h).textWidth_le hlong)

/-- The first lines of a text are less than the text if a line is left out, because no line is empty
    then. -/
theorem length_flatten_lt {text : List Char} {lines : List (List Char)}
    (hlines : lines <+: wrap style maxWidth text)
    (hless : lines.length < (wrap style maxWidth text).length) (hsome : 0 < lines.length) :
    lines.flatten.length < text.length := by
  obtain ⟨later, hlater⟩ := hlines
  have htext := flatten_wrap style maxWidth text
  rw [← hlater] at htext hless
  rcases later with _ | ⟨next, later⟩
  · rw [List.append_nil] at hless
    exact absurd hless (Nat.lt_irrefl _)
  · have hnonempty : text ≠ [] := by
      rintro rfl
      have hlength := congrArg List.length hlater
      rw [List.length_append, List.length_cons, wrap_nil, List.length_singleton] at hlength
      omega
    have hmem : next ∈ wrap style maxWidth text := hlater ▸ by simp
    have hpos := List.length_pos_iff.2 (ne_nil_of_mem_wrap hnonempty hmem)
    rw [← htext, List.flatten_append, List.flatten_cons, List.length_append, List.length_append]
    omega

/-! ## 2. Cutting short -/

/-- There is room for the dots behind a line. -/
def HasRoom (style : TextStyle) (maxWidth : Int) (line : List Char) : Prop :=
  style.textWidth (line ++ ellipsis) ≤ maxWidth

/-- The longest beginning of a line with room for the dots; nothing if none has room. -/
structure CutShort (style : TextStyle) (maxWidth : Int) (line kept : List Char) : Prop where
  begins : kept <+: line
  room : HasRoom style maxWidth kept ∨ kept = []
  longest : ∀ other, other <+: line → HasRoom style maxWidth other → other.length ≤ kept.length

theorem hasRoom_iff (line : List Char) :
    HasRoom style maxWidth line ↔
      ((Pen.putAll style {} line).putAll style ellipsis).width style ≤ maxWidth := by
  rw [HasRoom, TextStyle.textWidth, Pen.putAll_append]

/-- Behind what is drawn already, something is found if there is anything to find, and nothing
    longer is missed. -/
theorem longestKept?_spec (style : TextStyle) (maxWidth : Int) (begun line : List Char) :
    (∀ kept, longestKept? style maxWidth (Pen.putAll style {} begun) line = some kept →
      kept <+: line ∧ HasRoom style maxWidth (begun ++ kept)) ∧
    (∀ other, other <+: line → HasRoom style maxWidth (begun ++ other) →
      ∃ kept, longestKept? style maxWidth (Pen.putAll style {} begun) line = some kept ∧
        other.length ≤ kept.length) := by
  induction line generalizing begun with
  | nil =>
    simp only [longestKept?]
    refine ⟨fun kept hkept => ?_, fun other hother hroom => ?_⟩
    · split at hkept
      · rename_i hroom
        cases hkept
        exact ⟨List.prefix_rfl, by rwa [List.append_nil, hasRoom_iff]⟩
      · cases hkept
    · obtain rfl := List.prefix_nil.1 hother
      rw [List.append_nil, hasRoom_iff] at hroom
      exact ⟨[], if_pos hroom, Nat.le_refl _⟩
  | cons c rest ih =>
    obtain ⟨hfound, hlonger⟩ := ih (begun ++ [c])
    simp only [longestKept?, ← Pen.putAll_concat]
    cases hrest : longestKept? style maxWidth (Pen.putAll style {} (begun ++ [c])) rest with
    | some kept =>
      refine ⟨fun kept' hkept => ?_, fun other hother hroom => ⟨_, rfl, ?_⟩⟩
      · cases hkept
        obtain ⟨hbegins, hroom⟩ := hfound kept hrest
        exact ⟨List.prefix_cons_inj c |>.2 hbegins, by simpa using hroom⟩
      · rcases List.prefix_cons_iff.1 hother with rfl | ⟨other', rfl, hother'⟩
        · exact Nat.zero_le _
        · obtain ⟨same, hsame, hle⟩ := hlonger other' hother' (by simpa using hroom)
          cases hrest.symm.trans hsame
          exact Nat.succ_le_succ hle
    | none =>
      -- with one character more there is no room, so that the character itself does not stay
      have hnone : ∀ other, other <+: rest → ¬HasRoom style maxWidth (begun ++ c :: other) := by
        intro other hother hroom
        obtain ⟨kept, hkept, -⟩ := hlonger other hother (by simpa using hroom)
        exact nomatch hrest.symm.trans hkept
      refine ⟨fun kept hkept => ?_, fun other hother hroom => ?_⟩
      · dsimp only at hkept
        split at hkept
        · rename_i hroom
          cases hkept
          exact ⟨List.nil_prefix, by rwa [List.append_nil, hasRoom_iff]⟩
        · cases hkept
      · rcases List.prefix_cons_iff.1 hother with rfl | ⟨other', rfl, hother'⟩
        · rw [List.append_nil, hasRoom_iff] at hroom
          exact ⟨[], if_pos hroom, Nat.le_refl _⟩
        · exact absurd hroom (hnone other' hother')

/-- **A line is cut short just enough.** -/
theorem exists_cutShort (style : TextStyle) (maxWidth : Int) (line : List Char) :
    ∃ kept, ellipsize style maxWidth line = kept ++ ellipsis ∧
      CutShort style maxWidth line kept := by
  obtain ⟨hfound, hlonger⟩ := longestKept?_spec style maxWidth [] line
  change ∀ kept, longestKept? style maxWidth {} line = some kept → _ at hfound
  change ∀ other, _ → _ → ∃ kept, longestKept? style maxWidth {} line = some kept ∧ _ at hlonger
  refine ⟨_, rfl, ?_⟩
  cases hkept : longestKept? style maxWidth {} line with
  | some kept =>
    obtain ⟨hbegins, hroom⟩ := hfound kept hkept
    refine ⟨hbegins, .inl hroom, fun other hother hroom => ?_⟩
    obtain ⟨same, hsame, hle⟩ := hlonger other hother hroom
    cases hkept.symm.trans hsame
    exact hle
  | none =>
    refine ⟨List.nil_prefix, .inr rfl, fun other hother hroom => ?_⟩
    obtain ⟨kept, hfound', -⟩ := hlonger other hother hroom
    exact nomatch hkept.symm.trans hfound'

/-! ## 3. The lines that remain -/

/-- Some lines spell a text, or the beginning of a text and dots: the line that was broken off last
    is cut short for them, and something is left out. -/
inductive Spells (style : TextStyle) (maxWidth : Int) (text : List Char) :
    List (List Char) → Prop where
  | whole {lines : List (List Char)} (h : lines = wrap style maxWidth text) :
      Spells style maxWidth text lines
  | part {earlier : List (List Char)} {line kept : List Char}
      (hlines : earlier ++ [line] <+: wrap style maxWidth text)
      (hless : (earlier ++ [line]).length < (wrap style maxWidth text).length)
      (hcut : CutShort style maxWidth line kept) :
      Spells style maxWidth text (earlier ++ [kept ++ ellipsis])

namespace Spells

variable {text : List Char} {lines : List (List Char)}

/-- Nothing is lost, or the dots say so: they stand behind a part of the text. -/
theorem flatten_eq (h : Spells style maxWidth text lines) :
    lines.flatten = text ∨ ∃ earlier line kept, lines = earlier ++ [kept ++ ellipsis] ∧
      earlier.flatten ++ kept <+: text ∧ earlier.flatten ++ kept ≠ text ∧
      earlier ++ [line] <+: wrap style maxWidth text ∧ CutShort style maxWidth line kept := by
  cases h with
  | whole h =>
    rw [h]
    exact .inl (flatten_wrap style maxWidth text)
  | @part earlier line kept hlines hless hcut =>
    refine .inr ⟨earlier, line, kept, rfl, ?_, ?_, hlines, hcut⟩
    · obtain ⟨later, hlater⟩ := hlines
      have htext := flatten_wrap style maxWidth text
      rw [← hlater] at htext
      have hbegins : earlier.flatten ++ kept <+: earlier.flatten ++ line :=
        (List.prefix_append_right_inj _).2 hcut.begins
      exact hbegins.trans ⟨later.flatten, by simpa using htext⟩
    · intro heq
      have hlength := length_flatten_lt hlines hless (by simp)
      have hkept := hcut.begins.length_le
      rw [List.flatten_append, List.flatten_singleton, List.length_append] at hlength
      rw [← heq, List.length_append] at hlength
      omega

/-- A line is not too wide, unless it is a single character, the dots alone or the empty text. -/
theorem textWidth_le (h : Spells style maxWidth text lines) {line : List Char}
    (hline : line ∈ lines) :
    style.textWidth line ≤ maxWidth ∨ line.length = 1 ∨ line = ellipsis ∨
      (line = [] ∧ text = []) := by
  have hwider {line : List Char} (h : style.textWidth line ≤ maxWidth ∨ line.length = 1 ∨
      line = [] ∧ text = []) : style.textWidth line ≤ maxWidth ∨ line.length = 1 ∨
      line = ellipsis ∨ (line = [] ∧ text = []) := by
    rcases h with h | h | h
    · exact .inl h
    · exact .inr (.inl h)
    · exact .inr (.inr (.inr h))
  cases h with
  | whole h => exact hwider (textWidth_le_of_mem_wrap (h ▸ hline))
  | @part earlier line' kept hlines hless hcut =>
    rcases List.mem_append.1 hline with hline | hline
    · exact hwider (textWidth_le_of_mem_wrap (hlines.subset (List.mem_append_left _ hline)))
    · obtain rfl := List.mem_singleton.1 hline
      rcases hcut.room with hroom | rfl
      · exact .inl hroom
      · exact .inr (.inr (.inl rfl))

end Spells

end

namespace Box

/-- **The lines that remain spell the text,** as many as there may be. -/
theorem exists_trim_eq {box : Box} (hmaxLines : 1 ≤ box.maxLines) {text : List Char} {fitted : Fitted}
    (h : fitted.lines = wrap (box.style fitted.scale) box.maxWidth text) :
    ∃ lines, box.trim fitted = .ok { fitted with lines := lines } ∧
      Spells (box.style fitted.scale) box.maxWidth text lines ∧
      1 ≤ lines.length ∧ (lines.length : Int) ≤ box.maxLines := by
  have hpos : 0 < fitted.lines.length := by
    rw [h]
    exact List.length_pos_iff.2 (wrap_ne_nil text)
  unfold trim
  split
  · rename_i hfew
    exact ⟨fitted.lines, rfl, .whole h, hpos, hfew⟩
  · rename_i hmany
    have hvisible : box.visibleLines fitted.lines = fitted.lines.take box.maxLines.toNat := by
      rw [visibleLines, if_pos (by omega)]
    have hlength : (fitted.lines.take box.maxLines.toNat).length = box.maxLines.toNat := by
      rw [List.length_take]
      omega
    rcases List.eq_nil_or_concat (fitted.lines.take box.maxLines.toNat) with
      hnil | ⟨earlier, line, hconcat⟩
    · rw [hnil, List.length_nil] at hlength
      omega
    · rw [List.concat_eq_append] at hconcat
      rw [hconcat, List.length_append, List.length_singleton] at hlength
      obtain ⟨kept, hkept, hcut⟩ :=
        exists_cutShort (box.style fitted.scale) box.maxWidth line
      have hbegins : earlier ++ [line] <+: wrap (box.style fitted.scale) box.maxWidth text := by
        rw [← hconcat, ← h]
        exact List.take_prefix _ _
      have hless : (earlier ++ [line]).length <
          (wrap (box.style fitted.scale) box.maxWidth text).length := by
        rw [List.length_append, List.length_singleton, ← h]
        omega
      refine ⟨earlier ++ [kept ++ ellipsis], ?_, .part hbegins hless hcut, by simp, ?_⟩
      · rw [hvisible, hconcat, List.getLast?_concat, List.dropLast_concat]
        dsimp only
        rw [hkept]
      · rw [List.length_append, List.length_singleton]
        omega

end Box

end DeskCalc
