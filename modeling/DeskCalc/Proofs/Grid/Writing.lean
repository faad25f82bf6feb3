import DeskCalc.Proofs.Grid.Rectangles

/-!
# Writing a grid

Names are written one after another with blanks between them, rows one below another with line
breaks between them, and blanks and blank lines wherever there is room. However that is done,
reading gives back the rows: words are cut at more characters than lines, a carriage return and the
line feed behind it leave a blank line, and blank lines are left out. This file fixes

* `Grid.WritesRow`, `Grid.Writes`: the ways of writing a row and some rows;
* `Writes.rowsOf_eq`: what is written is read, and `Writes.between_blanks`: blanks around it change
  nothing;
* `writes_iff`: every text is a way of writing what is read from it, and of nothing else;
* **`parseTemplate_undoes_writing`**: the matrix is read just from the texts that write it, and rows
  of different lengths are a fault.
-/

namespace DeskCalc

/-! ## 1. Words and lines -/

namespace Text

/-- Every line break is blank. -/
theorem isBlank_of_isLineBreak {c : Char} (h : isLineBreak c = true) : isBlank c = true := by
  simp only [isLineBreak, isBlank, inRanges, lineBreakRanges, blankRanges, List.any_cons,
    List.any_nil, Bool.or_eq_true, Bool.and_eq_true, decide_eq_true_eq, Bool.or_false] at h ⊢
  omega

/-- **The words of a text are cut at a blank.** -/
theorem words_append_blank {c : Char} (h : isBlank c = true) (xs ys : List Char) :
    words (xs ++ c :: ys) = words xs ++ words ys := by
  rw [words, pieces_append_cut h, List.filter_append]
  rfl

theorem words_blanks {xs : List Char} (h : ∀ c ∈ xs, isBlank c = true) : words xs = [] :=
  (words_eq_nil_iff xs).2 (List.all_eq_true.2 h)

theorem words_blanks_append {xs : List Char} (h : ∀ c ∈ xs, isBlank c = true) (ys : List Char) :
    words (xs ++ ys) = words ys := by
  induction xs with
  | nil => rfl
  | cons c rest ih =>
    obtain ⟨hc, hrest⟩ := List.forall_mem_cons.1 h
    exact (words_append_blank hc [] (rest ++ ys)).trans (ih hrest)

theorem words_append_blanks (xs : List Char) {ys : List Char} (h : ∀ c ∈ ys, isBlank c = true) :
    words (xs ++ ys) = words xs := by
  cases ys with
  | nil => rw [List.append_nil]
  | cons c rest =>
    obtain ⟨hc, hrest⟩ := List.forall_mem_cons.1 h
    rw [words_append_blank hc, words_blanks hrest, List.append_nil]

/-- A text without a blank is one word. -/
theorem words_eq_singleton {word : List Char} (hsome : word ≠ [])
    (h : ∀ c ∈ word, isBlank c = false) : words word = [word] := by
  rw [words, pieces_eq_singleton h]
  simp [hsome]

theorem writtenLines_append_break {c : Char} (h : isLineBreak c = true) (xs ys : List Char) :
    writtenLines (xs ++ c :: ys) = writtenLines xs ++ writtenLines ys := by
  rw [writtenLines, lines, pieces_append_cut h, List.filter_append]
  rfl

end Text

namespace Grid

/-! ## 2. Ways of writing -/

/-- Blanks within a line, or nothing. -/
def Gap (text : List Char) : Prop :=
  ∀ c ∈ text, Text.isBlank c = true ∧ Text.isLineBreak c = false

instance : DecidablePred Gap := fun text =>
  decidable_of_iff (text.all fun c => Text.isBlank c && !Text.isLineBreak c) (by
    simp [Gap, List.all_eq_true])

/-- What can be a name: some characters, none of them blank. -/
@[mk_iff]
structure IsName (name : String) : Prop where
  nonempty : name ≠ ""
  solid : ∀ c ∈ name.toList, Text.isBlank c = false

instance : DecidablePred IsName := fun name =>
  decidable_of_iff (name ≠ "" ∧ name.toList.all fun c => !Text.isBlank c) (by
    simp [isName_iff, List.all_eq_true])

/-- What ends a line: one of the characters that do, or a carriage return and a line feed. -/
inductive LineBreak : List Char → Prop where
  | single {c : Char} (h : Text.isLineBreak c = true) : LineBreak [c]
  | returnAndFeed : LineBreak ['\r', '\n']

/-- A line that writes some names, with blanks between them. -/
inductive WritesRow : List String → List Char → Prop where
  | last {before after : List Char} {name : String} (hbefore : Gap before) (hname : IsName name)
      (hafter : Gap after) : WritesRow [name] (before ++ name.toList ++ after)
  | more {before between line : List Char} {name : String} {names : List String}
      (hbefore : Gap before) (hname : IsName name) (hbetween : Gap between)
      (hapart : between ≠ []) (hline : WritesRow names line) :
      WritesRow (name :: names) (before ++ name.toList ++ between ++ line)

/-- A text that writes some rows, a line for each of them and blank lines anywhere. -/
inductive Writes : List (List String) → List Char → Prop where
  | blank {line : List Char} (hline : Gap line) : Writes [] line
  | row {names : List String} {line : List Char} (hline : WritesRow names line) :
      Writes [names] line
  | blankThen {rows : List (List String)} {line ending rest : List Char} (hline : Gap line)
      (hending : LineBreak ending) (hrest : Writes rows rest) :
      Writes rows (line ++ ending ++ rest)
  | rowThen {names : List String} {rows : List (List String)} {line ending rest : List Char}
      (hline : WritesRow names line) (hending : LineBreak ending) (hrest : Writes rows rest) :
      Writes (names :: rows) (line ++ ending ++ rest)

/-! ## 3. What is written is read -/

theorem Gap.blank {text : List Char} (h : Gap text) : ∀ c ∈ text, Text.isBlank c = true :=
  fun c hc => (h c hc).1

theorem IsName.words_eq {name : String} (h : IsName name) :
    Text.words name.toList = [name.toList] :=
  Text.words_eq_singleton (by simpa using h.nonempty) h.solid

theorem WritesRow.words_eq {names : List String} {line : List Char} (h : WritesRow names line) :
    Text.words line = names.map String.toList := by
  induction h with
  | last hbefore hname hafter =>
    rw [Text.words_append_blanks _ hafter.blank, Text.words_blanks_append hbefore.blank,
      hname.words_eq]
    rfl
  | @more before between line name names hbefore hname hbetween hapart hline ih =>
    obtain ⟨c, between, rfl⟩ := List.exists_cons_of_ne_nil hapart
    obtain ⟨hc, hbetween⟩ := List.forall_mem_cons.1 hbetween.blank
    rw [List.append_assoc, List.append_assoc, Text.words_blanks_append hbefore.blank,
      List.cons_append, Text.words_append_blank hc, Text.words_blanks_append hbetween, ih,
      hname.words_eq]
    rfl

theorem WritesRow.ne_nil {names : List String} {line : List Char} (h : WritesRow names line) :
    names ≠ [] := by
  cases h <;> exact List.cons_ne_nil _ _

/-- A row stands in one line. -/
theorem WritesRow.noLineBreak {names : List String} {line : List Char} (h : WritesRow names line) :
    ∀ c ∈ line, Text.isLineBreak c = false := by
  have hsolid {name : String} (hname : IsName name) :
      ∀ c ∈ name.toList, Text.isLineBreak c = false := fun c hc =>
    Bool.eq_false_iff.2 fun hbreak =>
      absurd (Text.isBlank_of_isLineBreak hbreak) (Bool.eq_false_iff.1 (hname.solid c hc))
  induction h with
  | last hbefore hname hafter =>
    simp only [List.forall_mem_append]
    exact ⟨⟨fun c hc => (hbefore c hc).2, hsolid hname⟩, fun c hc => (hafter c hc).2⟩
  | more hbefore hname hbetween hapart hline ih =>
    simp only [List.forall_mem_append]
    exact ⟨⟨⟨fun c hc => (hbefore c hc).2, hsolid hname⟩, fun c hc => (hbetween c hc).2⟩, ih⟩

theorem Gap.writtenLines_eq {line : List Char} (h : Gap line) : Text.writtenLines line = [] := by
  have hblank : line.all Text.isBlank = true := List.all_eq_true.2 h.blank
  rw [Text.writtenLines, Text.lines, Text.pieces_eq_singleton fun c hc => (h c hc).2]
  simp [hblank]

theorem WritesRow.writtenLines_eq {names : List String} {line : List Char}
    (h : WritesRow names line) : Text.writtenLines line = [line] := by
  have hwritten : line.all Text.isBlank = false := by
    refine Bool.eq_false_iff.2 fun hblank => h.ne_nil ?_
    have hnone := (Text.words_eq_nil_iff line).2 hblank
    rw [h.words_eq] at hnone
    exact List.map_eq_nil_iff.1 hnone
  rw [Text.writtenLines, Text.lines, Text.pieces_eq_singleton h.noLineBreak]
  simp [hwritten]

/-- A line break parts the lines; nothing is written between a carriage return and a line feed. -/
theorem LineBreak.writtenLines_append {ending : List Char} (h : LineBreak ending)
    (xs ys : List Char) : Text.writtenLines (xs ++ ending ++ ys) =
      Text.writtenLines xs ++ Text.writtenLines ys := by
  cases h with
  | single h =>
    rw [List.append_assoc]
    exact Text.writtenLines_append_break h xs ys
  | returnAndFeed =>
    rw [List.append_assoc]
    calc Text.writtenLines (xs ++ '\r' :: ([] ++ '\n' :: ys))
        = Text.writtenLines xs ++ Text.writtenLines ([] ++ '\n' :: ys) :=
          Text.writtenLines_append_break (by decide) _ _
      _ = Text.writtenLines xs ++ (Text.writtenLines [] ++ Text.writtenLines ys) := by
          rw [Text.writtenLines_append_break (by decide)]
      _ = Text.writtenLines xs ++ Text.writtenLines ys := rfl

/-- The words of the lines that are not blank. -/
def rowsOf (text : List Char) : List (List String) :=
  (Text.writtenLines text).map fun line => (Text.words line).map String.ofList

theorem rowsOf_eq_append {text line rest : List Char}
    (h : Text.writtenLines text = Text.writtenLines line ++ Text.writtenLines rest) :
    rowsOf text = rowsOf line ++ rowsOf rest := by
  rw [rowsOf, h, List.map_append]
  rfl

theorem Gap.rowsOf_eq {line : List Char} (h : Gap line) : rowsOf line = [] := by
  rw [rowsOf, h.writtenLines_eq]
  rfl

theorem WritesRow.rowsOf_eq {names : List String} {line : List Char} (h : WritesRow names line) :
    rowsOf line = [names] := by
  rw [rowsOf, h.writtenLines_eq, List.map_singleton, h.words_eq, List.map_map]
  simp

/-- **What is written is read.** -/
theorem Writes.rowsOf_eq {rows : List (List String)} {text : List Char} (h : Writes rows text) :
    rowsOf text = rows := by
  induction h with
  | blank hline => exact hline.rowsOf_eq
  | row hline => exact hline.rowsOf_eq
  | blankThen hline hending hrest ih =>
    rw [rowsOf_eq_append (hending.writtenLines_append _ _), hline.rowsOf_eq, ih]
    rfl
  | rowThen hline hending hrest ih =>
    rw [rowsOf_eq_append (hending.writtenLines_append _ _), hline.rowsOf_eq, ih]
    rfl

/-! ## 4. Blanks around a text -/

theorem gap_nil : Gap [] := fun _ hc => nomatch hc

theorem gap_cons {c : Char} {line : List Char} (hblank : Text.isBlank c = true)
    (hc : Text.isLineBreak c = false) (h : Gap line) : Gap (c :: line) :=
  List.forall_mem_cons.2 ⟨⟨hblank, hc⟩, h⟩

/-- A blank more in front of a row. -/
theorem WritesRow.cons_blank {names : List String} {line : List Char} (h : WritesRow names line)
    {c : Char} (hblank : Text.isBlank c = true) (hc : Text.isLineBreak c = false) :
    WritesRow names (c :: line) := by
  cases h with
  | last hbefore hname hafter => exact .last (gap_cons hblank hc hbefore) hname hafter
  | more hbefore hname hbetween hapart hline =>
    exact .more (gap_cons hblank hc hbefore) hname hbetween hapart hline

/-- A blank more in front of a text. -/
theorem Writes.cons_blank {rows : List (List String)} {text : List Char} (h : Writes rows text)
    {c : Char} (hblank : Text.isBlank c = true) : Writes rows (c :: text) := by
  cases hc : Text.isLineBreak c with
  | true => exact .blankThen gap_nil (.single hc) h
  | false =>
    cases h with
    | blank hline => exact .blank (gap_cons hblank hc hline)
    | row hline => exact .row (hline.cons_blank hblank hc)
    | blankThen hline hending hrest => exact .blankThen (gap_cons hblank hc hline) hending hrest
    | rowThen hline hending hrest => exact .rowThen (hline.cons_blank hblank hc) hending hrest

theorem Gap.append {xs ys : List Char} (hxs : Gap xs) (hys : Gap ys) : Gap (xs ++ ys) :=
  List.forall_mem_append.2 ⟨hxs, hys⟩

/-- Blanks behind a row. -/
theorem WritesRow.append_gap {names : List String} {line : List Char} (h : WritesRow names line)
    {gap : List Char} (hgap : Gap gap) : WritesRow names (line ++ gap) := by
  induction h with
  | last hbefore hname hafter =>
    rw [List.append_assoc]
    exact .last hbefore hname (hafter.append hgap)
  | more hbefore hname hbetween hapart hline ih =>
    rw [List.append_assoc]
    exact .more hbefore hname hbetween hapart ih

/-- A blank more behind a text. -/
theorem Writes.append_blank {rows : List (List String)} {text : List Char} (h : Writes rows text)
    {c : Char} (hblank : Text.isBlank c = true) : Writes rows (text ++ [c]) := by
  have hend : Text.isLineBreak c = true ∨ Gap [c] := by
    cases hc : Text.isLineBreak c with
    | true => exact .inl rfl
    | false => exact .inr (gap_cons hblank hc gap_nil)
  induction h with
  | blank hline =>
    rcases hend with hbreak | hgap
    · simpa using Writes.blankThen hline (.single hbreak) (.blank gap_nil)
    · exact .blank (hline.append hgap)
  | row hline =>
    rcases hend with hbreak | hgap
    · simpa using Writes.rowThen hline (.single hbreak) (.blank gap_nil)
    · exact .row (hline.append_gap hgap)
  | blankThen hline hending hrest ih =>
    rw [List.append_assoc]
    exact .blankThen hline hending ih
  | rowThen hline hending hrest ih =>
    rw [List.append_assoc]
    exact .rowThen hline hending ih

/-- **Blanks around a text change nothing, whether they end lines or not.** -/
theorem Writes.between_blanks {rows : List (List String)} {text : List Char} (h : Writes rows text)
    {before after : List Char} (hbefore : ∀ c ∈ before, Text.isBlank c = true)
    (hafter : ∀ c ∈ after, Text.isBlank c = true) : Writes rows (before ++ text ++ after) := by
  have hbehind : Writes rows (text ++ after) := by
    induction after generalizing text with
    | nil => simpa using h
    | cons c rest ih =>
      obtain ⟨hc, hrest⟩ := List.forall_mem_cons.1 hafter
      simpa using ih (h.append_blank hc) hrest
  rw [List.append_assoc]
  induction before with
  | nil => exact hbehind
  | cons c rest ih =>
    obtain ⟨hc, hrest⟩ := List.forall_mem_cons.1 hbefore
    exact (ih hrest).cons_blank hc

/-! ## 5. Every text writes something -/

theorem isName_ofList {c : Char} {word : List Char} (hc : Text.isBlank c = false)
    (h : ∀ d ∈ word, Text.isBlank d = false) : IsName (String.ofList (c :: word)) where
  nonempty := by
    rw [← String.ofList_nil, ne_eq, String.ofList_inj]
    exact List.cons_ne_nil c word
  solid := by
    rw [String.toList_ofList]
    exact List.forall_mem_cons.2 ⟨hc, h⟩

/-- A character that is not blank, in front of a row: it begins the first name, or is a name of its
    own when the row has a blank there. -/
theorem WritesRow.cons_solid {names : List String} {line : List Char} (h : WritesRow names line)
    {c : Char} (hc : Text.isBlank c = false) : ∃ longer, WritesRow longer (c :: line) := by
  have hletter : IsName (String.ofList [c]) := isName_ofList hc fun _ hd => nomatch hd
  have hlonger {name : String} (hname : IsName name) :
      IsName (String.ofList (c :: name.toList)) := isName_ofList hc hname.solid
  cases h with
  | @last before after name hbefore hname hafter =>
    cases before with
    | nil =>
      refine ⟨[String.ofList (c :: name.toList)], ?_⟩
      simpa using WritesRow.last gap_nil (hlonger hname) hafter
    | cons b before =>
      refine ⟨[String.ofList [c], name], ?_⟩
      simpa using WritesRow.more gap_nil hletter hbefore (List.cons_ne_nil b before)
        (.last gap_nil hname hafter)
  | @more before between line name names hbefore hname hbetween hapart hline =>
    cases before with
    | nil =>
      refine ⟨String.ofList (c :: name.toList) :: names, ?_⟩
      simpa using WritesRow.more gap_nil (hlonger hname) hbetween hapart hline
    | cons b before =>
      refine ⟨String.ofList [c] :: name :: names, ?_⟩
      simpa using WritesRow.more gap_nil hletter hbefore (List.cons_ne_nil b before)
        (.more gap_nil hname hbetween hapart hline)

/-- A character that is not blank, behind it what writes something: it begins a row, the first one
    or one more. -/
theorem Writes.cons_solid {rows : List (List String)} {text : List Char} (h : Writes rows text)
    {c : Char} (hc : Text.isBlank c = false) : ∃ others, Writes others (c :: text) := by
  have hrow {line : List Char} (hline : Gap line) :
      WritesRow [String.ofList [c]] (c :: line) := by
    have hletter : IsName (String.ofList [c]) := isName_ofList hc fun _ hd => nomatch hd
    simpa using WritesRow.last gap_nil hletter hline
  cases h with
  | blank hline => exact ⟨_, .row (hrow hline)⟩
  | row hline =>
    obtain ⟨longer, hlonger⟩ := hline.cons_solid hc
    exact ⟨_, .row hlonger⟩
  | blankThen hline hending hrest => exact ⟨_, .rowThen (hrow hline) hending hrest⟩
  | rowThen hline hending hrest =>
    obtain ⟨longer, hlonger⟩ := hline.cons_solid hc
    exact ⟨_, .rowThen hlonger hending hrest⟩

/-- Every text writes something. -/
theorem exists_writes (text : List Char) : ∃ rows, Writes rows text := by
  induction text with
  | nil => exact ⟨[], .blank gap_nil⟩
  | cons c text ih =>
    obtain ⟨rows, hrows⟩ := ih
    cases hc : Text.isBlank c with
    | true => exact ⟨rows, hrows.cons_blank hc⟩
    | false => exact hrows.cons_solid hc

/-- **Every text is a way of writing what is read from it, and of nothing else.** -/
theorem writes_iff {rows : List (List String)} {text : List Char} :
    Writes rows text ↔ rowsOf text = rows := by
  refine ⟨Writes.rowsOf_eq, fun h => ?_⟩
  obtain ⟨written, hwritten⟩ := exists_writes text
  rwa [← h, hwritten.rowsOf_eq]

/-! ## 6. Writing and reading -/

/-- Some rows are of one length unless one of them differs from the first. -/
theorem exists_row_of_uneven {rows : List (List String)}
    (h : ¬∃ columns, ∀ row ∈ rows, row.length = columns) :
    ∃ first before row after, rows = first :: before ++ row :: after ∧
      (∀ other ∈ before, other.length = first.length) ∧ row.length ≠ first.length ∧
      (before ++ row :: after).find? (·.length != first.length) = some row := by
  cases rows with
  | nil => exact absurd ⟨0, fun _ hrow => nomatch hrow⟩ h
  | cons first others =>
    cases hfind : others.find? (·.length != first.length) with
    | none =>
      refine absurd ⟨first.length, List.forall_mem_cons.2 ⟨rfl, fun row hrow => ?_⟩⟩ h
      simpa using List.find?_eq_none.1 hfind row hrow
    | some row =>
      obtain ⟨hother, before, after, rfl, hbefore⟩ := List.find?_eq_some_iff_append.1 hfind
      exact ⟨first, before, row, after, rfl, by simpa using hbefore, by simpa using hother, hfind⟩

theorem templateRows_eq_rowsOf (template : String) :
    templateRows template = rowsOf template.toList :=
  templateRows_eq template

/-- **A matrix is read just from the texts that write it; of rows of different lengths, the first
    that differs from the one on top is a fault.** -/
theorem parseTemplate_undoes_writing (template : String) (rows : List (List String)) :
    (parseTemplate template = .ok rows ↔
      Writes rows template.toList ∧ rows ≠ [] ∧ ∃ columns, ∀ row ∈ rows, row.length = columns) ∧
    (Writes rows template.toList → (¬∃ columns, ∀ row ∈ rows, row.length = columns) →
      ∃ first before row after, rows = first :: before ++ row :: after ∧
        (∀ other ∈ before, other.length = first.length) ∧ row.length ≠ first.length ∧
        parseTemplate template = .error (.raggedRow row.length first.length)) := by
  have hread : Writes rows template.toList ↔ templateRows template = rows := by
    rw [templateRows_eq_rowsOf]
    exact writes_iff
  refine ⟨?_, fun hwrites huneven => ?_⟩
  · rw [Layout.parseTemplate_eq_ok, hread]
    refine and_congr_right fun _ => and_congr_right fun hsome => ⟨fun hsame => ⟨_, hsame⟩, ?_⟩
    rintro ⟨columns, hsame⟩ row hrow
    cases rows with
    | nil => exact absurd rfl hsome
    | cons first others => exact (hsame row hrow).trans (hsame first List.mem_cons_self).symm
  · obtain ⟨first, before, row, after, hrows, hbefore, hother, hfind⟩ :=
      exists_row_of_uneven huneven
    refine ⟨first, before, row, after, hrows, hbefore, hother, ?_⟩
    rw [parseTemplate, hread.1 hwrites, hrows, List.cons_append]
    dsimp only
    rw [hfind]

/-- Between two lines stand a carriage return, a line feed and a blank line, between two names a
    unit separator; a vertical tab ends a line too. -/
theorem parseTemplate_of_mixed_breaks :
    parseTemplate "\u2028 sine\u001F\tcosine\r\n\n seven eight \u0085" =
        .ok [["sine", "cosine"], ["seven", "eight"]] ∧
      parseTemplate "one two\u000Bthree" = .error (.raggedRow 1 2) := by
  have hsine : WritesRow ["sine", "cosine"] " sine\u001F\tcosine".toList :=
    .more (show Gap [' '] by decide) (by decide)
      (show Gap ['\u001F', '\t'] by decide) (by decide)
      (.last gap_nil (by decide) gap_nil)
  have hseven : WritesRow ["seven", "eight"] " seven eight".toList :=
    .more (show Gap [' '] by decide) (by decide) (show Gap [' '] by decide)
      (by decide) (.last gap_nil (by decide) gap_nil)
  have hsquare : Writes [["sine", "cosine"], ["seven", "eight"]]
      "\u2028 sine\u001F\tcosine\r\n\n seven eight \u0085".toList :=
    Writes.between_blanks
      (.rowThen hsine .returnAndFeed (.blankThen gap_nil (.single (by decide)) (.row hseven)))
      (List.all_eq_true.1 (show ['\u2028'].all Text.isBlank = true by decide))
      (List.all_eq_true.1 (show [' ', '\u0085'].all Text.isBlank = true by decide))
  have hone : WritesRow ["one", "two"] "one two".toList :=
    .more gap_nil (by decide) (show Gap [' '] by decide) (by decide)
      (.last gap_nil (by decide) gap_nil)
  have hthree : WritesRow ["three"] "three".toList :=
    .last gap_nil (by decide) gap_nil
  have huneven : Writes [["one", "two"], ["three"]] "one two\u000Bthree".toList :=
    .rowThen hone (.single (show Text.isLineBreak '\u000B' = true by decide)) (.row hthree)
  refine ⟨(parseTemplate_undoes_writing _ _).1.2 ⟨hsquare, by decide, 2, by decide⟩, ?_⟩
  have hlengths : ¬∃ columns, ∀ row ∈ [["one", "two"], ["three"]], row.length = columns := by
    rintro ⟨columns, hsame⟩
    have htwo : 2 = columns := hsame ["one", "two"] (by decide)
    have hthree : 1 = columns := hsame ["three"] (by decide)
    omega
  obtain ⟨first, before, row, after, hrows, -, -, herror⟩ :=
    (parseTemplate_undoes_writing _ _).2 huneven hlengths
  cases before with
  | nil =>
    cases hrows
    exact herror
  | cons other before => simp at hrows

end Grid

end DeskCalc
