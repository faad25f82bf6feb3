import Mathlib.Data.List.Basic
import DeskCalc.Proofs.Expression.Diagnosis
import DeskCalc.Proofs.Expression.Scanning

/-!
# What a scan finds

A text is scanned without a complaint exactly if it is well spelled: it has no character that no
expression has, and every longest run of digits and points is a numeral. This file fixes

* `LongestRun`: the longest runs of digits and points, said without a scan, and
  `longestRun_append`: they do not go across where texts are apart;
* `WellSpelled`, `Violation`, `Leftmost`: what a text must be, what can be wrong with it, and what
  is wrong with it first;
* `Spelled`: how a text is put together from lexemes and blanks, with what follows for each lexeme;
* **`scanFrom_cases`**: a scan spells its text or reports what is wrong with it first.

Main statement: `ofText_covers_or_leftmost`.
-/

namespace DeskCalc

namespace Lexeme

/-! ## 1. Runs of digits and points -/

/-- A run of digits and points that neither neighbour continues, and the place of its first
    character. -/
def LongestRun (text : List Char) (position : Nat) (run : List Char) : Prop :=
  ∃ before behind, text = before ++ (run ++ behind) ∧ before.length = position ∧ run ≠ [] ∧
    (∀ c ∈ run, isNumeral c = true) ∧ (∀ c ∈ before.getLast?, isNumeral c = false) ∧
    ∀ c ∈ behind.head?, isNumeral c = false

/-- A run does not go across where texts are apart. -/
theorem Apart.head {xs run behind : List Char} (happart : Apart xs (run ++ behind)) (hne : run ≠ [])
    (hrun : ∀ c ∈ run, isNumeral c = true) {c : Char} (hc : c ∈ xs.getLast?) :
    isNumeral c = false := by
  cases hnumeral : isNumeral c with
  | false => rfl
  | true =>
    have hhead : run.head hne ∈ (run ++ behind).head? :=
      List.mem_head?_append_of_mem_head? (List.head?_eq_some_head hne)
    exact absurd (hrun _ (List.head_mem hne)) (by simp [happart c hc _ hhead hnumeral])

theorem Apart.last {before run ys : List Char} (happart : Apart (before ++ run) ys) (hne : run ≠ [])
    (hrun : ∀ c ∈ run, isNumeral c = true) {d : Char} (hd : d ∈ ys.head?) :
    isNumeral d = false :=
  happart _ (List.mem_getLast?_append_of_mem_getLast? (List.getLast?_eq_some_getLast hne)) d hd
    (hrun _ (List.getLast_mem hne))

/-- **A run lies on one side of a place where texts are apart.** -/
theorem longestRun_append {xs ys : List Char} (happart : Apart xs ys) {position : Nat}
    {run : List Char} :
    LongestRun (xs ++ ys) position run ↔
      LongestRun xs position run ∨
        ∃ place, position = xs.length + place ∧ LongestRun ys place run := by
  constructor
  · rintro ⟨before, behind, htext, rfl, hne, hrun, hbefore, hbehind⟩
    rcases List.append_eq_append_iff.1 htext with ⟨front, rfl, rfl⟩ | ⟨front, rfl, hrest⟩
    · -- the run begins behind the seam
      exact .inr ⟨front.length, List.length_append, front, behind, rfl, rfl, hne, hrun,
        fun c hc => hbefore c (List.mem_getLast?_append_of_mem_getLast? hc), hbehind⟩
    · rcases List.append_eq_append_iff.1 hrest with ⟨more, rfl, rfl⟩ | ⟨more, rfl, rfl⟩
      · -- the run ends in front of the seam
        exact .inl ⟨before, more, rfl, rfl, hne, hrun, hbefore,
          fun c hc => hbehind c (List.mem_head?_append_of_mem_head? hc)⟩
      · obtain ⟨hfront, hmore⟩ := List.forall_mem_append.1 hrun
        by_cases hstart : front = []
        · subst hstart
          refine .inr ⟨0, by rw [List.append_nil]; rfl, [], behind, rfl, rfl, hne, hrun, ?_, hbehind⟩
          intro c hc
          cases hc
        · by_cases hend : more = []
          · subst hend
            rw [List.append_nil]
            exact .inl ⟨before, [], by rw [List.append_nil], rfl, hstart, hfront, hbefore,
              fun c hc => nomatch hc⟩
          · have hcross := happart.last hstart hfront
              (List.mem_head?_append_of_mem_head? (List.head?_eq_some_head hend))
            rw [hmore _ (List.head_mem hend)] at hcross
            cases hcross
  · rintro (⟨before, behind, rfl, rfl, hne, hrun, hbefore, hbehind⟩ |
      ⟨place, rfl, before, behind, rfl, rfl, hne, hrun, hbefore, hbehind⟩)
    · refine ⟨before, behind ++ ys, by simp, rfl, hne, hrun, hbefore, fun c hc => ?_⟩
      cases behind with
      | nil =>
        rw [List.append_nil] at happart
        exact happart.last hne hrun hc
      | cons d behind => exact hbehind c hc
    · refine ⟨xs ++ before, behind, by simp, List.length_append, hne, hrun, fun c hc => ?_, hbehind⟩
      rcases List.eq_nil_or_concat' before with rfl | ⟨front, d, rfl⟩
      · rw [List.append_nil] at hc
        rw [List.nil_append] at happart
        exact happart.head hne hrun hc
      · rw [← List.append_assoc, List.getLast?_concat] at hc
        exact hbefore c (by rwa [List.getLast?_concat])

/-- A text of digits and points has one run. -/
theorem longestRun_of_numerals {text : List Char} (hne : text ≠ [])
    (hall : ∀ c ∈ text, isNumeral c = true) {position : Nat} {run : List Char} :
    LongestRun text position run ↔ position = 0 ∧ run = text := by
  constructor
  · rintro ⟨before, behind, rfl, rfl, hrun, _, hbefore, hbehind⟩
    obtain ⟨hfront, hrest⟩ := List.forall_mem_append.1 hall
    -- a neighbour would continue the run
    have hnothing : before = [] := by
      by_contra hsome
      have hcross := hbefore _ (List.getLast?_eq_some_getLast hsome)
      rw [hfront _ (List.getLast_mem hsome)] at hcross
      cases hcross
    have hnothing' : behind = [] := by
      by_contra hsome
      have hcross := hbehind _ (List.head?_eq_some_head hsome)
      rw [(List.forall_mem_append.1 hrest).2 _ (List.head_mem hsome)] at hcross
      cases hcross
    subst hnothing hnothing'
    exact ⟨rfl, by simp⟩
  · rintro ⟨rfl, rfl⟩
    exact ⟨[], [], by simp, rfl, hne, hall, fun c hc => (nomatch hc), fun c hc => (nomatch hc)⟩

theorem not_longestRun_nil {position : Nat} {run : List Char} : ¬LongestRun [] position run := by
  rintro ⟨before, behind, htext, -, hne, -⟩
  exact hne (List.append_eq_nil_iff.1 (List.append_eq_nil_iff.1 htext.symm).2).1

/-- Behind a character of no numeral, the runs are those of the rest. -/
theorem longestRun_cons {c : Char} (h : isNumeral c = false) {rest : List Char} {position : Nat}
    {run : List Char} :
    LongestRun (c :: rest) position run ↔
      ∃ place, position = 1 + place ∧ LongestRun rest place run := by
  have hnone : ¬LongestRun [c] position run := by
    rintro ⟨before, behind, htext, rfl, hne, hrun, _, _⟩
    have hmem : run.head hne ∈ [c] := by
      rw [htext]
      simp [List.head_mem hne]
    rw [List.mem_singleton] at hmem
    have hnumeral := hrun _ (List.head_mem hne)
    rw [hmem, h] at hnumeral
    cases hnumeral
  rw [← List.singleton_append, longestRun_append (singleton_apart h rest)]
  simp [hnone]

/-! ## 2. What can be wrong with a text -/

/-- The characters that an expression may have. -/
def Legible (c : Char) : Prop :=
  Text.isBlank c = true ∨ c ∈ "0123456789.+-*/()".toList

/-- All characters are legible, and every longest run of digits and points is a numeral. -/
def WellSpelled (text : List Char) : Prop :=
  (∀ c ∈ text, Legible c) ∧
    ∀ position run, LongestRun text position run → run.count '.' ≤ 1 ∧ run ≠ ['.']

/-- What is wrong with a text, and where. -/
inductive Violation (text : List Char) : Expression.Report → Prop where
  | character {before behind : List Char} {c : Char} (split : text = before ++ c :: behind)
      (illegible : ¬Legible c) :
      Violation text ⟨"Invalid character '" ++ String.singleton c ++ "'", before.length⟩
  | points {position : Nat} {run : List Char} (longest : LongestRun text position run)
      (many : 2 ≤ run.count '.') :
      Violation text ⟨"Malformed number '" ++ String.ofList run ++ "'", position⟩
  | lonePoint {position : Nat} (longest : LongestRun text position ['.']) :
      Violation text ⟨"Decimal point without digits", position⟩

/-- The first thing that is wrong with a text. -/
def Leftmost (text : List Char) (report : Expression.Report) : Prop :=
  Violation text report ∧
    ∀ other, Violation text other → other = report ∨ report.position < other.position

theorem mem_digits {c : Char} (h : c.isDigit = true) : c ∈ "0123456789".toList := by
  rw [Char.isDigit_iff_toNat] at h
  have hzero : '0'.toNat = 48 := rfl
  have hnine : '9'.toNat = 57 := rfl
  rw [← Char.ofNat_toNat c]
  generalize c.toNat = code at *
  have hcode : code = 48 ∨ code = 49 ∨ code = 50 ∨ code = 51 ∨ code = 52 ∨ code = 53 ∨
      code = 54 ∨ code = 55 ∨ code = 56 ∨ code = 57 := by omega
  rcases hcode with rfl | rfl | rfl | rfl | rfl | rfl | rfl | rfl | rfl | rfl <;> decide

/-- What is legible is blank, in a numeral, or a token by itself. -/
theorem legible_iff {c : Char} :
    Legible c ↔
      Text.isBlank c = true ∨ isNumeral c = true ∨ ∃ token, Token.ofChar? c = some token := by
  have hnumerals : "0123456789.".toList.all isNumeral = true := by decide
  have htokens : "+-*/()".toList.all (fun c => (Token.ofChar? c).isSome) = true := by decide
  have hlegible : "0123456789.+-*/()".toList = "0123456789.".toList ++ "+-*/()".toList := rfl
  unfold Legible
  rw [hlegible, List.mem_append]
  refine or_congr_right (or_congr ⟨List.all_eq_true.1 hnumerals c, fun h => ?_⟩ ⟨fun h => ?_, ?_⟩)
  · rcases Bool.or_eq_true_iff.1 h with hdigit | hpoint
    · exact List.mem_append_left ".".toList (mem_digits hdigit)
    · cases eq_of_beq hpoint
      decide
  · exact Option.isSome_iff_exists.1 (List.all_eq_true.1 htokens c h)
  · rintro ⟨token, h⟩
    exact (written_of_ofChar? h).1

theorem not_violation_iff {text : List Char} :
    (∀ report, ¬Violation text report) ↔ WellSpelled text := by
  constructor
  · intro h
    refine ⟨fun c hc => ?_, fun position run hrun => ⟨?_, ?_⟩⟩
    · by_contra hillegible
      obtain ⟨before, behind, hsplit⟩ := List.append_of_mem hc
      exact h _ (.character hsplit hillegible)
    · by_contra hmany
      exact h _ (.points hrun (by omega))
    · rintro rfl
      exact h _ (.lonePoint hrun)
  · rintro ⟨hlegible, hruns⟩ report hviolation
    cases hviolation with
    | character split illegible => exact illegible (hlegible _ (by simp [split]))
    | points longest many =>
      have hcount := (hruns _ _ longest).1
      omega
    | lonePoint longest => exact (hruns _ _ longest).2 rfl


/-- The report about a text, when `length` characters stand in front of it. -/
def later (length : Nat) (report : Expression.Report) : Expression.Report :=
  ⟨report.message, length + report.position⟩

section Apart

variable {xs ys : List Char} (happart : Apart xs ys) {report : Expression.Report}

include happart in
/-- What is wrong with texts that are apart is wrong with one of them. -/
theorem Violation.of_append (h : Violation (xs ++ ys) report) :
    Violation xs report ∨ ∃ other, Violation ys other ∧ report = later xs.length other := by
  cases h with
  | character split illegible =>
    rcases List.append_eq_append_iff.1 split with ⟨front, rfl, rfl⟩ | ⟨front, rfl, hrest⟩
    · refine .inr ⟨_, .character rfl illegible, ?_⟩
      rw [List.length_append]
      rfl
    · cases front with
      | nil =>
        rw [List.append_nil]
        exact .inr ⟨_, .character (hrest.symm.trans (List.nil_append _).symm) illegible, rfl⟩
      | cons d front =>
        rw [List.cons_append, List.cons.injEq] at hrest
        obtain ⟨rfl, -⟩ := hrest
        exact .inl (.character rfl illegible)
  | points longest many =>
    rcases (longestRun_append happart).1 longest with hleft | ⟨place, rfl, hright⟩
    · exact .inl (.points hleft many)
    · exact .inr ⟨_, .points hright many, rfl⟩
  | lonePoint longest =>
    rcases (longestRun_append happart).1 longest with hleft | ⟨place, rfl, hright⟩
    · exact .inl (.lonePoint hleft)
    · exact .inr ⟨_, .lonePoint hright, rfl⟩

include happart in
theorem Violation.append (h : Violation ys report) :
    Violation (xs ++ ys) (later xs.length report) := by
  cases h with
  | @character before behind c split illegible =>
    have hplace : xs.length + before.length = (xs ++ before).length := List.length_append.symm
    unfold later
    rw [hplace]
    exact .character (by rw [split, List.append_assoc]) illegible
  | points longest many =>
    exact .points ((longestRun_append happart).2 (.inr ⟨_, rfl, longest⟩)) many
  | lonePoint longest =>
    exact .lonePoint ((longestRun_append happart).2 (.inr ⟨_, rfl, longest⟩))

include happart in
/-- Behind a well-spelled text, the first violation is that of the rest. -/
theorem Leftmost.append (hxs : WellSpelled xs) (h : Leftmost ys report) :
    Leftmost (xs ++ ys) (later xs.length report) := by
  refine ⟨h.1.append happart, fun other hother => ?_⟩
  rcases hother.of_append happart with hleft | ⟨inner, hright, rfl⟩
  · exact absurd hleft (not_violation_iff.2 hxs other)
  · rcases h.2 inner hright with rfl | hlt
    · exact .inl rfl
    · exact .inr (Nat.add_lt_add_left hlt _)

end Apart

/-! ## 3. Texts spelled by lexemes -/

/-- A run of digits and points with a digit, and one point at most. -/
structure Numeral (run : List Char) : Prop where
  ne_nil : run ≠ []
  numerals : ∀ c ∈ run, isNumeral c = true
  points : run.count '.' ≤ 1
  digits : run ≠ ['.']

/-- How a token is written. -/
inductive Written : Token → Prop where
  | number {run : List Char} (numeral : Numeral run) : Written (.number run)
  | single {c : Char} {token : Token} (ofChar : Token.ofChar? c = some token) : Written token

/-- The text that begins at `position` consists of the lexemes and of blanks, and no numeral goes
    on behind its lexeme. -/
inductive Spelled : (position : Nat) → List Char → List Lexeme → Prop where
  | nothing {position : Nat} : Spelled position [] []
  | blank {position : Nat} {c : Char} {rest : List Char} {lexemes : List Lexeme}
      (isBlank : Text.isBlank c = true) (others : Spelled (position + 1) rest lexemes) :
      Spelled position (c :: rest) lexemes
  | lexeme {position : Nat} {token : Token} {rest : List Char} {lexemes : List Lexeme}
      (written : Written token) (happart : Apart token.text rest)
      (others : Spelled (position + token.text.length) rest lexemes) :
      Spelled position (token.text ++ rest) (⟨token, position⟩ :: lexemes)

theorem isNumeral_of_isBlank {c : Char} (h : Text.isBlank c = true) : isNumeral c = false := by
  cases hnumeral : isNumeral c with
  | false => rfl
  | true =>
    rcases Bool.or_eq_true_iff.1 hnumeral with hdigit | hpoint
    · exact absurd h (not_isBlank_of_isDigit hdigit)
    · cases eq_of_beq hpoint
      exact absurd h (by decide)

theorem ofChar?_ne_number (c : Char) (run : List Char) :
    Token.ofChar? c ≠ some (.number run) := by
  intro h
  unfold Token.ofChar? at h
  split at h
  · cases h
  · cases h
  · obtain ⟨op, -, hop⟩ := Option.map_eq_some_iff.1 h
    cases hop

theorem Written.text_ne_nil {token : Token} (h : Written token) : token.text ≠ [] := by
  cases h with
  | number numeral => exact numeral.ne_nil
  | single ofChar =>
    rw [(written_of_ofChar? ofChar).2]
    exact List.cons_ne_nil _ _

theorem Written.legible {token : Token} (h : Written token) : ∀ c ∈ token.text, Legible c := by
  cases h with
  | number numeral => exact fun c hc => legible_iff.2 (.inr (.inl (numeral.numerals c hc)))
  | single ofChar =>
    rw [(written_of_ofChar? ofChar).2, List.forall_mem_singleton]
    exact legible_iff.2 (.inr (.inr ⟨_, ofChar⟩))

/-- The runs of a token's text: the whole numeral, or none. -/
theorem Written.longestRun {token : Token} (h : Written token) {position : Nat} {run : List Char} :
    LongestRun token.text position run ↔ position = 0 ∧ token = .number run := by
  cases h with
  | number numeral =>
    rw [Token.number.injEq, eq_comm (b := run)]
    exact longestRun_of_numerals numeral.ne_nil numeral.numerals
  | single ofChar =>
    rw [(written_of_ofChar? ofChar).2, longestRun_cons (separate_of_ofChar? ofChar).2]
    constructor
    · rintro ⟨place, rfl, hrun⟩
      exact absurd hrun not_longestRun_nil
    · rintro ⟨-, rfl⟩
      exact absurd ofChar (ofChar?_ne_number _ _)

namespace Spelled

variable {position : Nat} {text : List Char} {lexemes : List Lexeme}

/-- Every lexeme is a piece of the text. -/
theorem piece (h : Spelled position text lexemes) : ∀ lexeme ∈ lexemes,
    ∃ before behind, text = before ++ (lexeme.token.text ++ behind) ∧
      lexeme.position = position + before.length := by
  induction h with
  | nothing => exact fun lexeme hlexeme => (nomatch hlexeme)
  | @blank position c rest lexemes isBlank others ih =>
    intro lexeme hlexeme
    obtain ⟨before, behind, rfl, hposition⟩ := ih lexeme hlexeme
    refine ⟨c :: before, behind, rfl, ?_⟩
    rw [hposition, List.length_cons, Nat.add_assoc, Nat.add_comm 1]
  | @lexeme position token rest lexemes written happart others ih =>
    refine List.forall_mem_cons.2 ⟨⟨[], rest, rfl, rfl⟩, fun lexeme hlexeme => ?_⟩
    obtain ⟨before, behind, rfl, hposition⟩ := ih lexeme hlexeme
    refine ⟨token.text ++ before, behind, (List.append_assoc ..).symm, ?_⟩
    rw [hposition, List.length_append, Nat.add_assoc]

/-- The places ascend, up to the end of the text. -/
theorem ascending (h : Spelled position text lexemes) :
    (lexemes.map Lexeme.position ++ [position + text.length]).Pairwise (· < ·) := by
  induction h with
  | nothing => exact List.pairwise_singleton _ _
  | @blank position c rest lexemes isBlank others ih =>
    rwa [List.length_cons, Nat.add_comm rest.length, ← Nat.add_assoc]
  | @lexeme position token rest lexemes written happart others ih =>
    have hpos : 0 < token.text.length := List.length_pos_iff.2 written.text_ne_nil
    rw [List.length_append, ← Nat.add_assoc, List.map_cons, List.cons_append]
    refine List.pairwise_cons.2 ⟨fun place hplace => ?_, ih⟩
    rcases List.mem_append.1 hplace with hplace | hplace
    · obtain ⟨lexeme, hlexeme, rfl⟩ := List.mem_map.1 hplace
      obtain ⟨before, behind, -, hposition⟩ := others.piece lexeme hlexeme
      show position < lexeme.position
      omega
    · rw [List.mem_singleton.1 hplace]
      show position < _
      omega

/-- **The numerals are the longest runs.** -/
theorem numerals (h : Spelled position text lexemes) {run : List Char} {place : Nat} :
    ⟨.number run, place⟩ ∈ lexemes ↔
      ∃ offset, place = position + offset ∧ LongestRun text offset run := by
  induction h with
  | nothing => simp [not_longestRun_nil]
  | @blank position c rest lexemes isBlank others ih =>
    rw [ih]
    constructor
    · rintro ⟨offset, rfl, hrun⟩
      exact ⟨1 + offset, Nat.add_assoc .., (longestRun_cons (isNumeral_of_isBlank isBlank)).2
        ⟨offset, rfl, hrun⟩⟩
    · rintro ⟨offset, rfl, hrun⟩
      obtain ⟨offset, rfl, hrest⟩ := (longestRun_cons (isNumeral_of_isBlank isBlank)).1 hrun
      exact ⟨offset, (Nat.add_assoc ..).symm, hrest⟩
  | @lexeme position token rest lexemes written happart others ih =>
    rw [List.mem_cons, ih]
    constructor
    · rintro (hfirst | ⟨offset, rfl, hrun⟩)
      · cases hfirst
        exact ⟨0, rfl, (longestRun_append happart).2 (.inl (written.longestRun.2 ⟨rfl, rfl⟩))⟩
      · exact ⟨_, Nat.add_assoc .., (longestRun_append happart).2 (.inr ⟨offset, rfl, hrun⟩)⟩
    · rintro ⟨offset, rfl, hrun⟩
      rcases (longestRun_append happart).1 hrun with hfirst | ⟨offset, rfl, hrest⟩
      · obtain ⟨rfl, rfl⟩ := written.longestRun.1 hfirst
        exact .inl rfl
      · exact .inr ⟨offset, (Nat.add_assoc ..).symm, hrest⟩

/-- What the lexemes leave out is blank. -/
theorem blank_of_uncovered (h : Spelled position text lexemes) {i : Nat} {c : Char}
    (hc : text[i]? = some c)
    (huncovered : ∀ lexeme ∈ lexemes,
      ¬(lexeme.position ≤ position + i ∧ position + i < lexeme.position + lexeme.token.text.length)) :
    Text.isBlank c = true := by
  induction h generalizing i with
  | nothing => cases hc
  | @blank position d rest lexemes isBlank others ih =>
    cases i with
    | zero =>
      cases hc
      exact isBlank
    | succ i =>
      refine ih hc fun lexeme hlexeme => ?_
      have hnot := huncovered lexeme hlexeme
      rwa [Nat.add_comm i, ← Nat.add_assoc] at hnot
  | @lexeme position token rest lexemes written happart others ih =>
    obtain ⟨hfirst, hothers⟩ := List.forall_mem_cons.1 huncovered
    have hbehind : token.text.length ≤ i := by
      by_contra hlt
      exact hfirst ⟨Nat.le_add_right .., Nat.add_lt_add_left (Nat.lt_of_not_le hlt) _⟩
    rw [List.getElem?_append_right hbehind] at hc
    refine ih hc fun lexeme hlexeme => ?_
    have hnot := hothers lexeme hlexeme
    rwa [show position + i = position + token.text.length + (i - token.text.length) by omega] at hnot

theorem written (h : Spelled position text lexemes) :
    ∀ lexeme ∈ lexemes, Written lexeme.token := by
  induction h with
  | nothing => exact fun lexeme hlexeme => (nomatch hlexeme)
  | blank isBlank others ih => exact ih
  | lexeme written happart others ih => exact List.forall_mem_cons.2 ⟨written, ih⟩

/-- What is spelled has nothing wrong with it. -/
theorem wellSpelled (h : Spelled position text lexemes) : WellSpelled text := by
  constructor
  · induction h with
    | nothing => exact fun c hc => (nomatch hc)
    | blank isBlank others ih => exact List.forall_mem_cons.2 ⟨.inl isBlank, ih⟩
    | lexeme written happart others ih => exact List.forall_mem_append.2 ⟨written.legible, ih⟩
  · intro offset run hrun
    have hmem : ⟨.number run, position + offset⟩ ∈ lexemes := h.numerals.2 ⟨offset, rfl, hrun⟩
    cases h.written _ hmem with
    | number numeral => exact ⟨numeral.points, numeral.digits⟩
    | single ofChar => exact absurd ofChar (ofChar?_ne_number _ _)

end Spelled

/-! ## 4. Scans -/

/-- A violation at the very beginning comes first, if nothing else is wrong with its piece. -/
theorem leftmost_of_first {first rest : List Char} {report : Expression.Report}
    (happart : Apart first rest) (hne : first ≠ []) (h : Violation (first ++ rest) report)
    (hplace : report.position = 0) (honly : ∀ other, Violation first other → other = report) :
    Leftmost (first ++ rest) report := by
  refine ⟨h, fun other hother => ?_⟩
  rcases hother.of_append happart with hfirst | ⟨inner, -, rfl⟩
  · exact .inl (honly other hfirst)
  · have hpos : 0 < first.length := List.length_pos_iff.2 hne
    exact .inr (by rw [hplace]; exact Nat.add_pos_left hpos _)

theorem leftmost_of_invalid {c : Char} (hblank : ¬Text.isBlank c = true)
    (hnumeral : ¬isNumeral c = true) (htoken : Token.ofChar? c = none) (rest : List Char) :
    Leftmost (c :: rest) ⟨"Invalid character '" ++ String.singleton c ++ "'", 0⟩ := by
  have hillegible : ¬Legible c := by simp [legible_iff, hblank, hnumeral, htoken]
  have hc : isNumeral c = false := by simpa using hnumeral
  have hnone {place : Nat} {run : List Char} : ¬LongestRun [c] place run := by
    rw [longestRun_cons hc]
    rintro ⟨place, -, hrun⟩
    exact not_longestRun_nil hrun
  have hsplit : c :: rest = [] ++ c :: rest := rfl
  refine leftmost_of_first (singleton_apart hc rest) (List.cons_ne_nil _ _)
    (.character hsplit hillegible) rfl fun other hother => ?_
  cases hother with
  | @character before behind d split illegible =>
    cases before with
    | nil =>
      cases split
      rfl
    | cons e before => simp at split
  | points longest many => exact absurd longest hnone
  | lonePoint longest => exact absurd longest hnone

/-- The fault tells of the first thing that is wrong with a text that begins at `position`. -/
def Reports (fault : ExpressionError) (position : Nat) (text : List Char) : Prop :=
  ∃ report, Leftmost text report ∧ fault.message = report.message ∧
    fault.position? = some (position + report.position)

theorem Reports.append {first rest : List Char} {position : Nat} {fault : ExpressionError}
    (happart : Apart first rest) (hfirst : WellSpelled first)
    (h : Reports fault (position + first.length) rest) : Reports fault position (first ++ rest) := by
  obtain ⟨report, hleftmost, hmessage, hposition⟩ := h
  refine ⟨later first.length report, hleftmost.append happart hfirst, hmessage, ?_⟩
  rw [hposition, Nat.add_assoc]
  rfl

theorem reports_numeralFault {run rest : List Char} (hne : run ≠ [])
    (hrun : ∀ c ∈ run, isNumeral c = true) (happart : Apart run rest) {position : Nat}
    {fault : ExpressionError} (hfault : numeralFault? run position = some fault) :
    Reports fault position (run ++ rest) := by
  have hone {place : Nat} {other : List Char} :
      LongestRun run place other ↔ place = 0 ∧ other = run := longestRun_of_numerals hne hrun
  have hwhole : LongestRun (run ++ rest) 0 run :=
    (longestRun_append happart).2 (.inl (hone.2 ⟨rfl, rfl⟩))
  have hlegible {before behind : List Char} {c : Char} (split : run = before ++ c :: behind) :
      Legible c := legible_iff.2 (.inr (.inl (hrun c (by simp [split]))))
  unfold numeralFault? at hfault
  split at hfault
  · rename_i hmany
    cases hfault
    refine ⟨_, leftmost_of_first happart hne (.points hwhole hmany) rfl fun other hother => ?_,
      rfl, rfl⟩
    cases hother with
    | character split illegible => exact absurd (hlegible split) illegible
    | points longest many =>
      obtain ⟨rfl, rfl⟩ := hone.1 longest
      rfl
    | lonePoint longest =>
      obtain ⟨-, rfl⟩ := hone.1 longest
      exact absurd hmany (by decide)
  · split at hfault
    · rename_i hpoint
      subst hpoint
      cases hfault
      refine ⟨_, leftmost_of_first happart hne (.lonePoint hwhole) rfl fun other hother => ?_,
        rfl, rfl⟩
      cases hother with
      | character split illegible => exact absurd (hlegible split) illegible
      | points longest many =>
        obtain ⟨-, rfl⟩ := hone.1 longest
        exact absurd many (by decide)
      | lonePoint longest =>
        obtain ⟨rfl, -⟩ := hone.1 longest
        rfl
    · cases hfault

theorem numeral_of_noFault {run : List Char} {position : Nat} (hne : run ≠ [])
    (hrun : ∀ c ∈ run, isNumeral c = true) (h : numeralFault? run position = none) :
    Numeral run := by
  unfold numeralFault? at h
  split at h
  · cases h
  · rename_i hmany
    split at h
    · cases h
    · rename_i hpoint
      exact ⟨hne, hrun, Nat.le_of_not_lt hmany, hpoint⟩

/-- A token in front of a scanned text. -/
theorem spelled_or_reports {token : Token} (written : Written token) {rest : List Char}
    (happart : Apart token.text rest) (position : Nat)
    {scanned : Except ExpressionError (List Lexeme)}
    (h : match scanned with
      | .ok lexemes => Spelled (position + token.text.length) rest lexemes
      | .error fault => Reports fault (position + token.text.length) rest) :
    match scanned.map (⟨token, position⟩ :: ·) with
    | .ok lexemes => Spelled position (token.text ++ rest) lexemes
    | .error fault => Reports fault position (token.text ++ rest) := by
  cases scanned with
  | ok lexemes => exact .lexeme written happart h
  | error fault =>
    have hfirst : Spelled 0 (token.text ++ []) [⟨token, 0⟩] :=
      .lexeme written (fun _ _ d hd => nomatch hd) .nothing
    rw [List.append_nil] at hfirst
    exact h.append happart hfirst.wellSpelled

/-- **A scan spells its text, or reports what is wrong with it first.** -/
theorem scanFrom_cases (position : Nat) (text : List Char) :
    match scanFrom position text with
    | .ok lexemes => Spelled position text lexemes
    | .error fault => Reports fault position text := by
  have hspan (c : Char) (rest : List Char) (hc : isNumeral c = true) :
      c :: rest = (c :: rest.takeWhile isNumeral) ++ rest.dropWhile isNumeral ∧
      (∀ d ∈ c :: rest.takeWhile isNumeral, isNumeral d = true) ∧
      Apart (c :: rest.takeWhile isNumeral) (rest.dropWhile isNumeral) := by
    refine ⟨?_, List.forall_mem_cons.2 ⟨hc, fun d hd => ?_⟩, fun d _ e he _ => ?_⟩
    · rw [List.cons_append, List.takeWhile_append_dropWhile]
    · exact List.all_eq_true.1 List.all_takeWhile d hd
    · have hhead := List.head?_dropWhile_not isNumeral rest
      rw [he] at hhead
      exact hhead
  fun_induction scanFrom position text with
  | case1 position => exact .nothing
  | case2 position c rest hblank ih =>
    cases hscanned : scanFrom (position + 1) rest with
    | ok lexemes =>
      rw [hscanned] at ih
      exact .blank hblank ih
    | error fault =>
      rw [hscanned] at ih
      have hfirst : Spelled 0 [c] [] := .blank hblank .nothing
      exact ih.append (singleton_apart (isNumeral_of_isBlank hblank) rest) hfirst.wellSpelled
  | case3 position c rest hblank hc run fault hfault =>
    obtain ⟨htext, hrun, happart⟩ := hspan c rest hc
    rw [htext]
    exact reports_numeralFault (List.cons_ne_nil _ _) hrun happart hfault
  | case4 position c rest hblank hc run hfault ih =>
    obtain ⟨htext, hrun, happart⟩ := hspan c rest hc
    rw [htext]
    exact spelled_or_reports (.number (numeral_of_noFault (List.cons_ne_nil _ _) hrun hfault))
      happart position ih
  | case5 position c rest hblank hc token htoken ih =>
    have htext := (written_of_ofChar? htoken).2
    have happart : Apart token.text rest := by
      rw [htext]
      exact singleton_apart (separate_of_ofChar? htoken).2 rest
    have hspelled := spelled_or_reports (.single htoken) happart position (by rw [htext]; exact ih)
    rwa [htext] at hspelled
  | case6 position c rest hblank hc htoken =>
    exact ⟨_, leftmost_of_invalid hblank hc htoken rest, rfl, rfl⟩

end Lexeme

namespace Scan

/-! ## 5. Texts -/

open Lexeme

/-- What the lexemes of a scan say about its text: each is a piece of it, the numerals are the
    longest runs, the places ascend to the end, and all that the lexemes leave out is blank. -/
structure Covers (scan : Scan) (text : List Char) : Prop where
  piece : ∀ lexeme ∈ scan.lexemes,
    (text.drop lexeme.position).take lexeme.token.text.length = lexeme.token.text
  numerals : ∀ run position,
    ⟨.number run, position⟩ ∈ scan.lexemes ↔ LongestRun text position run
  ascending : (scan.lexemes.map Lexeme.position ++ [scan.ending]).Pairwise (· < ·)
  blank : ∀ i c, text[i]? = some c →
    (∀ lexeme ∈ scan.lexemes,
      ¬(lexeme.position ≤ i ∧ i < lexeme.position + lexeme.token.text.length)) →
    Text.isBlank c = true
  ending : scan.ending = text.length

theorem covers_of_spelled {text : List Char} {lexemes : List Lexeme}
    (h : Spelled 0 text lexemes) : Covers ⟨lexemes, text.length⟩ text where
  piece := by
    intro lexeme hlexeme
    obtain ⟨before, behind, htext, hposition⟩ := h.piece lexeme hlexeme
    rw [hposition, htext, Nat.zero_add, List.drop_left, List.take_left]
  numerals := by
    intro run position
    have hnumerals : ⟨.number run, position⟩ ∈ lexemes ↔
      ∃ offset, position = 0 + offset ∧ LongestRun text offset run := h.numerals
    simpa using hnumerals
  ascending := by
    have hascending := h.ascending
    rwa [Nat.zero_add] at hascending
  blank := by
    intro i c hc huncovered
    refine h.blank_of_uncovered hc ?_
    rwa [Nat.zero_add]
  ending := rfl

/-- **A text is scanned exactly if it is well spelled**; its lexemes then cover it, and otherwise the
    fault is the first thing that is wrong with it. -/
theorem ofText_covers_or_leftmost (text : List Char) :
    ((∃ scan, ofText text = .ok scan) ↔ WellSpelled text) ∧
      match ofText text with
      | .ok scan => scan.Covers text
      | .error fault => ∃ report, Leftmost text report ∧ fault.message = report.message ∧
          fault.position? = some report.position := by
  have hcases := scanFrom_cases 0 text
  unfold ofText
  cases hscanned : scanFrom 0 text with
  | ok lexemes =>
    rw [hscanned] at hcases
    have hspelled : Spelled 0 text lexemes := hcases
    exact ⟨⟨fun _ => hspelled.wellSpelled, fun _ => ⟨_, rfl⟩⟩, covers_of_spelled hspelled⟩
  | error fault =>
    rw [hscanned] at hcases
    obtain ⟨report, hleftmost, hmessage, hposition⟩ := hcases
    rw [Nat.zero_add] at hposition
    refine ⟨⟨?_, fun hwell => ?_⟩, report, hleftmost, hmessage, hposition⟩
    · rintro ⟨scan, hscan⟩
      cases hscan
    · exact absurd hleftmost.1 (not_violation_iff.2 hwell report)

end Scan

end DeskCalc
